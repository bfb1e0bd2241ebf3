import SwapDesk.Proofs.Form.Check
import SwapDesk.Proofs.Form.Field
import SwapDesk.Proofs.Form.Run

/-!
# Amounts that count as valid

A field of a form holds a text and a mark that says whether the text is a number other than
zero. The mark is set with the text and both are cleared together, with one exception: a
currency that is picked for the input of a swap empties the text and leaves the mark as it was.
-/

namespace SwapDesk

/-- The text is accepted as an amount other than zero. -/
def Amount.IsNonzeroText (text : String) : Prop :=
  ∃ amount, ofHuman text = .ok amount ∧ amount.isZero = false

private theorem Amount.not_isNonzeroText_empty : ¬ IsNonzeroText "" := by
  rintro ⟨amount, ha, hz⟩
  have hzero : ofHuman "" = .ok zero := rfl
  cases ha.symm.trans hzero
  exact absurd hz (by decide)

namespace Form

open Amount

/-- Whoever sets an amount marks it as valid only if it is a number other than zero. -/
def Action.Truthful : Action → Prop
  | .setAmount _ amount isValid => isValid → IsNonzeroText amount
  | _ => True

/-- Each field that is marked as valid holds a number other than zero. -/
def Sound (form : Form) : Prop :=
  ∀ leg, (form.field leg).isValid → IsNonzeroText (form.field leg).amount

/-- What the texts marked as valid are like, for the swap and for the pool. -/
structure Marked (swapText poolText : String → Prop) (form : Form) : Prop where
  input : form.swap.input.isValid → swapText form.swap.input.amount
  output : form.swap.output.isValid → swapText form.swap.output.amount
  first : form.pool.first.isValid → poolText form.pool.first.amount
  second : form.pool.second.isValid → poolText form.pool.second.amount

variable {swapText poolText : String → Prop} {form : Form}

private theorem sound_iff_marked : form.Sound ↔ form.Marked IsNonzeroText IsNonzeroText := by
  constructor
  · intro h
    exact ⟨h .swapIn, h .swapOut, h .pool1, h .pool2⟩
  · rintro ⟨hi, ho, hf, hs⟩ leg
    cases leg
    · exact hi
    · exact ho
    · exact hf
    · exact hs

private theorem marked_initial : initial.Marked swapText poolText :=
  ⟨nofun, nofun, nofun, nofun⟩

/-- A truthful action keeps what the texts marked as valid are like, as long as numbers other than
zero are like that, and the empty text too if a currency is picked for a valid input. -/
theorem Marked.update (h : form.Marked swapText poolText) {action : Action}
    (htrue : action.Truthful)
    (hset : ∀ text, IsNonzeroText text → swapText text ∧ poolText text)
    (hpick : ∀ currency, action = .pick .swapIn currency → form.swap.input.isValid → swapText "") :
    (form.update action).Marked swapText poolText := by
  obtain ⟨hi, ho, hf, hs⟩ := h
  cases action with
  | setBalance index balance =>
    refine ⟨?_, ?_, hf, hs⟩
    · simpa [Form.update] using hi
    · simpa [Form.update] using ho
  | setReady => exact ⟨hi, ho, hf, hs⟩
  | setStatus status fault previous => exact ⟨hi, ho, hf, hs⟩
  | clearPrevious => exact ⟨hi, ho, hf, hs⟩
  | setAmount leg amount isValid =>
    have hnew : isValid → swapText amount ∧ poolText amount := fun hv => hset amount (htrue hv)
    cases leg
    · exact ⟨fun hv => (hnew hv).1, ho, hf, hs⟩
    · exact ⟨hi, fun hv => (hnew hv).1, hf, hs⟩
    · exact ⟨hi, ho, fun hv => (hnew hv).2, hs⟩
    · exact ⟨hi, ho, hf, fun hv => (hnew hv).2⟩
  | pick leg currency =>
    cases leg
    · exact ⟨hpick currency rfl, ho, hf, hs⟩
    · exact ⟨hi, ho, hf, hs⟩
    · exact ⟨hi, ho, hf, hs⟩
    · exact ⟨hi, ho, hf, hs⟩
  | togglePicker => exact ⟨hi, ho, hf, hs⟩
  | togglePickerFor leg => exact ⟨hi, ho, hf, hs⟩
  | setApproval needsApproval => exact ⟨hi, ho, hf, hs⟩
  | clearSwap => exact ⟨nofun, nofun, hf, hs⟩
  | setFault fault => exact ⟨hi, ho, hf, hs⟩
  | setAllowance allowance needsApproval => exact ⟨hi, ho, hf, hs⟩
  | switchSides => exact ⟨nofun, hi, hf, hs⟩

/-! ## Runs -/

theorem marked_updates {actions : List Action} (h : ∀ a ∈ actions, a.Truthful) :
    (initial.updates actions).Marked (fun text => IsNonzeroText text ∨ text = "")
      IsNonzeroText := by
  induction actions using List.reverseRecOn with
  | nil => exact marked_initial
  | append_singleton actions action ih =>
    rw [updates_concat]
    apply (ih fun a ha => h a (List.mem_append_left _ ha)).update (h action (by simp))
    · exact fun text ht => ⟨.inl ht, ht⟩
    · exact fun _ _ _ => .inr rfl

private theorem not_sound_pick {form : Form} (h : form.swap.input.isValid) (currency : Currency) :
    ¬ (form.update (.pick .swapIn currency)).Sound :=
  fun hs => not_isNonzeroText_empty (hs .swapIn h)

private theorem isNonzeroText_iff {text : String} (h : IsNonzeroText text ∨ text = "") :
    IsNonzeroText text ↔ text ≠ "" := by
  constructor
  · rintro ht rfl
    exact not_isNonzeroText_empty ht
  · exact h.resolve_right

theorem sound_updates_iff {actions : List Action} (h : ∀ a ∈ actions, a.Truthful) :
    (initial.updates actions).Sound ↔
      ∀ leg, (leg = .swapIn ∨ leg = .swapOut) → ((initial.updates actions).field leg).isValid →
        ((initial.updates actions).field leg).amount ≠ "" := by
  have hm := marked_updates h
  constructor
  · intro hs leg _ hv he
    exact not_isNonzeroText_empty (he ▸ hs leg hv)
  · intro hne
    rw [sound_iff_marked]
    exact ⟨fun hv => (isNonzeroText_iff (hm.input hv)).mpr (hne .swapIn (.inl rfl) hv),
      fun hv => (isNonzeroText_iff (hm.output hv)).mpr (hne .swapOut (.inr rfl) hv),
      hm.first, hm.second⟩

theorem sound_update_iff {form : Form} (h : form.Sound) {action : Action}
    (htrue : action.Truthful) :
    (form.update action).Sound ↔
      ∀ currency, action = .pick .swapIn currency → form.swap.input.isValid = false := by
  constructor
  · rintro hs currency rfl
    by_contra hv
    exact not_sound_pick (by simpa using hv) currency hs
  · intro hpick
    rw [sound_iff_marked] at h ⊢
    apply h.update htrue
    · exact fun text ht => ⟨ht, ht⟩
    · intro currency ha hv
      rw [hpick currency ha] at hv
      contradiction

private theorem sound_prefixes_iff {actions : List Action} (h : ∀ a ∈ actions, a.Truthful) :
    (∀ before, before <+: actions → (initial.updates before).Sound) ↔
      ∀ before currency, before ++ [.pick .swapIn currency] <+: actions →
        (initial.updates before).swap.input.isValid = false := by
  have hstep : ∀ before action, before ++ [action] <+: actions → (initial.updates before).Sound →
      ((initial.updates (before ++ [action])).Sound ↔
        ∀ currency, action = .pick .swapIn currency →
          (initial.updates before).swap.input.isValid = false) := by
    intro before action hb hs
    rw [updates_concat]
    exact sound_update_iff hs (h action (hb.subset (by simp)))
  rw [forall_prefix_iff (sound_iff_marked.mpr marked_initial) hstep]
  constructor
  · exact fun hsafe before currency hb => hsafe before _ hb currency rfl
  · rintro hpick before _ hb currency rfl
    exact hpick before currency hb

/-- When the texts marked as valid are numbers other than zero. A form that is reached with
truthful actions is sound exactly if no text of the swap is empty and marked as valid, and the
swap it starts has two amounts other than zero exactly if neither text is empty. All forms of a
run are sound exactly if no currency is picked for an input that is marked as valid. -/
theorem sound_exactly (actions : List Action) (h : ∀ a ∈ actions, a.Truthful) :
    ((initial.updates actions).Sound ↔
      ∀ leg, (leg = .swapIn ∨ leg = .swapOut) → ((initial.updates actions).field leg).isValid →
        ((initial.updates actions).field leg).amount ≠ "") ∧
    (∀ action, (initial.updates actions).swap.start = .ok action →
      (IsNonzeroText (initial.updates actions).swap.input.amount ∧
          IsNonzeroText (initial.updates actions).swap.output.amount ↔
        (initial.updates actions).swap.input.amount ≠ "" ∧
          (initial.updates actions).swap.output.amount ≠ "")) ∧
    ((∀ before, before <+: actions → (initial.updates before).Sound) ↔
      ∀ before currency, before ++ [.pick .swapIn currency] <+: actions →
        (initial.updates before).swap.input.isValid = false) := by
  refine ⟨sound_updates_iff h, ?_, sound_prefixes_iff h⟩
  intro action hstart
  have hm := marked_updates h
  obtain ⟨⟨hi, ho⟩, -⟩ := SwapForm.start_eq_ok_iff.mp hstart
  rw [isNonzeroText_iff (hm.input hi), isNonzeroText_iff (hm.output ho)]

theorem sound_exactly_switched :
    (∀ a ∈ [Action.setAmount .swapIn "2" true, .switchSides], a.Truthful) ∧
    (initial.updates [.setAmount .swapIn "2" true, .switchSides]).Sound := by
  have h : ∀ a ∈ [Action.setAmount .swapIn "2" true, .switchSides], a.Truthful := by
    rw [List.forall_mem_cons, List.forall_mem_singleton]
    exact ⟨fun _ => ⟨_, rfl, rfl⟩, trivial⟩
  refine ⟨h, (sound_exactly _ h).1.mpr ?_⟩
  rintro leg (rfl | rfl)
  · exact nofun
  · exact fun _ => (by decide : "2" ≠ "")

/-- A number is typed for each side, and then another currency is picked for the input. -/
def pickedOver : List Action :=
  [.setAmount .swapIn "2" true, .setAmount .swapOut "1" true,
    .pick .swapIn ⟨"DAI", .nep21, 3, "dai.testnet", none⟩]

/-- The picked input is empty, yet it counts as valid and the swap starts. -/
theorem pickedOver_not_sound :
    (∀ a ∈ pickedOver, a.Truthful) ∧
    (initial.updates pickedOver).swap.input.isValid = true ∧
    ¬ IsNonzeroText (initial.updates pickedOver).swap.input.amount ∧
    (initial.updates pickedOver).swap.start = .ok (.setStatus .swapping none none) := by
  refine ⟨?_, rfl, not_isNonzeroText_empty, rfl⟩
  rw [pickedOver, List.forall_mem_cons, List.forall_mem_cons, List.forall_mem_singleton]
  exact ⟨fun _ => ⟨_, rfl, rfl⟩, fun _ => ⟨_, rfl, rfl⟩, trivial⟩

end Form

end SwapDesk
