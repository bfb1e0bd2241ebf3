import SwapDesk.Proofs.Form.Check
import SwapDesk.Proofs.Form.Run

/-!
# Balances that a form shows

A balance is reported for the currency at a place of the list, by itself or with the currency
when it is picked. A field of the swap shows a balance that was reported for its currency, with
one exception: a currency that is picked without a balance takes over the one shown before.
-/

namespace SwapDesk

namespace CurrencyField

variable {P Q : UInt64 → Amount → Prop} {field : CurrencyField}

/-- What is said of a place of the list and a balance is true of what the field shows. -/
def Shows (P : UInt64 → Amount → Prop) (field : CurrencyField) : Prop :=
  ∀ balance, field.balance = some balance → P field.index balance

theorem Shows.mono (h : field.Shows P) (himp : ∀ index balance, P index balance → Q index balance) :
    field.Shows Q :=
  fun balance hb => himp _ _ (h balance hb)

theorem Shows.noteBalance (h : field.Shows P) {index : UInt64} {balance : Amount}
    (hnoted : P index balance) : (field.noteBalance index balance).Shows P := by
  rw [CurrencyField.noteBalance]
  split
  · rename_i hindex
    rintro _ ⟨⟩
    rw [hindex]
    exact hnoted
  · exact h

theorem Shows.pick {currency : Currency}
    (hown : ∀ balance, currency.balance = some balance → P currency.index balance)
    (hkept : currency.balance = none →
      ∀ balance, field.balance = some balance → P currency.index balance) :
    (field.pick currency).Shows P := by
  intro balance hb
  simp only [CurrencyField.pick] at hb ⊢
  cases hc : currency.balance with
  | none =>
    rw [hc, Option.none_or] at hb
    exact hkept hc balance hb
  | some own =>
    rw [hc, Option.some_or] at hb
    exact hown balance (hc.trans hb)

private theorem Shows.of_pick {currency : Currency} (h : (field.pick currency).Shows P)
    (hc : currency.balance = none) {balance : Amount} (hb : field.balance = some balance) :
    P currency.index balance :=
  h balance (by rw [CurrencyField.pick, hc, Option.none_or, hb])

end CurrencyField

namespace Form

/-- The action tells the balance of the currency at a place of the list. -/
def Action.Reports (index : UInt64) (balance : Amount) : Action → Prop
  | .setBalance i b => i = index ∧ b = balance
  | .pick _ currency => currency.index = index ∧ currency.balance = some balance
  | _ => False

def Reported (actions : List Action) (index : UInt64) (balance : Amount) : Prop :=
  ∃ action ∈ actions, action.Reports index balance

private theorem reported_concat {actions : List Action} {action : Action} {index : UInt64}
    {balance : Amount} :
    Reported (actions ++ [action]) index balance ↔
      Reported actions index balance ∨ action.Reports index balance := by
  simp only [Reported, List.mem_append, List.mem_singleton, or_and_right, exists_or,
    exists_eq_left]

/-- The balance was reported for some currency, and the one at this place of the list was picked
for the swap without a balance. -/
def TakenOver (actions : List Action) (index : UInt64) (balance : Amount) : Prop :=
  (∃ other, Reported actions other balance) ∧
    ∃ leg currency, .pick leg currency ∈ actions ∧ (leg = .swapIn ∨ leg = .swapOut) ∧
      currency.index = index ∧ currency.balance = none

/-- What both fields of the swap show. -/
structure Shows (P : UInt64 → Amount → Prop) (form : Form) : Prop where
  input : form.swap.input.Shows P
  output : form.swap.output.Shows P

variable {P Q : UInt64 → Amount → Prop} {form : Form} {actions : List Action}

theorem Shows.mono (h : form.Shows P) (himp : ∀ index balance, P index balance → Q index balance) :
    form.Shows Q :=
  ⟨h.input.mono himp, h.output.mono himp⟩

private theorem shows_initial : initial.Shows P :=
  ⟨nofun, nofun⟩

/-- An action keeps what is said of the balances shown if that is true of what it reports, and of
the balance that a currency takes over. -/
theorem Shows.update (h : form.Shows P) {action : Action}
    (hreport : ∀ index balance, action.Reports index balance → P index balance)
    (hkept : ∀ leg currency, action = .pick leg currency → (leg = .swapIn ∨ leg = .swapOut) →
      currency.balance = none →
      ∀ balance, (form.field leg).balance = some balance → P currency.index balance) :
    (form.update action).Shows P := by
  obtain ⟨hi, ho⟩ := h
  cases action with
  | setBalance index balance =>
    have hnoted : P index balance := hreport index balance ⟨rfl, rfl⟩
    exact ⟨hi.noteBalance hnoted, ho.noteBalance hnoted⟩
  | setReady => exact ⟨hi, ho⟩
  | setStatus status fault previous => exact ⟨hi, ho⟩
  | clearPrevious => exact ⟨hi, ho⟩
  | setAmount leg amount isValid =>
    cases leg
    · exact ⟨hi, ho⟩
    · exact ⟨hi, ho⟩
    · exact ⟨hi, ho⟩
    · exact ⟨hi, ho⟩
  | pick leg currency =>
    have hown : ∀ balance, currency.balance = some balance → P currency.index balance :=
      fun balance hb => hreport _ balance ⟨rfl, hb⟩
    cases leg
    · exact ⟨.pick hown (hkept .swapIn currency rfl (.inl rfl)), ho⟩
    · exact ⟨hi, .pick hown (hkept .swapOut currency rfl (.inr rfl))⟩
    · exact ⟨hi, ho⟩
    · exact ⟨hi, ho⟩
  | togglePicker => exact ⟨hi, ho⟩
  | togglePickerFor leg => exact ⟨hi, ho⟩
  | setApproval needsApproval => exact ⟨hi, ho⟩
  | clearSwap => exact ⟨hi, ho⟩
  | setFault fault => exact ⟨hi, ho⟩
  | setAllowance allowance needsApproval => exact ⟨hi, ho⟩
  | switchSides => exact ⟨ho, hi⟩

/-! ## Runs -/

theorem shows_updates (actions : List Action) :
    (initial.updates actions).Shows fun index balance =>
      Reported actions index balance ∨ TakenOver actions index balance := by
  induction actions using List.reverseRecOn with
  | nil => exact shows_initial
  | append_singleton actions action ih =>
    have hlater : ∀ {index balance}, Reported actions index balance →
        Reported (actions ++ [action]) index balance := fun hr => reported_concat.mpr (.inl hr)
    have hshown : (initial.updates actions).Shows fun index balance =>
        Reported (actions ++ [action]) index balance ∨
          TakenOver (actions ++ [action]) index balance := by
      apply ih.mono
      rintro index balance (hr | ⟨⟨other, hr⟩, leg, currency, hpick, hbare⟩)
      · exact .inl (hlater hr)
      · exact .inr ⟨⟨other, hlater hr⟩, leg, currency, List.mem_append_left _ hpick, hbare⟩
    rw [updates_concat]
    apply hshown.update
    · exact fun _ _ hr => .inl (reported_concat.mpr (.inr hr))
    · rintro leg currency rfl hleg hc balance hb
      have hother : ∃ other, Reported (actions ++ [.pick leg currency]) other balance := by
        obtain rfl | rfl := hleg
        · exact (hshown.input balance hb).elim (fun hr => ⟨_, hr⟩) And.left
        · exact (hshown.output balance hb).elim (fun hr => ⟨_, hr⟩) And.left
      exact .inr ⟨hother, leg, currency, by simp, hleg, rfl, hc⟩

/-- A currency that takes over the balance shown before has had this balance reported. -/
def Action.Fits (before : List Action) : Action → Prop
  | .pick leg currency => (leg = .swapIn ∨ leg = .swapOut) → currency.balance = none →
      ∀ balance, ((initial.updates before).field leg).balance = some balance →
        Reported before currency.index balance
  | _ => True

private theorem shows_reported_concat_iff {action : Action}
    (h : (initial.updates actions).Shows (Reported actions)) :
    (initial.updates (actions ++ [action])).Shows (Reported (actions ++ [action])) ↔
      action.Fits actions := by
  rw [updates_concat]
  constructor
  · intro hs
    cases action with
    | pick leg currency =>
      intro hleg hc balance hb
      have hr : Reported (actions ++ [.pick leg currency]) currency.index balance := by
        obtain rfl | rfl := hleg
        · exact hs.input.of_pick hc hb
        · exact hs.output.of_pick hc hb
      -- The pick itself reports nothing.
      refine (reported_concat.mp hr).resolve_right fun ⟨_, hown⟩ => ?_
      rw [hc] at hown
      contradiction
    | _ => trivial
  · intro hfits
    apply (h.mono fun _ _ hr => reported_concat.mpr (.inl hr)).update
    · exact fun _ _ hr => reported_concat.mpr (.inr hr)
    · rintro leg currency rfl hleg hc balance hb
      exact reported_concat.mpr (.inl (hfits hleg hc balance hb))

/-- The balances that a form shows, that keep its swap from being submitted or let it be, and
that are noted when the swap starts were all reported for the currency in question. -/
structure Attested (actions : List Action) (form : Form) : Prop where
  shown : form.Shows (Reported actions)
  exceeded : ∀ signedIn input output,
    form.swap.check signedIn input output = (.notReady, some .insufficientBalance) →
      ∃ balance, Reported actions form.swap.input.index balance ∧ balance < input
  covered : ∀ signedIn input output, form.swap.check signedIn input output = (.ready, none) →
    form.swap.input.Shows fun index balance => Reported actions index balance ∧ ¬ balance < input
  noted : ∀ action, form.swap.start = .ok action →
    ∃ previous, action = .setStatus .swapping none previous ∧
      ∀ balance, previous = some balance → Reported actions form.swap.output.index balance

theorem attested_iff : form.Attested actions ↔ form.Shows (Reported actions) := by
  constructor
  · exact Attested.shown
  · intro h
    refine ⟨h, ?_, ?_, ?_⟩
    · intro signedIn input output hcheck
      have hfault := SwapForm.check_eq_notReady_iff.mp hcheck
      obtain ⟨-, -, balance, hb, hlt⟩ := SwapForm.fault?_eq_insufficientBalance_iff.mp hfault
      exact ⟨balance, h.input balance hb, hlt⟩
    · intro signedIn input output hcheck balance hb
      have hnone := SwapForm.check_fst_eq_ready_iff.mp (congrArg Prod.fst hcheck)
      obtain ⟨-, -, hcovered, -⟩ := SwapForm.fault?_eq_none_iff.mp hnone
      exact ⟨h.input balance hb, fun hlt => hcovered ⟨balance, hb, hlt⟩⟩
    · intro action hstart
      exact ⟨_, (SwapForm.start_eq_ok_iff.mp hstart).2, h.output⟩

/-- When a form shows and uses only balances that were reported for its currencies. That is so for
all forms of a run exactly if each currency picked for the swap without a balance finds either no
balance in the field or one that has been reported for it. In every form, a balance shown was
reported, and if it was not for the currency that shows it, this currency was picked without a
balance. -/
theorem attested_exactly (actions : List Action) :
    ((∀ before, before <+: actions → (initial.updates before).Attested before) ↔
      ∀ before action, before ++ [action] <+: actions → action.Fits before) ∧
    (initial.updates actions).Shows fun index balance =>
      Reported actions index balance ∨ TakenOver actions index balance := by
  refine ⟨?_, shows_updates actions⟩
  simp only [attested_iff]
  exact forall_prefix_iff shows_initial fun before action _ h => shows_reported_concat_iff h

/-- The balance of the first currency is known, and then another currency is picked for the
input. -/
def pickedBare : List Action :=
  [.setBalance 0 ⟨5⟩, .pick .swapIn ⟨"DAI", .nep21, 3, "dai.testnet", none⟩]

/-- The picked currency shows a balance that was never reported for it, and its swap is held back
because of this balance. -/
theorem pickedBare_shows_unreported :
    (initial.updates pickedBare).swap.input.index = 3 ∧
    (initial.updates pickedBare).swap.input.balance = some ⟨5⟩ ∧
    ¬ Reported pickedBare 3 ⟨5⟩ ∧
    (initial.updates pickedBare).swap.check true ⟨7⟩ ⟨1⟩ =
      (.notReady, some .insufficientBalance) := by
  refine ⟨rfl, rfl, ?_, rfl⟩
  rintro ⟨action, hmem, hreport⟩
  rw [pickedBare, List.mem_cons, List.mem_singleton] at hmem
  obtain rfl | rfl := hmem
  · exact absurd hreport.1 (by decide)
  · exact absurd hreport.2 nofun

end Form

end SwapDesk
