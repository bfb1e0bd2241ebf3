import SwapDesk.Proofs.Form.Field
import SwapDesk.Proofs.Form.Run

/-!
# Allowances that a form shows

An allowance is set for the currency that the swap's input shows. It changes sides with its
currency and goes when another currency is picked, so whatever allowance a side shows was set for
the currency of that side and has been with it ever since.
-/

namespace SwapDesk

namespace CurrencyField

/-- What tells the currency of a field from all others. -/
def identity (field : CurrencyField) : String × Option TokenKind × UInt64 × String :=
  (field.symbol, field.kind, field.index, field.address)

def Allows (currency : String × Option TokenKind × UInt64 × String) (allowance : Amount)
    (field : CurrencyField) : Prop :=
  field.identity = currency ∧ field.allowance = some allowance

variable {currency : String × Option TokenKind × UInt64 × String} {allowance : Amount}
  {field : CurrencyField}

@[simp]
theorem identity_noteBalance (index : UInt64) (balance : Amount) :
    (field.noteBalance index balance).identity = field.identity := by
  rw [noteBalance_eq, identity, identity]

@[simp]
theorem allows_noteBalance (index : UInt64) (balance : Amount) :
    (field.noteBalance index balance).Allows currency allowance ↔
      field.Allows currency allowance := by
  rw [Allows, identity_noteBalance, noteBalance_eq, Allows]

end CurrencyField

namespace Form

/-- One of the two sides of the swap shows the allowance for the currency. -/
def Allows (currency : String × Option TokenKind × UInt64 × String) (allowance : Amount)
    (form : Form) : Prop :=
  form.swap.input.Allows currency allowance ∨ form.swap.output.Allows currency allowance

variable {currency : String × Option TokenKind × UInt64 × String} {allowance : Amount}
  {form : Form} {actions : List Action}

private theorem allowance_pick (form : Form) (leg : Leg) (picked : Currency) :
    ((form.update (.pick leg picked)).field leg).allowance = none := by
  cases leg <;> rfl

/-- An allowance that is shown after an action was shown before, or the action has set it for the
currency of the input. -/
theorem Allows.of_update {action : Action} (h : (form.update action).Allows currency allowance) :
    form.Allows currency allowance ∨
      (∃ needsApproval, action = .setAllowance allowance needsApproval) ∧
        form.swap.input.identity = currency := by
  cases action with
  | setBalance index balance =>
    left
    simpa [Allows, Form.update] using h
  | setAmount leg amount isValid =>
    left
    cases leg <;> exact h
  | pick leg picked =>
    left
    have hnone := allowance_pick form leg picked
    cases leg with
    | swapIn =>
      obtain ⟨-, hshown⟩ | houtput := h
      · exact absurd (hnone.symm.trans hshown) nofun
      · exact .inr houtput
    | swapOut =>
      obtain hinput | ⟨-, hshown⟩ := h
      · exact .inl hinput
      · exact absurd (hnone.symm.trans hshown) nofun
    | pool1 => exact h
    | pool2 => exact h
  | setAllowance other needsApproval =>
    obtain ⟨hcurrency, hset⟩ | houtput := h
    · cases hset
      exact .inr ⟨⟨needsApproval, rfl⟩, hcurrency⟩
    · exact .inl (.inr houtput)
  | switchSides =>
    left
    exact h.symm
  | _ =>
    left
    exact h

/-- The fields of the pool show no allowance. -/
def PoolBare (form : Form) : Prop :=
  form.pool.first.allowance = none ∧ form.pool.second.allowance = none

theorem PoolBare.update (h : form.PoolBare) (action : Action) : (form.update action).PoolBare := by
  obtain ⟨hfirst, hsecond⟩ := h
  cases action with
  | setAmount leg amount isValid => cases leg <;> exact ⟨hfirst, hsecond⟩
  | pick leg picked =>
    cases leg with
    | pool1 => exact ⟨rfl, hsecond⟩
    | pool2 => exact ⟨hfirst, rfl⟩
    | _ => exact ⟨hfirst, hsecond⟩
  | _ => exact ⟨hfirst, hsecond⟩

/-! ## Runs -/

private theorem poolBare_updates (actions : List Action) : (initial.updates actions).PoolBare := by
  induction actions using List.reverseRecOn with
  | nil => exact ⟨rfl, rfl⟩
  | append_singleton actions action ih =>
    rw [updates_concat]
    exact ih.update action

/-- In the run the allowance was set while the input showed the currency, and from then on the
swap has shown it for this currency. -/
def Granted (actions : List Action) (currency : String × Option TokenKind × UInt64 × String)
    (allowance : Amount) : Prop :=
  ∃ before needsApproval, before ++ [.setAllowance allowance needsApproval] <+: actions ∧
    (initial.updates before).swap.input.identity = currency ∧
    ∀ between, before ++ [.setAllowance allowance needsApproval] <+: between →
      between <+: actions → (initial.updates between).Allows currency allowance

private theorem granted_of_allows (h : (initial.updates actions).Allows currency allowance) :
    Granted actions currency allowance := by
  induction actions using List.reverseRecOn with
  | nil =>
    obtain ⟨-, hshown⟩ | ⟨-, hshown⟩ := h <;> contradiction
  | append_singleton actions action ih =>
    -- `hlast` is what the form shows at the end of the run, which every earlier grant has to reach.
    have hlast := h
    rw [updates_concat] at h
    obtain hbefore | ⟨⟨needsApproval, rfl⟩, hcurrency⟩ := h.of_update
    · obtain ⟨before, needsApproval, hset, hcurrency, hkept⟩ := ih hbefore
      refine ⟨before, needsApproval, hset.trans (List.prefix_append ..), hcurrency, ?_⟩
      intro between hafter hwithin
      obtain rfl | hearlier := List.prefix_concat_iff.mp hwithin
      · exact hlast
      · exact hkept between hafter hearlier
    · -- The grant is the last action, so `between` can only be the whole run.
      refine ⟨actions, needsApproval, List.prefix_rfl, hcurrency, ?_⟩
      intro between hafter hwithin
      rw [hwithin.eq_of_length_le hafter.length_le]
      exact hlast

/-- An allowance stands on a side of the swap, never in the pool. It was set while the input showed
the currency that has the allowance now, and since then this currency has stood on one of the two
sides and has had it. The allowances change sides with the currencies, and a picked currency has
none. -/
theorem allowance_granted (actions : List Action) :
    (∀ leg allowance, ((initial.updates actions).field leg).allowance = some allowance →
      (leg = .swapIn ∨ leg = .swapOut) ∧
        Granted actions ((initial.updates actions).field leg).identity allowance) ∧
    (initial.updates actions).PoolBare ∧
    (∀ currency allowance,
      ((initial.updates (actions ++ [.switchSides])).swap.input.Allows currency allowance ↔
        (initial.updates actions).swap.output.Allows currency allowance) ∧
      ((initial.updates (actions ++ [.switchSides])).swap.output.Allows currency allowance ↔
        (initial.updates actions).swap.input.Allows currency allowance)) ∧
    ∀ leg picked,
      ((initial.updates (actions ++ [.pick leg picked])).field leg).allowance = none := by
  have hbare := poolBare_updates actions
  refine ⟨?_, hbare, ?_, ?_⟩
  · intro leg allowance hshown
    cases leg with
    | swapIn => exact ⟨.inl rfl, granted_of_allows (.inl ⟨rfl, hshown⟩)⟩
    | swapOut => exact ⟨.inr rfl, granted_of_allows (.inr ⟨rfl, hshown⟩)⟩
    | pool1 => exact absurd hshown (by simp [field, hbare.1])
    | pool2 => exact absurd hshown (by simp [field, hbare.2])
  · intro currency allowance
    rw [updates_concat]
    exact ⟨Iff.rfl, Iff.rfl⟩
  · intro leg picked
    rw [updates_concat]
    exact allowance_pick _ leg picked

/-- An allowance is set, the sides change places and another currency is picked for the input. -/
theorem allowance_granted_moved :
    let actions : List Action := [.setAllowance ⟨7⟩ none, .switchSides,
      .pick .swapIn ⟨"DAI", .nep21, 3, "dai.testnet", none⟩]
    ((initial.updates actions).field .swapOut).allowance = some ⟨7⟩ ∧
      Granted actions ("", none, 0, "") ⟨7⟩ := by
  intro actions
  have hshown : ((initial.updates actions).field .swapOut).allowance = some ⟨7⟩ := rfl
  exact ⟨hshown, ((allowance_granted actions).1 .swapOut ⟨7⟩ hshown).2⟩

end Form

end SwapDesk
