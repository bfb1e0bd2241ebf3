import Mathlib.Data.List.Nodup
import SwapDesk.Proofs.Form.Field
import SwapDesk.Proofs.Form.Parts

/-!
# Balances that arrive in any order

The balances of the currencies are asked for one by one and arrive as they please. A balance is
noted by the place of its currency in the list, wherever the currency stands by then. So when it
arrives makes no difference, unless another balance of this currency arrives too or a currency is
picked for the swap in between.
-/

namespace SwapDesk.Form

/-- The place in the list of the currency whose balance the action tells. -/
def Action.balanceIndex? : Action → Option UInt64
  | setBalance index _ => some index
  | _ => none

def Action.isBalance (action : Action) : Bool :=
  action.balanceIndex?.isSome

variable {action : Action} {actions others : List Action} {index : UInt64}

private theorem Action.exists_of_isBalance (h : action.isBalance) :
    ∃ index balance, action = .setBalance index balance := by
  cases action with
  | setBalance index balance => exact ⟨index, balance, rfl⟩
  | _ => contradiction

private theorem Action.balanceIndex?_eq_none (h : action.isBalance = false) :
    action.balanceIndex? = none := by
  simpa [isBalance] using h

/-- A balance arrives before or after any action but a pick for the swap and another balance of
the same currency. -/
theorem update_setBalance_comm (form : Form) (balance : Amount) (hpick : action.picksSide = false)
    (hother : action.balanceIndex? ≠ some index) :
    (form.update (.setBalance index balance)).update action =
      (form.update action).update (.setBalance index balance) := by
  cases action with
  | setBalance other later =>
    have hindex : index ≠ other := fun h => hother (congrArg some h.symm)
    simp only [Form.update, CurrencyField.noteBalance_comm _ _ _ hindex]
  | setAmount leg amount isValid =>
    cases leg <;> simp only [Form.update, modifyField, CurrencyField.noteBalance_eq]
  | pick leg currency =>
    cases leg with
    | swapIn | swapOut => contradiction
    | pool1 | pool2 => rfl
  | clearSwap =>
    simp only [Form.update, CurrencyField.cleared, CurrencyField.noteBalance_eq]
  | setAllowance allowance needsApproval =>
    simp only [Form.update, CurrencyField.noteBalance_eq]
  | switchSides =>
    simp only [Form.update, SwapForm.switched, CurrencyField.cleared, CurrencyField.noteBalance_eq]
  | _ => rfl

/-! ## Runs -/

private theorem updates_setBalance (form : Form) (balance : Amount)
    (hpick : ∀ action ∈ actions, action.picksSide = false)
    (hother : ∀ action ∈ actions, action.balanceIndex? ≠ some index) :
    (form.update (.setBalance index balance)).updates actions =
      (form.updates actions).update (.setBalance index balance) := by
  induction actions generalizing form with
  | nil => rfl
  | cons action actions ih =>
    rw [List.forall_mem_cons] at hpick hother
    calc ((form.update (.setBalance index balance)).update action).updates actions
        = ((form.update action).update (.setBalance index balance)).updates actions := by
          rw [update_setBalance_comm form balance hpick.1 hother.1]
      _ = ((form.update action).updates actions).update (.setBalance index balance) :=
          ih (form.update action) hpick.2 hother.2

private theorem updates_eq_balances_last (form : Form)
    (hpick : ∀ action ∈ actions, action.picksSide = false) :
    form.updates actions =
      (form.updates (actions.filter fun action => !action.isBalance)).updates
        (actions.filter Action.isBalance) := by
  -- On the actions, for every form: a balance that comes first is carried past all that is not one.
  induction actions generalizing form with
  | nil => rfl
  | cons action actions ih =>
    rw [List.forall_mem_cons] at hpick
    cases hbalance : action.isBalance with
    | false =>
      rw [List.filter_cons_of_pos (by simp [hbalance]),
        List.filter_cons_of_neg (by simp [hbalance])]
      exact ih (form.update action) hpick.2
    | true =>
      rw [List.filter_cons_of_neg (by simp [hbalance]), List.filter_cons_of_pos hbalance]
      obtain ⟨index, balance, rfl⟩ := Action.exists_of_isBalance hbalance
      let rest := actions.filter fun action => !action.isBalance
      have hrest : ∀ later ∈ rest, later.picksSide = false :=
        fun later hlater => hpick.2 later (List.mem_filter.mp hlater).1
      have hother : ∀ later ∈ rest, later.balanceIndex? ≠ some index := by
        intro later hlater
        have hlast : later.isBalance = false := by simpa using (List.mem_filter.mp hlater).2
        rw [Action.balanceIndex?_eq_none hlast]
        exact nofun
      calc (form.update (.setBalance index balance)).updates actions
          = ((form.update (.setBalance index balance)).updates rest).updates
              (actions.filter Action.isBalance) := ih _ hpick.2
        _ = ((form.updates rest).update (.setBalance index balance)).updates
              (actions.filter Action.isBalance) := by
            rw [updates_setBalance form balance hrest hother]

private theorem eq_of_balanceIndex?_eq (hnodup : (actions.filterMap Action.balanceIndex?).Nodup)
    {first second : Action} (hfirst : first ∈ actions.filter Action.isBalance)
    (hsecond : second ∈ actions.filter Action.isBalance)
    (h : first.balanceIndex? = second.balanceIndex?) : first = second := by
  have hmap : (actions.filter Action.isBalance).map Action.balanceIndex? =
      (actions.filterMap Action.balanceIndex?).map some := by
    rw [List.map_filterMap_some_eq_filter_map_isSome, List.filter_map]
    rfl
  have hdistinct : ((actions.filter Action.isBalance).map Action.balanceIndex?).Nodup := by
    rw [hmap]
    exact hnodup.map fun _ _ => Option.some.inj
  exact List.inj_on_of_nodup_map hdistinct hfirst hsecond h

theorem updates_balances_perm (form : Form)
    (hnodup : (actions.filterMap Action.balanceIndex?).Nodup) (hperm : actions.Perm others) :
    form.updates (actions.filter Action.isBalance) =
      form.updates (others.filter Action.isBalance) := by
  apply (hperm.filter Action.isBalance).foldl_eq'
  intro first hfirst second hsecond before
  by_cases h : first = second
  · rw [h]
  · have hother : second.balanceIndex? ≠ first.balanceIndex? :=
      fun heq => h (eq_of_balanceIndex?_eq hnodup hfirst hsecond heq.symm)
    obtain ⟨index, balance, rfl⟩ := Action.exists_of_isBalance (List.mem_filter.mp hfirst).2
    obtain ⟨other, later, rfl⟩ := Action.exists_of_isBalance (List.mem_filter.mp hsecond).2
    exact update_setBalance_comm before balance rfl hother

/-- The order in which balances arrive is of no account. A balance commutes with every action that
is neither a pick for the swap nor a balance of the same currency. So if the balances of a run
without such picks are of different currencies, they may arrive in any order and anywhere between
the other actions, as long as these keep their order, and the run ends with the same form. -/
theorem balances_in_any_order (form : Form) :
    (∀ index balance (action : Action), action.picksSide = false →
      (∀ later, action ≠ .setBalance index later) →
      (form.update (.setBalance index balance)).update action =
        (form.update action).update (.setBalance index balance)) ∧
    ∀ actions others : List Action, (∀ action ∈ actions, action.picksSide = false) →
      (actions.filterMap Action.balanceIndex?).Nodup → actions.Perm others →
      (actions.filter fun action => !action.isBalance) =
        (others.filter fun action => !action.isBalance) →
      form.updates actions = form.updates others := by
  constructor
  · intro index balance action hpick hother
    apply update_setBalance_comm form balance hpick
    cases action with
    | setBalance other later =>
      intro h
      exact hother later (by rw [Option.some.inj h])
    | _ => exact nofun
  · intro actions others hpick hnodup hperm hrest
    have hpick' : ∀ action ∈ others, action.picksSide = false :=
      fun action hmem => hpick action (hperm.mem_iff.mpr hmem)
    rw [updates_eq_balances_last form hpick, updates_eq_balances_last form hpick', hrest]
    exact updates_balances_perm _ hnodup hperm

/-- Two balances arrive around an exchange of the sides, or both after it in the other order. -/
theorem balances_in_any_order_switched :
    initial.updates [.setBalance 0 ⟨5⟩, .switchSides, .setBalance 1 ⟨9⟩, .clearSwap] =
      initial.updates [.switchSides, .clearSwap, .setBalance 1 ⟨9⟩, .setBalance 0 ⟨5⟩] ∧
    (initial.update (.setBalance 0 ⟨5⟩)).update .switchSides =
      (initial.update .switchSides).update (.setBalance 0 ⟨5⟩) := by
  obtain ⟨hcomm, hruns⟩ := balances_in_any_order initial
  exact ⟨hruns _ _ (by decide) (by decide) (by decide) (by decide),
    hcomm 0 ⟨5⟩ .switchSides rfl nofun⟩

end SwapDesk.Form
