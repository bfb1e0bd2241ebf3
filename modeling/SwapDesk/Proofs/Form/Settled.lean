import SwapDesk.Proofs.Form.Check
import SwapDesk.Proofs.Form.Run
import SwapDesk.Proofs.Form.Snapshot

/-!
# Swaps that have settled

A swap that starts notes the balance of its output, and the swap has settled once a later balance
is above the one noted. Only a change of status and the clearing of the note write the note, so it
outlives whatever else happens to the form, and the program itself.
-/

namespace SwapDesk

namespace SwapForm

theorem settled?_eq_some_iff {swap : SwapForm} {current : Amount} {settlement : Settlement} :
    swap.settled? current = some settlement ↔
      ∃ before, swap.previous = some before ∧ before < current ∧
        settlement = ⟨before, current⟩ := by
  rw [settled?]
  cases swap.previous with
  | none => simp
  | some before =>
    by_cases hgrown : before < current
    · simp [hgrown, eq_comm]
    · simp [hgrown]

private theorem settled?_eq_none {swap : SwapForm} (h : swap.previous = none) (current : Amount) :
    swap.settled? current = none := by
  rw [settled?, h]

end SwapForm

namespace Form

/-- What an action writes as the balance before the swap, if it writes that at all. -/
def Action.notes? : Action → Option (Option Amount)
  | .setStatus _ _ previous => some previous
  | .clearPrevious => some none
  | _ => none

theorem previous_update (form : Form) (action : Action) :
    (form.update action).swap.previous = action.notes?.getD form.swap.previous := by
  cases action with
  | setAmount leg amount isValid => cases leg <;> rfl
  | pick leg currency => cases leg <;> rfl
  | _ => rfl

theorem previous_updates (form : Form) {actions : List Action}
    (h : ∀ action ∈ actions, action.notes? = none) :
    (form.updates actions).swap.previous = form.swap.previous := by
  apply view_updates_of_silent (fun form => form.swap.previous) form
  intro action hmem before
  rw [previous_update, h action hmem, Option.getD_none]

private theorem notes?_eq_none {action : Action}
    (hstatus : ∀ status fault previous, action ≠ .setStatus status fault previous)
    (hclear : action ≠ .clearPrevious) : action.notes? = none := by
  cases action with
  | setStatus status fault previous => exact absurd rfl (hstatus status fault previous)
  | clearPrevious => exact absurd rfl hclear
  | _ => rfl

private theorem mem_actions_iff {steps : List Step} {action : Action} :
    action ∈ steps.filterMap Step.action? ↔ Step.act action ∈ steps := by
  constructor
  · intro h
    obtain ⟨step, hstep, haction⟩ := List.mem_filterMap.mp h
    cases step with
    | act other =>
      cases haction
      exact hstep
    | restore => contradiction
  · intro h
    exact List.mem_filterMap.mpr ⟨_, h, rfl⟩

/-- After a swap has started, whatever is done to the form but a change of status or the clearing
of the note, and however often the form is saved and restored, the swap counts as settled exactly
if the output had a known balance when it started and the present one is a greater number. Then
the settlement tells these two balances. Once the note is cleared no balance settles the swap. -/
theorem settled_exactly (form : Form) :
    (∀ action steps, form.swap.start = .ok action →
      (∀ status fault previous, Step.act (.setStatus status fault previous) ∉ steps) →
      Step.act .clearPrevious ∉ steps →
      ∃ final, (form.update action).play steps = .ok final ∧
        ∀ current settlement, final.swap.settled? current = some settlement ↔
          ∃ balance, form.swap.output.balance = some balance ∧ balance.units < current.units ∧
            settlement = ⟨balance, current⟩) ∧
    ∀ current, (form.update .clearPrevious).swap.settled? current = none := by
  constructor
  · intro action steps hstart hstatus hclear
    obtain ⟨-, rfl⟩ := SwapForm.start_eq_ok_iff.mp hstart
    have hsilent : ∀ later ∈ steps.filterMap Step.action?, later.notes? = none := by
      intro later hlater
      have hstep : Step.act later ∈ steps := mem_actions_iff.mp hlater
      apply notes?_eq_none
      · rintro status fault previous rfl
        exact hstatus status fault previous hstep
      · rintro rfl
        exact hclear hstep
    refine ⟨_, play_eq_updates _ steps, ?_⟩
    intro current settlement
    rw [SwapForm.settled?_eq_some_iff, previous_updates _ hsilent]
    rfl
  · intro current
    exact SwapForm.settled?_eq_none rfl current

def fivePaired : Form :=
  initial.updates
    [.setAmount .swapIn "2" true, .setAmount .swapOut "1" true, .setBalance 1 ⟨5⟩]

/-- The swap starts, the program is left and the sides change places before nine units are there. -/
theorem settled_exactly_switched :
    fivePaired.swap.start = .ok (.setStatus .swapping none (some ⟨5⟩)) ∧
    ∃ final,
      (fivePaired.update (.setStatus .swapping none (some ⟨5⟩))).play
        [.restore, .act .switchSides, .act (.setBalance 1 ⟨9⟩), .restore] = .ok final ∧
      final.swap.settled? ⟨9⟩ = some ⟨⟨5⟩, ⟨9⟩⟩ ∧ final.swap.settled? ⟨5⟩ = none := by
  have hstart : fivePaired.swap.start = .ok (.setStatus .swapping none (some ⟨5⟩)) := rfl
  obtain ⟨final, hplay, hsettled⟩ := (settled_exactly fivePaired).1 _
    [.restore, .act .switchSides, .act (.setBalance 1 ⟨9⟩), .restore] hstart
    (by simp) (by simp)
  refine ⟨hstart, final, hplay, (hsettled _ _).mpr ⟨⟨5⟩, rfl, by decide, rfl⟩, ?_⟩
  rw [Option.eq_none_iff_forall_ne_some]
  intro settlement hsome
  obtain ⟨balance, hbalance, hless, -⟩ := (hsettled _ _).mp hsome
  cases hbalance
  exact absurd hless (by decide)

end Form

end SwapDesk
