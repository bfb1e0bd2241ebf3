import Mathlib.Data.List.Induction
import SwapDesk.Form.Action

/-!
# Runs of a form

A form is filled in by one action after the other. What holds of every form on the way is shown
for one action at a time, and a part of the form that no action makes out of anything else is in
the end what the last action on it has made it.
-/

namespace SwapDesk

namespace Form

variable {α : Type} {sets? : Action → Option α} {value : α} {actions : List Action}

theorem updates_append (form : Form) (before after : List Action) :
    form.updates (before ++ after) = (form.updates before).updates after :=
  List.foldl_append

theorem updates_concat (form : Form) (actions : List Action) (action : Action) :
    form.updates (actions ++ [action]) = (form.updates actions).update action :=
  updates_append form actions [action]

theorem view_updates_of_silent (view : Form → α) (form : Form)
    (h : ∀ action ∈ actions, ∀ before : Form, view (before.update action) = view before) :
    view (form.updates actions) = view form := by
  induction actions generalizing form with
  | nil => rfl
  | cons action actions ih =>
    have hrest : view ((form.update action).updates actions) = view (form.update action) :=
      ih (form.update action) fun later hlater => h later (List.mem_cons_of_mem _ hlater)
    have hfirst : view (form.update action) = view form := h action List.mem_cons_self form
    exact hrest.trans hfirst

/-- What the last action of a run that sets something sets it to. -/
def lastSet? (sets? : Action → Option α) (actions : List Action) : Option α :=
  actions.reverse.findSome? sets?

theorem lastSet?_eq_some_iff :
    lastSet? sets? actions = some value ↔
      ∃ before action after, actions = before ++ action :: after ∧ sets? action = some value ∧
        ∀ later ∈ after, sets? later = none := by
  rw [lastSet?, List.findSome?_eq_some_iff]
  constructor
  · rintro ⟨later, action, earlier, hrun, hset, hnone⟩
    refine ⟨earlier.reverse, action, later.reverse, ?_, hset, by simpa using hnone⟩
    rw [← List.reverse_reverse actions, hrun]
    simp
  · rintro ⟨before, action, after, rfl, hset, hnone⟩
    exact ⟨after.reverse, action, before.reverse, by simp, hset, by simpa using hnone⟩

/-- A part of the form that each action sets or leaves as it is. In the end it is what the last
action that set it has made it. -/
theorem view_updates (view : Form → α) (form : Form)
    (h : ∀ before action, view (update before action) = (sets? action).getD (view before)) :
    view (form.updates actions) = (lastSet? sets? actions).getD (view form) := by
  induction actions using List.reverseRecOn with
  | nil => rfl
  | append_singleton actions action ih =>
    rw [updates_concat, h, ih, lastSet?, lastSet?, List.reverse_concat, List.findSome?_cons]
    cases sets? action <;> rfl

/-- What holds at first and is kept by exactly the actions that are safe holds all along a run
exactly if every action of the run is safe. -/
theorem forall_prefix_iff {holds : List Action → Prop} {safe : List Action → Action → Prop}
    (hnil : holds [])
    (hstep : ∀ before action, before ++ [action] <+: actions → holds before →
      (holds (before ++ [action]) ↔ safe before action)) :
    (∀ before, before <+: actions → holds before) ↔
      ∀ before action, before ++ [action] <+: actions → safe before action := by
  constructor
  · intro hall before action hb
    have hbefore := hall before ((List.prefix_append ..).trans hb)
    exact (hstep before action hb hbefore).mp (hall _ hb)
  · intro hsafe before hb
    induction before using List.reverseRecOn with
    | nil => exact hnil
    | append_singleton before action ih =>
      have hbefore := ih ((List.prefix_append ..).trans hb)
      exact (hstep before action hb hbefore).mpr (hsafe before action hb)

end Form

end SwapDesk
