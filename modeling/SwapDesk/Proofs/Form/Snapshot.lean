import SwapDesk.Form.ActionJson
import SwapDesk.Proofs.Json.Faithful

/-!
# Snapshots keep the form

A form and an action have faithful JSON forms, whatever the texts, amounts and places in them. So
a snapshot may be taken and restored between any two actions, and the run ends as it would have
ended without.
-/

namespace SwapDesk

open Json

theorem SwapStatus.faithful : Faithful SwapStatus.json SwapStatus.ofWritten :=
  oneOf_faithful SwapStatus.name fun status => by cases status <;> rfl

theorem SwapFault.faithful : Faithful SwapFault.json SwapFault.ofWritten :=
  oneOf_faithful SwapFault.name fun fault => by cases fault <;> rfl

theorem Leg.faithful : Faithful Leg.json Leg.ofWritten :=
  oneOf_faithful Leg.name fun leg => by cases leg <;> rfl

/-! ## Forms -/

theorem CurrencyField.faithful : Faithful CurrencyField.json CurrencyField.ofWritten where
  read_written field := by
    rw [CurrencyField.ofWritten, CurrencyField.json, record_written]
    · simp only [List.map_cons, List.map_nil, bind, Except.bind, pure, Except.pure,
        text_faithful.read_written, flag_faithful.read_written, word_faithful.read_written,
        TokenKind.faithful.perhaps_optional, amount_faithful.perhaps_optional]
    · rfl
    · decide
  not_null _ := object_not_null _
  isExact field := by
    simp [CurrencyField.json, TokenKind.faithful.optional_isExact,
      amount_faithful.optional_isExact]

theorem SwapForm.faithful : Faithful SwapForm.json SwapForm.ofWritten where
  read_written swap := by
    rw [SwapForm.ofWritten, SwapForm.json, record_written]
    · simp only [List.map_cons, List.map_nil, bind, Except.bind, pure, Except.pure,
        CurrencyField.faithful.read_written, SwapFault.faithful.perhaps_optional,
        flag_faithful.read_written, SwapStatus.faithful.read_written,
        amount_faithful.perhaps_optional]
    · rfl
    · decide
  not_null _ := object_not_null _
  isExact swap := by
    simp [SwapForm.json, CurrencyField.faithful.isExact, SwapFault.faithful.optional_isExact,
      SwapStatus.faithful.isExact, amount_faithful.optional_isExact]

theorem PoolForm.faithful : Faithful PoolForm.json PoolForm.ofWritten where
  read_written pool := by
    rw [PoolForm.ofWritten, PoolForm.json, record_written]
    · simp only [List.map_cons, List.map_nil, bind, Except.bind, pure, Except.pure,
        CurrencyField.faithful.read_written]
    · rfl
    · decide
  not_null _ := object_not_null _
  isExact pool := by simp [PoolForm.json, CurrencyField.faithful.isExact]

theorem Picker.faithful : Faithful Picker.json Picker.ofWritten where
  read_written picker := by
    rw [Picker.ofWritten, Picker.json, record_written]
    · simp only [List.map_cons, List.map_nil, bind, Except.bind, pure, Except.pure,
        flag_faithful.read_written, Leg.faithful.perhaps_optional]
    · rfl
    · decide
  not_null _ := object_not_null _
  isExact picker := by simp [Picker.json, Leg.faithful.optional_isExact]

theorem Form.faithful : Faithful Form.json Form.ofWritten where
  read_written form := by
    rw [Form.ofWritten, Form.json, record_written]
    · simp only [List.map_cons, List.map_nil, bind, Except.bind, pure, Except.pure,
        SwapForm.faithful.read_written, PoolForm.faithful.read_written,
        Picker.faithful.read_written]
    · rfl
    · decide
  not_null _ := object_not_null _
  isExact form := by
    simp [Form.json, SwapForm.faithful.isExact, PoolForm.faithful.isExact,
      Picker.faithful.isExact]

/-! ## Actions -/

theorem Currency.faithful : Faithful Currency.json Currency.ofWritten where
  read_written currency := by
    rw [Currency.ofWritten, Currency.json, record_written]
    · simp only [List.map_cons, List.map_nil, bind, Except.bind, pure, Except.pure,
        text_faithful.read_written, TokenKind.faithful.read_written, word_faithful.read_written,
        amount_faithful.perhaps_optional]
    · rfl
    · decide
  not_null _ := object_not_null _
  isExact currency := by
    simp [Currency.json, TokenKind.faithful.isExact, amount_faithful.optional_isExact]

namespace Form

namespace Action

private theorem ofWritten_content {name : String} {fields : List (String × Json)}
    {action : Action} (hplain : plain? name = none)
    (hcontent : ofContent name (object fields).written = .ok action) :
    ofWritten (object [(name, object fields)]).written = .ok action := by
  simp only [ofWritten, written, writtenFields, Written.alternative, bind, Except.bind, hplain]
  exact hcontent

private theorem isExact_content {name : String} {fields : List (String × Json)}
    (h : ∀ field ∈ fields, field.2.IsExact) : (object [(name, object fields)]).IsExact := by
  rw [isExact_object, List.forall_mem_singleton, isExact_object]
  exact h

private theorem ofWritten_json (action : Action) : ofWritten action.json.written = .ok action := by
  cases action with
  | setReady | clearPrevious | togglePicker | clearSwap | switchSides => rfl
  | _ =>
    apply ofWritten_content rfl
    rw [ofContent, record_written]
    · simp only [List.map_cons, List.map_nil, bind, Except.bind, pure, Except.pure,
        text_faithful.read_written, flag_faithful.read_written, word_faithful.read_written,
        amount_faithful.read_written, Leg.faithful.read_written, SwapStatus.faithful.read_written,
        Currency.faithful.read_written, SwapFault.faithful.perhaps_optional,
        amount_faithful.perhaps_optional, flag_faithful.perhaps_optional]
    · rfl
    · decide

theorem faithful : Faithful json ofWritten where
  read_written := ofWritten_json
  not_null action := by cases action <;> nofun
  isExact action := by
    cases action with
    | setReady | clearPrevious | togglePicker | clearSwap | switchSides => exact isExact_string _
    | _ =>
      apply isExact_content
      simp [Leg.faithful.isExact, SwapStatus.faithful.isExact,
        Currency.faithful.isExact, SwapFault.faithful.optional_isExact,
        amount_faithful.optional_isExact, flag_faithful.optional_isExact]

private theorem ofJson_json (action : Action) : ofJson action.json = .ok action := by
  rw [← ofWritten_json action]
  cases action <;> rfl

private theorem parse_json (action : Action) : parse action.json.render = .ok action :=
  faithful.parseAs_render action

end Action

/-! ## Runs with snapshots -/

theorem load_save (form : Form) : load form.save = .ok form :=
  Form.faithful.parseAs_render form

/-- A step of a run: an action, or a snapshot that is taken and restored at once. -/
inductive Step
  | act (action : Action)
  | restore

def Step.action? : Step → Option Action
  | act action => some action
  | restore => none

def step (form : Form) : Step → Decoded Form
  | .act action => .ok (form.update action)
  | .restore => load form.save

/-- The form after the steps, if every snapshot in between is one of a form. -/
def play (form : Form) (steps : List Step) : Decoded Form :=
  steps.foldlM step form

theorem play_eq_updates (form : Form) (steps : List Step) :
    form.play steps = .ok (form.updates (steps.filterMap Step.action?)) := by
  -- On the steps, for every form to start from: each snapshot goes on from the same form.
  induction steps generalizing form with
  | nil => rfl
  | cons s steps ih =>
    cases s with
    | act action => exact ih (form.update action)
    | restore =>
      rw [play, List.foldlM_cons, step, load_save]
      exact ih form

/-- A snapshot of a form reads back as the form, and what is written of an action as the action,
whether it is read as a text or as a value. So snapshots between the actions of a run, wherever
they are taken, leave no trace in where it ends. -/
theorem snapshot_lossless :
    (∀ form : Form, load form.save = .ok form) ∧
    (∀ action : Action, Action.parse action.json.render = .ok action ∧
      Action.ofJson action.json = .ok action) ∧
    ∀ (form : Form) (steps : List Step),
      form.play steps = .ok (form.updates (steps.filterMap Step.action?)) :=
  ⟨load_save, fun action => ⟨Action.parse_json action, Action.ofJson_json action⟩,
    play_eq_updates⟩

end Form

end SwapDesk
