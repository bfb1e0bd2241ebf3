import SwapDesk.Form.Basic

/-!
# Actions on a form

What can happen to a form, and the form that results. Every change is one of these actions.
-/

namespace SwapDesk

/-- The swap with its sides exchanged. The new input starts empty, the new output keeps what was
typed. -/
def SwapForm.switched (swap : SwapForm) : SwapForm :=
  { swap with
    input := swap.output.cleared
    output := swap.input
    fault := none
    needsApproval := swap.output.kind = some .nep21
    status := .notReady }

namespace Form

inductive Action
  /-- The balance of the token at a place of the list is known. -/
  | setBalance (index : UInt64) (balance : Amount)
  | setReady
  | setStatus (status : SwapStatus) (fault : Option SwapFault) (previous : Option Amount)
  | clearPrevious
  | setAmount (leg : Leg) (amount : String) (isValid : Bool)
  | pick (leg : Leg) (currency : Currency)
  | togglePicker
  /-- Opens or closes the picker and notes which field it is for. -/
  | togglePickerFor (leg : Leg)
  | setApproval (needsApproval : Bool)
  | clearSwap
  | setFault (fault : Option SwapFault)
  | setAllowance (allowance : Amount) (needsApproval : Option Bool)
  /-- The currencies change sides. -/
  | switchSides
deriving DecidableEq

/-- A picked input needs an approval if its contract keeps allowances, and starts empty. -/
def pickFor (leg : Leg) (currency : Currency) (form : Form) : Form :=
  let picked := form.modifyField (CurrencyField.pick currency) leg
  let swap := match leg with
    | .swapIn =>
      { picked.swap with
        input.amount := ""
        needsApproval := currency.kind = .nep21
        status := .notReady }
    | .swapOut => { picked.swap with needsApproval := false, status := .notReady }
    | _ => picked.swap
  { picked with swap, picker.isVisible := false }

def update (form : Form) : Action → Form
  | .setBalance index balance =>
    { form with
      swap.input := form.swap.input.noteBalance index balance
      swap.output := form.swap.output.noteBalance index balance }
  | .setReady => { form with swap.status := .ready }
  | .setStatus status fault previous =>
    { form with swap := { form.swap with status, fault, previous } }
  | .clearPrevious => { form with swap.previous := none }
  | .setAmount leg amount isValid =>
    form.modifyField (fun field => { field with amount, isValid }) leg
  | .pick leg currency => form.pickFor leg currency
  | .togglePicker => { form with picker.isVisible := !form.picker.isVisible }
  | .togglePickerFor leg => { form with picker := ⟨!form.picker.isVisible, some leg⟩ }
  | .setApproval needsApproval => { form with swap.needsApproval := needsApproval }
  | .clearSwap =>
    { form with
      swap := { form.swap with
        input := form.swap.input.cleared
        output := form.swap.output.cleared
        fault := none
        status := .notReady } }
  | .setFault fault => { form with swap.fault := fault }
  | .setAllowance allowance needsApproval =>
    { form with
      swap.input.allowance := some allowance
      swap.needsApproval := needsApproval.getD form.swap.needsApproval }
  | .switchSides => { form with swap := form.swap.switched }

def updates (form : Form) (actions : List Action) : Form :=
  actions.foldl update form

end Form

end SwapDesk
