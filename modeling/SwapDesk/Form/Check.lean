import SwapDesk.Form.Action

/-!
# Submitting a swap

Whether the form of a swap can be submitted, the action that submits it, and how it shows
afterwards that the swap has settled.
-/

namespace SwapDesk

namespace SwapForm

/-- The most critical problem of a swap, if it has one. The amounts are the quoted input and the
wanted output. -/
def fault? (swap : SwapForm) (signedIn : Bool) (input output : Amount) : Option SwapFault :=
  if swap.input.index = swap.output.index then some .sameCurrency
  else if !signedIn then some .notSignedIn
  else if swap.input.balance.any fun balance => decide (balance < input) then
    some .insufficientBalance
  else if input.isZero && !output.isZero then some .insufficientLiquidity
  else if output.isZero then some .zeroAmount
  else none

/-- The status of a swap and its most critical problem. -/
def check (swap : SwapForm) (signedIn : Bool) (input output : Amount) :
    SwapStatus × Option SwapFault :=
  match swap.fault? signedIn input output with
  | some fault => (.notReady, some fault)
  | none => (.ready, none)

/-- The action that submits a swap. It notes the balance of the output, which has grown once the
swap has settled. -/
def start (swap : SwapForm) : Except SwapFault Form.Action :=
  if swap.input.isValid && swap.output.isValid then
    .ok (.setStatus .swapping none swap.output.balance)
  else .error .invalidAmounts

end SwapForm

/-- How the balance of the output has changed since a swap was submitted. -/
structure Settlement where
  before : Amount
  after : Amount
deriving DecidableEq

def Settlement.message (settlement : Settlement) : String :=
  "your balance went from " ++ settlement.before.human .compact ++ " to " ++
    settlement.after.human .compact

/-- A submitted swap has settled once the balance exceeds what was noted. -/
def SwapForm.settled? (swap : SwapForm) (current : Amount) : Option Settlement :=
  match swap.previous with
  | some before => if before < current then some ⟨before, current⟩ else none
  | none => none

end SwapDesk
