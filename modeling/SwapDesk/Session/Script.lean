import SwapDesk.Session.Dialog

/-!
# Prepared answers

A chain that answers from a list, one reply for each request, and a wallet that accepts a number
of calls and refuses all others.
-/

namespace SwapDesk.Script

inductive Reply
  | value (value : Json)
  | balance (balance : AccountBalance)
  | refusal (message : String)

def balanceLabel : String := "view_account"

private def next (label : String) : List Reply → Except ClientError Reply × List Reply
  | [] => (.error (.rpc label "no reply"), [])
  | .refusal message :: rest => (.error (.rpc label message), rest)
  | reply :: rest => (.ok reply, rest)

/-- A view sees no value in a balance, and a request for a balance sees none in a value. -/
def chain : Chain (List Reply) where
  view call replies :=
    let (reply, rest) := next call.method replies
    (reply.map fun
      | .value value => value
      | _ => .null, rest)
  balance _ replies :=
    let (reply, rest) := next balanceLabel replies
    (reply.map fun
      | .balance balance => balance
      | _ => ⟨.zero, .zero⟩, rest)

/-- A wallet of one account that accepts this many more calls, or all of them. -/
def wallet (account : Option String) : Wallet (Option Nat) where
  account _ := account
  submit call
    | none => (.ok (), none)
    | some 0 => (.error (.wallet ("refused " ++ call.method)), some 0)
    | some (left + 1) => (.ok (), some left)

end SwapDesk.Script
