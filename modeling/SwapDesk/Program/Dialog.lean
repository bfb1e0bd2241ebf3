import SwapDesk.CommandLine.Command
import SwapDesk.Session.Basic

/-!
# Commands as dialogs

What a command does with a session, and the lines that it prints.
-/

namespace SwapDesk.Program

/-- How a command turns out that has met no error on its way. -/
inductive Verdict
  | fine
  /-- The account keeps too little for fees. -/
  | lowGas
deriving DecidableEq

def amountLine (label : String) (amount : Amount) : String :=
  label ++ "\t" ++ amount.display ++ "\t(" ++ amount.text ++ " yocto)"

def printLine (text : String) : Dialog Unit := Dialog.say (.line text)

def printAmount (label : String) (amount : Amount) : Dialog Unit :=
  printLine (amountLine label amount)

def printLines : List String → Dialog Unit
  | [] => .done ()
  | text :: rest => do
    printLine text
    printLines rest

def showPool (token : String) : Option Pool → Dialog Unit
  | some pool => do
    printAmount "ynear" pool.near
    printAmount "tokens" pool.tokens
    printAmount "total_shares" pool.shares
  | none => printLine ("no pool for " ++ token)

/-- Buys an amount. Without a limit the quoted price is the limit, and the user is warned if the
allowance is below it. -/
def swapOut (session : Session) (source target : Token) (amount : String)
    (most : Option String) : Dialog FunctionCall := do
  let limit ← match most with
    | some text => liftM ((Amount.ofText text).mapError ClientError.amount)
    | none => session.quoteFromOut source target amount
  if ← session.needsApproval source limit then Dialog.say (.approveFirst source.symbol)
  session.swapFromOut source target limit amount

/-- Carries out a command. Conversions need no session and do nothing here. -/
def dialog (session : Session) : Command → Dialog Verdict
  | .toYocto _ | .toHuman .. => return .fine
  | .pools => do
    printLines (← session.listPools)
    return .fine
  | .poolInfo token => do
    showPool token (← session.poolInfo token)
    return .fine
  | .quoteIn source target amount => do
    printAmount "out" (← session.quoteFromIn (.ofName source) (.ofName target) amount)
    return .fine
  | .quoteOut source target amount => do
    printAmount "in" (← session.quoteFromOut (.ofName source) (.ofName target) amount)
    return .fine
  | .allowance token => do
    printAmount "allowance" (← session.allowance (.ofName token))
    return .fine
  | .balance token => do
    let token := Token.ofName token
    printAmount token.symbol (← session.tokenBalance token)
    return .fine
  | .gasCheck => do
    if ← session.gasCheck then
      printLine "ok"
      return .fine
    else return .lowGas
  | .swapIn source target amount least => do
    let _ ← session.swapFromIn (.ofName source) (.ofName target) amount least
    return .fine
  | .swapOut source target amount most => do
    let _ ← swapOut session (.ofName source) (.ofName target) amount most
    return .fine
  | .approve token amount => do
    let _ ← session.incAllowance (.ofName token) amount
    return .fine

end SwapDesk.Program
