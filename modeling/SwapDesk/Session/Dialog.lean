import SwapDesk.Balance
import SwapDesk.Call.Basic
import SwapDesk.ClientError

/-!
# Dialogs

An operation as what it asks and what it does with each reply. The chain answers views and
balances, the wallet takes or refuses function calls; a failed request ends the dialog. Running a
dialog against both gives its result and what has passed between them.
-/

namespace SwapDesk

/-- What an operation asks of the chain or of the wallet. -/
inductive Request
  | view (call : ViewCall)
  | balance (account : String)
  | submit (call : FunctionCall)

/-- What comes back when a request is granted. After a call has been taken, this is the account that
is signed in then, if any. -/
abbrev Request.Reply : Request → Type
  | .view _ => Json
  | .balance _ => AccountBalance
  | .submit _ => Option String

/-- What an operation tells its user on the way. -/
inductive Notice
  /-- A line of output. -/
  | line (text : String)
  /-- The allowance of the market maker on this token is below what is to be sold. -/
  | approveFirst (symbol : String)
deriving DecidableEq

inductive Dialog (α : Type)
  | done (result : α)
  | fail (error : ClientError)
  | tell (notice : Notice) (next : Dialog α)
  | ask (request : Request) (next : request.Reply → Dialog α)

namespace Dialog

variable {α β : Type}

def bind (dialog : Dialog α) (next : α → Dialog β) : Dialog β :=
  match dialog with
  | done a => next a
  | fail e => fail e
  | tell notice rest => tell notice (rest.bind next)
  | ask request rest => ask request fun reply => (rest reply).bind next

instance : Monad Dialog where
  pure := done
  bind := bind

instance : MonadLift (Except ClientError) Dialog where
  monadLift
    | .ok a => done a
    | .error e => fail e

def view (call : ViewCall) : Dialog Json := ask (.view call) done

def balance (account : String) : Dialog AccountBalance := ask (.balance account) done

def submit (call : FunctionCall) : Dialog (Option String) := ask (.submit call) done

def say (notice : Notice) : Dialog Unit := tell notice (done ())

end Dialog

/-- What answers read-only requests, with a state of its own. -/
structure Chain (σ : Type) where
  view : ViewCall → σ → Except ClientError Json × σ
  balance : String → σ → Except ClientError AccountBalance × σ

/-- What takes function calls to sign them, with a state of its own, which tells the account that is
signed in, if any. -/
structure Wallet (ω : Type) where
  account : ω → Option String
  submit : FunctionCall → ω → Except ClientError Unit × ω

/-- What has passed in a dialog. -/
inductive Event
  | asked (request : Request) (granted : Bool)
  | told (notice : Notice)

/-- What is left when a dialog has been run. -/
structure Outcome (σ ω α : Type) where
  result : Except ClientError α
  events : List Event
  chain : σ
  wallet : ω

namespace Outcome

variable {σ ω α : Type}

def after (event : Event) (outcome : Outcome σ ω α) : Outcome σ ω α :=
  { outcome with events := event :: outcome.events }

/-- The calls that the wallet has accepted, oldest first. -/
def submitted (outcome : Outcome σ ω α) : List FunctionCall :=
  outcome.events.filterMap fun
    | .asked (.submit call) true => some call
    | _ => none

/-- The requests to the chain, granted or not, oldest first. -/
def queries (outcome : Outcome σ ω α) : List Request :=
  outcome.events.filterMap fun
    | .asked (.submit _) _ => none
    | .asked request _ => some request
    | .told _ => none

/-- What the user has been told, oldest first. -/
def notices (outcome : Outcome σ ω α) : List Notice :=
  outcome.events.filterMap fun
    | .told notice => some notice
    | .asked .. => none

end Outcome

namespace Dialog

variable {σ ω α : Type}

def run (chain : Chain σ) (wallet : Wallet ω) : Dialog α → σ → ω → Outcome σ ω α
  | done a, s, w => ⟨.ok a, [], s, w⟩
  | fail e, s, w => ⟨.error e, [], s, w⟩
  | tell notice next, s, w => (next.run chain wallet s w).after (.told notice)
  | ask (.view call) next, s, w =>
    match chain.view call s with
    | (.ok reply, s) => ((next reply).run chain wallet s w).after (.asked (.view call) true)
    | (.error e, s) => ⟨.error e, [.asked (.view call) false], s, w⟩
  | ask (.balance account) next, s, w =>
    match chain.balance account s with
    | (.ok reply, s) => ((next reply).run chain wallet s w).after (.asked (.balance account) true)
    | (.error e, s) => ⟨.error e, [.asked (.balance account) false], s, w⟩
  | ask (.submit call) next, s, w =>
    match wallet.submit call w with
    | (.ok (), w) =>
      ((next (wallet.account w)).run chain wallet s w).after (.asked (.submit call) true)
    | (.error e, w) => ⟨.error e, [.asked (.submit call) false], s, w⟩

end Dialog

end SwapDesk
