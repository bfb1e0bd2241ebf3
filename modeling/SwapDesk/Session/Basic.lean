import SwapDesk.Call.Amm
import SwapDesk.Pool
import SwapDesk.Session.Dialog

/-!
# Sessions

The operations of a user on one market maker. Each is a dialog: quotes and balances ask the chain,
swaps, pools and allowances go to the wallet. Amounts come as texts in whole tokens.
-/

namespace SwapDesk

/-- A market maker and the account that is signed in when an operation begins, if any. -/
structure Session where
  amm : Amm
  account : Option String

namespace Session

/-- What has to be available before transactions are sent: 0.6 NEAR. -/
def gasReserve : Amount := ⟨600000000000000000000000⟩

/-- An amount that the user has typed, in whole tokens. -/
def typed (text : String) : Dialog Amount :=
  liftM ((Amount.ofHuman text).mapError ClientError.amount)

def signedIn (session : Session) : Dialog String :=
  match session.account with
  | some account => .done account
  | none => .fail .notSignedIn

/-- The amount in the reply to a call. It is a string, or a number if it is small. -/
def readAmount (method : String) : Json → Except ClientError Amount
  | .string s => (Amount.ofText s).mapError fun e => .reply method (.badAmount e)
  | .number n =>
    match Json.natural? (.number n) with
    | some units => .ok ⟨units⟩
    | none => .error (.reply method (.notNatural n))
  | value => .error (.reply method (.notAmount value))

def viewAmount (call : ViewCall) : Dialog Amount := do
  let value ← Dialog.view call
  readAmount call.method value

/-- Has a call signed and gives it back. -/
def send (call : FunctionCall) : Dialog FunctionCall := do
  let _ ← Dialog.submit call
  return call

/-- What selling an amount is expected to bring. Nothing brings nothing, whatever the tokens. -/
def quoteFromIn (session : Session) (source target : Token) (amount : String) :
    Dialog Amount := do
  let sold ← typed amount
  if sold.isZero then return .zero
  let route ← Route.between source target
  viewAmount (session.amm.priceIn route sold)

/-- What buying an amount is expected to cost. Nothing costs nothing, whatever the tokens. -/
def quoteFromOut (session : Session) (source target : Token) (amount : String) :
    Dialog Amount := do
  let bought ← typed amount
  if bought.isZero then return .zero
  let route ← Route.between source target
  viewAmount (session.amm.priceOut route bought)

/-- Sells exactly an amount for at least `least`, both above zero. -/
def swapFromIn (session : Session) (source target : Token) (amount least : String) :
    Dialog FunctionCall := do
  let _ ← session.signedIn
  let route ← Route.between source target
  let sold ← typed amount
  let least ← typed least
  if sold.isZero || least.isZero then .fail (.zeroAmount "swap_exact_in")
  else send (session.amm.swapExactIn route sold least)

/-- Buys exactly an amount above zero for at most `most`. -/
def swapFromOut (session : Session) (source target : Token) (most : Amount) (amount : String) :
    Dialog FunctionCall := do
  let _ ← session.signedIn
  let route ← Route.between source target
  let bought ← typed amount
  if bought.isZero then .fail (.zeroAmount "swap_exact_out")
  else send (session.amm.swapExactOut route bought most)

def readNames (method : String) (value : Json) : Except ClientError (List String) :=
  match value.array?.bind fun items => items.mapM Json.string? with
  | some names => .ok names
  | none => .error (.reply method .badJson)

def readPool (method : String) (value : Json) : Except ClientError (Option Pool) :=
  match value.written.nullable Pool.ofWritten with
  | .ok pool => .ok pool
  | .error (.amount e) => .error (.reply method (.badAmount e))
  | .error .form => .error (.reply method .badJson)

def listPools (session : Session) : Dialog (List String) := do
  let call := session.amm.listPools
  let value ← Dialog.view call
  readNames call.method value

def poolInfo (session : Session) (token : String) : Dialog (Option Pool) := do
  let call := session.amm.poolInfo token
  let value ← Dialog.view call
  readPool call.method value

def addLiquidity (session : Session) (token : Token) (near mostTokens leastShares : String) :
    Dialog FunctionCall := do
  let _ ← session.signedIn
  let near ← typed near
  let mostTokens ← typed mostTokens
  let leastShares ← typed leastShares
  send (session.amm.addLiquidity token.address near mostTokens leastShares)

/-- Creates the pool of a token and adds to it, for whoever is signed in by then. Tells whether
there already was one, in which case nothing is sent. -/
def createPool (session : Session) (token : Token) (near mostTokens leastShares : String) :
    Dialog Bool := do
  let _ ← session.signedIn
  match ← session.poolInfo token.address with
  | some _ => return true
  | none =>
    let account ← Dialog.submit (session.amm.createPool token.address)
    let _ ← addLiquidity { session with account } token near mostTokens leastShares
    return false

/-- What the market maker may spend of a token. -/
def allowance (session : Session) (token : Token) : Dialog Amount := do
  let owner ← session.signedIn
  let call ← session.amm.getAllowance token owner
  viewAmount call

/-- Whether the allowance has to grow before an amount can be sold. Only tokens with a contract
have one. -/
def needsApproval (session : Session) (token : Token) (amount : Amount) : Dialog Bool :=
  if token.kind = .nep21 then do
    let allowed ← session.allowance token
    return decide (allowed < amount)
  else return false

def incAllowance (session : Session) (token : Token) (amount : String) :
    Dialog FunctionCall := do
  let _ ← session.signedIn
  let amount ← typed amount
  let call ← session.amm.incAllowance token amount
  send call

/-- What the account holds of a token. Of NEAR only the available part counts. -/
def tokenBalance (session : Session) (token : Token) : Dialog Amount := do
  let owner ← session.signedIn
  match token.kind with
  | .native =>
    let balance ← Dialog.balance owner
    return balance.available
  | _ =>
    let call ← Amm.getBalance token owner
    viewAmount call

def sharesBalance (session : Session) (token : Token) : Dialog Amount := do
  let owner ← session.signedIn
  viewAmount (session.amm.sharesBalance token.address owner)

/-- Whether the account has more available than the reserve. -/
def gasCheck (session : Session) : Dialog Bool := do
  let owner ← session.signedIn
  let balance ← Dialog.balance owner
  return decide (gasReserve < balance.available)

end Session

end SwapDesk
