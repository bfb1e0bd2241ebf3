import SwapDesk.Call.Basic
import SwapDesk.Route

/-!
# Calls to the market maker

The calls that a session makes: quotes, swaps and pools on the contract of the automated market
maker, allowances and balances on the contracts of tokens. Arguments are in the order of their
names, and an amount among them is a string.
-/

namespace SwapDesk

/-- The contract of an automated market maker. -/
structure Amm where
  contract : String
deriving DecidableEq

namespace Amm

/-- The gas attached to every function call. -/
def gas : UInt64 := 300000000000000

/-- The deposit attached to swaps and pool changes: 0.06 NEAR. -/
def swapDeposit : Amount := ⟨60000000000000000000000⟩

/-- The deposit attached to an increase of an allowance: 0.04 NEAR. -/
def allowanceDeposit : Amount := ⟨40000000000000000000000⟩

def viewMethods : List String := [
  "price_near_to_token_in",
  "price_near_to_token_out",
  "price_token_to_near_in",
  "price_token_to_near_out",
  "price_token_to_token_in",
  "price_token_to_token_out",
  "pool_info",
  "list_pools",
  "calc_out_amount",
  "calc_in_amount",
  "balance_of"]

def changeMethods : List String := [
  "create_pool",
  "add_liquidity",
  "remove_liquidity",
  "swap_near_to_token_exact_in",
  "swap_near_to_token_exact_in_xfr",
  "swap_near_to_token_exact_out",
  "swap_near_to_token_exact_out_xfr",
  "swap_token_to_near_exact_in",
  "swap_token_to_near_exact_in_xfr",
  "swap_token_to_near_exact_out",
  "swap_token_to_near_exact_out_xfr",
  "swap_tokens_exact_in",
  "swap_tokens_exact_in_xfr",
  "swap_tokens_exact_out",
  "swap_tokens_exact_out_xfr"]

def view (amm : Amm) (method : String) (args : List (String × Json)) : ViewCall :=
  ⟨amm.contract, method, .object args⟩

def change (amm : Amm) (method : String) (args : List (String × Json)) (deposit : Amount) :
    FunctionCall :=
  ⟨amm.contract, method, .object args, gas, deposit⟩

/-- What selling an amount brings. -/
def priceIn (amm : Amm) (route : Route) (sold : Amount) : ViewCall :=
  match route with
  | .nearToToken token =>
    amm.view "price_near_to_token_in" [("token", .string token), ("ynear_in", sold.json)]
  | .tokenToNear token =>
    amm.view "price_token_to_near_in" [("token", .string token), ("tokens_in", sold.json)]
  | .tokenToToken source target =>
    amm.view "price_token_to_token_in"
      [("from", .string source), ("to", .string target), ("tokens_in", sold.json)]

/-- What buying an amount costs. -/
def priceOut (amm : Amm) (route : Route) (bought : Amount) : ViewCall :=
  match route with
  | .nearToToken token =>
    amm.view "price_near_to_token_out" [("token", .string token), ("tokens_out", bought.json)]
  | .tokenToNear token =>
    amm.view "price_token_to_near_out" [("token", .string token), ("ynear_out", bought.json)]
  | .tokenToToken source target =>
    amm.view "price_token_to_token_out"
      [("from", .string source), ("to", .string target), ("tokens_out", bought.json)]

/-- Sells exactly an amount for at least `least`. NEAR that is sold is the deposit. -/
def swapExactIn (amm : Amm) (route : Route) (sold least : Amount) : FunctionCall :=
  match route with
  | .nearToToken token =>
    amm.change "swap_near_to_token_exact_in"
      [("min_tokens", least.json), ("token", .string token)] sold
  | .tokenToNear token =>
    amm.change "swap_token_to_near_exact_in"
      [("min_ynear", least.json), ("token", .string token), ("tokens_paid", sold.json)]
      swapDeposit
  | .tokenToToken source target =>
    amm.change "swap_tokens_exact_in"
      [("from", .string source), ("min_tokens_out", least.json), ("to", .string target),
        ("tokens_in", sold.json)]
      swapDeposit

/-- Buys exactly an amount for at most `most`. NEAR that is sold is the deposit. -/
def swapExactOut (amm : Amm) (route : Route) (bought most : Amount) : FunctionCall :=
  match route with
  | .nearToToken token =>
    amm.change "swap_near_to_token_exact_out"
      [("token", .string token), ("tokens_out", bought.json)] most
  | .tokenToNear token =>
    amm.change "swap_token_to_near_exact_out"
      [("max_tokens", most.json), ("token", .string token), ("ynear_out", bought.json)]
      swapDeposit
  | .tokenToToken source target =>
    amm.change "swap_tokens_exact_out"
      [("from", .string source), ("max_tokens_in", most.json), ("to", .string target),
        ("tokens_out", bought.json)]
      swapDeposit

def createPool (amm : Amm) (token : String) : FunctionCall :=
  amm.change "create_pool" [("token", .string token)] swapDeposit

def addLiquidity (amm : Amm) (token : String) (near mostTokens leastShares : Amount) :
    FunctionCall :=
  amm.change "add_liquidity"
    [("max_tokens", mostTokens.json), ("min_shares", leastShares.json),
      ("token", .string token), ("ynear", near.json)]
    swapDeposit

def listPools (amm : Amm) : ViewCall := amm.view "list_pools" []

def poolInfo (amm : Amm) (token : String) : ViewCall :=
  amm.view "pool_info" [("token", .string token)]

def sharesBalance (amm : Amm) (token holder : String) : ViewCall :=
  amm.view "balance_of" [("holder", .string holder), ("token", .string token)]

def contractOf (token : Token) : Except ClientError String :=
  match token.kind with
  | .nep21 => .ok token.address
  | _ => .error (.notNep21 token.symbol)

/-- What the market maker may move from an account on the contract of a token. -/
def getAllowance (amm : Amm) (token : Token) (owner : String) : Except ClientError ViewCall := do
  let address ← contractOf token
  return ⟨address, "get_allowance",
    .object [("escrow_account_id", .string amm.contract), ("owner_id", .string owner)]⟩

def incAllowance (amm : Amm) (token : Token) (amount : Amount) :
    Except ClientError FunctionCall := do
  let address ← contractOf token
  if amount.isZero then throw (.zeroAmount "inc_allowance")
  return ⟨address, "inc_allowance",
    .object [("amount", amount.json), ("escrow_account_id", .string amm.contract)],
    gas, allowanceDeposit⟩

def getBalance (token : Token) (owner : String) : Except ClientError ViewCall := do
  let address ← contractOf token
  return ⟨address, "get_balance", .object [("owner_id", .string owner)]⟩

end Amm

end SwapDesk
