import SwapDesk.Call.Amm
import SwapDesk.Proofs.Json.Faithful
import SwapDesk.Proofs.Json.FreeForm

/-!
# Intents behind calls

What is to be changed or asked, before it is a call. A call shows by its method and its arguments
what it was built for, and so does its text; so no two intents share a call or a text.
-/

namespace SwapDesk

open Json

/-! ## Texts of calls -/

/-- Arguments that a call may be read back with. -/
structure ReadableArgs (args : Json) : Prop where
  isExact : args.IsExact
  isFreeForm : args.IsFreeForm deepestArgs

@[simp]
theorem Amount.json_eq_string (a : Amount) : ∃ s, a.json = .string s := ⟨a.text, rfl⟩

private theorem readableArgs_object {fields : List (String × Json)}
    (hsorted : (fields.map (·.1)).Pairwise (· < ·))
    (htexts : ∀ field ∈ fields, ∃ s, field.2 = .string s) : ReadableArgs (object fields) := by
  rw [List.pairwise_map] at hsorted
  refine ⟨.object fun field hfield => ?_, .object hsorted fun field hfield => ?_⟩
  · obtain ⟨s, hs⟩ := htexts field hfield
    exact hs ▸ .string s
  · obtain ⟨s, hs⟩ := htexts field hfield
    exact hs ▸ .string s

theorem ViewCall.parseAs_render {call : ViewCall} (h : ReadableArgs call.args) :
    parseAs ofWritten call.json.render = .ok call := by
  apply Json.parseAs_render
  · simp [ViewCall.json, h.isExact]
  · rw [ofWritten, ViewCall.json, record_written]
    · simp only [List.map_cons, List.map_nil, bind, Except.bind, pure, Except.pure,
        text_faithful.read_written, Written.value?_written h.isFreeForm, Decoded.ofOption]
    · rfl
    · decide

theorem FunctionCall.parseAs_render {call : FunctionCall} (h : ReadableArgs call.args) :
    parseAs ofWritten call.json.render = .ok call := by
  apply Json.parseAs_render
  · simp [FunctionCall.json, h.isExact]
  · rw [ofWritten, FunctionCall.json, record_written]
    · simp only [List.map_cons, List.map_nil, bind, Except.bind, pure, Except.pure,
        text_faithful.read_written, word_faithful.read_written, amount_faithful.read_written,
        Written.value?_written h.isFreeForm, Decoded.ofOption]
    · rfl
    · decide

/-! ## Changes and queries -/

inductive Change
  | exactIn (route : Route) (sold least : Amount)
  | exactOut (route : Route) (bought most : Amount)
  | createPool (token : String)
  | addLiquidity (token : String) (near mostTokens leastShares : Amount)
  /-- More may be moved of the token of this contract. -/
  | incAllowance (address : String) (amount : Amount)

inductive Query
  | priceIn (route : Route) (sold : Amount)
  | priceOut (route : Route) (bought : Amount)
  | listPools
  | poolInfo (token : String)
  | sharesBalance (token holder : String)
  | allowance (address owner : String)
  | balance (address owner : String)

/-- An allowance is not raised by zero. -/
def Change.IsProper : Change → Prop
  | incAllowance _ amount => 0 < amount.units
  | _ => True

namespace Amm

variable (amm : Amm)

def changeCall : Change → Except ClientError FunctionCall
  | .exactIn route sold least => .ok (amm.swapExactIn route sold least)
  | .exactOut route bought most => .ok (amm.swapExactOut route bought most)
  | .createPool token => .ok (amm.createPool token)
  | .addLiquidity token near mostTokens leastShares =>
    .ok (amm.addLiquidity token near mostTokens leastShares)
  | .incAllowance address amount => amm.incAllowance (.ofContract address) amount

def queryCall : Query → Except ClientError ViewCall
  | .priceIn route sold => .ok (amm.priceIn route sold)
  | .priceOut route bought => .ok (amm.priceOut route bought)
  | .listPools => .ok amm.listPools
  | .poolInfo token => .ok (amm.poolInfo token)
  | .sharesBalance token holder => .ok (amm.sharesBalance token holder)
  | .allowance address owner => amm.getAllowance (.ofContract address) owner
  | .balance address owner => getBalance (.ofContract address) owner

end Amm

/-! ## Calls tell their intents -/

def Json.text? (args : Json) (key : String) : Option String := do
  (← args.get? key).string?

def Json.amount? (args : Json) (key : String) : Option Amount := do
  (Amount.ofText (← args.text? key)).toOption

namespace Json

variable (name key : String) (fields : List (String × Json))

private theorem get?_cons (v : Json) : (object ((name, v) :: fields)).get? key =
    if key = name then some v else (object fields).get? key := by
  rw [get?, List.lookup_cons]
  by_cases h : key = name
  · rw [if_pos h, h, beq_self_eq_true]
  · rw [if_neg h, beq_false_of_ne h]
    rfl

@[simp]
theorem text?_cons (s : String) : (object ((name, .string s) :: fields)).text? key =
    if key = name then some s else (object fields).text? key := by
  rw [text?, get?_cons]
  split <;> rfl

@[simp]
theorem text?_cons_amount (a : Amount) : (object ((name, a.json) :: fields)).text? key =
    if key = name then some a.text else (object fields).text? key :=
  text?_cons name key fields a.text

@[simp]
theorem toOption_ofText_text (a : Amount) : (Amount.ofText a.text).toOption = some a := by
  rw [Amount.ofText_text]
  rfl

end Json

/-- The change that the call was built for. -/
def FunctionCall.change? (call : FunctionCall) : Option Change := do
  let args := call.args
  match call.method with
  | "swap_near_to_token_exact_in" =>
    return .exactIn (.nearToToken (← args.text? "token")) call.deposit
      (← args.amount? "min_tokens")
  | "swap_token_to_near_exact_in" =>
    return .exactIn (.tokenToNear (← args.text? "token")) (← args.amount? "tokens_paid")
      (← args.amount? "min_ynear")
  | "swap_tokens_exact_in" =>
    return .exactIn (.tokenToToken (← args.text? "from") (← args.text? "to"))
      (← args.amount? "tokens_in") (← args.amount? "min_tokens_out")
  | "swap_near_to_token_exact_out" =>
    return .exactOut (.nearToToken (← args.text? "token")) (← args.amount? "tokens_out")
      call.deposit
  | "swap_token_to_near_exact_out" =>
    return .exactOut (.tokenToNear (← args.text? "token")) (← args.amount? "ynear_out")
      (← args.amount? "max_tokens")
  | "swap_tokens_exact_out" =>
    return .exactOut (.tokenToToken (← args.text? "from") (← args.text? "to"))
      (← args.amount? "tokens_out") (← args.amount? "max_tokens_in")
  | "create_pool" => return .createPool (← args.text? "token")
  | "add_liquidity" =>
    return .addLiquidity (← args.text? "token") (← args.amount? "ynear")
      (← args.amount? "max_tokens") (← args.amount? "min_shares")
  | "inc_allowance" => return .incAllowance call.contract (← args.amount? "amount")
  | _ => none

/-- What the call asks. -/
def ViewCall.query? (call : ViewCall) : Option Query := do
  let args := call.args
  match call.method with
  | "price_near_to_token_in" =>
    return .priceIn (.nearToToken (← args.text? "token")) (← args.amount? "ynear_in")
  | "price_token_to_near_in" =>
    return .priceIn (.tokenToNear (← args.text? "token")) (← args.amount? "tokens_in")
  | "price_token_to_token_in" =>
    return .priceIn (.tokenToToken (← args.text? "from") (← args.text? "to"))
      (← args.amount? "tokens_in")
  | "price_near_to_token_out" =>
    return .priceOut (.nearToToken (← args.text? "token")) (← args.amount? "tokens_out")
  | "price_token_to_near_out" =>
    return .priceOut (.tokenToNear (← args.text? "token")) (← args.amount? "ynear_out")
  | "price_token_to_token_out" =>
    return .priceOut (.tokenToToken (← args.text? "from") (← args.text? "to"))
      (← args.amount? "tokens_out")
  | "list_pools" => return .listPools
  | "pool_info" => return .poolInfo (← args.text? "token")
  | "balance_of" => return .sharesBalance (← args.text? "token") (← args.text? "holder")
  | "get_allowance" => return .allowance call.contract (← args.text? "owner_id")
  | "get_balance" => return .balance call.contract (← args.text? "owner_id")
  | _ => none

namespace Amm

variable {amm : Amm}

private theorem contractOf_ofContract (address : String) :
    contractOf (.ofContract address) = .ok address := by
  simp only [contractOf, Token.ofContract]

private theorem incAllowance_eq_ok_iff {address : String} {amount : Amount} {call : FunctionCall} :
    amm.incAllowance (.ofContract address) amount = .ok call ↔ 0 < amount.units ∧
      (⟨address, "inc_allowance",
        .object [("amount", amount.json), ("escrow_account_id", .string amm.contract)],
        gas, allowanceDeposit⟩ : FunctionCall) = call := by
  rw [← Amount.isZero_eq_false_iff]
  cases hzero : amount.isZero <;>
    simp [incAllowance, contractOf_ofContract, hzero, bind, Except.bind, pure, Except.pure]

private theorem change?_changeCall {change : Change} {call : FunctionCall}
    (h : amm.changeCall change = .ok call) : call.change? = some change := by
  cases change with
  | exactIn route sold least =>
    cases h
    cases route <;> simp [FunctionCall.change?, amount?, swapExactIn, Amm.change]
  | exactOut route bought most =>
    cases h
    cases route <;> simp [FunctionCall.change?, amount?, swapExactOut, Amm.change]
  | createPool token =>
    cases h
    simp [FunctionCall.change?, createPool, Amm.change]
  | addLiquidity token near mostTokens leastShares =>
    cases h
    simp [FunctionCall.change?, amount?, addLiquidity, Amm.change]
  | incAllowance address amount =>
    obtain ⟨-, rfl⟩ := incAllowance_eq_ok_iff.mp h
    simp [FunctionCall.change?, amount?]

private theorem query?_queryCall {query : Query} {call : ViewCall}
    (h : amm.queryCall query = .ok call) : call.query? = some query := by
  cases query with
  | priceIn route sold =>
    cases h
    cases route <;> simp [ViewCall.query?, amount?, priceIn, view]
  | priceOut route bought =>
    cases h
    cases route <;> simp [ViewCall.query?, amount?, priceOut, view]
  | listPools =>
    cases h
    simp [ViewCall.query?, listPools, view]
  | poolInfo token =>
    cases h
    simp [ViewCall.query?, poolInfo, view]
  | sharesBalance token holder =>
    cases h
    simp [ViewCall.query?, sharesBalance, view]
  | allowance address owner | balance address owner =>
    cases h
    simp [ViewCall.query?, Token.ofContract]

private theorem readableArgs_changeCall {change : Change} {call : FunctionCall}
    (h : amm.changeCall change = .ok call) : ReadableArgs call.args := by
  -- Only the names of the arguments are compared, and without the values they are closed terms.
  cases change with
  | exactIn route | exactOut route =>
    cases h
    cases route <;> exact readableArgs_object (by simp only [List.map]; decide) (by simp)
  | createPool | addLiquidity =>
    cases h
    exact readableArgs_object (by simp only [List.map]; decide) (by simp)
  | incAllowance =>
    obtain ⟨-, rfl⟩ := incAllowance_eq_ok_iff.mp h
    exact readableArgs_object (by simp only [List.map]; decide) (by simp)

private theorem readableArgs_queryCall {query : Query} {call : ViewCall}
    (h : amm.queryCall query = .ok call) : ReadableArgs call.args := by
  cases query with
  | priceIn route | priceOut route =>
    cases h
    cases route <;> exact readableArgs_object (by simp only [List.map]; decide) (by simp)
  | _ =>
    cases h
    exact readableArgs_object (by simp only [List.map]; decide) (by simp)

def changeText (amm : Amm) (change : Change) : Except ClientError String :=
  (amm.changeCall change).map (·.json.render)

def queryText (amm : Amm) (query : Query) : Except ClientError String :=
  (amm.queryCall query).map (·.json.render)

private theorem exists_changeCall {change : Change} (h : change.IsProper) :
    ∃ call, amm.changeCall change = .ok call := by
  cases change with
  | incAllowance address amount => exact ⟨_, incAllowance_eq_ok_iff.mpr ⟨h, rfl⟩⟩
  | _ => exact ⟨_, rfl⟩

private theorem exists_queryCall (query : Query) : ∃ call, amm.queryCall query = .ok call := by
  cases query <;> exact ⟨_, rfl⟩

/-- A builder loses nothing of the intents whose calls tell them and read back from their text. -/
private theorem injOn_text {ι κ : Type} {build : ι → Except ClientError κ} {text : κ → String}
    {parse : String → Decoded κ} {intent? : κ → Option ι} {proper : Set ι}
    (hbuild : ∀ i ∈ proper, ∃ call, build i = .ok call ∧ parse (text call) = .ok call ∧
      intent? call = some i) :
    proper.InjOn fun i => (build i).map text := by
  intro i hi j hj htext
  -- One text reads back as both calls, and one call tells both intents.
  obtain ⟨call, hcall, hparse, htells⟩ := hbuild i hi
  obtain ⟨other, hother, hparse', htells'⟩ := hbuild j hj
  simp only [hcall, hother, Except.map, Except.ok.injEq] at htext
  rw [htext, hparse', Except.ok.injEq] at hparse
  rw [← hparse, htells', Option.some.injEq] at htells
  exact htells.symm

private theorem of_address {token : Token} (h : token.kind = .nep21) :
    (∀ amount,
      amm.incAllowance token amount = amm.changeCall (.incAllowance token.address amount)) ∧
    ∀ owner, amm.getAllowance token owner = amm.queryCall (.allowance token.address owner) ∧
      getBalance token owner = amm.queryCall (.balance token.address owner) := by
  have hcontract : contractOf token = .ok token.address := by
    simp only [contractOf, h]
  simp only [incAllowance, getAllowance, getBalance, changeCall, queryCall, hcontract,
    contractOf_ofContract, and_self, implies_true]

/-- Every proper change and every query has a call, two of them never the same call or the same
text, and the text of a call reads back as the call. -/
theorem calls_tell_intents (amm : Amm) :
    ({change : Change | change.IsProper}.InjOn amm.changeCall ∧
      {change : Change | change.IsProper}.InjOn amm.changeText ∧
      ∀ change : Change, change.IsProper → ∃ call, amm.changeCall change = .ok call ∧
        parseAs FunctionCall.ofWritten call.json.render = .ok call) ∧
    (amm.queryCall.Injective ∧ amm.queryText.Injective ∧
      ∀ query, ∃ call, amm.queryCall query = .ok call ∧
        parseAs ViewCall.ofWritten call.json.render = .ok call) ∧
    ∀ token : Token, token.kind = .nep21 →
      (∀ amount,
        amm.incAllowance token amount = amm.changeCall (.incAllowance token.address amount)) ∧
      ∀ owner, amm.getAllowance token owner = amm.queryCall (.allowance token.address owner) ∧
        getBalance token owner = amm.queryCall (.balance token.address owner) := by
  have hchange : ∀ change : Change, change.IsProper → ∃ call, amm.changeCall change = .ok call ∧
      parseAs FunctionCall.ofWritten call.json.render = .ok call ∧ call.change? = some change := by
    intro change h
    obtain ⟨call, hcall⟩ := exists_changeCall h
    exact ⟨call, hcall, call.parseAs_render (readableArgs_changeCall hcall),
      change?_changeCall hcall⟩
  have hquery : ∀ query, ∃ call, amm.queryCall query = .ok call ∧
      parseAs ViewCall.ofWritten call.json.render = .ok call ∧ call.query? = some query := by
    intro query
    obtain ⟨call, hcall⟩ := exists_queryCall query
    exact ⟨call, hcall, call.parseAs_render (readableArgs_queryCall hcall),
      query?_queryCall hcall⟩
  have hchangeText : {change : Change | change.IsProper}.InjOn amm.changeText := injOn_text hchange
  have hqueryText : amm.queryText.Injective :=
    Set.injOn_univ.mp (injOn_text fun query _ => hquery query)
  refine ⟨⟨?_, hchangeText, ?_⟩, ⟨?_, hqueryText, ?_⟩, fun _ => of_address⟩
  · exact fun a ha b hb hab => hchangeText ha hb (congrArg (Except.map _) hab)
  · intro change h
    obtain ⟨call, hcall, hparse, -⟩ := hchange change h
    exact ⟨call, hcall, hparse⟩
  · exact fun a b hab => hqueryText (congrArg (Except.map _) hab)
  · intro query
    obtain ⟨call, hcall, hparse, -⟩ := hquery query
    exact ⟨call, hcall, hparse⟩

/-- A sale for at least as much as is sold, with the roles of the amounts exchanged, has another
text, and a token may be approved under any symbol. -/
theorem calls_tell_intents_sale :
    let amm : Amm := ⟨"amm.testnet"⟩
    let dai : Token := ⟨"DAI", .nep21, "dai.testnet"⟩
    let sale : Change := .exactIn (.tokenToNear dai.address) ⟨1⟩ ⟨2⟩
    let reverse : Change := .exactIn (.tokenToNear dai.address) ⟨2⟩ ⟨1⟩
    let approval : Change := .incAllowance dai.address ⟨1⟩
    sale.IsProper ∧ reverse.IsProper ∧ amm.changeText sale ≠ amm.changeText reverse ∧
      approval.IsProper ∧ dai.kind = .nep21 ∧
      ∃ call, amm.incAllowance dai ⟨1⟩ = .ok call ∧
        parseAs FunctionCall.ofWritten call.json.render = .ok call := by
  intro amm dai sale reverse approval
  obtain ⟨⟨-, htext, hread⟩, -, htoken⟩ := calls_tell_intents amm
  have hne : amm.changeText sale ≠ amm.changeText reverse := by
    intro heq
    have h : sale = reverse := @htext sale trivial reverse trivial heq
    exact absurd h (by simp [sale, reverse])
  have happroval : approval.IsProper := Nat.one_pos
  obtain ⟨call, hcall, hparse⟩ := hread approval happroval
  exact ⟨trivial, trivial, hne, happroval, rfl, call, ((htoken dai rfl).1 ⟨1⟩).trans hcall, hparse⟩

end Amm

end SwapDesk
