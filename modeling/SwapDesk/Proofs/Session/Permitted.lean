import SwapDesk.Proofs.Amount.Scale
import SwapDesk.Proofs.Session.Operation
import SwapDesk.Session.Script

/-!
# Permitted calls

What may reach the wallet, said without the builders of the calls: the contract, the method, each
argument, the gas and the deposit, for each operation. NEAR that is sold is the deposit and no
argument, and any other sold amount is an argument and not the deposit.
-/

namespace SwapDesk

variable {σ ω : Type}

/-- What an argument of a call stands for. -/
inductive Argument
  | account (name : String)
  | amount (amount : Amount)

/-- An amount is a string of its decimal digits, without needless zeros. -/
def Argument.Is : Argument → Json → Prop
  | account name, value => value = .string name
  | amount a, value => ∃ digits, value = .string (String.ofList digits) ∧
      Decimal.IsCanonical digits ∧ Decimal.value digits = a.units

def Argument.json : Argument → Json
  | account name => .string name
  | amount a => a.json

theorem Argument.is_json (arg : Argument) : arg.Is arg.json := by
  cases arg with
  | account name => rfl
  | amount a =>
    exact ⟨a.digits, rfl, Decimal.isCanonical_digits a.units, Decimal.value_digits a.units⟩

namespace FunctionCall

/-- The call has these arguments and no others. -/
def HasArgs (call : FunctionCall) (args : List (String × Argument)) : Prop :=
  ∃ fields, call.args = .object fields ∧
    List.Forall₂ (fun arg field => field.1 = arg.1 ∧ arg.2.Is field.2) args fields

/-- The call is of this method with these arguments and this deposit. -/
structure Invokes (call : FunctionCall) (contract method : String)
    (args : List (String × Argument)) (deposit : Nat) : Prop where
  contract : call.contract = contract
  method : call.method = method
  args : call.HasArgs args
  gas : call.gas = 300000000000000
  deposit : call.deposit.units = deposit

/-- The call is of a method of the market maker that changes the chain. -/
def Trades (call : FunctionCall) (amm : Amm) (method : String) (args : List (String × Argument))
    (deposit : Nat) : Prop :=
  method ∈ Amm.changeMethods ∧ call.Invokes amm.contract method args deposit

def Sells (call : FunctionCall) (amm : Amm) (source target : Token) (sold least : Amount) :
    Prop :=
  match source.kind, target.kind with
  | .native, .nep21 =>
    call.Trades amm "swap_near_to_token_exact_in"
      [("min_tokens", .amount least), ("token", .account target.address)] sold.units
  | .nep21, .native =>
    call.Trades amm "swap_token_to_near_exact_in"
      [("min_ynear", .amount least), ("token", .account source.address),
        ("tokens_paid", .amount sold)] (6 * 10 ^ 22)
  | .nep21, .nep21 =>
    call.Trades amm "swap_tokens_exact_in"
      [("from", .account source.address), ("min_tokens_out", .amount least),
        ("to", .account target.address), ("tokens_in", .amount sold)] (6 * 10 ^ 22)
  | _, _ => False

def Buys (call : FunctionCall) (amm : Amm) (source target : Token) (bought most : Amount) :
    Prop :=
  match source.kind, target.kind with
  | .native, .nep21 =>
    call.Trades amm "swap_near_to_token_exact_out"
      [("token", .account target.address), ("tokens_out", .amount bought)] most.units
  | .nep21, .native =>
    call.Trades amm "swap_token_to_near_exact_out"
      [("max_tokens", .amount most), ("token", .account source.address),
        ("ynear_out", .amount bought)] (6 * 10 ^ 22)
  | .nep21, .nep21 =>
    call.Trades amm "swap_tokens_exact_out"
      [("from", .account source.address), ("max_tokens_in", .amount most),
        ("to", .account target.address), ("tokens_out", .amount bought)] (6 * 10 ^ 22)
  | _, _ => False

def Opens (call : FunctionCall) (amm : Amm) (token : Token) : Prop :=
  call.Trades amm "create_pool" [("token", .account token.address)] (6 * 10 ^ 22)

def Fills (call : FunctionCall) (amm : Amm) (token : Token) (near mostTokens leastShares : Amount) :
    Prop :=
  call.Trades amm "add_liquidity"
    [("max_tokens", .amount mostTokens), ("min_shares", .amount leastShares),
      ("token", .account token.address), ("ynear", .amount near)] (6 * 10 ^ 22)

/-- The call lets the market maker move more than nothing of a token with a contract. -/
def Approves (call : FunctionCall) (amm : Amm) (token : Token) (amount : Amount) : Prop :=
  token.kind = .nep21 ∧ 0 < amount.units ∧
    call.Invokes token.address "inc_allowance"
      [("amount", .amount amount), ("escrow_account_id", .account amm.contract)] (4 * 10 ^ 22)

theorem hasArgs_of_json {call : FunctionCall} {args : List (String × Argument)}
    (h : call.args = .object (args.map fun arg => (arg.1, arg.2.json))) : call.HasArgs args := by
  refine ⟨_, h, List.forall₂_map_right_iff.mpr (List.forall₂_same.mpr ?_)⟩
  intro arg _
  exact ⟨rfl, arg.2.is_json⟩

end FunctionCall

/-! ## Calls as they are built -/

theorem Route.between_cases {source target : Token} {route : Route}
    (h : between source target = .ok route) :
    (source.kind = .native ∧ target.kind = .nep21 ∧ route = nearToToken target.address) ∨
    (source.kind = .nep21 ∧ target.kind = .native ∧ route = tokenToNear source.address) ∨
    (source.kind = .nep21 ∧ target.kind = .nep21 ∧
      route = tokenToToken source.address target.address) := by
  rw [between] at h
  split at h <;> cases h
  · next hs ht => exact .inl ⟨hs, ht, rfl⟩
  · next hs ht => exact .inr (.inl ⟨hs, ht, rfl⟩)
  · next hs ht => exact .inr (.inr ⟨hs, ht, rfl⟩)

namespace Amm

variable (amm : Amm) {source target token : Token} {route : Route}

private theorem change_trades {method : String} {args : List (String × Argument)}
    {fields : List (String × Json)} {deposit : Amount} (h : method ∈ changeMethods)
    (hfields : fields = args.map fun arg => (arg.1, arg.2.json)) :
    (amm.change method fields deposit).Trades amm method args deposit.units :=
  ⟨h, rfl, rfl, FunctionCall.hasArgs_of_json (congrArg Json.object hfields), rfl, rfl⟩

theorem swapExactIn_sells (h : Route.between source target = .ok route) (sold least : Amount) :
    (amm.swapExactIn route sold least).Sells amm source target sold least := by
  obtain ⟨hs, ht, rfl⟩ | ⟨hs, ht, rfl⟩ | ⟨hs, ht, rfl⟩ := Route.between_cases h
  · rw [FunctionCall.Sells, hs, ht]
    exact change_trades amm (by decide) rfl
  · rw [FunctionCall.Sells, hs, ht]
    exact change_trades amm (by decide) rfl
  · rw [FunctionCall.Sells, hs, ht]
    exact change_trades amm (by decide) rfl

theorem swapExactOut_buys (h : Route.between source target = .ok route) (bought most : Amount) :
    (amm.swapExactOut route bought most).Buys amm source target bought most := by
  obtain ⟨hs, ht, rfl⟩ | ⟨hs, ht, rfl⟩ | ⟨hs, ht, rfl⟩ := Route.between_cases h
  · rw [FunctionCall.Buys, hs, ht]
    exact change_trades amm (by decide) rfl
  · rw [FunctionCall.Buys, hs, ht]
    exact change_trades amm (by decide) rfl
  · rw [FunctionCall.Buys, hs, ht]
    exact change_trades amm (by decide) rfl

theorem createPool_opens (token : Token) : (amm.createPool token.address).Opens amm token :=
  change_trades amm (by decide) rfl

theorem addLiquidity_fills (token : Token) (near mostTokens leastShares : Amount) :
    (amm.addLiquidity token.address near mostTokens leastShares).Fills amm token near mostTokens
      leastShares :=
  change_trades amm (by decide) rfl

theorem incAllowance_approves {amount : Amount} {call : FunctionCall}
    (h : amm.incAllowance token amount = .ok call) : call.Approves amm token amount := by
  rw [incAllowance, contractOf] at h
  cases hkind : token.kind with
  | native =>
    rw [hkind] at h
    contradiction
  | erc20 =>
    rw [hkind] at h
    contradiction
  | nep21 =>
    rw [hkind] at h
    cases hzero : amount.isZero with
    | true =>
      rw [hzero] at h
      contradiction
    | false =>
      rw [hzero] at h
      cases h
      have hpos := Amount.isZero_eq_false_iff.mp hzero
      exact ⟨hkind, hpos, rfl, rfl, FunctionCall.hasArgs_of_json rfl, rfl, rfl⟩

end Amm

/-! ## Runs -/

/-- What a call that the wallet accepts may be, for each operation. The amounts are those that the
texts write. -/
def Operation.Permits (amm : Amm) (call : FunctionCall) : Operation → Prop
  | swapFromIn source target amount least => ∃ sold bound,
    Amount.Writes amount sold ∧ Amount.Writes least bound ∧ call.Sells amm source target sold bound
  | swapFromOut source target most amount => ∃ bought,
    Amount.Writes amount bought ∧ call.Buys amm source target bought most
  | createPool token near mostTokens leastShares =>
    call.Opens amm token ∨ ∃ a b c, Amount.Writes near a ∧ Amount.Writes mostTokens b ∧
      Amount.Writes leastShares c ∧ call.Fills amm token a b c
  | addLiquidity token near mostTokens leastShares => ∃ a b c, Amount.Writes near a ∧
    Amount.Writes mostTokens b ∧ Amount.Writes leastShares c ∧ call.Fills amm token a b c
  | incAllowance token amount => ∃ raise,
    Amount.Writes amount raise ∧ call.Approves amm token raise
  | _ => False

theorem Operation.Sends.permitted {session : Session} {operation : Operation} {call : FunctionCall}
    (h : operation.Sends session call) : operation.Permits session.amm call := by
  induction h with
  | sell _ served sale limit =>
    exact ⟨_, _, Amount.ofHuman_eq_ok_iff.mp sale, Amount.ofHuman_eq_ok_iff.mp limit,
      session.amm.swapExactIn_sells served _ _⟩
  | buy _ served purchase =>
    exact ⟨_, Amount.ofHuman_eq_ok_iff.mp purchase, session.amm.swapExactOut_buys served _ _⟩
  | fill _ first second third =>
    exact ⟨_, _, _, Amount.ofHuman_eq_ok_iff.mp first, Amount.ofHuman_eq_ok_iff.mp second,
      Amount.ofHuman_eq_ok_iff.mp third, session.amm.addLiquidity_fills _ _ _ _⟩
  | approve _ increase built =>
    exact ⟨_, Amount.ofHuman_eq_ok_iff.mp increase, session.amm.incAllowance_approves built⟩
  | openPool => exact .inl (session.amm.createPool_opens _)
  | fillNew _ ih => exact .inr ih

namespace Turn

/-- Each call that the wallet accepts in a run is permitted to the operation that sends it,
whatever the chain answers, whoever is signed in and whenever the wallet refuses. -/
theorem accepted_permitted (amm : Amm) (chain : Chain σ) (wallet : Wallet ω) (turns : List Turn)
    (s : σ) (w : ω) :
    ∀ played ∈ runAll chain wallet amm turns s w, ∀ call ∈ played.2.submitted,
      played.1.operation.Permits amm call :=
  fun _ hplayed _ hcall => (sends_of_mem_runAll hplayed hcall).permitted

/-- A sale of one NEAR, once somebody is signed in. -/
theorem accepted_permitted_sale :
    let amm : Amm := ⟨"amm.testnet"⟩
    let sale : Operation := .swapFromIn .near ⟨"DAI", .nep21, "dai.testnet"⟩ "1" "2"
    let bob : Turn := ⟨some "bob.testnet", sale⟩
    let wallet := Script.wallet bob.account
    let outcome := bob.run Script.chain wallet amm [] none
    let call := amm.swapExactIn (.nearToToken "dai.testnet") ⟨10 ^ 24⟩ ⟨2 * 10 ^ 24⟩
    (bob, outcome) ∈ runAll Script.chain wallet amm [⟨none, sale⟩, bob] [] none ∧
      call ∈ outcome.submitted ∧ sale.Permits amm call := by
  intro amm sale bob wallet outcome call
  have hplayed : (bob, outcome) ∈ runAll Script.chain wallet amm [⟨none, sale⟩, bob] [] none :=
    List.mem_cons_of_mem _ (List.mem_singleton.mpr rfl)
  have hcall : call ∈ outcome.submitted := List.mem_singleton.mpr rfl
  exact ⟨hplayed, hcall, accepted_permitted _ _ _ _ _ _ _ hplayed _ hcall⟩

end Turn

end SwapDesk
