import SwapDesk.Proofs.Session.Operation
import SwapDesk.Session.Script

/-!
# The account that is signed in

A session asks about no other account than the one that is signed in at the time. Without one it
answers what anyone may know, prices and pools, and refuses all else before it asks or sends
anything.
-/

namespace SwapDesk

variable {σ ω : Type}

/-- The accounts that a request names as owner or holder. -/
def Request.named : Request → List Json
  | .view call =>
    match call.args with
    | .object fields =>
      fields.filterMap fun field =>
        if field.1 = "owner_id" ∨ field.1 = "holder" then some field.2 else none
    | _ => []
  | .balance account => [.string account]
  | .submit _ => []

/-- Whether a request is about what an account has: allowances, balances and shares. -/
def Request.isPersonal : Request → Bool
  | .view call => call.method ∈ ["get_allowance", "get_balance", "balance_of"]
  | .balance _ => true
  | .submit _ => false

namespace Operation

/-- Whether an operation reads or spends for an account. -/
def isPersonal : Operation → Bool
  | quoteFromIn .. | quoteFromOut .. | listPools | poolInfo _ => false
  | needsApproval token _ => token.kind = .nep21
  | _ => true

/-- The views that an operation may ask for without an account. -/
def openMethods : Operation → List String
  | quoteFromIn .. =>
    ["price_near_to_token_in", "price_token_to_near_in", "price_token_to_token_in"]
  | quoteFromOut .. =>
    ["price_near_to_token_out", "price_token_to_near_out", "price_token_to_token_out"]
  | listPools => ["list_pools"]
  | poolInfo _ => ["pool_info"]
  | _ => []

variable {session : Session} {operation : Operation} {request : Request}

private theorem exists_of_built {contract : Except ClientError String} {build : String → ViewCall}
    {call : ViewCall} (h : (contract >>= fun address => pure (build address)) = .ok call) :
    ∃ address, call = build address := by
  cases contract with
  | error e => contradiction
  | ok address =>
    cases h
    exact ⟨address, rfl⟩

/-- What an operation reads names the account of the session if it is about an account, and no
account otherwise. -/
theorem Reads.named (h : operation.Reads session request) :
    (request.isPersonal → ∃ account, session.account = some account ∧
      request.named = [.string account]) ∧
    (request.isPersonal = false → request.named = []) := by
  induction h with
  | @priceSale _ _ route => cases route <;> exact ⟨nofun, fun _ => rfl⟩
  | @pricePurchase _ _ route => cases route <;> exact ⟨nofun, fun _ => rfl⟩
  | listPools => exact ⟨nofun, fun _ => rfl⟩
  | poolInfo => exact ⟨nofun, fun _ => rfl⟩
  | seekPool _ _ ih => exact ih
  | allowance account built =>
    obtain ⟨address, rfl⟩ := exists_of_built built
    exact ⟨fun _ => ⟨_, account, rfl⟩, nofun⟩
  | approval _ _ ih => exact ih
  | available account => exact ⟨fun _ => ⟨_, account, rfl⟩, nofun⟩
  | holding account built =>
    obtain ⟨address, rfl⟩ := exists_of_built built
    exact ⟨fun _ => ⟨_, account, rfl⟩, nofun⟩
  | shares account => exact ⟨fun _ => ⟨_, account, rfl⟩, nofun⟩
  | gas account => exact ⟨fun _ => ⟨_, account, rfl⟩, nofun⟩

theorem Reads.of_signedOut (h : operation.Reads session request) (hout : session.account = none) :
    ∃ call, request = .view call ∧ call.contract = session.amm.contract ∧
      call.method ∈ operation.openMethods := by
  induction h with
  | @priceSale _ _ route =>
    cases route <;> exact ⟨_, rfl, rfl, by simp [openMethods, Amm.priceIn, Amm.view]⟩
  | @pricePurchase _ _ route =>
    cases route <;> exact ⟨_, rfl, rfl, by simp [openMethods, Amm.priceOut, Amm.view]⟩
  | listPools => exact ⟨_, rfl, rfl, List.mem_singleton_self _⟩
  | poolInfo => exact ⟨_, rfl, rfl, List.mem_singleton_self _⟩
  | approval _ _ ih =>
    obtain ⟨_, _, _, hnone⟩ := ih
    cases hnone
  | seekPool account | allowance account | available account | holding account | shares account
  | gas account =>
    rw [hout] at account
    contradiction

theorem Sends.account {call : FunctionCall} (h : operation.Sends session call) :
    session.account.isSome := by
  induction h with
  | fillNew _ ih => exact ih
  | _ => assumption

private theorem refused_of_signedOut {α : Type} {answer : α → Answer}
    {next : String → Dialog α} (hout : session.account = none) :
    answer <$> (session.signedIn >>= next) = Dialog.fail .notSignedIn := by
  rw [Session.signedIn_bind, hout]
  rfl

theorem dialog_of_signedOut (hout : session.account = none) (hpersonal : operation.isPersonal) :
    operation.dialog session = .fail .notSignedIn := by
  cases operation with
  | quoteFromIn | quoteFromOut | listPools | poolInfo => contradiction
  | needsApproval token amount =>
    have hkind : token.kind = .nep21 := of_decide_eq_true hpersonal
    rw [dialog, Session.needsApproval, if_pos hkind, Session.allowance, Session.signedIn_bind, hout]
    rfl
  | swapFromIn | swapFromOut | createPool | addLiquidity | allowance | incAllowance | tokenBalance
  | sharesBalance | gasCheck => exact refused_of_signedOut hout

end Operation

namespace Turn

open Operation (Reads Sends)

/-- Whoever is signed in from turn to turn: what is asked about allowances, balances and shares
names the account of the turn, and nothing else that is asked names any account. In a turn without
an account no call goes to the wallet and only prices and pools are asked for, each by the
operation it is for, and an operation that reads or spends for an account is refused with nothing
asked. -/
theorem account_of_turn (amm : Amm) (chain : Chain σ) (wallet : Wallet ω) (turns : List Turn)
    (s : σ) (w : ω) {played : Turn × Outcome σ ω Answer}
    (h : played ∈ runAll chain wallet amm turns s w) :
    (∀ request ∈ played.2.queries,
      (request.isPersonal → ∃ account, played.1.account = some account ∧
        request.named = [.string account]) ∧
      (request.isPersonal = false → request.named = [])) ∧
    (played.1.account = none →
      (∀ call granted, .asked (.submit call) granted ∉ played.2.events) ∧
      (∀ request ∈ played.2.queries, ∃ call, request = .view call ∧
        call.contract = amm.contract ∧ call.method ∈ played.1.operation.openMethods) ∧
      (played.1.operation.isPersonal →
        played.2.result = .error .notSignedIn ∧ played.2.events = [])) := by
  have hreads : ∀ request ∈ played.2.queries,
      played.1.operation.Reads ⟨amm, played.1.account⟩ request :=
    fun request hrequest => reads_of_mem_runAll h hrequest
  refine ⟨fun request hrequest => (hreads request hrequest).named, fun hout => ⟨?_, ?_, ?_⟩⟩
  · intro call granted hevent
    have hsends : played.1.operation.Sends ⟨amm, played.1.account⟩ call :=
      makes_of_mem_runAll h hevent
    have haccount := hsends.account
    rw [hout] at haccount
    contradiction
  · intro request hrequest
    exact (hreads request hrequest).of_signedOut hout
  · intro hpersonal
    obtain ⟨s', w', hrun⟩ := exists_of_mem_runAll h
    rw [hrun, Turn.run, Operation.dialog_of_signedOut hout hpersonal]
    exact ⟨rfl, rfl⟩

/-- One user asks for an allowance, another for shares, and then nobody is signed in. -/
theorem account_of_turn_changing :
    let dai : Token := ⟨"DAI", .nep21, "dai.testnet"⟩
    let first : Turn := ⟨some "alice.testnet", .allowance dai⟩
    let second : Turn := ⟨some "bob.testnet", .sharesBalance dai⟩
    let third : Turn := ⟨none, .tokenBalance dai⟩
    let wallet := Script.wallet none
    let played := runAll Script.chain wallet ⟨"amm.testnet"⟩ [first, second, third] [] none
    played.map Prod.fst = [first, second, third] ∧
      (∃ p ∈ played, p.1 = second ∧ ∃ request ∈ p.2.queries, request.isPersonal ∧
        request.named = [.string "bob.testnet"]) ∧
      ∃ p ∈ played, p.1 = third ∧ p.2.result = .error .notSignedIn ∧ p.2.events = [] := by
  intro dai first second third wallet played
  have hsecond := account_of_turn ⟨"amm.testnet"⟩ Script.chain wallet
    [first, second, third] [] none (List.mem_cons_of_mem _ List.mem_cons_self)
  have hthird := account_of_turn ⟨"amm.testnet"⟩ Script.chain wallet
    [first, second, third] [] none
    (List.mem_cons_of_mem _ (List.mem_cons_of_mem _ List.mem_cons_self))
  refine ⟨rfl, ⟨_, List.mem_cons_of_mem _ List.mem_cons_self, rfl, _,
    List.mem_singleton_self _, rfl, ?_⟩, _,
    List.mem_cons_of_mem _ (List.mem_cons_of_mem _ List.mem_cons_self), rfl,
    (hthird.2 rfl).2.2 rfl⟩
  obtain ⟨account, haccount, hnamed⟩ := (hsecond.1 _ (List.mem_singleton_self _)).1 rfl
  cases haccount
  exact hnamed

end Turn

end SwapDesk
