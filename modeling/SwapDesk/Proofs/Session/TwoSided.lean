import SwapDesk.Program.Dialog
import SwapDesk.Proofs.Session.Accepted
import SwapDesk.Proofs.Session.Permitted
import SwapDesk.Session.DryRun

/-!
# Swaps with two sides

What a swap pays and what it receives, read from the call: the method tells which argument, or
the deposit, is which. Sales have more than nothing on both sides. A purchase takes the limit it
is given, and a limit of nothing is the only way to a swap that pays nothing.
-/

namespace SwapDesk

variable {σ ω : Type}

namespace FunctionCall

/-- The methods that swap, with the arguments that say what is paid and what is received. NEAR is
paid as the deposit. -/
def swapSides : List (String × Option String × String) := [
  ("swap_near_to_token_exact_in", none, "min_tokens"),
  ("swap_token_to_near_exact_in", some "tokens_paid", "min_ynear"),
  ("swap_tokens_exact_in", some "tokens_in", "min_tokens_out"),
  ("swap_near_to_token_exact_out", none, "tokens_out"),
  ("swap_token_to_near_exact_out", some "max_tokens", "ynear_out"),
  ("swap_tokens_exact_out", some "max_tokens_in", "tokens_out")]

def argument? (call : FunctionCall) (name : String) : Option Amount :=
  match call.args.get? name with
  | some (.string s) => some ⟨Decimal.value s.toList⟩
  | _ => none

/-- What a swap pays, exactly or at most, and what it receives, exactly or at least. -/
def sides? (call : FunctionCall) : Option (Amount × Amount) := do
  let (paid, received) ← swapSides.lookup call.method
  return (← paid.elim (some call.deposit) call.argument?, ← call.argument? received)

/-- If the call is a swap, it pays and receives more than nothing. -/
def TwoSided (call : FunctionCall) : Prop :=
  (swapSides.lookup call.method).isSome →
    ∃ paid received, call.sides? = some (paid, received) ∧ 0 < paid.units ∧ 0 < received.units

private theorem twoSided_iff {call : FunctionCall} {paid received : Amount}
    (h : call.sides? = some (paid, received)) :
    call.TwoSided ↔ 0 < paid.units ∧ 0 < received.units := by
  have hswap : (swapSides.lookup call.method).isSome := by
    rw [sides?] at h
    cases hsides : swapSides.lookup call.method with
    | none =>
      rw [hsides] at h
      contradiction
    | some sides => rfl
  constructor
  · intro htwo
    obtain ⟨p, r, hpr, hpos⟩ := htwo hswap
    rw [h] at hpr
    cases hpr
    exact hpos
  · exact fun hpos _ => ⟨paid, received, h, hpos⟩

private theorem twoSided_of_no_swap {call : FunctionCall}
    (h : swapSides.lookup call.method = none) :
    call.TwoSided := by
  intro hswap
  rw [h] at hswap
  contradiction

end FunctionCall

namespace Amm

variable (amm : Amm) (route : Route)

private theorem value_text (a : Amount) : (⟨Decimal.value a.text.toList⟩ : Amount) = a := by
  rw [Amount.text, String.toList_ofList, Amount.digits, Decimal.value_digits]

private theorem sides?_swapExactIn (sold least : Amount) :
    (amm.swapExactIn route sold least).sides? = some (sold, least) := by
  cases route with
  | nearToToken token =>
    change some (sold, (⟨Decimal.value least.text.toList⟩ : Amount)) = _
    rw [value_text]
  | _ =>
    change some ((⟨Decimal.value sold.text.toList⟩ : Amount),
      (⟨Decimal.value least.text.toList⟩ : Amount)) = _
    rw [value_text, value_text]

private theorem sides?_swapExactOut (bought most : Amount) :
    (amm.swapExactOut route bought most).sides? = some (most, bought) := by
  cases route with
  | nearToToken token =>
    change some (most, (⟨Decimal.value bought.text.toList⟩ : Amount)) = _
    rw [value_text]
  | _ =>
    change some ((⟨Decimal.value most.text.toList⟩ : Amount),
      (⟨Decimal.value bought.text.toList⟩ : Amount)) = _
    rw [value_text, value_text]

end Amm

/-! ## Operations -/

namespace Operation

/-- The operation buys for at most nothing. -/
def buysUnpaid : Operation → Bool
  | swapFromOut _ _ most _ => most.isZero
  | _ => false

theorem Sends.twoSided_iff {session : Session} {operation : Operation} {call : FunctionCall}
    (h : operation.Sends session call) : call.TwoSided ↔ operation.buysUnpaid = false := by
  cases h with
  | sell _ _ _ _ nonzero positive =>
    rw [FunctionCall.twoSided_iff (session.amm.sides?_swapExactIn _ _ _)]
    have hsold := Amount.isZero_eq_false_iff.mp nonzero
    have hbound := Amount.isZero_eq_false_iff.mp positive
    exact ⟨fun _ => rfl, fun _ => ⟨hsold, hbound⟩⟩
  | buy _ _ _ nonzero =>
    rw [FunctionCall.twoSided_iff (session.amm.sides?_swapExactOut _ _ _), buysUnpaid,
      Amount.isZero_eq_false_iff]
    have hbought := Amount.isZero_eq_false_iff.mp nonzero
    exact ⟨And.left, fun hmost => ⟨hmost, hbought⟩⟩
  | fill => exact ⟨fun _ => rfl, fun _ => FunctionCall.twoSided_of_no_swap rfl⟩
  | approve _ _ built =>
    have hmethod := (session.amm.incAllowance_approves built).2.2.method
    refine ⟨fun _ => rfl, fun _ => FunctionCall.twoSided_of_no_swap ?_⟩
    rw [hmethod]
    rfl
  | openPool => exact ⟨fun _ => rfl, fun _ => FunctionCall.twoSided_of_no_swap rfl⟩
  | fillNew filled =>
    cases filled
    exact ⟨fun _ => rfl, fun _ => FunctionCall.twoSided_of_no_swap rfl⟩

private theorem role_of_buysUnpaid {operation : Operation} (h : operation.buysUnpaid) :
    operation.role = .order := by
  cases operation with
  | swapFromOut => rfl
  | _ => contradiction

end Operation

namespace Turn

private theorem twoSided_runAll_iff (amm : Amm) (chain : Chain σ) (wallet : Wallet ω)
    (turns : List Turn) (s : σ) (w : ω) :
    (∀ p ∈ runAll chain wallet amm turns s w, ∀ call ∈ p.2.submitted, call.TwoSided) ↔
      ∀ p ∈ runAll chain wallet amm turns s w, p.1.operation.buysUnpaid →
        ∃ e, p.2.result = .error e := by
  constructor
  · intro htwo p hp hunpaid
    rw [← submitted_eq_nil_iff hp (Operation.role_of_buysUnpaid hunpaid),
      List.eq_nil_iff_forall_not_mem]
    intro call hcall
    rw [(sends_of_mem_runAll hp hcall).twoSided_iff.mp (htwo p hp call hcall)] at hunpaid
    contradiction
  · intro hrefused p hp call hcall
    rw [(sends_of_mem_runAll hp hcall).twoSided_iff, ← Bool.not_eq_true]
    intro hunpaid
    have hrole := Operation.role_of_buysUnpaid hunpaid
    rw [(submitted_eq_nil_iff hp hrole).mpr (hrefused p hp hunpaid)] at hcall
    contradiction

end Turn

/-! ## Commands -/

namespace Program

open Session
open Operation (sends_of_reads)

variable (session : Session)

/-- The most that a purchase pays: the limit that is given, or else the price. -/
def swapLimit (source target : Token) (amount : String) : Option String → Dialog Amount
  | some text => liftM ((Amount.ofText text).mapError ClientError.amount)
  | none => session.quoteFromOut source target amount

def swapWithin (source target : Token) (amount : String) (limit : Amount) :
    Dialog FunctionCall := do
  if ← session.needsApproval source limit then Dialog.say (.approveFirst source.symbol)
  session.swapFromOut source target limit amount

theorem swapOut_eq (source target : Token) (amount : String) (most : Option String) :
    swapOut session source target amount most =
      swapLimit session source target amount most >>= swapWithin session source target amount := by
  cases most <;> rfl

private theorem reads_swapLimit {allowed : FunctionCall → Prop} (source target : Token)
    (amount : String) (most : Option String) :
    (swapLimit session source target amount most).Asks (Request.Sends allowed) := by
  cases most with
  | some text => exact Dialog.asks_lift _
  | none => exact sends_of_reads (reads_quoteFromOut ..) _

private theorem swapWithin_allOrNothing (source target : Token) (amount : String) (limit : Amount)
    (chain : Chain σ) (wallet : Wallet ω) (s : σ) (w : ω) :
    ((swapWithin session source target amount limit).run chain wallet s w).AllOrNothing
      (Operation.Sends session (.swapFromOut source target limit amount)) := by
  have hswap := sendsOne_swapFromOut session source target limit amount
  apply allOrNothing_bind (sends_of_reads (reads_needsApproval ..) _)
  intro short s' w' _
  cases short with
  | false => exact (hswap.run chain wallet s' w').1
  | true =>
    have hsay : (Dialog.say (.approveFirst source.symbol)).Asks (Request.Sends fun _ => False) :=
      trivial
    apply allOrNothing_bind hsay
    intro _ s'' w'' _
    exact (hswap.run chain wallet s'' w'').1

theorem swapOut_allOrNothing (source target : Token) (amount : String) (most : Option String)
    (chain : Chain σ) (wallet : Wallet ω) (s : σ) (w : ω) :
    ((swapOut session source target amount most).run chain wallet s w).AllOrNothing fun call =>
      ∃ limit,
        ((swapLimit session source target amount most).run chain wallet s w).result = .ok limit ∧
        Operation.Sends session (.swapFromOut source target limit amount) call := by
  rw [swapOut_eq]
  apply allOrNothing_bind (reads_swapLimit ..)
  intro limit s' w' hlimit
  have hends := swapWithin_allOrNothing session source target amount limit chain wallet s' w'
  exact hends.mono fun call hcall => ⟨limit, hlimit, hcall⟩

def buys : Command → Bool
  | .swapOut .. => true
  | _ => false

/-- The command buys, and the limit that is found for it is nothing. -/
def BuysUnpaid (chain : Chain σ) (wallet : Wallet ω) (s : σ) (w : ω) : Command → Prop
  | .swapOut source target amount most =>
    ((swapLimit session (.ofName source) (.ofName target) amount most).run
      chain wallet s w).result = .ok .zero
  | _ => False

private theorem asks_printLines {allowed : Request → Prop} (lines : List String) :
    (printLines lines).Asks allowed := by
  induction lines with
  | nil => trivial
  | cons text rest ih => exact ih

private theorem asks_showPool {allowed : Request → Prop} (token : String) (pool : Option Pool) :
    (showPool token pool).Asks allowed := by
  cases pool <;> trivial

private theorem asks_dialog {command : Command} (h : buys command = false) :
    (dialog session command).Asks (Request.Sends FunctionCall.TwoSided) := by
  cases command with
  | toYocto => trivial
  | toHuman => trivial
  | pools =>
    apply (sends_of_reads reads_listPools _).bind
    exact fun names => (asks_printLines names).bind fun _ => trivial
  | poolInfo token =>
    apply (sends_of_reads (reads_poolInfo token) _).bind
    exact fun pool => (asks_showPool token pool).bind fun _ => trivial
  | quoteIn => exact (sends_of_reads (reads_quoteFromIn ..) _).bind fun _ => trivial
  | quoteOut => exact (sends_of_reads (reads_quoteFromOut ..) _).bind fun _ => trivial
  | allowance => exact (sends_of_reads (reads_allowance _) _).bind fun _ => trivial
  | balance => exact (sends_of_reads (reads_tokenBalance _) _).bind fun _ => trivial
  | gasCheck =>
    apply (sends_of_reads reads_gasCheck _).bind
    intro enough
    cases enough <;> trivial
  | swapIn source target amount least =>
    have hsale := sendsOne_swapFromIn session (.ofName source) (.ofName target) amount least
    exact (hsale.asks fun _ hcall => hcall.twoSided_iff.mpr rfl).bind fun _ => trivial
  | swapOut => contradiction
  | approve token amount =>
    have hraise := sendsOne_incAllowance session (.ofName token) amount
    exact (hraise.asks fun _ hcall => hcall.twoSided_iff.mpr rfl).bind fun _ => trivial

private theorem dialog_swapOut (source target amount : String) (most : Option String) :
    dialog session (.swapOut source target amount most) =
      (fun _ => .fine) <$> swapOut session (.ofName source) (.ofName target) amount most := rfl

theorem twoSided_dialog_iff (command : Command) (chain : Chain σ) (wallet : Wallet ω) (s : σ)
    (w : ω) :
    (∀ call ∈ ((dialog session command).run chain wallet s w).submitted, call.TwoSided) ↔
      (BuysUnpaid session chain wallet s w command →
        ∃ e, ((dialog session command).run chain wallet s w).result = .error e) := by
  cases command with
  | swapOut source target amount most =>
    rw [dialog_swapOut, Dialog.run_map, BuysUnpaid]
    have hends := swapOut_allOrNothing session (.ofName source) (.ofName target) amount most chain
      wallet s w
    generalize (swapOut session (.ofName source) (.ofName target) amount most).run
      chain wallet s w = bought at hends ⊢
    obtain ⟨call, ⟨limit, hlimit, hcall⟩, hresult, hsubmitted⟩ | ⟨e, hresult, hsubmitted⟩ := hends
    · change (∀ call ∈ bought.submitted, call.TwoSided) ↔
        (_ → ∃ e, bought.result.map (fun _ => Verdict.fine) = .error e)
      rw [hsubmitted, hresult, hlimit, List.forall_mem_singleton, hcall.twoSided_iff,
        Operation.buysUnpaid]
      constructor
      · intro hpos hzero
        cases hzero
        contradiction
      · intro hrefused
        rw [← Bool.not_eq_true]
        intro hzero
        obtain ⟨e, he⟩ := hrefused (by rw [Amount.isZero_iff.mp hzero])
        contradiction
    · change (∀ call ∈ bought.submitted, call.TwoSided) ↔
        (_ → ∃ e, bought.result.map (fun _ => Verdict.fine) = .error e)
      rw [hsubmitted, hresult]
      exact ⟨fun _ _ => ⟨e, rfl⟩, fun _ => List.forall_mem_nil _⟩
  | _ =>
    refine ⟨fun _ hfalse => hfalse.elim, fun _ call hcall => ?_⟩
    exact Dialog.submitted_of_asks (asks_dialog session rfl) hcall

end Program

/-! ## Purchases for nothing -/

namespace Session

theorem swapFromOut_eq_send {session : Session} {source target : Token} {route : Route}
    {amount : String} {bought : Amount} (haccount : session.account.isSome)
    (hroute : Route.between source target = .ok route)
    (hbought : Amount.ofHuman amount = .ok bought) (hpos : bought.isZero = false) (most : Amount) :
    session.swapFromOut source target most amount =
      send (session.amm.swapExactOut route bought most) := by
  obtain ⟨account, haccount⟩ := Option.isSome_iff_exists.mp haccount
  rw [swapFromOut, signedIn_bind, haccount]
  dsimp only
  rw [Dialog.lift_bind, hroute]
  dsimp only
  rw [typed_bind, hbought]
  dsimp only
  rw [if_neg (Bool.eq_false_iff.mp hpos)]

/-- When all accepted swaps have two sides. In a run of operations they have exactly if each
purchase for at most nothing fails, and in a command exactly if it fails when the limit that it is
given, or else the price, is nothing. Such a purchase fails only for what any purchase fails for:
with an account, a route, an amount and a wallet that accepts, it is sent. -/
theorem twoSided_exactly (amm : Amm) (chain : Chain σ) (wallet : Wallet ω) :
    (∀ (turns : List Turn) (s : σ) (w : ω),
      let played := Turn.runAll chain wallet amm turns s w
      (∀ p ∈ played, ∀ call ∈ p.2.submitted, call.TwoSided) ↔
        ∀ p ∈ played, p.1.operation.buysUnpaid → ∃ e, p.2.result = .error e) ∧
    (∀ (account : Option String) (command : Command) (s : σ) (w : ω),
      let session : Session := ⟨amm, account⟩
      let outcome := (Program.dialog session command).run chain wallet s w
      (∀ call ∈ outcome.submitted, call.TwoSided) ↔
        (Program.BuysUnpaid session chain wallet s w command →
          ∃ e, outcome.result = .error e)) ∧
    ∀ (account source target amount route bought) (s : σ) (w : ω), account.isSome →
      Route.between source target = .ok route → Amount.ofHuman amount = .ok bought →
      bought.isZero = false →
      (wallet.submit (amm.swapExactOut route bought .zero) w).1 = .ok () →
      ((Session.swapFromOut ⟨amm, account⟩ source target .zero amount).run
        chain wallet s w).submitted = [amm.swapExactOut route bought .zero] := by
  refine ⟨?_, ?_, ?_⟩
  · exact Turn.twoSided_runAll_iff amm chain wallet
  · intro account command s w
    exact Program.twoSided_dialog_iff ⟨amm, account⟩ command chain wallet s w
  · intro account source target amount route bought s w haccount hroute hbought hpos haccepts
    rw [swapFromOut_eq_send haccount hroute hbought hpos]
    rcases hsubmit : wallet.submit (amm.swapExactOut route bought .zero) w with ⟨answer, w'⟩
    rw [hsubmit] at haccepts
    cases haccepts
    rw [run_send chain wallet hsubmit]
    rfl

/-- A token is bought for at most nothing, in a session and on the command line. -/
theorem twoSided_fails :
    (∃ p ∈ Turn.runAll Script.chain (Script.wallet (some "alice.testnet")) ⟨"amm.testnet"⟩
        [⟨some "alice.testnet",
          .swapFromOut .near ⟨"DAI", .nep21, "dai.testnet"⟩ .zero "1"⟩] [] none,
      ∃ call ∈ p.2.submitted, ¬ call.TwoSided) ∧
    ∃ call ∈ ((Program.dialog ⟨⟨"amm.testnet"⟩, some "alice.testnet"⟩
        (.swapOut "near" "dai.testnet" "1" (some "0"))).run
          Script.chain (DryRun.wallet (some "alice.testnet")) [] []).submitted,
      ¬ call.TwoSided := by
  have hcall : ¬ (Amm.swapExactOut ⟨"amm.testnet"⟩ (.nearToToken "dai.testnet") ⟨10 ^ 24⟩
      .zero).TwoSided := by
    rw [FunctionCall.twoSided_iff (Amm.sides?_swapExactOut ..)]
    exact fun h => absurd h.1 (by decide)
  exact ⟨⟨_, List.mem_singleton_self _, _, List.mem_singleton_self _, hcall⟩,
    _, List.mem_singleton_self _, hcall⟩

end Session

end SwapDesk