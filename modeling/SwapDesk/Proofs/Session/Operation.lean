import SwapDesk.Proofs.Session.Requests

/-!
# Operations

The operations of a session as data, what each of them may ask of the chain and send to the wallet,
and runs of operations one after the other. The account may change between the operations of a run.
-/

namespace SwapDesk

variable {σ ω : Type}

inductive Operation
  | quoteFromIn (source target : Token) (amount : String)
  | quoteFromOut (source target : Token) (amount : String)
  | swapFromIn (source target : Token) (amount least : String)
  | swapFromOut (source target : Token) (most : Amount) (amount : String)
  | listPools
  | poolInfo (token : String)
  | createPool (token : Token) (near mostTokens leastShares : String)
  | addLiquidity (token : Token) (near mostTokens leastShares : String)
  | allowance (token : Token)
  | needsApproval (token : Token) (amount : Amount)
  | incAllowance (token : Token) (amount : String)
  | tokenBalance (token : Token)
  | sharesBalance (token : Token)
  | gasCheck

inductive Answer
  | amount (amount : Amount)
  | flag (flag : Bool)
  | call (call : FunctionCall)
  | names (names : List String)
  | pool (pool : Option Pool)

/-- An operation reads the chain, sends one call, or creates a pool, which takes two calls. -/
inductive Role
  | query
  | order
  | creation
deriving DecidableEq

namespace Operation

def role : Operation → Role
  | swapFromIn .. | swapFromOut .. | addLiquidity .. | incAllowance .. => .order
  | createPool .. => .creation
  | _ => .query

def dialog (session : Session) : Operation → Dialog Answer
  | quoteFromIn source target amount => .amount <$> session.quoteFromIn source target amount
  | quoteFromOut source target amount => .amount <$> session.quoteFromOut source target amount
  | swapFromIn source target amount least =>
    .call <$> session.swapFromIn source target amount least
  | swapFromOut source target most amount =>
    .call <$> session.swapFromOut source target most amount
  | listPools => .names <$> session.listPools
  | poolInfo token => .pool <$> session.poolInfo token
  | createPool token near mostTokens leastShares =>
    .flag <$> session.createPool token near mostTokens leastShares
  | addLiquidity token near mostTokens leastShares =>
    .call <$> session.addLiquidity token near mostTokens leastShares
  | allowance token => .amount <$> session.allowance token
  | needsApproval token amount => .flag <$> session.needsApproval token amount
  | incAllowance token amount => .call <$> session.incAllowance token amount
  | tokenBalance token => .amount <$> session.tokenBalance token
  | sharesBalance token => .amount <$> session.sharesBalance token
  | gasCheck => .flag <$> session.gasCheck

/-- The calls that an operation may send, and all that has to hold for each. -/
inductive Sends (session : Session) : Operation → FunctionCall → Prop
  | sell {source target : Token} {route : Route} {amount least : String} {sold bound : Amount}
      (account : session.account.isSome) (served : Route.between source target = .ok route)
      (sale : Amount.ofHuman amount = .ok sold) (limit : Amount.ofHuman least = .ok bound)
      (nonzero : sold.isZero = false) (positive : bound.isZero = false) :
      Sends session (.swapFromIn source target amount least)
        (session.amm.swapExactIn route sold bound)
  | buy {source target : Token} {route : Route} {amount : String} {bought most : Amount}
      (account : session.account.isSome) (served : Route.between source target = .ok route)
      (purchase : Amount.ofHuman amount = .ok bought) (nonzero : bought.isZero = false) :
      Sends session (.swapFromOut source target most amount)
        (session.amm.swapExactOut route bought most)
  | fill {token : Token} {near mostTokens leastShares : String} {a b c : Amount}
      (account : session.account.isSome) (first : Amount.ofHuman near = .ok a)
      (second : Amount.ofHuman mostTokens = .ok b) (third : Amount.ofHuman leastShares = .ok c) :
      Sends session (.addLiquidity token near mostTokens leastShares)
        (session.amm.addLiquidity token.address a b c)
  | approve {token : Token} {amount : String} {raise : Amount} {call : FunctionCall}
      (account : session.account.isSome) (increase : Amount.ofHuman amount = .ok raise)
      (built : session.amm.incAllowance token raise = .ok call) :
      Sends session (.incAllowance token amount) call
  | openPool {token : Token} {near mostTokens leastShares : String}
      (account : session.account.isSome) :
      Sends session (.createPool token near mostTokens leastShares)
        (session.amm.createPool token.address)
  | fillNew {token : Token} {near mostTokens leastShares : String} {call : FunctionCall}
      (filled : Sends session (.addLiquidity token near mostTokens leastShares) call) :
      Sends session (.createPool token near mostTokens leastShares) call

/-- The requests by which an operation may read the chain, and all that has to hold for each. -/
inductive Reads (session : Session) : Operation → Request → Prop
  | priceSale {source target : Token} {route : Route} {amount : String} {sold : Amount}
      (sale : Amount.ofHuman amount = .ok sold) (nonzero : sold.isZero = false)
      (served : Route.between source target = .ok route) :
      Reads session (.quoteFromIn source target amount) (.view (session.amm.priceIn route sold))
  | pricePurchase {source target : Token} {route : Route} {amount : String} {bought : Amount}
      (purchase : Amount.ofHuman amount = .ok bought) (nonzero : bought.isZero = false)
      (served : Route.between source target = .ok route) :
      Reads session (.quoteFromOut source target amount)
        (.view (session.amm.priceOut route bought))
  | listPools : Reads session .listPools (.view session.amm.listPools)
  | poolInfo {token : String} : Reads session (.poolInfo token) (.view (session.amm.poolInfo token))
  | seekPool {token : Token} {near mostTokens leastShares : String} {request : Request}
      (account : session.account.isSome)
      (sought : Reads session (.poolInfo token.address) request) :
      Reads session (.createPool token near mostTokens leastShares) request
  | allowance {token : Token} {owner : String} {call : ViewCall}
      (account : session.account = some owner)
      (built : session.amm.getAllowance token owner = .ok call) :
      Reads session (.allowance token) (.view call)
  | approval {token : Token} {amount : Amount} {request : Request} (contract : token.kind = .nep21)
      (allowed : Reads session (.allowance token) request) :
      Reads session (.needsApproval token amount) request
  | available {token : Token} {owner : String} (account : session.account = some owner)
      (native : token.kind = .native) : Reads session (.tokenBalance token) (.balance owner)
  | holding {token : Token} {owner : String} {call : ViewCall}
      (account : session.account = some owner) (built : Amm.getBalance token owner = .ok call) :
      Reads session (.tokenBalance token) (.view call)
  | shares {token : Token} {owner : String} (account : session.account = some owner) :
      Reads session (.sharesBalance token)
        (.view (session.amm.sharesBalance token.address owner))
  | gas {owner : String} (account : session.account = some owner) :
      Reads session .gasCheck (.balance owner)

/-- What an operation may ask for, of the chain and of the wallet. -/
def Makes (session : Session) (operation : Operation) : Request → Prop
  | .submit call => operation.Sends session call
  | request => operation.Reads session request

variable {session : Session} {operation : Operation} {request : Request}

private theorem Reads.ne_submit (h : operation.Reads session request) (call : FunctionCall) :
    request ≠ .submit call := by
  induction h with
  | seekPool _ _ ih => exact ih
  | approval _ _ ih => exact ih
  | _ => nofun

theorem Reads.makes (h : operation.Reads session request) : operation.Makes session request := by
  cases request with
  | submit call => exact absurd rfl (h.ne_submit call)
  | view call => exact h
  | balance account => exact h

theorem Reads.sends (h : operation.Reads session request) (allowed : FunctionCall → Prop) :
    request.Sends allowed := by
  cases request with
  | submit call => exact absurd rfl (h.ne_submit call)
  | view call => trivial
  | balance account => trivial

/-- What may be added to a pool depends on the account only in that there is one. -/
private theorem Sends.fill_of_later {later : Option String} {token : Token}
    {near mostTokens leastShares : String} {call : FunctionCall}
    (h : Sends { session with account := later } (.addLiquidity token near mostTokens leastShares)
      call) (haccount : session.account.isSome) :
    Sends session (.addLiquidity token near mostTokens leastShares) call := by
  cases h with
  | fill _ hnear hmost hleast => exact .fill haccount hnear hmost hleast

end Operation

/-! ## Orders -/

namespace Session

open Operation (Sends Reads)

/-- The dialog sends one call that is allowed and does nothing else, or it fails at once. -/
def SendsOne (allowed : FunctionCall → Prop) (dialog : Dialog FunctionCall) : Prop :=
  (∃ call, allowed call ∧ dialog = send call) ∨ ∃ e, dialog = .fail e

variable {session : Session} {allowed : FunctionCall → Prop}

theorem SendsOne.asks {requests : Request → Prop} {dialog : Dialog FunctionCall}
    (h : SendsOne allowed dialog) (himp : ∀ call, allowed call → requests (.submit call)) :
    dialog.Asks requests := by
  obtain ⟨call, hcall, rfl⟩ | ⟨e, rfl⟩ := h
  · exact (Dialog.asks_submit (himp call hcall)).bind fun _ => trivial
  · trivial

private theorem sendsOne_signedIn_bind {next : String → Dialog FunctionCall}
    (h : session.account.isSome → ∀ account, SendsOne allowed (next account)) :
    SendsOne allowed (session.signedIn >>= next) := by
  rw [signedIn_bind]
  cases haccount : session.account with
  | none => exact .inr ⟨_, rfl⟩
  | some account => exact h (by rw [haccount]; rfl) account

private theorem sendsOne_lift_bind {α : Type} {result : Except ClientError α}
    {next : α → Dialog FunctionCall} (h : ∀ a, result = .ok a → SendsOne allowed (next a)) :
    SendsOne allowed (liftM result >>= next) := by
  rw [Dialog.lift_bind]
  cases hresult : result with
  | error e => exact .inr ⟨_, rfl⟩
  | ok a => exact h a hresult

private theorem sendsOne_typed_bind {text : String} {next : Amount → Dialog FunctionCall}
    (h : ∀ amount, Amount.ofHuman text = .ok amount → SendsOne allowed (next amount)) :
    SendsOne allowed (typed text >>= next) := by
  rw [typed_bind]
  cases hamount : Amount.ofHuman text with
  | error e => exact .inr ⟨_, rfl⟩
  | ok amount => exact h amount hamount

variable (session)

theorem sendsOne_swapFromIn (source target : Token) (amount least : String) :
    SendsOne (Sends session (.swapFromIn source target amount least))
      (session.swapFromIn source target amount least) := by
  rw [swapFromIn]
  apply sendsOne_signedIn_bind
  intro haccount _
  apply sendsOne_lift_bind
  intro route hroute
  apply sendsOne_typed_bind
  intro sold hsold
  apply sendsOne_typed_bind
  intro bound hbound
  split
  · exact .inr ⟨_, rfl⟩
  · next hzero =>
    rw [Bool.or_eq_true, not_or, Bool.not_eq_true, Bool.not_eq_true] at hzero
    exact .inl ⟨_, .sell haccount hroute hsold hbound hzero.1 hzero.2, rfl⟩

theorem sendsOne_swapFromOut (source target : Token) (most : Amount) (amount : String) :
    SendsOne (Sends session (.swapFromOut source target most amount))
      (session.swapFromOut source target most amount) := by
  rw [swapFromOut]
  apply sendsOne_signedIn_bind
  intro haccount _
  apply sendsOne_lift_bind
  intro route hroute
  apply sendsOne_typed_bind
  intro bought hbought
  split
  · exact .inr ⟨_, rfl⟩
  · next hzero =>
    rw [Bool.not_eq_true] at hzero
    exact .inl ⟨_, .buy haccount hroute hbought hzero, rfl⟩

private theorem sendsOne_addLiquidity (token : Token) (near mostTokens leastShares : String) :
    SendsOne (Sends session (.addLiquidity token near mostTokens leastShares))
      (session.addLiquidity token near mostTokens leastShares) := by
  rw [addLiquidity]
  apply sendsOne_signedIn_bind
  intro haccount _
  apply sendsOne_typed_bind
  intro a ha
  apply sendsOne_typed_bind
  intro b hb
  apply sendsOne_typed_bind
  intro c hc
  exact .inl ⟨_, .fill haccount ha hb hc, rfl⟩

theorem sendsOne_incAllowance (token : Token) (amount : String) :
    SendsOne (Sends session (.incAllowance token amount)) (session.incAllowance token amount) := by
  rw [incAllowance]
  apply sendsOne_signedIn_bind
  intro haccount _
  apply sendsOne_typed_bind
  intro raise hraise
  apply sendsOne_lift_bind
  intro call hcall
  exact .inl ⟨call, .approve haccount hraise hcall, rfl⟩

/-! ## Queries -/

variable {session} {requests : Request → Prop}

private theorem asks_signedIn_bind {α : Type} {next : String → Dialog α}
    (h : ∀ owner, session.account = some owner → (next owner).Asks requests) :
    (session.signedIn >>= next).Asks requests := by
  rw [signedIn_bind]
  cases haccount : session.account with
  | none => trivial
  | some owner => exact h owner haccount

private theorem asks_typed_bind {α : Type} {text : String} {next : Amount → Dialog α}
    (h : ∀ amount, Amount.ofHuman text = .ok amount → (next amount).Asks requests) :
    (typed text >>= next).Asks requests := by
  rw [typed_bind]
  cases hamount : Amount.ofHuman text with
  | error e => trivial
  | ok amount => exact h amount hamount

private theorem asks_viewAmount {call : ViewCall} (h : requests (.view call)) :
    (viewAmount call).Asks requests :=
  (Dialog.asks_view h).bind fun _ => Dialog.asks_lift _

theorem reads_quoteFromIn (source target : Token) (amount : String) :
    (session.quoteFromIn source target amount).Asks
      (Reads session (.quoteFromIn source target amount)) := by
  apply asks_typed_bind
  intro sold hsold
  split
  · trivial
  · next hzero =>
    apply Dialog.asks_lift_bind
    intro route hroute
    exact asks_viewAmount (.priceSale hsold (Bool.eq_false_iff.mpr hzero) hroute)

theorem reads_quoteFromOut (source target : Token) (amount : String) :
    (session.quoteFromOut source target amount).Asks
      (Reads session (.quoteFromOut source target amount)) := by
  apply asks_typed_bind
  intro bought hbought
  split
  · trivial
  · next hzero =>
    apply Dialog.asks_lift_bind
    intro route hroute
    exact asks_viewAmount (.pricePurchase hbought (Bool.eq_false_iff.mpr hzero) hroute)

theorem reads_listPools : session.listPools.Asks (Reads session .listPools) :=
  (Dialog.asks_view .listPools).bind fun _ => Dialog.asks_lift _

theorem reads_poolInfo (token : String) :
    (session.poolInfo token).Asks (Reads session (.poolInfo token)) :=
  (Dialog.asks_view .poolInfo).bind fun _ => Dialog.asks_lift _

theorem reads_allowance (token : Token) :
    (session.allowance token).Asks (Reads session (.allowance token)) := by
  apply asks_signedIn_bind
  intro owner howner
  apply Dialog.asks_lift_bind
  intro call hcall
  exact asks_viewAmount (.allowance howner hcall)

theorem reads_needsApproval (token : Token) (amount : Amount) :
    (session.needsApproval token amount).Asks (Reads session (.needsApproval token amount)) := by
  rw [needsApproval]
  split
  · next hkind =>
    have hallowance : (session.allowance token).Asks
        (Reads session (.needsApproval token amount)) :=
      (reads_allowance token).mono fun _ hread => .approval hkind hread
    exact hallowance.bind fun _ => trivial
  · trivial

theorem reads_tokenBalance (token : Token) :
    (session.tokenBalance token).Asks (Reads session (.tokenBalance token)) := by
  apply asks_signedIn_bind
  intro owner howner
  split
  · next hkind => exact (Dialog.asks_balance (.available howner hkind)).bind fun _ => trivial
  · apply Dialog.asks_lift_bind
    intro call hcall
    exact asks_viewAmount (.holding howner hcall)

theorem reads_sharesBalance (token : Token) :
    (session.sharesBalance token).Asks (Reads session (.sharesBalance token)) := by
  apply asks_signedIn_bind
  intro owner howner
  exact asks_viewAmount (.shares howner)

theorem reads_gasCheck : session.gasCheck.Asks (Reads session .gasCheck) := by
  apply asks_signedIn_bind
  intro owner howner
  exact (Dialog.asks_balance (.gas howner)).bind fun _ => trivial

end Session

/-! ## All operations -/

namespace Operation

open Session

variable {session : Session} {operation : Operation}

theorem sends_of_reads {α : Type} {dialog : Dialog α} (h : dialog.Asks (Reads session operation))
    (allowed : FunctionCall → Prop) : dialog.Asks (Request.Sends allowed) :=
  h.mono fun _ hread => hread.sends allowed

theorem reads_of_query (h : operation.role = .query) :
    (operation.dialog session).Asks (Reads session operation) := by
  cases operation with
  | quoteFromIn => exact (reads_quoteFromIn ..).bind fun _ => trivial
  | quoteFromOut => exact (reads_quoteFromOut ..).bind fun _ => trivial
  | listPools => exact reads_listPools.bind fun _ => trivial
  | poolInfo => exact (reads_poolInfo _).bind fun _ => trivial
  | allowance => exact (reads_allowance _).bind fun _ => trivial
  | needsApproval => exact (reads_needsApproval ..).bind fun _ => trivial
  | tokenBalance => exact (reads_tokenBalance _).bind fun _ => trivial
  | sharesBalance => exact (reads_sharesBalance _).bind fun _ => trivial
  | gasCheck => exact reads_gasCheck.bind fun _ => trivial
  | _ => contradiction

theorem dialog_of_order (h : operation.role = .order) (session : Session) :
    ∃ order, SendsOne (Sends session operation) order ∧
      operation.dialog session = .call <$> order := by
  cases operation with
  | swapFromIn => exact ⟨_, sendsOne_swapFromIn .., rfl⟩
  | swapFromOut => exact ⟨_, sendsOne_swapFromOut .., rfl⟩
  | addLiquidity => exact ⟨_, sendsOne_addLiquidity .., rfl⟩
  | incAllowance => exact ⟨_, sendsOne_incAllowance .., rfl⟩
  | _ => contradiction

private theorem makes_createPool (token : Token) (near mostTokens leastShares : String) :
    (session.createPool token near mostTokens leastShares).Asks
      (Makes session (.createPool token near mostTokens leastShares)) := by
  apply asks_signedIn_bind
  intro owner howner
  have haccount : session.account.isSome := by rw [howner]; rfl
  have hseek : (session.poolInfo token.address).Asks
      (Makes session (.createPool token near mostTokens leastShares)) :=
    (reads_poolInfo token.address).mono fun _ hread => (Reads.seekPool haccount hread).makes
  apply hseek.bind
  intro found
  cases found with
  | some pool => trivial
  | none =>
    have hopen : Makes session (.createPool token near mostTokens leastShares)
        (.submit (session.amm.createPool token.address)) := .openPool haccount
    apply (Dialog.asks_submit hopen).bind
    intro later
    have hfill := sendsOne_addLiquidity { session with account := later } token near mostTokens
      leastShares
    exact (hfill.asks fun _ hcall => .fillNew (hcall.fill_of_later haccount)).bind fun _ => trivial

theorem makes_dialog (operation : Operation) (session : Session) :
    (operation.dialog session).Asks (Makes session operation) := by
  cases hrole : operation.role with
  | query => exact (reads_of_query hrole).mono fun _ hread => hread.makes
  | order =>
    obtain ⟨order, horder, hdialog⟩ := dialog_of_order hrole session
    rw [hdialog]
    exact (horder.asks fun _ hcall => hcall).bind fun _ => trivial
  | creation =>
    cases operation with
    | createPool => exact (makes_createPool ..).bind fun _ => trivial
    | _ => contradiction

end Operation

/-! ## Runs of operations -/

/-- An operation and the account that is signed in when it is carried out. -/
structure Turn where
  account : Option String
  operation : Operation

namespace Turn

variable (chain : Chain σ) (wallet : Wallet ω)

def run (amm : Amm) (turn : Turn) : σ → ω → Outcome σ ω Answer :=
  (turn.operation.dialog ⟨amm, turn.account⟩).run chain wallet

/-- Carries out one turn after the other. Each goes on from the chain and the wallet that the one
before has left, whether or not that one has failed. -/
def runAll (amm : Amm) : List Turn → σ → ω → List (Turn × Outcome σ ω Answer)
  | [], _, _ => []
  | turn :: rest, s, w =>
    let outcome := turn.run chain wallet amm s w
    (turn, outcome) :: runAll amm rest outcome.chain outcome.wallet

variable {chain wallet}

/-- Each outcome of a run is that of its turn, from wherever the turns before have led. -/
theorem exists_of_mem_runAll {amm : Amm} {turns : List Turn} {s : σ} {w : ω}
    {played : Turn × Outcome σ ω Answer} (h : played ∈ runAll chain wallet amm turns s w) :
    ∃ s w, played.2 = played.1.run chain wallet amm s w := by
  induction turns generalizing s w with
  | nil => cases h
  | cons turn rest ih =>
    rcases List.mem_cons.mp h with rfl | hrest
    · exact ⟨s, w, rfl⟩
    · exact ih hrest

theorem makes_of_mem_runAll {amm : Amm} {turns : List Turn} {s : σ} {w : ω}
    {played : Turn × Outcome σ ω Answer} (h : played ∈ runAll chain wallet amm turns s w)
    {request : Request} {granted : Bool} (hevent : .asked request granted ∈ played.2.events) :
    played.1.operation.Makes ⟨amm, played.1.account⟩ request := by
  obtain ⟨s', w', hrun⟩ := exists_of_mem_runAll h
  rw [hrun] at hevent
  exact (played.1.operation.makes_dialog _).run hevent

theorem sends_of_mem_runAll {amm : Amm} {turns : List Turn} {s : σ} {w : ω}
    {played : Turn × Outcome σ ω Answer} (h : played ∈ runAll chain wallet amm turns s w)
    {call : FunctionCall} (hcall : call ∈ played.2.submitted) :
    played.1.operation.Sends ⟨amm, played.1.account⟩ call :=
  makes_of_mem_runAll h (Outcome.mem_submitted.mp hcall)

theorem reads_of_mem_runAll {amm : Amm} {turns : List Turn} {s : σ} {w : ω}
    {played : Turn × Outcome σ ω Answer} (h : played ∈ runAll chain wallet amm turns s w)
    {request : Request} (hrequest : request ∈ played.2.queries) :
    played.1.operation.Reads ⟨amm, played.1.account⟩ request := by
  obtain ⟨granted, hevent⟩ := Outcome.asked_of_mem_queries hrequest
  have hmakes := makes_of_mem_runAll h hevent
  cases request with
  | view call => exact hmakes
  | balance account => exact hmakes
  | submit call => exact absurd hrequest (Outcome.submit_not_mem_queries _ call)

end Turn

end SwapDesk
