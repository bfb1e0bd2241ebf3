import SwapDesk.Session.Basic

/-!
# Runs of dialogs

How a run is put together from the runs of its parts. What has passed in a dialog that goes on
with another is what has passed in the first and then, if that had a result, in the second.
-/

namespace SwapDesk

variable {σ ω α β : Type}

namespace Outcome

/-- The outcome of a dialog that goes on with the result, unless there is none. -/
def andThen (outcome : Outcome σ ω α) (next : α → σ → ω → Outcome σ ω β) : Outcome σ ω β :=
  match outcome.result with
  | .ok a =>
    let rest := next a outcome.chain outcome.wallet
    { rest with events := outcome.events ++ rest.events }
  | .error e => ⟨.error e, outcome.events, outcome.chain, outcome.wallet⟩

@[simp]
theorem andThen_ok (a : α) (events : List Event) (s : σ) (w : ω)
    (next : α → σ → ω → Outcome σ ω β) :
    (Outcome.mk (.ok a) events s w).andThen next =
      { next a s w with events := events ++ (next a s w).events } := rfl

@[simp]
theorem andThen_error (e : ClientError) (events : List Event) (s : σ) (w : ω)
    (next : α → σ → ω → Outcome σ ω β) :
    (Outcome.mk (.error e) events s w).andThen next = ⟨.error e, events, s, w⟩ := rfl

theorem after_andThen (event : Event) (outcome : Outcome σ ω α)
    (next : α → σ → ω → Outcome σ ω β) :
    (outcome.after event).andThen next = (outcome.andThen next).after event := by
  obtain ⟨result, events, s, w⟩ := outcome
  cases result <;> rfl

end Outcome

/-- What comes back for a request, and what the chain and the wallet go on from. -/
def Request.answer (chain : Chain σ) (wallet : Wallet ω) :
    (request : Request) → σ → ω → Except ClientError request.Reply × σ × ω
  | .view call, s, w => ((chain.view call s).1, (chain.view call s).2, w)
  | .balance account, s, w => ((chain.balance account s).1, (chain.balance account s).2, w)
  | .submit call, s, w =>
    ((wallet.submit call w).1.map fun _ => wallet.account (wallet.submit call w).2, s,
      (wallet.submit call w).2)

namespace Dialog

variable (chain : Chain σ) (wallet : Wallet ω)

theorem run_ask (request : Request) (next : request.Reply → Dialog α) (s : σ) (w : ω) :
    (ask request next).run chain wallet s w =
      match request.answer chain wallet s w with
      | (.ok reply, s, w) => ((next reply).run chain wallet s w).after (.asked request true)
      | (.error e, s, w) => ⟨.error e, [.asked request false], s, w⟩ := by
  cases request with
  | view call =>
    rw [run, Request.answer]
    rcases chain.view call s with ⟨_ | reply, s'⟩ <;> rfl
  | balance account =>
    rw [run, Request.answer]
    rcases chain.balance account s with ⟨_ | reply, s'⟩ <;> rfl
  | submit call =>
    rw [run, Request.answer]
    rcases wallet.submit call w with ⟨_ | reply, w'⟩ <;> rfl

@[simp]
theorem run_lift (result : Except ClientError α) (s : σ) (w : ω) :
    (liftM result : Dialog α).run chain wallet s w = ⟨result, [], s, w⟩ := by
  cases result <;> rfl

theorem run_view {call : ViewCall} {reply : Except ClientError Json} {s s' : σ}
    (h : chain.view call s = (reply, s')) (w : ω) :
    (view call).run chain wallet s w = ⟨reply, [.asked (.view call) reply.isOk], s', w⟩ := by
  rw [view, run, h]
  cases reply <;> rfl

theorem run_balance {account : String} {reply : Except ClientError AccountBalance} {s s' : σ}
    (h : chain.balance account s = (reply, s')) (w : ω) :
    (balance account).run chain wallet s w =
      ⟨reply, [.asked (.balance account) reply.isOk], s', w⟩ := by
  rw [balance, run, h]
  cases reply <;> rfl

theorem run_submit {call : FunctionCall} {reply : Except ClientError Unit} {w w' : ω}
    (h : wallet.submit call w = (reply, w')) (s : σ) :
    (submit call).run chain wallet s w =
      ⟨reply.map fun _ => wallet.account w', [.asked (.submit call) reply.isOk], s, w'⟩ := by
  rw [submit, run, h]
  cases reply <;> rfl

theorem lift_bind (result : Except ClientError α) (next : α → Dialog β) :
    (liftM result >>= next : Dialog β) =
      match result with
      | .ok a => next a
      | .error e => fail e := by
  cases result <;> rfl

/-- A dialog and what follows it run one after the other. -/
@[simp]
theorem run_bind (dialog : Dialog α) (next : α → Dialog β) (s : σ) (w : ω) :
    (dialog >>= next).run chain wallet s w =
      (dialog.run chain wallet s w).andThen fun a => (next a).run chain wallet := by
  induction dialog generalizing s w with
  | done a => rfl
  | fail e => rfl
  | tell notice rest ih =>
    change ((rest >>= next).run chain wallet s w).after (.told notice) = _
    rw [ih, ← Outcome.after_andThen]
    rfl
  | ask request rest ih =>
    change (ask request fun reply => rest reply >>= next).run chain wallet s w = _
    rw [run_ask, run_ask]
    rcases request.answer chain wallet s w with ⟨e | reply, s', w'⟩
    · rfl
    · dsimp only
      rw [ih, Outcome.after_andThen]

@[simp]
theorem run_map (f : α → β) (dialog : Dialog α) (s : σ) (w : ω) :
    (f <$> dialog).run chain wallet s w =
      let outcome := dialog.run chain wallet s w
      ⟨outcome.result.map f, outcome.events, outcome.chain, outcome.wallet⟩ := by
  change (dialog >>= fun a => done (f a)).run chain wallet s w = _
  rw [run_bind]
  rcases dialog.run chain wallet s w with ⟨e | a, events, s', w'⟩
  · rfl
  · rw [Outcome.andThen_ok]
    simp [run, Except.map]

end Dialog

/-! ## Parts of operations -/

namespace Session

variable (chain : Chain σ) (wallet : Wallet ω)

theorem signedIn_bind (session : Session) (next : String → Dialog α) :
    (session.signedIn >>= next) =
      match session.account with
      | some account => next account
      | none => .fail .notSignedIn := by
  rw [signedIn]
  cases session.account <;> rfl

theorem typed_bind (text : String) (next : Amount → Dialog α) :
    (typed text >>= next) =
      match Amount.ofHuman text with
      | .ok amount => next amount
      | .error e => .fail (.amount e) := by
  rw [typed, Dialog.lift_bind]
  cases Amount.ofHuman text <;> rfl

theorem run_signedIn_bind (session : Session) (next : String → Dialog α) (s : σ) (w : ω) :
    (session.signedIn >>= next).run chain wallet s w =
      match session.account with
      | some account => (next account).run chain wallet s w
      | none => ⟨.error .notSignedIn, [], s, w⟩ := by
  rw [signedIn_bind]
  cases session.account <;> rfl

theorem run_typed_bind (text : String) (next : Amount → Dialog α) (s : σ) (w : ω) :
    (typed text >>= next).run chain wallet s w =
      match Amount.ofHuman text with
      | .ok amount => (next amount).run chain wallet s w
      | .error e => ⟨.error (.amount e), [], s, w⟩ := by
  rw [typed_bind]
  cases Amount.ofHuman text <;> rfl

theorem run_send {call : FunctionCall} {reply : Except ClientError Unit} {w w' : ω}
    (h : wallet.submit call w = (reply, w')) (s : σ) :
    (send call).run chain wallet s w =
      ⟨reply.map fun _ => call, [.asked (.submit call) reply.isOk], s, w'⟩ := by
  rw [send, Dialog.run_bind, Dialog.run_submit chain wallet h]
  cases reply <;> rfl

end Session

end SwapDesk
