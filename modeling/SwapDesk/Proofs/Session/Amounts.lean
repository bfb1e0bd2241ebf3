import SwapDesk.Proofs.Amount.Canonical
import SwapDesk.Proofs.Json.Literal
import SwapDesk.Proofs.Session.Agreement

/-!
# Amounts in replies

An amount in a reply is a text of digits or an integer literal of 64 bits. What an operation gives
back is that amount and never another one, however large it is.
-/

namespace SwapDesk

open Decimal (IsDigits)

variable {σ ω : Type}

/-! ## Values -/

/-- The text is decimal digits that denote the units of the amount, with blanks around them. -/
structure Amount.Counts (a : Amount) (s : String) : Prop where
  digits : IsDigits (Text.trim s.toList)
  nonempty : Text.trim s.toList ≠ []
  units : Decimal.value (Text.trim s.toList) = a.units

theorem Amount.ofText_eq_ok_iff_counts {s : String} {a : Amount} :
    ofText s = .ok a ↔ a.Counts s := by
  rw [ofText_eq_ok_iff]
  constructor
  · rintro ⟨hdigits, hne, ha⟩
    rw [digits_eq_canonical_iff hdigits] at ha
    exact ⟨hdigits, hne, by rw [ha]⟩
  · rintro ⟨hdigits, hne, ha⟩
    refine ⟨hdigits, hne, ?_⟩
    rw [digits_eq_canonical_iff hdigits, ha]

/-- The value says the amount, as a text or as a number of 64 bits. -/
inductive Json.States : Json → Amount → Prop
  | text {s : String} {a : Amount} : a.Counts s → States (.string s) a
  | number {a : Amount} : a.units ≤ Json.greatestNatural → States (.natural a.units) a

namespace Json

variable {v : Json} {a : Amount}

private theorem states_string_iff {s : String} : (string s).States a ↔ a.Counts s :=
  ⟨fun | .text h => h, .text⟩

private theorem states_number_iff {n : Number} :
    (number n).States a ↔ (number n).natural? = some a.units := by
  rw [natural?_eq_some_iff]
  constructor
  · rintro ⟨⟩
    next h => exact ⟨rfl, h⟩
  · rintro ⟨hn, ha⟩
    rw [hn]
    exact .number ha

end Json

/-! ## Replies -/

namespace Session

variable {source target : Token}

theorem readAmount_eq_ok_iff (method : String) (v : Json) (a : Amount) :
    readAmount method v = .ok a ↔ v.States a := by
  cases v with
  | string s =>
    rw [readAmount, Json.states_string_iff, ← Amount.ofText_eq_ok_iff_counts]
    cases Amount.ofText s <;> simp [Except.mapError]
  | number n =>
    obtain ⟨units⟩ := a
    rw [readAmount, Json.states_number_iff]
    cases Json.natural? (.number n) <;> simp
  | _ => exact ⟨nofun, nofun⟩

end Session

/-- Every run of the dialog makes this view and no other request, and its result is what is read in
the reply, or the error that comes instead of one. -/
def Dialog.Relays {α : Type} (dialog : Dialog α) (call : ViewCall)
    (read : Json → Except ClientError α) : Prop :=
  ∀ (σ ω : Type) (chain : Chain σ) (wallet : Wallet ω) (s : σ) (w : ω),
    let reply := (chain.view call s).1
    let outcome := dialog.run chain wallet s w
    outcome.result = reply.bind read ∧ outcome.events = [.asked (.view call) reply.isOk]

theorem Dialog.Relays.asked {α β : Type} {dialog : Dialog α} {call : ViewCall}
    {read : Json → Except ClientError α} (h : dialog.Relays call read) (f : α → β)
    (chain : Chain σ) (wallet : Wallet ω) (s : σ) (w : ω) :
    .view call ∈ ((f <$> dialog).run chain wallet s w).queries := by
  obtain ⟨-, hevents⟩ := h σ ω chain wallet s w
  rw [Dialog.run_map, Outcome.queries]
  dsimp only
  rw [hevents]
  exact List.mem_singleton_self _

/-- The call is of this method on the contract of the token, with these arguments. -/
structure ViewCall.AsksToken (call : ViewCall) (token : Token) (method : String)
    (args : List (String × Argument)) : Prop where
  contract : call.contract = token.address
  method : call.method = method
  args : call.HasArgs args

namespace Session

variable {session : Session} {owner : String} {token : Token}

theorem relays_viewAmount (call : ViewCall) :
    (viewAmount call).Relays call (readAmount call.method) := by
  intro σ ω chain wallet s w
  rw [run_viewAmount rfl]
  exact ⟨rfl, rfl⟩

/-- The allowance on a token with a contract is what the contract says that the market maker may
move from the account. -/
theorem relays_allowance (haccount : session.account = some owner) (hkind : token.kind = .nep21) :
    ∃ call : ViewCall, call.AsksToken token "get_allowance"
        [("escrow_account_id", .account session.amm.contract), ("owner_id", .account owner)] ∧
      (session.allowance token).Relays call (readAmount call.method) := by
  refine ⟨⟨token.address, "get_allowance", .object [("escrow_account_id",
    .string session.amm.contract), ("owner_id", .string owner)]⟩,
    ⟨rfl, rfl, ViewCall.hasArgs_of_json rfl⟩, ?_⟩
  rw [allowance, signedIn_bind, haccount]
  dsimp only
  rw [Amm.getAllowance, Amm.contractOf, hkind]
  exact relays_viewAmount _

theorem relays_tokenBalance (haccount : session.account = some owner)
    (hkind : token.kind = .nep21) :
    ∃ call : ViewCall, call.AsksToken token "get_balance" [("owner_id", .account owner)] ∧
      (session.tokenBalance token).Relays call (readAmount call.method) := by
  refine ⟨⟨token.address, "get_balance", .object [("owner_id", .string owner)]⟩,
    ⟨rfl, rfl, ViewCall.hasArgs_of_json rfl⟩, ?_⟩
  rw [tokenBalance, signedIn_bind, haccount]
  dsimp only
  rw [hkind, Amm.getBalance, Amm.contractOf, hkind]
  exact relays_viewAmount _

/-- The shares in a pool are what the market maker says that the account holds of them, whatever the
kind of the token. -/
theorem relays_sharesBalance (haccount : session.account = some owner) (token : Token) :
    ∃ call : ViewCall, call.Asks session.amm "balance_of"
        [("holder", .account owner), ("token", .account token.address)] ∧
      (session.sharesBalance token).Relays call (readAmount call.method) := by
  refine ⟨session.amm.sharesBalance token.address owner,
    ⟨by decide, rfl, rfl, ViewCall.hasArgs_of_json rfl⟩, ?_⟩
  rw [sharesBalance, signedIn_bind, haccount]
  exact relays_viewAmount _

/-! ## Reading a reply -/

end Session

namespace Operation

open Session

end Operation

namespace Session

end Session

end SwapDesk
