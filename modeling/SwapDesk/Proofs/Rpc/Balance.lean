import SwapDesk.Proofs.Amount.Canonical
import SwapDesk.Proofs.Rpc.Reply
import SwapDesk.Proofs.Session.Dialog
import SwapDesk.Session.Script

/-!
# Balances that a node tells

A node tells the balance of an account by two texts, of all its NEAR and of the part that is locked.
Both are natural numbers of 128 bits, and so is what is available, so that a comparison with the
reserve is exact for all of them.
-/

namespace SwapDesk

variable {ω α : Type}

open Decimal (IsDigits)

namespace AccountBalance

variable {s : String}

/-- The text is the decimal of a number of 128 bits: digits, which a plus may precede. -/
def Says (s : String) (n : ℕ) : Prop :=
  ∃ digits, (s.toList = digits ∨ s.toList = '+' :: digits) ∧ IsDigits digits ∧ digits ≠ [] ∧
    Decimal.value digits = n ∧ n < 2 ^ 128

def unsigned : List Char → List Char
  | '+' :: rest => rest
  | s => s

private theorem eq_unsigned_or (s : List Char) : s = unsigned s ∨ s = '+' :: unsigned s := by
  unfold unsigned
  split
  · exact .inr rfl
  · exact .inl rfl

private theorem unsigned_eq_of_isDigits {s digits : List Char} (hs : s = digits ∨ s = '+' :: digits)
    (hdigits : IsDigits digits) : unsigned s = digits := by
  obtain rfl | rfl := hs
  · unfold unsigned
    split
    -- A plus is no digit.
    · exact absurd ((Decimal.isDigits_cons _ _).mp hdigits).1 (by decide)
    · rfl
  · rfl

private theorem readUnits?_eq (s : String) :
    readUnits? s =
      if unsigned s.toList ≠ [] ∧ (unsigned s.toList).all Char.isDigit ∧
          Decimal.value (unsigned s.toList) < 2 ^ 128 then
        some ⟨Decimal.value (unsigned s.toList)⟩
      else none := rfl

theorem readUnits?_eq_some_iff {a : Amount} : readUnits? s = some a ↔ Says s a.units := by
  obtain ⟨n⟩ := a
  have hread : readUnits? s = some ⟨n⟩ ↔
      (unsigned s.toList ≠ [] ∧ IsDigits (unsigned s.toList) ∧
        Decimal.value (unsigned s.toList) < 2 ^ 128) ∧ Decimal.value (unsigned s.toList) = n := by
    simp only [readUnits?_eq, Option.ite_none_right_eq_some, Option.some.injEq, Amount.mk.injEq,
      List.all_eq_true, IsDigits]
  rw [hread]
  constructor
  · rintro ⟨⟨hne, hdigits, hlt⟩, rfl⟩
    exact ⟨_, eq_unsigned_or _, hdigits, hne, rfl, hlt⟩
  · rintro ⟨digits, hs, hdigits, hne, hvalue, hlt⟩
    rw [unsigned_eq_of_isDigits hs hdigits]
    exact ⟨⟨hne, hdigits, hvalue ▸ hlt⟩, hvalue⟩

/-! ## What is available -/

/-- The difference of two numbers of 128 bits, and zero where it would wrap around. -/
def difference (total locked : BitVec 128) : BitVec 128 :=
  if total < locked then 0 else total - locked

theorem toNat_difference (total locked : BitVec 128) :
    (difference total locked).toNat = total.toNat - locked.toNat := by
  rw [difference]
  split
  case isTrue h =>
    rw [BitVec.lt_def] at h
    rw [Nat.sub_eq_zero_of_le h.le]
    rfl
  case isFalse h =>
    rw [BitVec.lt_def, Nat.not_lt] at h
    exact BitVec.toNat_sub_of_le h

/-- The balance is made up of these numbers: what is available and what is locked are the total,
unless more is locked than there is. -/
structure Accounts (balance : AccountBalance) (total locked : ℕ) : Prop where
  total_eq : balance.total.units = total
  locked_eq : balance.locked.units = locked
  covered : locked ≤ total → balance.available.units + locked = total
  overdrawn : total < locked → balance.available = .zero
  words : balance.available.units =
    (difference (.ofNat 128 total) (.ofNat 128 locked)).toNat

private theorem accounts_of_lt {total locked : ℕ} (htotal : total < 2 ^ 128)
    (hlocked : locked < 2 ^ 128) :
    Accounts ⟨⟨total⟩, ⟨locked⟩⟩ total locked where
  total_eq := rfl
  locked_eq := rfl
  covered h := Nat.sub_add_cancel h
  overdrawn h := by
    rw [available, Nat.sub_eq_zero_of_le h.le]
    rfl
  words := by
    rw [toNat_difference, BitVec.toNat_ofNat, BitVec.toNat_ofNat, Nat.mod_eq_of_lt htotal,
      Nat.mod_eq_of_lt hlocked]
    rfl

end AccountBalance

/-! ## The result of a node -/

namespace Rpc

variable {levels : ℕ} {answer result : Json} {body : ByteArray} {name : String}
  {balance : AccountBalance}

/-- The result has a field with this name, and its text says the number. -/
def Reports (result : Json) (name : String) (n : ℕ) : Prop :=
  ∃ s, result.HasField name (.string s) ∧ AccountBalance.Says s n

/-- The result tells how much NEAR there is and how much of it is locked. -/
structure TellsBalance (result : Json) (total locked : ℕ) : Prop where
  total : Reports result "amount" total
  locked : Reports result "locked" locked

theorem Reports.lt {n : ℕ} (h : Reports result name n) : n < 2 ^ 128 := by
  obtain ⟨-, -, -, -, -, -, -, hlt⟩ := h
  exact hlt

theorem readField_eq_ok_iff (h : result.IsFreeForm levels) {a : Amount} :
    readField result name = .ok a ↔ Reports result name a.units := by
  have hreports : Reports result name a.units ↔
      ((result.get? name).bind Json.string?).bind AccountBalance.readUnits? = some a := by
    simp only [Reports, ← h.text_iff, Option.bind_eq_some_iff,
      AccountBalance.readUnits?_eq_some_iff]
  rw [hreports, readField]
  cases ((result.get? name).bind Json.string?).bind AccountBalance.readUnits? <;> simp

private theorem readField_error {e : ClientError} (h : readField result name = .error e) :
    e = .reply balanceLabel (.badField name) := by
  rw [readField] at h
  split at h
  · contradiction
  · exact (Except.error.inj h).symm

theorem readBalanceFields_eq_ok_iff (h : result.IsFreeForm levels) :
    readBalanceFields result = .ok balance ↔
      TellsBalance result balance.total.units balance.locked.units := by
  have htells : TellsBalance result balance.total.units balance.locked.units ↔
      readField result "amount" = .ok balance.total ∧
        readField result "locked" = .ok balance.locked := by
    rw [readField_eq_ok_iff h, readField_eq_ok_iff h]
    exact ⟨fun htells => ⟨htells.total, htells.locked⟩, fun ⟨total, locked⟩ => ⟨total, locked⟩⟩
  obtain ⟨total, locked⟩ := balance
  rw [htells, readBalanceFields]
  cases readField result "amount" <;> cases readField result "locked" <;>
    simp [bind, Except.bind, pure, Except.pure]

private theorem map_readBalanceFields_eq_ok_iff (h : result.IsFreeForm levels)
    {f : AccountBalance → α} {a : α} :
    (readBalanceFields result).map f = .ok a ↔
      ∃ total locked, TellsBalance result total locked ∧ f ⟨⟨total⟩, ⟨locked⟩⟩ = a := by
  constructor
  · intro hmap
    cases hread : readBalanceFields result with
    | error e =>
      rw [hread] at hmap
      contradiction
    | ok balance =>
      rw [hread] at hmap
      exact ⟨_, _, (readBalanceFields_eq_ok_iff h).mp hread, Except.ok.inj hmap⟩
  · rintro ⟨total, locked, htells, rfl⟩
    have hread : readBalanceFields result = .ok ⟨⟨total⟩, ⟨locked⟩⟩ :=
      (readBalanceFields_eq_ok_iff h).mpr htells
    rw [hread]
    rfl

theorem readBalanceFields_eq_error (h : result.IsFreeForm levels)
    (hnone : ∀ total locked, ¬ TellsBalance result total locked) :
    ∃ name ∈ ["amount", "locked"],
      readBalanceFields result = .error (.reply balanceLabel (.badField name)) := by
  rw [readBalanceFields]
  cases htotal : readField result "amount" with
  | error e =>
    rw [readField_error htotal]
    exact ⟨"amount", by simp, rfl⟩
  | ok total =>
    cases hlocked : readField result "locked" with
    | error e =>
      rw [readField_error hlocked]
      exact ⟨"locked", by simp, rfl⟩
    | ok locked =>
      have htells : TellsBalance result total.units locked.units :=
        ⟨(readField_eq_ok_iff h).mp htotal, (readField_eq_ok_iff h).mp hlocked⟩
      exact absurd htells (hnone _ _)

theorem node_balance (hbody : Json.ofBytes? body = some answer) (hfine : ¬ IsRefusal answer)
    (hresult : answer.HasField "result" result) (account : String)
    (later : List (Option ByteArray)) :
    node.balance account (some body :: later) = (readBalanceFields result, later) := by
  have hfree := Json.isFreeForm_of_ofBytes? hbody
  have hread : readBalance answer = readBalanceFields result := by
    rw [readBalance]
    obtain ⟨hrefusal, -⟩ | ⟨-, ⟨r, hfield, hr⟩ | ⟨hmissing, -⟩⟩ := result_cases hfree balanceLabel
    · contradiction
    · rw [hr, hfree.field_unique hresult hfield]
      rfl
    · exact absurd hresult (hmissing result)
  simp [node, readBody, hbody, bind, Except.bind, hread]

end Rpc

/-! ## What a session makes of a balance -/

namespace Session

variable {σ : Type} (chain : Chain σ) (wallet : Wallet ω) {session : Session}
  {account : String} {reply : Except ClientError AccountBalance} {s s' : σ}

theorem run_tokenBalance_native {token : Token} (htoken : token.kind = .native)
    (haccount : session.account = some account)
    (hreply : chain.balance account s = (reply, s')) (w : ω) :
    ((session.tokenBalance token).run chain wallet s w).result = reply.map (·.available) := by
  rw [tokenBalance, run_signedIn_bind, haccount]
  dsimp only
  rw [htoken]
  dsimp only
  rw [Dialog.run_bind, Dialog.run_balance chain wallet hreply]
  cases reply <;> rfl

private theorem gasReserve_lt_available_iff {balance : AccountBalance} :
    gasReserve < balance.available ↔
      balance.locked.units + 6 * 10 ^ 23 < balance.total.units := by
  change 6 * 10 ^ 23 < balance.total.units - balance.locked.units ↔ _
  rw [Nat.lt_sub_iff_add_lt, Nat.add_comm]

private theorem gasReserve_lt_iff_compareDigits {a : Amount} :
    gasReserve < a ↔ Decimal.compareDigits a.digits gasReserve.digits = .gt := by
  rw [Amount.compareDigits_digits, Nat.compare_eq_gt]
  rfl

theorem run_gasCheck (haccount : session.account = some account)
    (hreply : chain.balance account s = (reply, s')) (w : ω) :
    (session.gasCheck.run chain wallet s w).result = reply.map fun balance =>
      decide (balance.locked.units + 6 * 10 ^ 23 < balance.total.units) := by
  simp only [← gasReserve_lt_available_iff]
  rw [gasCheck, run_signedIn_bind, haccount]
  dsimp only
  rw [Dialog.run_bind, Dialog.run_balance chain wallet hreply]
  cases reply <;> rfl

private theorem run_gasCheck_digits (haccount : session.account = some account)
    (hreply : chain.balance account s = (reply, s')) (w : ω) :
    (session.gasCheck.run chain wallet s w).result = reply.map fun balance =>
      Decimal.compareDigits balance.available.digits gasReserve.digits == .gt := by
  have hdigits : ∀ balance : AccountBalance,
      decide (balance.locked.units + 6 * 10 ^ 23 < balance.total.units) =
        (Decimal.compareDigits balance.available.digits gasReserve.digits == .gt) := by
    intro balance
    rw [Bool.eq_iff_iff, decide_eq_true_eq, beq_iff_eq, ← gasReserve_lt_iff_compareDigits,
      gasReserve_lt_available_iff]
  simp only [← hdigits]
  exact run_gasCheck chain wallet haccount hreply w

theorem ofHuman_gasReserve : Amount.ofHuman "0.6" = .ok gasReserve := rfl

end Session

namespace Rpc

open Decimal (canonical compareDigits)

/-- What a session makes of the result of a node that has not refused the request. The balance is
read exactly if both texts in the result are decimals of numbers of 128 bits, and these are what
there is and what is locked. What is available is their difference without wrap-around and is the
balance of NEAR. The gas check compares digits, of what is available and of the reserve, and holds
exactly if there is more than what is locked and the reserve together. If a text is no such decimal
all three end with the error of its field. -/
theorem balance_read_exactly (amm : Amm) (account : String) {token : Token}
    (htoken : token.kind = .native) {body : ByteArray} {answer result : Json}
    (hbody : Json.ofBytes? body = some answer) (hfine : ¬ IsRefusal answer)
    (hresult : answer.HasField "result" result) (later : List (Option ByteArray))
    (wallet : Wallet ω) (w : ω) :
    let session : Session := ⟨amm, some account⟩
    let answers := some body :: later
    let reply := (node.balance account answers).1
    let held := ((session.tokenBalance token).run node wallet answers w).result
    let gas := (session.gasCheck.run node wallet answers w).result
    (∀ balance, reply = .ok balance ↔
      TellsBalance result balance.total.units balance.locked.units) ∧
    (gas = .ok true ↔
      ∃ total locked, TellsBalance result total locked ∧ locked + 6 * 10 ^ 23 < total) ∧
    (∃ units, Decimal.scale "0.6".toList = .ok units ∧
      Session.gasReserve.digits = canonical units) ∧
    (∀ total locked, TellsBalance result total locked → ∃ balance : AccountBalance,
      reply = .ok balance ∧ balance.Accounts total locked ∧ held = .ok balance.available ∧
      gas = .ok (decide (locked + 6 * 10 ^ 23 < total)) ∧
      gas = .ok (compareDigits balance.available.digits Session.gasReserve.digits == .gt)) ∧
    ((∀ total locked, ¬ TellsBalance result total locked) →
      ∃ name ∈ ["amount", "locked"],
        let e : ClientError := .reply balanceLabel (.badField name)
        reply = .error e ∧ held = .error e ∧ gas = .error e) := by
  intro session answers reply held gas
  obtain ⟨levels, hfree⟩ := (Json.isFreeForm_of_ofBytes? hbody).field hresult
  have hnode := node_balance hbody hfine hresult account later
  have hreply : reply = readBalanceFields result := congrArg Prod.fst hnode
  have hheld : held = (readBalanceFields result).map (·.available) :=
    Session.run_tokenBalance_native node wallet htoken rfl hnode w
  have hgas : gas = (readBalanceFields result).map fun balance =>
      decide (balance.locked.units + 6 * 10 ^ 23 < balance.total.units) :=
    Session.run_gasCheck node wallet rfl hnode w
  have hdigits : gas = (readBalanceFields result).map fun balance =>
      compareDigits balance.available.digits Session.gasReserve.digits == .gt :=
    Session.run_gasCheck_digits node wallet rfl hnode w
  refine ⟨?_, ?_, Amount.ofHuman_eq_ok_iff_digits.mp Session.ofHuman_gasReserve, ?_, ?_⟩
  · intro balance
    rw [hreply]
    exact readBalanceFields_eq_ok_iff hfree
  · simp only [hgas, map_readBalanceFields_eq_ok_iff hfree, decide_eq_true_eq]
  · intro total locked htells
    have hok : readBalanceFields result = .ok ⟨⟨total⟩, ⟨locked⟩⟩ :=
      (readBalanceFields_eq_ok_iff hfree).mpr htells
    have haccounts := AccountBalance.accounts_of_lt htells.total.lt htells.locked.lt
    rw [hok] at hreply hheld hgas hdigits
    exact ⟨_, hreply, haccounts, hheld, hgas, hdigits⟩
  · intro hnone
    obtain ⟨name, hname, herror⟩ := readBalanceFields_eq_error hfree hnone
    rw [herror] at hreply hheld hgas
    exact ⟨name, hname, hreply, hheld, hgas⟩

private theorem tellsBalance_pair_iff {total locked : String} {m n : ℕ} :
    TellsBalance (.object [("amount", .string total), ("locked", .string locked)]) m n ↔
      AccountBalance.readUnits? total = some ⟨m⟩ ∧
        AccountBalance.readUnits? locked = some ⟨n⟩ := by
  rw [AccountBalance.readUnits?_eq_some_iff, AccountBalance.readUnits?_eq_some_iff]
  constructor
  · rintro ⟨⟨s, hs, htotal⟩, ⟨t, ht, hlocked⟩⟩
    obtain rfl : s = total := by simpa using hs
    obtain rfl : t = locked := by simpa using ht
    exact ⟨htotal, hlocked⟩
  · rintro ⟨htotal, hlocked⟩
    exact ⟨⟨total, by simp, htotal⟩, ⟨locked, by simp, hlocked⟩⟩

/-- The greatest number of 128 bits of which all but the reserve is locked, one unit less locked
with a plus in front, more locked than there is, and a text with a minus. -/
theorem balance_read_exactly_boundary :
    let session : Session := ⟨⟨"amm.testnet"⟩, some "alice.testnet"⟩
    let told (total locked : String) : Json :=
      .object [("amount", .string total), ("locked", .string locked)]
    let answers (result : Json) : List (Option ByteArray) :=
      [some (Json.object [("result", result)]).render.toUTF8]
    let wallet := Script.wallet session.account
    let held (result : Json) :=
      ((session.tokenBalance .near).run node wallet (answers result) none).result
    let gas (result : Json) := (session.gasCheck.run node wallet (answers result) none).result
    let reserved := told "340282366920938463463374607431768211455"
      "340282366920937863463374607431768211455"
    let freed := told "340282366920938463463374607431768211455"
      "+340282366920937863463374607431768211454"
    TellsBalance reserved (2 ^ 128 - 1) (2 ^ 128 - 1 - 6 * 10 ^ 23) ∧ gas reserved = .ok false ∧
      TellsBalance freed (2 ^ 128 - 1) (2 ^ 128 - 2 - 6 * 10 ^ 23) ∧ gas freed = .ok true ∧
      TellsBalance (told "1" "3") 1 3 ∧ held (told "1" "3") = .ok .zero ∧
      (∀ total locked, ¬ TellsBalance (told "-1" "0") total locked) ∧
      ∃ e, held (told "-1" "0") = .error e ∧ gas (told "-1" "0") = .error e := by
  intro session told answers wallet held gas reserved freed
  have hbody : ∀ total locked, Json.ofBytes?
      (Json.object [("result", told total locked)]).render.toUTF8 =
        some (.object [("result", told total locked)]) := by
    intro total locked
    apply Json.ofBytes?_render
    · simp [told]
    · have hsorted : "amount" < "locked" := by decide
      have hdepth : (Json.object [("result", told total locked)]).IsFreeForm 3 := by
        simp [told, hsorted, -String.lt_iff_ltb]
      exact hdepth.mono (by decide)
  have hfine : ∀ total locked, ¬ IsRefusal (.object [("result", told total locked)]) := by
    simp [IsRefusal, told]
  have hresult : ∀ total locked, (Json.object [("result", told total locked)]).HasField "result"
      (told total locked) := by
    simp
  have hread := fun total locked => balance_read_exactly session.amm "alice.testnet"
    (show Token.near.kind = .native from rfl) (hbody total locked) (hfine total locked)
    (hresult total locked) [] wallet none
  have hreserved : TellsBalance reserved (2 ^ 128 - 1) (2 ^ 128 - 1 - 6 * 10 ^ 23) :=
    tellsBalance_pair_iff.mpr ⟨by decide, by decide⟩
  have hfreed : TellsBalance freed (2 ^ 128 - 1) (2 ^ 128 - 2 - 6 * 10 ^ 23) :=
    tellsBalance_pair_iff.mpr ⟨by decide, by decide⟩
  have hover : TellsBalance (told "1" "3") 1 3 :=
    tellsBalance_pair_iff.mpr ⟨by decide, by decide⟩
  have hminus : ∀ total locked, ¬ TellsBalance (told "-1" "0") total locked := by
    intro total locked h
    have hnone : AccountBalance.readUnits? "-1" = none := rfl
    have hsome := (tellsBalance_pair_iff.mp h).1
    rw [hnone] at hsome
    contradiction
  obtain ⟨-, -, -, hfalse, -⟩ := hread "340282366920938463463374607431768211455"
    "340282366920937863463374607431768211455"
  obtain ⟨-, htrue, -⟩ := hread "340282366920938463463374607431768211455"
    "+340282366920937863463374607431768211454"
  obtain ⟨-, -, -, hover', -⟩ := hread "1" "3"
  obtain ⟨-, -, -, -, herror⟩ := hread "-1" "0"
  obtain ⟨-, -, -, -, hfalse, -⟩ := hfalse _ _ hreserved
  obtain ⟨balance, -, haccounts, hheld, -⟩ := hover' _ _ hover
  obtain ⟨name, -, -, herror, herror'⟩ := herror hminus
  rw [haccounts.overdrawn (by decide)] at hheld
  exact ⟨hreserved, hfalse, hfreed, htrue.mpr ⟨_, _, hfreed, by decide⟩, hover, hheld, hminus, _,
    herror, herror'⟩

end Rpc

end SwapDesk
