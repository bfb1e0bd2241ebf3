import SwapDesk.Proofs.Amount.Scale
import SwapDesk.Proofs.Session.Operation
import SwapDesk.Session.Script

/-!
# Spellings of an amount

A number has many decimal texts: blanks around it, zeros at either end, a point with nothing after
it. An operation reads each of its texts once and goes on with the amount, so a session shows no
difference between the spellings of a number.
-/

namespace SwapDesk

variable {σ ω : Type}

namespace Amount

/-- Both texts are accepted as amounts and write one number. -/
structure SameNumber (s t : String) : Prop where
  left : ∃ a, ofHuman s = .ok a
  right : ∃ a, ofHuman t = .ok a
  number : ∃ q, Decimal.Denotes (Text.trim s.toList) q ∧ Decimal.Denotes (Text.trim t.toList) q

private theorem Writes.units_eq {s : String} {a : Amount} (h : Writes s a) {q : ℚ}
    (hq : Decimal.Denotes (Text.trim s.toList) q) : q * 10 ^ Decimal.places = a.units := by
  obtain ⟨p, hp, hunits⟩ := h
  rw [hq.unique hp]
  exact hunits

private theorem sameNumber_iff {s t : String} :
    SameNumber s t ↔ ∃ a, ofHuman s = .ok a ∧ ofHuman t = .ok a := by
  constructor
  · rintro ⟨⟨a, ha⟩, ⟨b, hb⟩, q, hs, ht⟩
    have hleft : q * 10 ^ Decimal.places = a.units := (ofHuman_eq_ok_iff.mp ha).units_eq hs
    have hright : q * 10 ^ Decimal.places = b.units := (ofHuman_eq_ok_iff.mp hb).units_eq ht
    have hunits : a.units = b.units := Nat.cast_inj.mp (hleft.symm.trans hright)
    have hab : a = b := by rw [mk.injEq, hunits]
    exact ⟨a, ha, hab ▸ hb⟩
  · rintro ⟨a, hs, ht⟩
    obtain ⟨p, hp, hleft⟩ := ofHuman_eq_ok_iff.mp hs
    obtain ⟨q, hq, hright⟩ := ofHuman_eq_ok_iff.mp ht
    have hpos : (10 : ℚ) ^ Decimal.places ≠ 0 := pow_ne_zero _ (by norm_num)
    have hpq : p = q := mul_right_cancel₀ hpos (hleft.trans hright.symm)
    exact ⟨⟨a, hs⟩, ⟨a, ht⟩, p, hp, hpq ▸ hq⟩

/-- The text stays as it is, or another spelling of its number takes its place. -/
def Respells (s t : String) : Prop :=
  s = t ∨ SameNumber s t

private theorem Respells.typed_eq {s t : String} (h : Respells s t) :
    Session.typed s = Session.typed t := by
  obtain rfl | hsame := h
  · rfl
  · obtain ⟨a, hs, ht⟩ := sameNumber_iff.mp hsame
    rw [Session.typed, Session.typed, hs, ht]

end Amount

namespace Operation

open Amount (Respells)

/-- The same operation, with other spellings of any of the amounts that are typed for it. -/
inductive Respelled : Operation → Operation → Prop
  | quoteFromIn {source target : Token} {a b : String} (amount : Respells a b) :
      Respelled (.quoteFromIn source target a) (.quoteFromIn source target b)
  | quoteFromOut {source target : Token} {a b : String} (amount : Respells a b) :
      Respelled (.quoteFromOut source target a) (.quoteFromOut source target b)
  | swapFromIn {source target : Token} {a b c d : String} (amount : Respells a b)
      (least : Respells c d) :
      Respelled (.swapFromIn source target a c) (.swapFromIn source target b d)
  | swapFromOut {source target : Token} {most : Amount} {a b : String} (amount : Respells a b) :
      Respelled (.swapFromOut source target most a) (.swapFromOut source target most b)
  | createPool {token : Token} {a b c d e f : String} (near : Respells a b)
      (mostTokens : Respells c d) (leastShares : Respells e f) :
      Respelled (.createPool token a c e) (.createPool token b d f)
  | addLiquidity {token : Token} {a b c d e f : String} (near : Respells a b)
      (mostTokens : Respells c d) (leastShares : Respells e f) :
      Respelled (.addLiquidity token a c e) (.addLiquidity token b d f)
  | incAllowance {token : Token} {a b : String} (amount : Respells a b) :
      Respelled (.incAllowance token a) (.incAllowance token b)
  | refl (operation : Operation) : Respelled operation operation

private theorem addLiquidity_eq {session : Session} {token : Token} {a b c d e f : String}
    (hnear : Respells a b) (hmost : Respells c d) (hleast : Respells e f) :
    session.addLiquidity token a c e = session.addLiquidity token b d f := by
  simp only [Session.addLiquidity, hnear.typed_eq, hmost.typed_eq, hleast.typed_eq]

theorem Respelled.dialog_eq {left right : Operation} (h : left.Respelled right)
    (session : Session) : left.dialog session = right.dialog session := by
  cases h with
  | quoteFromIn amount =>
    simp only [dialog, Session.quoteFromIn, amount.typed_eq]
  | quoteFromOut amount =>
    simp only [dialog, Session.quoteFromOut, amount.typed_eq]
  | swapFromIn amount least =>
    simp only [dialog, Session.swapFromIn, amount.typed_eq, least.typed_eq]
  | swapFromOut amount =>
    simp only [dialog, Session.swapFromOut, amount.typed_eq]
  | createPool near mostTokens leastShares =>
    simp only [dialog, Session.createPool, addLiquidity_eq near mostTokens leastShares]
  | addLiquidity near mostTokens leastShares =>
    simp only [dialog, addLiquidity_eq near mostTokens leastShares]
  | incAllowance amount =>
    simp only [dialog, Session.incAllowance, amount.typed_eq]
  | refl => rfl

end Operation

namespace Turn

/-- The same turn, with other spellings of any of the amounts that are typed in it. -/
def Respelled (left right : Turn) : Prop :=
  left.account = right.account ∧ left.operation.Respelled right.operation

theorem Respelled.run_eq {left right : Turn} (h : left.Respelled right) (amm : Amm)
    (chain : Chain σ) (wallet : Wallet ω) (s : σ) (w : ω) :
    left.run chain wallet amm s w = right.run chain wallet amm s w := by
  obtain ⟨haccount, hoperation⟩ := h
  rw [Turn.run, Turn.run, haccount, hoperation.dialog_eq]

/-- A session cannot tell the spellings of a number from each other. Two runs of the same turns on
the same chain and wallet, in which any of the typed amounts are spelled differently, have the same
outcomes: the results, what is asked and sent, and what the chain and the wallet are left with. -/
theorem spelling_unseen (amm : Amm) (chain : Chain σ) (wallet : Wallet ω) (s : σ) (w : ω)
    {turns others : List Turn} (h : List.Forall₂ Respelled turns others) :
    (runAll chain wallet amm turns s w).map Prod.snd =
      (runAll chain wallet amm others s w).map Prod.snd := by
  -- Equal outcomes leave the same chain and wallet, so the runs go on from the same states.
  induction h generalizing s w with
  | nil => rfl
  | cons hturn _ ih =>
    rw [runAll, runAll, List.map_cons, List.map_cons, hturn.run_eq amm chain wallet s w]
    dsimp only
    rw [ih]

/-- One and a half in three spellings, and a text that is refused. -/
theorem spelling_unseen_zeros :
    let dai : Token := ⟨"DAI", .nep21, "dai.testnet"⟩
    let user : Option String := some "alice.testnet"
    let wallet := Script.wallet user
    let turns : List Turn := [⟨user, .swapFromIn .near dai "1.5" "2"⟩,
      ⟨user, .createPool dai "1.5" "x" "0"⟩]
    let others : List Turn := [⟨user, .swapFromIn .near dai " 001.500 " "2."⟩,
      ⟨user, .createPool dai "1.50000000000000000000000000000000000000000" "x" "."⟩]
    List.Forall₂ Respelled turns others ∧
      (runAll Script.chain wallet ⟨"amm.testnet"⟩ turns [.value .null] none).map Prod.snd =
        (runAll Script.chain wallet ⟨"amm.testnet"⟩ others [.value .null] none).map Prod.snd := by
  intro dai user wallet turns others
  have hblanks : Amount.SameNumber "1.5" " 001.500 " :=
    Amount.sameNumber_iff.mpr ⟨⟨15 * 10 ^ 23⟩, rfl, rfl⟩
  have hzeros : Amount.SameNumber "1.5" "1.50000000000000000000000000000000000000000" :=
    Amount.sameNumber_iff.mpr ⟨⟨15 * 10 ^ 23⟩, rfl, rfl⟩
  have hpoint : Amount.SameNumber "2" "2." := Amount.sameNumber_iff.mpr ⟨⟨2 * 10 ^ 24⟩, rfl, rfl⟩
  have hnothing : Amount.SameNumber "0" "." := Amount.sameNumber_iff.mpr ⟨.zero, rfl, rfl⟩
  have h : List.Forall₂ Respelled turns others :=
    .cons ⟨rfl, .swapFromIn (.inr hblanks) (.inr hpoint)⟩
      (.cons ⟨rfl, .createPool (.inr hzeros) (.inl rfl) (.inr hnothing)⟩ .nil)
  exact ⟨h, spelling_unseen _ _ _ _ _ h⟩

end Turn

end SwapDesk
