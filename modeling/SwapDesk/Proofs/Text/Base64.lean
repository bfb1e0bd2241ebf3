import SwapDesk.Text.Base64

/-!
# Base64 reads back

Every list of bytes is decoded from its text, with each of the three fillings of the last group.
-/

namespace SwapDesk.Text.Base64

private theorem letter_table :
    ∀ n < 64, letterValue? (letter n) = some n ∧ letter n ≠ '=' := by
  decide

private theorem letterValue?_letter {n : Nat} (hn : n < 64) : letterValue? (letter n) = some n :=
  (letter_table n hn).1

private theorem letter_ne_filling {n : Nat} (hn : n < 64) : letter n ≠ '=' := (letter_table n hn).2

private theorem decode?_letters {n : Nat} (hn : n < 16777216) (rest : List Char) :
    decode? (letter (n / 262144) :: letter (n / 4096 % 64) :: letter (n / 64 % 64) ::
        letter (n % 64) :: rest) =
      (decode? rest).map fun more =>
        UInt8.ofNat (n / 65536) :: UInt8.ofNat (n / 256 % 256) :: UInt8.ofNat (n % 256) ::
          more := by
  have h₁ := letterValue?_letter (n := n / 262144) (by omega)
  have h₂ := letterValue?_letter (n := n / 4096 % 64) (by omega)
  have h₃ := letterValue?_letter (n := n / 64 % 64) (by omega)
  have h₄ := letterValue?_letter (n := n % 64) (by omega)
  have hlast : letter (n % 64) ≠ '=' := letter_ne_filling (by omega)
  have hvalue : ((n / 262144 * 64 + n / 4096 % 64) * 64 + n / 64 % 64) * 64 + n % 64 = n := by
    omega
  rw [decode?.eq_4 _ _ _ _ _ (fun _ h => absurd h hlast) (fun h => absurd h hlast)]
  simp only [h₁, h₂, h₃, h₄, hvalue, Option.bind_eq_bind, Option.bind_some]
  cases decode? rest <;> rfl

private theorem decode?_one (a : UInt8) : decode? (encode [a]) = some [a] := by
  have ha := a.toNat_lt
  have h₁ := letterValue?_letter (n := a.toNat * 16 / 64) (by omega)
  have h₂ := letterValue?_letter (n := a.toNat * 16 % 64) (by omega)
  have hvalue : a.toNat * 16 / 64 * 64 + a.toNat * 16 % 64 = a.toNat * 16 := by omega
  have hbits : a.toNat * 16 % 16 = 0 := Nat.mul_mod_left ..
  have hbyte : a.toNat * 16 / 16 = a.toNat := Nat.mul_div_cancel _ (by decide)
  simp only [encode, decode?, h₁, h₂, hvalue, hbits, hbyte, Option.bind_eq_bind, Option.bind_some,
    if_true, UInt8.ofNat_toNat]

private theorem decode?_two (a b : UInt8) : decode? (encode [a, b]) = some [a, b] := by
  have ha := a.toNat_lt
  have hb := b.toNat_lt
  rw [encode]
  generalize hn : (a.toNat * 256 + b.toNat) * 4 = n
  have h₁ := letterValue?_letter (n := n / 4096) (by omega)
  have h₂ := letterValue?_letter (n := n / 64 % 64) (by omega)
  have h₃ := letterValue?_letter (n := n % 64) (by omega)
  have hlast : letter (n % 64) ≠ '=' := letter_ne_filling (by omega)
  have hvalue : (n / 4096 * 64 + n / 64 % 64) * 64 + n % 64 = n := by omega
  have hbits : n % 4 = 0 := by omega
  have hfirst : n / 1024 = a.toNat := by omega
  have hsecond : n / 4 % 256 = b.toNat := by omega
  rw [decode?.eq_3 _ _ _ hlast]
  simp only [h₁, h₂, h₃, hvalue, hbits, hfirst, hsecond, Option.bind_eq_bind, Option.bind_some,
    if_true, UInt8.ofNat_toNat]

theorem decode?_encode (bytes : List UInt8) : decode? (encode bytes) = some bytes := by
  induction bytes using encode.induct with
  | case1 => rfl
  | case2 a => exact decode?_one a
  | case3 a b => exact decode?_two a b
  | case4 a b c rest ih =>
    have ha := a.toNat_lt
    have hb := b.toNat_lt
    have hc := c.toNat_lt
    rw [encode]
    generalize hn : (a.toNat * 256 + b.toNat) * 256 + c.toNat = n
    have hfirst : n / 65536 = a.toNat := by omega
    have hsecond : n / 256 % 256 = b.toNat := by omega
    have hthird : n % 256 = c.toNat := by omega
    rw [decode?_letters (by omega), ih, hfirst, hsecond, hthird]
    simp only [Option.map_some, UInt8.ofNat_toNat]

end SwapDesk.Text.Base64
