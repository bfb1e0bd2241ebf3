/-!
# Dates and times in TOML

A date, a time of day, or both with an offset from universal time. The readings are strict about
the number of digits; a date and a time are written in one way only.
-/

namespace SwapDesk.Toml

def twoDigits? : List Char → Option (List Char × Nat × List Char)
  | a :: b :: rest =>
    if a.isDigit ∧ b.isDigit then some ([a, b], Nat.ofDigitChars 10 [a, b] 0, rest) else none
  | _ => none

/-- A day: the year, the month and the day of the month. -/
def day? (s : List Char) : Option (List Char × List Char) := do
  let (century, _, s) ← twoDigits? s
  let (year, _, s) ← twoDigits? s
  match s with
  | '-' :: s => do
    let (month, m, s) ← twoDigits? s
    match s with
    | '-' :: s => do
      let (day, d, s) ← twoDigits? s
      if 1 ≤ m ∧ m ≤ 12 ∧ 1 ≤ d ∧ d ≤ 31 then
        some (century ++ year ++ '-' :: month ++ '-' :: day, s)
      else none
    | _ => none
  | _ => none

/-- A fraction of a second: nine digits count, and zeros at the end are not written. -/
def fraction? : List Char → Option (List Char × List Char)
  | '.' :: s =>
    match s.takeWhile Char.isDigit with
    | [] => none
    | digits =>
      let kept := ((digits.take 9).reverse.dropWhile (· == '0')).reverse
      some (if kept = [] then [] else '.' :: kept, s.dropWhile Char.isDigit)
  | s => some ([], s)

def time? (s : List Char) : Option (List Char × List Char) := do
  let (hour, h, s) ← twoDigits? s
  match s with
  | ':' :: s => do
    let (minute, m, s) ← twoDigits? s
    match s with
    | ':' :: s => do
      let (second, n, s) ← twoDigits? s
      let (fraction, s) ← fraction? s
      if h ≤ 24 ∧ m ≤ 59 ∧ n ≤ 59 then
        some (hour ++ ':' :: minute ++ ':' :: second ++ fraction, s)
      else none
    | _ => none
  | _ => none

/-- An offset of hours and minutes. An offset of no hours is written with a plus. -/
def offset? : List Char → Option (List Char)
  | [] => some []
  | ['Z'] => some ['Z']
  | ['z'] => some ['Z']
  | sign :: s => do
    let (hour, h, s) ← twoDigits? s
    match s with
    | ':' :: s => do
      let (minute, _, s) ← twoDigits? s
      if (sign = '+' ∨ sign = '-') ∧ s = [] then
        some ((if h = 0 then '+' else sign) :: hour ++ ':' :: minute)
      else none
    | _ => none

/-- The one way to write a date, a time, or both. -/
def date? (s : List Char) : Option (List Char) :=
  if s[2]? = some ':' then
    match time? s with
    | some (time, []) => some time
    | _ => none
  else do
    let (day, s) ← day? s
    match s with
    | [] => some day
    | c :: s => do
      if c = 'T' ∨ c = 't' ∨ c = ' ' then
        let (time, s) ← time? s
        let offset ← offset? s
        some (day ++ 'T' :: time ++ offset)
      else none

end SwapDesk.Toml
