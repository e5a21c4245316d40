namespace ConstantProduct.Toml

structure Date where
  year : Nat
  month : Nat
  day : Nat
  deriving DecidableEq, Repr

structure Time where
  hour : Nat
  minute : Nat
  second : Nat
  nanosecond : Nat
  deriving DecidableEq, Repr

inductive Offset where
  | utc
  | minutes (west : Bool) (minutes : Nat)
  deriving DecidableEq, Repr

namespace Moment

def digit? (c : Char) : Option Nat := if c.isDigit then some (c.toNat - 48) else none

def two? (low high : Nat) : List Char → Option (Nat × List Char)
  | a :: b :: rest => do
    let a ← digit? a
    let b ← digit? b
    if low ≤ 10 * a + b ∧ 10 * a + b ≤ high then return (10 * a + b, rest)
    none
  | _ => none

def char? (c : Char) : List Char → Option (List Char)
  | d :: rest => if c = d then some rest else none
  | [] => none

def isLeap (year : Nat) : Bool := year % 4 == 0 && (year % 100 != 0 || year % 400 == 0)

def daysIn (year month : Nat) : Nat :=
  if month = 2 then if isLeap year then 29 else 28
  else if month = 4 ∨ month = 6 ∨ month = 9 ∨ month = 11 then 30
  else 31

def date? (s : List Char) : Option (Date × List Char) := do
  let (high, s) ← two? 0 99 s
  let (low, s) ← two? 0 99 s
  let year := 100 * high + low
  let s ← char? '-' s
  let (month, s) ← two? 1 12 s
  let s ← char? '-' s
  let (day, s) ← two? 1 31 s
  if day ≤ daysIn year month then return (⟨year, month, day⟩, s)
  none

/-- The digits after the point, as nanoseconds; digits beyond the ninth are dropped. -/
def fraction? : List Char → Option (Nat × List Char)
  | '.' :: s =>
    let digits := s.takeWhile Char.isDigit
    if digits = [] then none
    else
      let kept := (digits ++ List.replicate 9 '0').take 9
      some (Nat.ofDigitChars 10 kept 0, s.dropWhile Char.isDigit)
  | s => some (0, s)

def time? (s : List Char) : Option (Time × List Char) := do
  let (hour, s) ← two? 0 23 s
  let s ← char? ':' s
  let (minute, s) ← two? 0 59 s
  let s ← char? ':' s
  let (second, s) ← two? 0 60 s
  let (nanosecond, s) ← fraction? s
  return (⟨hour, minute, second, nanosecond⟩, s)

def offset? : List Char → Option (Option Offset)
  | [] => some none
  | ['Z'] => some (some .utc)
  | ['z'] => some (some .utc)
  | sign :: s =>
    if sign = '+' ∨ sign = '-' then do
      let (hour, s) ← two? 0 23 s
      let s ← char? ':' s
      let (minute, s) ← two? 0 59 s
      let minutes := 60 * hour + minute
      if s = [] then return some (.minutes (sign = '-' ∧ minutes ≠ 0) minutes)
      none
    else none

def padded (width n : Nat) : List Char :=
  let digits := Nat.toDigits 10 n
  List.replicate (width - digits.length) '0' ++ digits

def dateText (d : Date) : List Char :=
  padded 4 d.year ++ '-' :: padded 2 d.month ++ '-' :: padded 2 d.day

def timeText (t : Time) : List Char :=
  let places := (padded 9 t.nanosecond).reverse.dropWhile (· == '0')
  padded 2 t.hour ++ ':' :: padded 2 t.minute ++ ':' :: padded 2 t.second ++
    if t.nanosecond = 0 then [] else '.' :: places.reverse

def offsetText : Option Offset → List Char
  | none => []
  | some .utc => ['Z']
  | some (.minutes west m) =>
    (if west then '-' else '+') :: padded 2 (m / 60) ++ ':' :: padded 2 (m % 60)

/-- The standard form of a date, a time, or a date and a time after a blank or a letter T of either
case. -/
def text? (s : List Char) : Option (List Char) :=
  match date? s with
  | some (d, []) => some (dateText d)
  | some (d, c :: rest) =>
    if c = 'T' ∨ c = 't' ∨ c = ' ' then do
      let (t, rest) ← time? rest
      let offset ← offset? rest
      return dateText d ++ 'T' :: timeText t ++ offsetText offset
    else none
  | none =>
    match time? s with
    | some (t, []) => some (timeText t)
    | _ => none

/-- An hour and a colon follow after a blank. -/
def timeFollows : List Char → Bool
  | ' ' :: a :: b :: ':' :: _ => a.isDigit && b.isDigit
  | _ => false

end Moment

end ConstantProduct.Toml
