import ConstantProduct.Text.Basic
import ConstantProduct.Toml.Moment
import ConstantProduct.Toml.Quoted
import ConstantProduct.Toml.Value

namespace ConstantProduct.Toml.Scalar

/-- Digits of a kind, with single underscores between them; answers the digits alone. -/
def grouped? (isDigit : Char → Bool) : List Char → Option (List Char)
  | [] => none
  | [c] => if isDigit c then some [c] else none
  | c :: '_' :: rest => if isDigit c then (grouped? isDigit rest).map (c :: ·) else none
  | c :: rest => if isDigit c then (grouped? isDigit rest).map (c :: ·) else none

def decimal? (s : List Char) : Option (List Char) := do
  let digits ← grouped? Char.isDigit s
  if digits.head? = some '0' ∧ digits.length ≠ 1 then none else return digits

def based? (base : Nat) (s : List Char) : Option Nat := do
  let isDigit c := (Quoted.hexValue? c).any (· < base)
  let digits ← grouped? isDigit s
  digits.foldlM (fun n c => (Quoted.hexValue? c).map (base * n + ·)) 0

/-- An integer of 64 bits, in decimal with or without a sign or, after a mark, in another base. -/
def integer? (s : List Char) : Option Int := do
  let n : Int ←
    match s with
    | '0' :: 'x' :: rest => (based? 16 rest).map Int.ofNat
    | '0' :: 'o' :: rest => (based? 8 rest).map Int.ofNat
    | '0' :: 'b' :: rest => (based? 2 rest).map Int.ofNat
    | s => do
      let (negative, s) := Text.signed s
      let n := Nat.ofDigitChars 10 (← decimal? s) 0
      pure (if negative then -(n : Int) else n)
  if Text.isInt64 n then return n
  none

/-- The exponent after an `e` of either case; none if there is no such letter. -/
def exponent? : List Char → Option (Option Int)
  | [] => some none
  | _ :: s => do
    let (negative, s) := Text.signed s
    let n := Nat.ofDigitChars 10 (← grouped? Char.isDigit s) 0
    return some (if negative then -(n : Int) else n)

def fraction? : List Char → Option (Option (List Char))
  | [] => some none
  | _ :: s => (grouped? Char.isDigit s).map some

/-- A floating-point number: a decimal with a fraction, an exponent or both, or one of two names.
A positive number beyond the largest is none. -/
def float? (s : List Char) : Option Binary64 :=
  let (negative, s) := Text.signed s
  if s = "inf".toList then some (.infinite negative)
  else if s = "nan".toList then some .nan
  else do
    let isExponent c := c == 'e' || c == 'E'
    let mantissa := s.takeWhile (!isExponent ·)
    let exponent ← exponent? (s.dropWhile (!isExponent ·))
    let whole ← decimal? (mantissa.takeWhile (· != '.'))
    let places ← fraction? (mantissa.dropWhile (· != '.'))
    if exponent.isNone ∧ places.isNone then none
    else
      let places := places.getD []
      let digits := Nat.ofDigitChars 10 (whole ++ places) 0
      let x := Binary64.ofDecimal negative digits (exponent.getD 0 - places.length)
      if x = .infinite false then none else return x

def ofToken? (s : List Char) : Option Value :=
  if s = "true".toList then some (.boolean true)
  else if s = "false".toList then some (.boolean false)
  else
    match Moment.text? s, integer? s with
    | some text, _ => some (.moment (String.ofList text))
    | none, some n => some (.integer n)
    | none, none => (float? s).map .float

def isTokenChar (c : Char) : Bool :=
  c.isAlphanum || c == '+' || c == '-' || c == '_' || c == '.' || c == ':'

/-- The run of token characters in front of a text. A time may stand after a date and a blank. -/
def token (s : List Char) : List Char × List Char :=
  let run := s.takeWhile isTokenChar
  let rest := s.dropWhile isTokenChar
  if (Moment.date? run).any (·.2 == []) && Moment.timeFollows rest then
    (run ++ 'T' :: (rest.drop 1).takeWhile isTokenChar, (rest.drop 1).dropWhile isTokenChar)
  else (run, rest)

def read? (s : List Char) : Option (Value × List Char) :=
  match s with
  | '"' :: _ => string s
  | '\x27' :: _ => string s
  | s => do
    let (run, rest) := token s
    return (← ofToken? run, rest)
where
  string (s : List Char) : Option (Value × List Char) := do
    let (text, rest) ← Quoted.string? s
    return (.string text, rest)

end ConstantProduct.Toml.Scalar
