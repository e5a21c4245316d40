import ConstantProduct.Decimal

namespace ConstantProduct

/-- A binary floating-point number of 64 bits, as an exact value. -/
inductive Binary64 where
  | nan
  | infinite (negative : Bool)
  /-- The number `mantissa * 2 ^ exponent`, below zero if `negative`. -/
  | finite (negative : Bool) (mantissa : Nat) (exponent : Int)
  deriving DecidableEq, Repr

namespace Binary64

def hiddenBit : Nat := 0x10000000000000

def minExponent : Int := -1074

/-- The number nearest to `n / d`, a tie going to the even mantissa; `n` and `d` are positive. -/
def ofRatio (negative : Bool) (n d : Nat) : Binary64 :=
  -- `n / d` lies between `2 ^ (size - 1)` and `2 ^ (size + 1)`.
  let size : Int := (n.log2 : Int) - (d.log2 : Int)
  let small : Bool :=
    if 0 ≤ size then n < d <<< size.toNat else n <<< (-size).toNat < d
  let exponent := max ((if small then size - 1 else size) - 52) minExponent
  let mantissa :=
    if 0 ≤ exponent then roundHalfEven n (d <<< exponent.toNat)
    else roundHalfEven (n <<< (-exponent).toNat) d
  if 1024 ≤ (mantissa.log2 : Int) + exponent then infinite negative
  else if mantissa = 2 * hiddenBit then finite negative hiddenBit (exponent + 1)
  else finite negative mantissa exponent

def ofDecimal (negative : Bool) (digits : Nat) (exponent : Int) : Binary64 :=
  if digits = 0 then finite negative 0 0
  else
    -- The decimal is at least `10 ^ exponent` and below `10 ^ (exponent + length)`.
    let length : Int := (Nat.toDigits 10 digits).length
    if 310 < exponent + length then infinite negative
    else if exponent + length < -330 then finite negative 0 minExponent
    else if 0 ≤ exponent then ofRatio negative (digits * tenTo exponent.toNat) 1
    else ofRatio negative digits (tenTo (-exponent).toNat)

def isNonzero : Binary64 → Bool
  | finite _ mantissa _ => mantissa != 0
  | _ => true

/-- The natural number nearest to the number, a half going up: zero for what is below, `limit` for
what is above it. -/
def round (limit : Nat) : Binary64 → Nat
  | nan => 0
  | infinite negative => if negative then 0 else limit
  | finite true _ _ => 0
  | finite false mantissa exponent =>
    if 0 ≤ exponent then min limit (mantissa <<< exponent.toNat)
    else
      let unit := 1 <<< (-exponent).toNat
      min limit ((2 * mantissa + unit) / (2 * unit))

/-- A positive number and the interval of what rounds to it, all over one denominator. -/
structure Interval where
  low : Nat
  value : Nat
  high : Nat
  denominator : Nat
  /-- The ends belong to the interval. -/
  closed : Bool

def interval (mantissa : Nat) (exponent : Int) : Interval :=
  -- Below a power of two the neighbour is half as far.
  let below := if mantissa = hiddenBit ∧ minExponent < exponent then 1 else 2
  let up := 1 <<< (exponent - 2).toNat
  { low := (4 * mantissa - below) * up
    value := 4 * mantissa * up
    high := (4 * mantissa + 2) * up
    denominator := 1 <<< (2 - exponent).toNat
    closed := mantissa % 2 == 0 }

def Interval.contains (i : Interval) (c : Nat) (place : Int) : Bool :=
  let point := c * tenTo place.toNat * i.denominator
  let scale := tenTo (-place).toNat
  if i.closed then i.low * scale ≤ point && point ≤ i.high * scale
  else i.low * scale < point && point < i.high * scale

/-- The multiple of `10 ^ place` in the interval that is nearest to its value, if there is one; of
two that are equally near the larger. -/
def Interval.nearest? (i : Interval) (place : Int) : Option Nat :=
  let n := i.value * tenTo (-place).toNat
  let d := i.denominator * tenTo place.toNat
  let floor := n / d
  let down := i.contains floor place
  let up := i.contains (floor + 1) place
  if up && (!down || d ≤ 2 * (n % d)) then some (floor + 1)
  else if down then some floor
  else none

/-- The coarsest place at or below `place` with a multiple in the interval, and that multiple. -/
def Interval.coarsest? (i : Interval) : (fuel : Nat) → (place : Int) → Option (Nat × Int)
  | 0, _ => none
  | fuel + 1, place =>
    match i.nearest? place with
    | some c => some (c, place)
    | none => i.coarsest? fuel (place - 1)

def positional (c : Nat) (place : Int) : List Char :=
  let digits := Nat.toDigits 10 c
  if 0 ≤ place then digits ++ List.replicate place.toNat '0'
  else
    let places := (-place).toNat
    let padded := List.replicate (places + 1 - digits.length) '0' ++ digits
    padded.take (padded.length - places) ++ '.' :: padded.drop (padded.length - places)

/-- The fewest digits that read back as the number, of those the nearest, written without
exponent. -/
def text : Binary64 → String
  | nan => "NaN"
  | infinite negative => if negative then "-inf" else "inf"
  | finite negative mantissa exponent =>
    let sign := if negative then ['-'] else []
    if mantissa = 0 then String.ofList (sign ++ ['0'])
    else
      let i := interval mantissa exponent
      let place : Int := (Nat.toDigits 10 (i.value / i.denominator)).length
      match i.coarsest? 800 place with
      | some (c, place) => String.ofList (sign ++ positional c place)
      | none => String.ofList sign

end Binary64

end ConstantProduct
