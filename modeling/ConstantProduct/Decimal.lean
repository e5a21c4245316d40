import ConstantProduct.Error

namespace ConstantProduct

/-- Mantissas stay below this number, two to the power of 96. -/
abbrev mantissaBound : Nat := 0x1000000000000000000000000

def tenTo (n : Nat) : Nat := Nat.pow 10 n

/-- The number `mantissa / 10 ^ scale`. -/
structure Decimal where
  mantissa : Nat
  scale : Nat
  mantissa_lt : mantissa < mantissaBound
  scale_le : scale ≤ 28
  deriving DecidableEq, Repr

def roundHalfEven (n d : Nat) : Nat :=
  let floor := n / d
  let twice := 2 * (n % d)
  if twice < d ∨ (twice = d ∧ floor % 2 = 0) then floor else floor + 1

namespace Decimal

def maxScale : Nat := 28

/-- The decimal nearest to `n / d` at the finest scale up to `scale` whose mantissa is in range. -/
def nearestAt? (n d : Nat) : (scale : Nat) → scale ≤ 28 → Option Decimal
  | scale, hs =>
    let mantissa := roundHalfEven (n * tenTo scale) d
    if h : mantissa < mantissaBound then some ⟨mantissa, scale, h, hs⟩
    else match scale, hs with
      | 0, _ => none
      | coarser + 1, hs => nearestAt? n d coarser (Nat.le_of_succ_le hs)

def nearest? (n d : Nat) : Option Decimal :=
  if d = 0 then none else nearestAt? n d maxScale (Nat.le_refl _)

def strip (mantissa : Nat) : Nat → Nat × Nat
  | 0 => (mantissa, 0)
  | scale + 1 => if mantissa % 10 = 0 then strip (mantissa / 10) scale else (mantissa, scale + 1)

theorem strip_snd_le (mantissa scale : Nat) : (strip mantissa scale).2 ≤ scale := by
  induction scale generalizing mantissa with
  | zero => exact Nat.le_refl 0
  | succ scale ih =>
    unfold strip
    split
    · exact Nat.le_succ_of_le (ih _)
    · exact Nat.le_refl _

/-- The sum of a natural number and a decimal, at the decimal's own scale where that is in range
and else rounded once to the finest scale that is. -/
def addNat? (n : Nat) (d : Decimal) : Option Decimal :=
  let short := strip d.mantissa d.scale
  nearestAt? (n * tenTo short.2 + short.1) (tenTo short.2) short.2
    (Nat.le_trans (strip_snd_le _ _) d.scale_le)

/-- The number that a word with 32 fractional bits stands for. -/
def ofX32? (value : Wide) : Option Decimal := do
  let fraction ← nearest? (value.toNat % UInt32.size) UInt32.size
  addNat? (value.toNat / UInt32.size) fraction

/-- Plain digits, without exponent and without zeros at the end of the fraction. -/
def text (d : Decimal) : String :=
  let (mantissa, scale) := strip d.mantissa d.scale
  let digits := Nat.toDigits 10 mantissa
  let padded := List.replicate (scale + 1 - digits.length) '0' ++ digits
  let (whole, places) := padded.splitAt (padded.length - scale)
  String.ofList (if scale = 0 then whole else whole ++ '.' :: places)

end Decimal

end ConstantProduct
