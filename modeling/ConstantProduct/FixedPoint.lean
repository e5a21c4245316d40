import ConstantProduct.Word

namespace ConstantProduct

inductive Rounding where
  | up
  | down
  deriving DecidableEq, Repr

def Rounding.ofRoundUp (roundUp : Bool) : Rounding := if roundUp then up else down

/-- `a * b / d`, rounded as asked. The product is formed in 256 bits, so that no digit of it is lost
before the division. -/
def mulDiv (a b d : Wide) (rounding : Rounding) : Result Wide := do
  if d = 0 then throw (.divisionByZero .mulDiv)
  let product := a.setWidth 256 * b.setWidth 256
  let divisor := d.setWidth 256
  let floor := product / divisor
  let quotient ←
    if rounding = .up ∧ product % divisor ≠ 0 then
      if floor = BitVec.allOnes 256 then throw (.overflow .mulDivRounding) else pure (floor + 1)
    else pure floor
  if quotient.toNat < Wide.size then return quotient.setWidth 128
  throw (.overflow .mulDiv)

def ceilDiv (a b : Wide) : Result Wide :=
  if b = 0 then .error (.divisionByZero .ceilDiv)
  else if a % b = 0 then .ok (a / b)
  else Wide.add (a / b) 1

/-- Price of one unit of the denominator's token in the numerator's, with 32 fractional bits. -/
def priceX32 (numerator denominator : Amount) : Result Wide :=
  if denominator = 0 then .error (.divisionByZero .price)
  else .ok ((numerator.wide <<< 32) / denominator.wide)

end ConstantProduct
