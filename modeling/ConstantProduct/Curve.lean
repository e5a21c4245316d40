import ConstantProduct.Fee

namespace ConstantProduct.Curve

/-- What a payment of `amountIn` buys, and the trade fee in it: the fee is taken first, and the
rest `a` buys `reserveOut * a / (reserveIn + a)`, rounded down. -/
def exactInput (reserveIn reserveOut amountIn feeRate : Amount) : Result (Amount × Amount) := do
  if amountIn = 0 then throw .zeroInput
  let tradeFee ← Fee.trade amountIn feeRate
  let afterFee ← amountIn.sub tradeFee
  let grown ← reserveIn.wide.add afterFee.wide
  let bought ← mulDiv reserveOut.wide afterFee.wide grown .down
  let amountOut ← bought.amount .exactInputOut
  if amountOut = 0 ∨ reserveOut ≤ amountOut then
    throw (.insufficientLiquidity amountOut reserveOut)
  return (amountOut, tradeFee)

/-- What a purchase of `amountOut` costs, and the trade fee in it: the curve asks
`reserveIn * amountOut / (reserveOut - amountOut)`, rounded up, and the payment is the least whose
fee leaves that much. -/
def exactOutput (reserveIn reserveOut amountOut feeRate : Amount) :
    Result (Amount × Amount) := do
  if Fee.whole ≤ feeRate then throw (.invalidFeeRate feeRate .wholeInExactOutput)
  if amountOut = 0 then throw .zeroOutput
  if reserveOut ≤ amountOut then throw (.insufficientLiquidity amountOut reserveOut)
  let remaining ← reserveOut.sub amountOut
  let afterFee ← mulDiv reserveIn.wide amountOut.wide remaining.wide .up
  let kept ← Fee.whole.sub feeRate
  let gross ← mulDiv afterFee Fee.whole.wide kept.wide .up
  let amountIn ← gross.amount .exactOutputIn
  let net ← afterFee.asAmount
  let tradeFee ← amountIn.sub net
  return (amountIn, tradeFee)

def invariant (reserves : PerToken Amount) : Wide := reserves.zero.wide * reserves.one.wide

theorem toNat_invariant (reserves : PerToken Amount) :
    (invariant reserves).toNat = reserves.zero.toNat * reserves.one.toNat := by
  have h0 := reserves.zero.toNat_lt
  have h1 := reserves.one.toNat_lt
  have h : reserves.zero.toNat * reserves.one.toNat < 2 ^ 64 * 2 ^ 64 :=
    Nat.mul_lt_mul'' h0 h1
  rw [invariant, BitVec.toNat_mul, Amount.toNat_wide, Amount.toNat_wide, Nat.mod_eq_of_lt]
  omega

end ConstantProduct.Curve
