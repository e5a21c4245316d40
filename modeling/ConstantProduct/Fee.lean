import ConstantProduct.FixedPoint

namespace ConstantProduct

structure FeeSplit where
  tradeFee : Amount
  protocolFee : Amount
  fundFee : Amount
  deriving DecidableEq, Repr, Inhabited

/-- What remains of the trade fee for the liquidity providers. -/
def FeeSplit.lpFee (s : FeeSplit) : Result Amount := do
  let rest ← s.tradeFee.sub s.protocolFee
  rest.sub s.fundFee

namespace Fee

/-- All of an amount, as a rate: rates are parts per million. -/
def whole : Amount := 1000000

def checkRate (rate : Amount) : Result Unit :=
  if whole < rate then .error (.invalidFeeRate rate .aboveWhole) else .ok ()

def checkShares (protocolRate fundRate : Amount) : Result Unit := do
  checkRate protocolRate
  checkRate fundRate
  let sum ← protocolRate.add fundRate
  if whole < sum then throw (.invalidFeeRate sum .sumAboveWhole)

/-- The fee on `amount`, rounded up. -/
def trade (amount rate : Amount) : Result Amount := do
  checkRate rate
  let fee ← mulDiv amount.wide rate.wide whole.wide .up
  fee.amount .tradeFee

/-- One share of a trade fee, rounded down. -/
def share (tradeFee rate : Amount) : Result Amount := do
  let part ← mulDiv tradeFee.wide rate.wide whole.wide .down
  part.amount .feeShare

def shares (tradeFee protocolRate fundRate : Amount) : Result (Amount × Amount) := do
  checkShares protocolRate fundRate
  let protocolFee ← share tradeFee protocolRate
  let fundFee ← share tradeFee fundRate
  return (protocolFee, fundFee)

def split (tradeFee protocolRate fundRate : Amount) : Result FeeSplit := do
  let (protocolFee, fundFee) ← shares tradeFee protocolRate fundRate
  return ⟨tradeFee, protocolFee, fundFee⟩

end Fee

end ConstantProduct
