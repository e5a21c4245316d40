import ConstantProduct.Decimal
import ConstantProduct.PoolId
import ConstantProduct.Quote

namespace ConstantProduct

inductive Status where
  | uninitialized
  | active
  deriving DecidableEq, Repr, Inhabited

def Status.name : Status → String
  | uninitialized => "Uninitialized"
  | active => "Active"

structure Pool where
  id : PoolId
  tier : UInt16
  oracleKey : PoolId
  status : Status
  /-- Flags set by an outside authority; bit 0 stops swaps. -/
  statusBits : UInt8
  /-- Swaps are accepted after this time only. -/
  openTime : Int64
  reserves : PerToken Amount
  protocolFees : PerToken Amount
  fundFees : PerToken Amount
  deriving DecidableEq, Repr, Inhabited

namespace Pool

/-- An active pool with the given reserves, which must not be zero. -/
def create (id : PoolId) (tier : FeeTier) (reserves : PerToken Amount) (openTime : Int64) :
    Result Pool := do
  tier.validate
  if tier.creationDisabled then throw (.creationDisabled tier.index)
  if reserves.zero = 0 ∨ reserves.one = 0 then throw (.emptyReserve reserves)
  return {
    id := id
    tier := tier.index
    oracleKey := id
    status := .active
    statusBits := 0
    openTime := openTime
    reserves := reserves
    protocolFees := .both 0
    fundFees := .both 0 }

def invariant (p : Pool) : Wide := Curve.invariant p.reserves

def swapsEnabled (p : Pool) : Bool := p.statusBits &&& 1 == 0

/-- Refuses a swap on a pool that is not active, is stopped or has not opened. -/
def ensureSwappable (p : Pool) (timestamp : Int64) : Result Unit := do
  if p.status ≠ .active ∨ ¬ p.swapsEnabled then throw (.poolNotActive p.statusBits)
  if timestamp ≤ p.openTime then throw (.poolNotOpen p.openTime timestamp)

def spotPrices (p : Pool) : Result (PerToken Wide) := do
  let price0 ← priceX32 p.reserves.one p.reserves.zero
  let price1 ← priceX32 p.reserves.zero p.reserves.one
  return ⟨price0, price1⟩

/-- The price of token zero in token one. -/
def spotPrice? (p : Pool) : Option Decimal :=
  Decimal.nearest? p.reserves.one.toNat p.reserves.zero.toNat

/-- All that the vault of one token holds. -/
def vaultBalance (p : Pool) (t : Token) : Result Amount :=
  match (p.reserves.get t).add? (p.protocolFees.get t) with
  | none => .error (.overflow (.vaultBalance t))
  | some sum =>
    match sum.add? (p.fundFees.get t) with
    | none => .error (.overflow (.vaultBalance t))
    | some balance => .ok balance

def vaultBalances (p : Pool) : Result (PerToken Amount) := do
  let balance0 ← p.vaultBalance .zero
  let balance1 ← p.vaultBalance .one
  return ⟨balance0, balance1⟩

def accumulate (accumulator : Accumulator) (current delta : Amount) : Result Amount :=
  match current.add? delta with
  | none => .error (.accumulatorOverflow accumulator current delta)
  | some sum => .ok sum

/-- The pool after a swap at `q`, refused unless every balance fits and the product of the reserves
has not fallen. -/
def book (p : Pool) (q : Quote) : Result Pool := do
  let sold := q.direction.sold
  let bought := q.direction.bought
  let credit ← q.reserveCredit
  let reserveIn ←
    match (p.reserves.get sold).add? credit with
    | none => throw (.overflow .inputCredit)
    | some sum => pure sum
  let reserveOut ←
    match (p.reserves.get bought).sub? q.amountOut with
    | none => throw (.insufficientLiquidity q.amountOut (p.reserves.get bought))
    | some rest =>
      if rest = 0 then throw (.insufficientLiquidity q.amountOut (p.reserves.get bought))
      else pure rest
  let protocolFee ← accumulate (.protocol sold) (p.protocolFees.get sold) q.fees.protocolFee
  let fundFee ← accumulate (.fund sold) (p.fundFees.get sold) q.fees.fundFee
  let next := { p with
    reserves := (p.reserves.set sold reserveIn).set bought reserveOut
    protocolFees := p.protocolFees.set sold protocolFee
    fundFees := p.fundFees.set sold fundFee }
  let _ ← next.vaultBalances
  if next.invariant < p.invariant then throw (.invariantDecreased p.invariant next.invariant)
  return next

/-- What of a request the unclaimed fees cover. -/
def covered (requested accrued : PerToken Amount) : PerToken Amount :=
  ⟨min requested.zero accrued.zero, min requested.one accrued.one⟩

def remaining (accrued taken : PerToken Amount) : PerToken Amount :=
  ⟨accrued.zero - taken.zero, accrued.one - taken.one⟩

def flip (p : Pool) : Pool := { p with
  reserves := p.reserves.flip
  protocolFees := p.protocolFees.flip
  fundFees := p.fundFees.flip }

end Pool

end ConstantProduct
