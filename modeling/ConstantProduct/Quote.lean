import ConstantProduct.Curve
import ConstantProduct.FeeTier

namespace ConstantProduct

inductive Mode where
  | exactInput
  | exactOutput
  deriving DecidableEq, Repr

def Mode.name : Mode → String
  | exactInput => "ExactInput"
  | exactOutput => "ExactOutput"

/-- The side that the trader fixes, and the bound on the side solved for. -/
inductive Order where
  | exactInput (amountIn minimumOut : Amount)
  | exactOutput (amountOut maximumIn : Amount)
  deriving DecidableEq, Repr

def Order.mode : Order → Mode
  | exactInput .. => .exactInput
  | exactOutput .. => .exactOutput

structure Request where
  direction : Direction
  order : Order
  deriving DecidableEq, Repr

/-- A priced swap that no pool has booked. -/
structure Quote where
  direction : Direction
  mode : Mode
  /-- The side that the trader fixed. -/
  specified : Amount
  /-- The side solved for. -/
  counter : Amount
  /-- What the trader pays, fees included. -/
  amountIn : Amount
  amountOut : Amount
  fees : FeeSplit
  deriving DecidableEq, Repr

structure Receipt where
  direction : Direction
  mode : Mode
  amountIn : Amount
  amountOut : Amount
  fees : FeeSplit
  reserves : PerToken Amount
  timestamp : Int64
  deriving DecidableEq, Repr

namespace Quote

def make (direction : Direction) (mode : Mode) (amountIn amountOut : Amount) (fees : FeeSplit) :
    Quote :=
  match mode with
  | .exactInput => ⟨direction, mode, amountIn, amountOut, amountIn, amountOut, fees⟩
  | .exactOutput => ⟨direction, mode, amountOut, amountIn, amountIn, amountOut, fees⟩

/-- What of the payment joins the reserve: all but the protocol's and the fund's share. -/
def reserveCredit (q : Quote) : Result Amount := do
  let rest ← q.amountIn.sub q.fees.protocolFee
  rest.sub q.fees.fundFee

/-- The price of an order at the given reserves. Bounds are not looked at. -/
def price (direction : Direction) (reserves : PerToken Amount) (order : Order) (tier : FeeTier) :
    Result Quote := do
  let reserveIn := reserves.get direction.sold
  let reserveOut := reserves.get direction.bought
  match order with
  | .exactInput amountIn _ =>
    let (amountOut, tradeFee) ←
      Curve.exactInput reserveIn reserveOut amountIn (tier.tradeRate direction)
    let fees ← Fee.split tradeFee tier.protocolRate tier.fundRate
    return make direction .exactInput amountIn amountOut fees
  | .exactOutput amountOut _ =>
    let (amountIn, tradeFee) ←
      Curve.exactOutput reserveIn reserveOut amountOut (tier.tradeRate direction)
    let fees ← Fee.split tradeFee tier.protocolRate tier.fundRate
    return make direction .exactOutput amountIn amountOut fees

def flip (q : Quote) : Quote := { q with direction := q.direction.opposite }

end Quote

namespace Order

def checkBound (o : Order) (q : Quote) : Result Unit :=
  match o with
  | exactInput _ minimumOut =>
    if q.amountOut < minimumOut then .error (.slippageExceeded q.amountOut minimumOut) else .ok ()
  | exactOutput _ maximumIn =>
    if maximumIn < q.amountIn then .error (.slippageExceeded q.amountIn maximumIn) else .ok ()

end Order

namespace Request

def flip (r : Request) : Request := { r with direction := r.direction.opposite }

end Request

namespace Receipt

def flip (r : Receipt) : Receipt :=
  { r with direction := r.direction.opposite, reserves := r.reserves.flip }

end Receipt

end ConstantProduct
