import ConstantProduct.Error

namespace ConstantProduct

/-- The cumulative prices at a time: sums of prices times seconds, modulo 2^128. The price of each
token is quoted in the other. -/
structure Observation where
  timestamp : Int64
  cumulative : PerToken Wide
  deriving DecidableEq, Repr, Inhabited

namespace Observation

/-- The time from `a` to `b`, or zero if `b` is earlier. -/
def elapsed (a b : Int64) : Wide := BitVec.ofNat 128 (b.toInt - a.toInt).toNat

/-- The observation at `timestamp` after `prices` were in force since this one. -/
def advance (o : Observation) (timestamp : Int64) (prices : PerToken Wide) : Observation :=
  let time := elapsed o.timestamp timestamp
  ⟨timestamp, ⟨o.cumulative.zero + prices.zero * time, o.cumulative.one + prices.one * time⟩⟩

/-- The mean price between two observations, rounded down; none unless `newer` is later. The
differences are taken modulo 2^128, like the sums. -/
def average? (older newer : Observation) : Option (PerToken Wide) :=
  if newer.timestamp ≤ older.timestamp then none
  else
    let time := elapsed older.timestamp newer.timestamp
    some ⟨(newer.cumulative.zero - older.cumulative.zero) / time,
      (newer.cumulative.one - older.cumulative.one) / time⟩

def flip (o : Observation) : Observation := { o with cumulative := o.cumulative.flip }

end Observation

end ConstantProduct
