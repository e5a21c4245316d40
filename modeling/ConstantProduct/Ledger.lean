import ConstantProduct.Oracle.Ring
import ConstantProduct.Pool

namespace ConstantProduct

structure Ledger where
  pool : Pool
  oracle : Ring
  deriving DecidableEq, Repr

namespace Ledger

/-- A new pool, and a ring with a first observation at the opening time. -/
def create (id : PoolId) (tier : FeeTier) (reserves : PerToken Amount) (openTime : Int64)
    (capacity : UInt64) : Result Ledger := do
  let pool ← Pool.create id tier reserves openTime
  let ring := Ring.empty pool.oracleKey capacity
  let prices ← pool.spotPrices
  let staged ← ring.stage openTime prices
  return ⟨pool, ring.commit staged⟩

def createEvents (id : PoolId) (tier : FeeTier) (reserves : PerToken Amount) (openTime : Int64) :
    List Event :=
  [.observationRecorded id 0 openTime, .poolCreated id tier.index reserves openTime]

/-- The price of a request at the present reserves. Its bound is not looked at. -/
def quote (l : Ledger) (r : Request) (tier : FeeTier) : Result Quote :=
  Quote.price r.direction l.pool.reserves r.order tier

/-- The checked effect of a swap. -/
structure Staged where
  quote : Quote
  pool : Pool
  observation : Option Observation
  deriving DecidableEq, Repr

/-- Makes every check of a swap: the pool's status, the price, its bound, the books after it, and
the time. -/
def stage (l : Ledger) (r : Request) (tier : FeeTier) (timestamp : Int64) : Result Staged := do
  l.pool.ensureSwappable timestamp
  let quote ← l.quote r tier
  r.order.checkBound quote
  let pool ← l.pool.book quote
  let prices ← pool.spotPrices
  let observation ← l.oracle.stage timestamp prices
  return ⟨quote, pool, observation⟩

def Staged.receipt (s : Staged) (timestamp : Int64) : Receipt where
  direction := s.quote.direction
  mode := s.quote.mode
  amountIn := s.quote.amountIn
  amountOut := s.quote.amountOut
  fees := s.quote.fees
  reserves := s.pool.reserves
  timestamp := timestamp

/-- A swap that misses its bound is logged; other refusals are not. -/
def refusalEvents (l : Ledger) (r : Request) : Error → List Event
  | e@(.slippageExceeded ..) => [.swapRejected l.pool.id r.direction e]
  | _ => []

def swapEvents (l : Ledger) (s : Staged) (timestamp : Int64) : List Event :=
  let observed :=
    if s.observation = none then [.timestampRepeated timestamp]
    else l.oracle.commitEvents s.observation
  observed ++ [.swapped l.pool.id (s.receipt timestamp)]

def swap (l : Ledger) (r : Request) (tier : FeeTier) (timestamp : Int64) :
    Outcome Ledger (Result Receipt) :=
  match l.stage r tier timestamp with
  | .error e => ⟨.error e, l, l.refusalEvents r e⟩
  | .ok s =>
    ⟨.ok (s.receipt timestamp), ⟨s.pool, l.oracle.commit s.observation⟩, l.swapEvents s timestamp⟩

/-- Takes protocol fees, as many of those requested as there are. -/
def collectProtocol (l : Ledger) (requested : PerToken Amount) :
    Outcome Ledger (PerToken Amount) :=
  let taken := Pool.covered requested l.pool.protocolFees
  let pool := { l.pool with protocolFees := Pool.remaining l.pool.protocolFees taken }
  ⟨taken, { l with pool := pool }, [.protocolFeesCollected l.pool.id taken]⟩

def collectFund (l : Ledger) (requested : PerToken Amount) : Outcome Ledger (PerToken Amount) :=
  let taken := Pool.covered requested l.pool.fundFees
  let pool := { l.pool with fundFees := Pool.remaining l.pool.fundFees taken }
  ⟨taken, { l with pool := pool }, [.fundFeesCollected l.pool.id taken]⟩

def setStatus (l : Ledger) (bits : UInt8) : Outcome Ledger Unit :=
  ⟨(), { l with pool := { l.pool with statusBits := bits } },
    [.statusChanged l.pool.id l.pool.statusBits bits]⟩

def flip (l : Ledger) : Ledger := ⟨l.pool.flip, l.oracle.flip⟩

inductive Op where
  | swap (request : Request) (tier : FeeTier) (timestamp : Int64)
  | quote (request : Request) (tier : FeeTier)
  | collectProtocol (requested : PerToken Amount)
  | collectFund (requested : PerToken Amount)
  | setStatus (bits : UInt8)
  deriving DecidableEq, Repr

inductive Answer where
  | swap (result : Result Receipt)
  | quote (result : Result Quote)
  | collected (amounts : PerToken Amount)
  | done

def step (l : Ledger) : Op → Outcome Ledger Answer
  | .swap request tier timestamp =>
    let o := l.swap request tier timestamp
    ⟨.swap o.answer, o.next, o.events⟩
  | .quote request tier => ⟨.quote (l.quote request tier), l, []⟩
  | .collectProtocol requested =>
    let o := l.collectProtocol requested
    ⟨.collected o.answer, o.next, o.events⟩
  | .collectFund requested =>
    let o := l.collectFund requested
    ⟨.collected o.answer, o.next, o.events⟩
  | .setStatus bits =>
    let o := l.setStatus bits
    ⟨.done, o.next, o.events⟩

def history (l : Ledger) (ops : List Op) : List (Outcome Ledger Answer) := outcomes step l ops

def run (l : Ledger) (ops : List Op) : Ledger := ops.foldl (fun l op => (l.step op).next) l

end Ledger

end ConstantProduct
