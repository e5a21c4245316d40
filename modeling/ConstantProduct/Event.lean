import ConstantProduct.PoolId
import ConstantProduct.Quote

namespace ConstantProduct

inductive Level where
  | info
  | debug
  | warn
  deriving DecidableEq, Repr

def Level.name : Level → String
  | info => "INFO"
  | debug => "DEBUG"
  | warn => "WARN"

inductive Event where
  | tierRegistered (tier : FeeTier)
  | tierUpdated (index : UInt16) (update : TierUpdate)
  | poolCreated (pool : PoolId) (tier : UInt16) (reserves : PerToken Amount) (openTime : Int64)
  | statusChanged (pool : PoolId) (old new : UInt8)
  | swapped (pool : PoolId) (receipt : Receipt)
  /-- A quote was on the wrong side of its bound. -/
  | swapRejected (pool : PoolId) (direction : Direction) (error : Error)
  /-- A swap on a registered pool failed, whatever the cause. -/
  | swapFailed (pool : PoolId) (error : Error)
  | protocolFeesCollected (pool : PoolId) (amounts : PerToken Amount)
  | fundFeesCollected (pool : PoolId) (amounts : PerToken Amount)
  | observationRecorded (pool : PoolId) (slot : Nat) (timestamp : Int64)
  /-- A swap fell on the timestamp of the latest observation. -/
  | timestampRepeated (timestamp : Int64)
  | settingsLoading (path : String)
  | settingsValidated (tiers : Nat)
  | registryReady (tiers : Nat) (capacity : UInt64)
  | loggingStarted (level : String) (json : Bool)
  deriving DecidableEq, Repr

namespace Event

def level : Event → Level
  | swapRejected .. => .warn
  | swapFailed .. | observationRecorded .. | timestampRepeated .. | settingsValidated .. => .debug
  | _ => .info

def message : Event → String
  | tierRegistered _ => "Registered AMM config"
  | tierUpdated .. => "AMM config updated"
  | poolCreated .. => "Pool initialized"
  | statusChanged .. => "Pool status bits updated"
  | swapped .. => "swap"
  | swapRejected .. => "Swap rejected"
  | swapFailed .. => "Swap failed"
  | protocolFeesCollected .. => "Collected protocol fees"
  | fundFeesCollected .. => "Collected fund fees"
  | observationRecorded .. => "Recorded oracle observation"
  | timestampRepeated _ => "Oracle already observed this timestamp"
  | settingsLoading path => "Loading engine config: " ++ Text.quoted path
  | settingsValidated _ => "Engine configuration validated"
  | registryReady .. => "Pool state manager ready"
  | loggingStarted .. => "Tracing initialized"

def fields : Event → List (String × String)
  | tierRegistered tier =>
    [("index", toString tier.index),
      ("trade_fee_rate_zero_to_one", toString tier.tradeRates.zero),
      ("trade_fee_rate_one_to_zero", toString tier.tradeRates.one),
      ("protocol_fee_rate", toString tier.protocolRate),
      ("fund_fee_rate", toString tier.fundRate)]
  | tierUpdated index update => [("index", toString index), ("update", update.text)]
  | poolCreated pool tier reserves openTime =>
    [("pool", pool.text), ("config", toString tier), ("reserve_0", toString reserves.zero),
      ("reserve_1", toString reserves.one), ("open_time", toString openTime)]
  | statusChanged pool old new =>
    [("pool", pool.short), ("old", toString old), ("new", toString new)]
  | swapped pool r =>
    [("pool", pool.short), ("direction", r.direction.name), ("mode", r.mode.name),
      ("amount_in", toString r.amountIn), ("amount_out", toString r.amountOut),
      ("trade_fee", toString r.fees.tradeFee), ("reserve_0", toString r.reserves.zero),
      ("reserve_1", toString r.reserves.one), ("timestamp", toString r.timestamp)]
  | swapRejected pool direction error =>
    [("pool", pool.short), ("direction", direction.name), ("error", error.message)]
  | swapFailed pool error => [("pool", pool.short), ("error", error.message)]
  | protocolFeesCollected pool amounts | fundFeesCollected pool amounts =>
    [("pool", pool.short), ("amount_0", toString amounts.zero),
      ("amount_1", toString amounts.one)]
  | observationRecorded pool slot timestamp =>
    [("pool", pool.short), ("slot", toString slot), ("timestamp", toString timestamp)]
  | timestampRepeated timestamp => [("timestamp", toString timestamp)]
  | settingsLoading _ => []
  | settingsValidated tiers => [("configs", toString tiers)]
  | registryReady tiers capacity =>
    [("configs", toString tiers), ("oracle_capacity", toString capacity)]
  | loggingStarted level json => [("level", level), ("json", toString json)]

end Event

/-- What an operation leaves: its answer, the next state, and the events it emitted in order. -/
structure Outcome (σ α : Type) where
  answer : α
  next : σ
  events : List Event
  deriving DecidableEq, Repr

/-- The outcomes of a sequence of operations, each on the state that the one before it left. -/
def outcomes {σ ω α : Type} (step : σ → ω → Outcome σ α) : σ → List ω → List (Outcome σ α)
  | _, [] => []
  | s, op :: ops =>
    let o := step s op
    o :: outcomes step o.next ops

theorem getElem?_outcomes {σ ω α : Type} (step : σ → ω → Outcome σ α) (s : σ) {ops : List ω}
    {i : Nat} {op : ω} (h : ops[i]? = some op) :
    (outcomes step s ops)[i]? =
      some (step ((ops.take i).foldl (fun s op => (step s op).next) s) op) := by
  induction ops generalizing s i with
  | nil => cases h
  | cons op' ops ih =>
    cases i with
    | zero => cases h; rfl
    | succ i => exact ih _ h

namespace FeeTier

/-- Applies an update, or changes nothing. -/
def apply (t : FeeTier) (u : TierUpdate) : Outcome FeeTier (Result Unit) :=
  match t.update u with
  | .error e => ⟨.error e, t, []⟩
  | .ok next => ⟨.ok (), next, [.tierUpdated t.index u]⟩

def history (t : FeeTier) (us : List TierUpdate) : List (Outcome FeeTier (Result Unit)) :=
  outcomes apply t us

def run (t : FeeTier) (us : List TierUpdate) : FeeTier := us.foldl (fun t u => (t.apply u).next) t

end FeeTier

end ConstantProduct
