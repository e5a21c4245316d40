import ConstantProduct.Ledger
import Std.Data.TreeMap

namespace ConstantProduct

namespace Registry

structure Stats where
  pools : Nat
  tiers : Nat
  swapsApplied : Nat
  swapsRejected : Nat
  lastSwap : Int64
  deriving DecidableEq, Repr, Inhabited

inductive Error where
  | poolNotFound (pool : PoolId)
  | poolExists (pool : PoolId)
  | tierNotFound (index : UInt16)
  | settlement (error : ConstantProduct.Error)
  deriving DecidableEq, Repr

def Error.message : Error → String
  | poolNotFound pool => "Pool " ++ pool.text ++ " not found"
  | poolExists pool => "Pool " ++ pool.text ++ " already exists"
  | tierNotFound index => "AMM config " ++ toString index ++ " not registered"
  | settlement e => e.message

end Registry

structure Registry where
  /-- Slots of the ring of each new pool. -/
  capacity : UInt64
  tiers : Std.TreeMap UInt16 FeeTier
  pools : Std.TreeMap PoolId Ledger
  stats : Registry.Stats

namespace Registry

def empty (capacity : UInt64) : Registry := ⟨capacity, ∅, ∅, default⟩

def settle {α : Type} : Result α → Except Error α
  | .ok a => .ok a
  | .error e => .error (.settlement e)

def tier? (r : Registry) (index : UInt16) : Option FeeTier := r.tiers[index]?

def tier (r : Registry) (index : UInt16) : Except Error FeeTier :=
  match r.tier? index with
  | some t => .ok t
  | none => .error (.tierNotFound index)

def ledger (r : Registry) (id : PoolId) : Except Error Ledger :=
  match r.pools[id]? with
  | some l => .ok l
  | none => .error (.poolNotFound id)

def putLedger (r : Registry) (id : PoolId) (l : Ledger) : Registry :=
  { r with pools := r.pools.insert id l }

def withTier (r : Registry) (t : FeeTier) : Registry :=
  let tiers := if r.tiers.contains t.index then r.stats.tiers else r.stats.tiers + 1
  { r with tiers := r.tiers.insert t.index t, stats := { r.stats with tiers := tiers } }

def register (r : Registry) (t : FeeTier) : Outcome Registry (Except Error Unit) :=
  match t.validate with
  | .error e => ⟨.error (.settlement e), r, []⟩
  | .ok () => ⟨.ok (), r.withTier t, [.tierRegistered t]⟩

def updateTier (r : Registry) (index : UInt16) (u : TierUpdate) :
    Outcome Registry (Except Error FeeTier) :=
  match r.tier index with
  | .error e => ⟨.error e, r, []⟩
  | .ok t =>
    match t.update u with
    | .error e => ⟨.error (.settlement e), r, []⟩
    | .ok next =>
      ⟨.ok next, { r with tiers := r.tiers.insert index next }, [.tierUpdated t.index u]⟩

def createPool (r : Registry) (id : PoolId) (index : UInt16) (reserves : PerToken Amount)
    (openTime : Int64) : Outcome Registry (Except Error Unit) :=
  match r.tier index with
  | .error e => ⟨.error e, r, []⟩
  | .ok t =>
    if r.pools.contains id then ⟨.error (.poolExists id), r, []⟩
    else
      match Ledger.create id t reserves openTime r.capacity with
      | .error e => ⟨.error (.settlement e), r, []⟩
      | .ok l =>
        let stats := { r.stats with pools := r.stats.pools + 1 }
        ⟨.ok (), { r.putLedger id l with stats := stats },
          Ledger.createEvents id t reserves openTime⟩

def quote (r : Registry) (id : PoolId) (request : Request) : Except Error Quote := do
  let l ← r.ledger id
  let t ← r.tier l.pool.tier
  settle (l.quote request t)

/-- Swaps on a pool, priced with the tier under the pool's own index. Where the pool refuses the
swap, only the count of refusals changes. -/
def swap (r : Registry) (id : PoolId) (request : Request) (timestamp : Int64) :
    Outcome Registry (Except Error Receipt) :=
  match r.ledger id with
  | .error e => ⟨.error e, r, []⟩
  | .ok l =>
    match r.tier l.pool.tier with
    | .error e => ⟨.error e, r, []⟩
    | .ok t =>
      let o := l.swap request t timestamp
      match o.answer with
      | .ok receipt =>
        let stats := { r.stats with
          swapsApplied := r.stats.swapsApplied + 1
          lastSwap := max r.stats.lastSwap timestamp }
        ⟨.ok receipt, { r.putLedger id o.next with stats := stats }, o.events⟩
      | .error e =>
        let stats := { r.stats with swapsRejected := r.stats.swapsRejected + 1 }
        ⟨.error (.settlement e), { r with stats := stats }, o.events ++ [.swapFailed id e]⟩

/-- An operation that always succeeds on a pool, applied to a registered one. -/
def onLedger {α : Type} (r : Registry) (id : PoolId) (f : Ledger → Outcome Ledger α) :
    Outcome Registry (Except Error α) :=
  match r.ledger id with
  | .error e => ⟨.error e, r, []⟩
  | .ok l =>
    let o := f l
    ⟨.ok o.answer, r.putLedger id o.next, o.events⟩

def collectProtocol (r : Registry) (id : PoolId) (requested : PerToken Amount) :
    Outcome Registry (Except Error (PerToken Amount)) :=
  r.onLedger id (·.collectProtocol requested)

def collectFund (r : Registry) (id : PoolId) (requested : PerToken Amount) :
    Outcome Registry (Except Error (PerToken Amount)) :=
  r.onLedger id (·.collectFund requested)

def setStatus (r : Registry) (id : PoolId) (bits : UInt8) : Outcome Registry (Except Error Unit) :=
  r.onLedger id (·.setStatus bits)

def pool? (r : Registry) (id : PoolId) : Option Pool := r.pools[id]?.map Ledger.pool

def observations (r : Registry) (id : PoolId) : Except Error (List Observation) := do
  let l ← r.ledger id
  return l.oracle.observations

def poolIds (r : Registry) : List PoolId := r.pools.keys

inductive Op where
  | register (tier : FeeTier)
  | updateTier (index : UInt16) (update : TierUpdate)
  | tier (index : UInt16)
  | createPool (pool : PoolId) (index : UInt16) (reserves : PerToken Amount) (openTime : Int64)
  | quoteExactInput (pool : PoolId) (direction : Direction) (amountIn : Amount)
  | quoteExactOutput (pool : PoolId) (direction : Direction) (amountOut : Amount)
  | swap (pool : PoolId) (request : Request) (timestamp : Int64)
  | collectProtocol (pool : PoolId) (requested : PerToken Amount)
  | collectFund (pool : PoolId) (requested : PerToken Amount)
  | setStatus (pool : PoolId) (bits : UInt8)
  | pool (pool : PoolId)
  | observations (pool : PoolId)
  | poolIds
  deriving DecidableEq, Repr

inductive Answer where
  | done (result : Except Error Unit)
  | updated (result : Except Error FeeTier)
  | tier (tier : Option FeeTier)
  | quote (result : Except Error Quote)
  | swap (result : Except Error Receipt)
  | collected (result : Except Error (PerToken Amount))
  | pool (pool : Option Pool)
  | observations (result : Except Error (List Observation))
  | poolIds (ids : List PoolId)

def answered {α : Type} (wrap : α → Answer) (o : Outcome Registry α) : Outcome Registry Answer :=
  ⟨wrap o.answer, o.next, o.events⟩

def step (r : Registry) : Op → Outcome Registry Answer
  | .register t => answered .done (r.register t)
  | .updateTier index update => answered .updated (r.updateTier index update)
  | .tier index => ⟨.tier (r.tier? index), r, []⟩
  | .createPool id index reserves openTime =>
    answered .done (r.createPool id index reserves openTime)
  | .quoteExactInput id direction amountIn =>
    ⟨.quote (r.quote id ⟨direction, .exactInput amountIn 0⟩), r, []⟩
  | .quoteExactOutput id direction amountOut =>
    ⟨.quote (r.quote id ⟨direction, .exactOutput amountOut Amount.max⟩), r, []⟩
  | .swap id request timestamp => answered .swap (r.swap id request timestamp)
  | .collectProtocol id requested => answered .collected (r.collectProtocol id requested)
  | .collectFund id requested => answered .collected (r.collectFund id requested)
  | .setStatus id bits => answered .done (r.setStatus id bits)
  | .pool id => ⟨.pool (r.pool? id), r, []⟩
  | .observations id => ⟨.observations (r.observations id), r, []⟩
  | .poolIds => ⟨.poolIds r.poolIds, r, []⟩

def history (r : Registry) (ops : List Op) : List (Outcome Registry Answer) := outcomes step r ops

def run (r : Registry) (ops : List Op) : Registry := ops.foldl (fun r op => (r.step op).next) r

end Registry

end ConstantProduct
