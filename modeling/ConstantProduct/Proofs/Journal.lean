import Mathlib
import ConstantProduct.Proofs.Atomicity
import ConstantProduct.Proofs.Consistency
import ConstantProduct.Proofs.Counters

namespace ConstantProduct

namespace Ring

variable {r : Ring} {timestamp : Int64} {prices : PerToken Wide} {o : Observation}

/-- What a ring in the order of its times is to write next it does not hold already. -/
theorem Increasing.not_mem_of_stage (h : r.Increasing)
    (hs : r.stage timestamp prices = .ok (some o)) : o ∉ r.observations := by
  obtain ⟨htime, hlater⟩ := stage_eq_some hs
  rw [← htime, ← r.getLast?_observations] at hlater
  have hpairwise := pairwise_concat h (fun _ _ _ => Int64.lt_trans) fun last hlast =>
    (hlater last hlast).1
  intro hmem
  have hlt := (List.pairwise_append.1 hpairwise).2.2 o hmem o (List.mem_singleton_self o)
  exact Int64.lt_irrefl hlt

theorem mem_push_self (r : Ring) (o : Observation) : o ∈ (r.push o).observations :=
  List.mem_of_getLast? ((getLast?_observations _).trans (r.latest?_push o))

end Ring

namespace Registry

/-- The operation is one that changes the registry, where it succeeds. -/
def Op.mutates : Op → Bool
  | .register _ | .updateTier .. | .createPool .. | .swap .. | .collectProtocol ..
  | .collectFund .. | .setStatus .. => true
  | .tier _ | .quoteExactInput .. | .quoteExactOutput .. | .pool _ | .observations _
  | .poolIds => false

def slipped : Op × Answer → Bool
  | (.swap .., .swap (.error (.settlement (.slippageExceeded ..)))) => true
  | _ => false

def receipt? : Op × Answer → Option (PoolId × Receipt)
  | (.swap id _ _, .swap (.ok receipt)) => some (id, receipt)
  | _ => none

def swapRecord (swap : PoolId × Receipt) : List (String × String) :=
  [("pool", swap.1.short), ("direction", swap.2.direction.name), ("mode", swap.2.mode.name),
    ("amount_in", toString swap.2.amountIn), ("amount_out", toString swap.2.amountOut),
    ("trade_fee", toString swap.2.fees.tradeFee), ("reserve_0", toString swap.2.reserves.zero),
    ("reserve_1", toString swap.2.reserves.one), ("timestamp", toString swap.2.timestamp)]

/-- From one registry to the next the pool `id` gained the observation `o`. -/
def Gains (r next : Registry) (id : PoolId) (o : Observation) : Prop :=
  (∃ os, next.observations id = .ok os ∧ o ∈ os) ∧ ∀ os, r.observations id = .ok os → o ∉ os

section Observations

variable {r next : Registry} {id : PoolId} {l : Ledger}

theorem observations_of_found (hl : r.pools[id]? = some l) :
    r.observations id = .ok l.oracle.observations := by
  rw [observations, r.ledger_eq_ok_iff.2 hl]
  rfl

theorem observations_of_insert (h : next.pools = r.pools.insert id l) (p : PoolId) :
    next.observations p = if id = p then .ok l.oracle.observations else r.observations p := by
  have hnext := r.pools_insert id p l
  rw [← h] at hnext
  split_ifs at hnext ⊢ with hid
  · exact observations_of_found hnext
  · rw [observations, observations, ledger, ledger, hnext]

theorem not_gains (h : ∀ p, next.observations p = r.observations p) (p : PoolId)
    (o : Observation) : ¬Gains r next p o := by
  rintro ⟨⟨os, hos, ho⟩, hnot⟩
  exact hnot os (h p ▸ hos) ho

/-- A pool whose ledger is replaced gains what the new ring holds and the old one did not. -/
theorem gains_insert_iff (h : next.pools = r.pools.insert id l) {p : PoolId} {o : Observation} :
    Gains r next p o ↔ p = id ∧ o ∈ l.oracle.observations ∧
      ∀ os, r.observations id = .ok os → o ∉ os := by
  rw [Gains, observations_of_insert h]
  constructor
  · rintro ⟨⟨os, hos, ho⟩, hnot⟩
    split_ifs at hos with hid
    · subst hid
      obtain rfl := Except.ok.inj hos
      exact ⟨rfl, ho, hnot⟩
    · exact absurd ho (hnot os hos)
  · rintro ⟨rfl, ho, hnot⟩
    exact ⟨⟨_, if_pos rfl, ho⟩, hnot⟩

theorem gains_of_fresh (hfresh : r.pools[id]? = none) (h : next.pools = r.pools.insert id l)
    {o : Observation} (ho : l.oracle.observations = [o]) (p : PoolId) (a : Observation) :
    Gains r next p a ↔ p = id ∧ a = o := by
  have hnone (os : List Observation) : r.observations id ≠ .ok os := by
    simp [observations, ledger, hfresh]
  rw [gains_insert_iff h, ho, List.mem_singleton]
  simp [hnone]

theorem gains_of_push {l' : Ledger} {o : Observation} (hl : r.pools[id]? = some l)
    (h : next.pools = r.pools.insert id l') (hpush : l'.oracle = l.oracle.push o)
    (hnew : o ∉ l.oracle.observations) (p : PoolId) (a : Observation) :
    Gains r next p a ↔ p = id ∧ a = o := by
  rw [gains_insert_iff h, hpush, observations_of_found hl]
  constructor
  · rintro ⟨rfl, ha, hnot⟩
    have hcommit : a ∈ (l.oracle.commit (some o)).observations := ha
    rcases Ring.mem_commit hcommit with ha | ha
    · exact absurd ha (hnot _ rfl)
    · exact ⟨rfl, (Option.some.inj ha).symm⟩
  · rintro ⟨rfl, rfl⟩
    refine ⟨rfl, l.oracle.mem_push_self a, ?_⟩
    rintro _ ⟨⟩
    exact hnew

end Observations

section Writing

/-- What an operation with its answer writes to the journal. -/
inductive Written (r next : Registry) : Op → Answer → List Event → Prop where
  | silent {op : Op} {a : Answer} (idle : op.mutates = false ∨ ∃ e, a.refusal? = some e)
      (unrejected : rejected (op, a) = false) (still : ∀ p o, ¬Gains r next p o) :
      Written r next op a []
  | registered {t : FeeTier} (still : ∀ p o, ¬Gains r next p o) :
      Written r next (.register t) (.done (.ok ())) [.tierRegistered t]
  | updated {index : UInt16} {u : TierUpdate} {t : FeeTier} (still : ∀ p o, ¬Gains r next p o) :
      Written r next (.updateTier index u) (.updated (.ok t)) [.tierUpdated index u]
  | created {id : PoolId} {index : UInt16} {reserves : PerToken Amount} {o : Observation}
      (gained : ∀ p a, Gains r next p a ↔ p = id ∧ a = o) :
      Written r next (.createPool id index reserves o.timestamp) (.done (.ok ()))
        [.observationRecorded id 0 o.timestamp, .poolCreated id index reserves o.timestamp]
  | swapped {id : PoolId} {request : Request} {receipt : Receipt} {slot : ℕ} {o : Observation}
      (gained : ∀ p a, Gains r next p a ↔ p = id ∧ a = o) :
      Written r next (.swap id request o.timestamp) (.swap (.ok receipt))
        [.observationRecorded id slot o.timestamp, .swapped id receipt]
  | swappedAgain {id : PoolId} {request : Request} {receipt : Receipt} {timestamp : Int64}
      (still : ∀ p o, ¬Gains r next p o) :
      Written r next (.swap id request timestamp) (.swap (.ok receipt))
        [.timestampRepeated timestamp, .swapped id receipt]
  | outOfBounds {id : PoolId} {request : Request} {timestamp : Int64} {quoted bound : Amount}
      (still : ∀ p o, ¬Gains r next p o) :
      Written r next (.swap id request timestamp)
        (.swap (.error (.settlement (.slippageExceeded quoted bound))))
        [.swapRejected id request.direction (.slippageExceeded quoted bound),
          .swapFailed id (.slippageExceeded quoted bound)]
  | refused {id : PoolId} {request : Request} {timestamp : Int64} {e : ConstantProduct.Error}
      (bounded : ∀ quoted bound, e ≠ .slippageExceeded quoted bound)
      (still : ∀ p o, ¬Gains r next p o) :
      Written r next (.swap id request timestamp) (.swap (.error (.settlement e)))
        [.swapFailed id e]
  | protocolCollected {id : PoolId} {requested taken : PerToken Amount}
      (still : ∀ p o, ¬Gains r next p o) :
      Written r next (.collectProtocol id requested) (.collected (.ok taken))
        [.protocolFeesCollected id taken]
  | fundCollected {id : PoolId} {requested taken : PerToken Amount}
      (still : ∀ p o, ¬Gains r next p o) :
      Written r next (.collectFund id requested) (.collected (.ok taken))
        [.fundFeesCollected id taken]
  | statusSet {id : PoolId} {old new : UInt8} (still : ∀ p o, ¬Gains r next p o) :
      Written r next (.setStatus id new) (.done (.ok ())) [.statusChanged id old new]

variable {r : Registry} {id : PoolId} {l : Ledger}

theorem not_gains_of_oracle {next : Registry} {l' : Ledger} (hl : r.pools[id]? = some l)
    (h : next.pools = r.pools.insert id l') (horacle : l'.oracle = l.oracle) (p : PoolId)
    (o : Observation) : ¬Gains r next p o := by
  rw [gains_insert_iff h, horacle, observations_of_found hl]
  rintro ⟨-, ho, hnot⟩
  exact hnot _ rfl ho

theorem swap_of_refused {t : FeeTier} {request : Request} {timestamp : Int64}
    {e : ConstantProduct.Error} (hl : r.pools[id]? = some l) (ht : r.tiers[l.pool.tier]? = some t)
    (hs : l.stage request t timestamp = .error e) : r.swap id request timestamp =
      ⟨.error (.settlement e),
        { r with stats := { r.stats with swapsRejected := r.stats.swapsRejected + 1 } },
        l.refusalEvents request e ++ [.swapFailed id e]⟩ := by
  simp [swap, r.ledger_eq_ok_iff.2 hl, r.tier_eq_ok_iff.2 ht, Ledger.swap, hs]

theorem swap_of_staged {t : FeeTier} {request : Request} {timestamp : Int64} {s : Ledger.Staged}
    (hl : r.pools[id]? = some l) (ht : r.tiers[l.pool.tier]? = some t)
    (hs : l.stage request t timestamp = .ok s) :
    (r.swap id request timestamp).answer = .ok (s.receipt timestamp) ∧
      (r.swap id request timestamp).next.pools =
        r.pools.insert id ⟨s.pool, l.oracle.commit s.observation⟩ ∧
      (r.swap id request timestamp).events = l.swapEvents s timestamp := by
  simp [swap, r.ledger_eq_ok_iff.2 hl, r.tier_eq_ok_iff.2 ht, Ledger.swap, hs, putLedger]

namespace Consistent

variable (h : r.Consistent)
include h

theorem swap_written (id : PoolId) (request : Request) (timestamp : Int64) :
    Written r (r.swap id request timestamp).next (.swap id request timestamp)
      (.swap (r.swap id request timestamp).answer) (r.swap id request timestamp).events := by
  rcases hl : r.pools[id]? with _ | l
  · simp only [swap, ledger, hl]
    exact .silent (.inr ⟨_, rfl⟩) rfl (not_gains fun _ => rfl)
  obtain ⟨t, ht⟩ := h.exists_tier hl
  obtain ⟨openTime, hsound⟩ := h.sound id l hl
  rcases hs : l.stage request t timestamp with e | s
  · rw [swap_of_refused hl ht hs]
    by_cases hslip : ∃ quoted bound, e = .slippageExceeded quoted bound
    · obtain ⟨quoted, bound, rfl⟩ := hslip
      simp only [Ledger.refusalEvents, hsound.id_eq]
      exact .outOfBounds (not_gains fun _ => rfl)
    · have hquiet : l.refusalEvents request e = [] := by
        cases e <;> simp_all [Ledger.refusalEvents]
      rw [hquiet]
      exact .refused (fun quoted bound he => hslip ⟨quoted, bound, he⟩) (not_gains fun _ => rfl)
  · obtain ⟨hanswer, hpools, hevents⟩ := swap_of_staged hl ht hs
    rw [hanswer, hevents, Ledger.swapEvents, hsound.id_eq]
    obtain ⟨-, -, -, -, -, htimely, -, hobservation⟩ := Ledger.stage_eq_ok_iff.1 hs
    have hstage := Ring.stage_eq_ok_iff.2 ⟨htimely, hobservation⟩
    rcases ho : s.observation with _ | o <;> rw [ho] at hstage hpools
    · exact .swappedAgain (not_gains_of_oracle hl hpools rfl)
    · obtain ⟨rfl, -⟩ := Ring.stage_eq_some hstage
      simp only [Ring.commitEvents, hsound.owner_eq]
      exact .swapped (gains_of_push hl hpools rfl (hsound.increasing.not_mem_of_stage hstage))

/-- An operation on a ledger misses its pool, or is applied to it under the pool's own identifier. -/
theorem onLedger_cases {α : Type} (id : PoolId) (f : Ledger → Outcome Ledger α) :
    (∃ e, r.onLedger id f = ⟨.error e, r, []⟩) ∨
    ∃ l, r.pools[id]? = some l ∧ l.pool.id = id ∧
      r.onLedger id f = ⟨.ok (f l).answer, r.putLedger id (f l).next, (f l).events⟩ := by
  rcases hl : r.ledger id with e | l
  · exact .inl ⟨e, by rw [onLedger, hl]⟩
  · have hpool := r.ledger_eq_ok_iff.1 hl
    obtain ⟨openTime, hsound⟩ := h.sound id l hpool
    exact .inr ⟨l, hpool, hsound.id_eq, by rw [onLedger, hl]⟩

/-- All that an operation writes to the journal. -/
theorem step_written (op : Op) :
    Written r (r.step op).next op (r.step op).answer (r.step op).events := by
  cases op with
  | register t =>
    simp only [Registry.step, answered, register]
    rcases t.validate with e | ⟨⟩
    · exact .silent (.inr ⟨_, rfl⟩) rfl (not_gains fun _ => rfl)
    · exact .registered (not_gains fun _ => rfl)
  | updateTier index u =>
    simp only [Registry.step, answered, updateTier]
    rcases ht : r.tier index with e | t
    · exact .silent (.inr ⟨_, rfl⟩) rfl (not_gains fun _ => rfl)
    dsimp only
    rcases t.update u with e | t'
    · exact .silent (.inr ⟨_, rfl⟩) rfl (not_gains fun _ => rfl)
    · rw [h.keyed index t (r.tier_eq_ok_iff.1 ht)]
      exact .updated (not_gains fun _ => rfl)
  | createPool id index reserves openTime =>
    simp only [Registry.step, answered, createPool]
    rcases ht : r.tier index with e | t
    · exact .silent (.inr ⟨_, rfl⟩) rfl (not_gains fun _ => rfl)
    dsimp only
    split_ifs with hid
    · exact .silent (.inr ⟨_, rfl⟩) rfl (not_gains fun _ => rfl)
    rcases hl : Ledger.create id t reserves openTime r.capacity with e | l
    · exact .silent (.inr ⟨_, rfl⟩) rfl (not_gains fun _ => rfl)
    · rw [Std.TreeMap.contains_eq_isSome_getElem?, Option.not_isSome_iff_eq_none] at hid
      obtain ⟨-, -, -, rfl⟩ := Ledger.create_eq_ok_iff.1 hl
      rw [Ledger.createEvents, h.keyed index t (r.tier_eq_ok_iff.1 ht)]
      exact .created (o := ⟨openTime, _⟩) (gains_of_fresh hid rfl Ledger.observations_opened)
  | swap id request timestamp => exact h.swap_written id request timestamp
  | collectProtocol id requested =>
    simp only [Registry.step, answered, collectProtocol]
    rcases h.onLedger_cases id (·.collectProtocol requested) with ⟨e, ho⟩ | ⟨l, hl, hid, ho⟩
    · rw [ho]
      exact .silent (.inr ⟨_, rfl⟩) rfl (not_gains fun _ => rfl)
    · rw [ho]
      simp only [Ledger.collectProtocol, hid]
      exact .protocolCollected (not_gains_of_oracle hl rfl rfl)
  | collectFund id requested =>
    simp only [Registry.step, answered, collectFund]
    rcases h.onLedger_cases id (·.collectFund requested) with ⟨e, ho⟩ | ⟨l, hl, hid, ho⟩
    · rw [ho]
      exact .silent (.inr ⟨_, rfl⟩) rfl (not_gains fun _ => rfl)
    · rw [ho]
      simp only [Ledger.collectFund, hid]
      exact .fundCollected (not_gains_of_oracle hl rfl rfl)
  | setStatus id bits =>
    simp only [Registry.step, answered, setStatus]
    rcases h.onLedger_cases id (·.setStatus bits) with ⟨e, ho⟩ | ⟨l, hl, hid, ho⟩
    · rw [ho]
      exact .silent (.inr ⟨_, rfl⟩) rfl (not_gains fun _ => rfl)
    · rw [ho]
      simp only [Ledger.setStatus, hid]
      exact .statusSet (not_gains_of_oracle hl rfl rfl)
  | tier index => exact .silent (.inl rfl) rfl (not_gains fun _ => rfl)
  | quoteExactInput id direction amountIn => exact .silent (.inl rfl) rfl (not_gains fun _ => rfl)
  | quoteExactOutput id direction amountOut => exact .silent (.inl rfl) rfl (not_gains fun _ => rfl)
  | pool id => exact .silent (.inl rfl) rfl (not_gains fun _ => rfl)
  | observations id => exact .silent (.inl rfl) rfl (not_gains fun _ => rfl)
  | poolIds => exact .silent (.inl rfl) rfl (not_gains fun _ => rfl)

end Consistent

variable {next : Registry} {op : Op} {a : Answer} {es : List Event}

theorem Written.info (h : Written r next op a es) :
    es.countP (·.level = .info) = if op.mutates ∧ a.refusal? = none then 1 else 0 := by
  cases h with
  | silent idle _ _ => rcases idle with hop | ⟨e, he⟩ <;> simp [*]
  | _ => rfl

theorem rejected_of_slipped {j : Op × Answer} (h : slipped j = true) : rejected j = true := by
  unfold slipped at h
  split at h
  · rfl
  · cases h

theorem Written.warned (h : Written r next op a es) :
    es.countP (·.level = .warn) = if slipped (op, a) then 1 else 0 := by
  cases h with
  | silent _ unrejected _ =>
    have hslipped : ¬slipped (op, a) = true := by
      intro h
      rw [rejected_of_slipped h] at unrejected
      cases unrejected
    rw [if_neg hslipped]
    rfl
  | @refused id request timestamp e bounded _ =>
    let j : Op × Answer := (.swap id request timestamp, .swap (.error (.settlement e)))
    have hslipped : ¬slipped j = true := by
      cases e <;> simp_all [slipped, j]
    rw [if_neg hslipped]
    rfl
  | _ => rfl

theorem Written.failures (h : Written r next op a es) :
    es.countP (·.message = "Swap failed") = if rejected (op, a) then 1 else 0 := by
  cases h with
  | silent _ unrejected _ => simp [unrejected]
  | _ => rfl

theorem Written.swaps (h : Written r next op a es) :
    (es.filter (·.message = "swap")).map (·.fields) =
      (receipt? (op, a)).toList.map swapRecord := by
  cases h with
  | silent idle _ _ =>
    have hnone : receipt? (op, a) = none := by
      unfold receipt?
      split
      next heq =>
        cases heq
        rcases idle with ⟨⟨⟩⟩ | ⟨_, ⟨⟩⟩
      next => rfl
    rw [hnone]
    rfl
  | _ => rfl

/-- The events of an operation that tell of an observation. -/
theorem Written.recordings (h : Written r next op a es) :
    let recorded := es.filter (·.message = "Recorded oracle observation")
    (recorded = [] ∧ ∀ p o, ¬Gains r next p o) ∨
    ∃ id slot o, recorded = [.observationRecorded id slot o.timestamp] ∧
      ∀ p a, Gains r next p a ↔ p = id ∧ a = o := by
  cases h with
  | created gained => exact .inr ⟨_, _, _, rfl, gained⟩
  | swapped gained => exact .inr ⟨_, _, _, rfl, gained⟩
  | silent _ _ still => exact .inl ⟨rfl, still⟩
  | refused _ still => exact .inl ⟨rfl, still⟩
  | _ still => exact .inl ⟨rfl, still⟩

end Writing

section Journal

def log (r : Registry) (ops : List Op) : List Event := (r.history ops).flatMap (·.events)

theorem Consistent.swaps_log {r : Registry} (h : r.Consistent) (ops : List Op) :
    ((r.log ops).filter (·.message = "swap")).map (·.fields) =
      ((r.journal ops).filterMap receipt?).map swapRecord := by
  induction ops generalizing r with
  | nil => rfl
  | cons op ops ih =>
    have hop := (h.step_written op).swaps
    have hlog : r.log (op :: ops) = (r.step op).events ++ (r.step op).next.log ops := rfl
    rw [hlog, List.filter_append, List.map_append, hop, ih (h.step op), journal_cons,
      List.filterMap_cons]
    rcases receipt? (op, (r.step op).answer) with _ | swap <;> rfl

/-- In any run of a registry that was empty, the entries of swaps give what the receipts give, in
their order. Each operation has an entry of information exactly if it is to change the registry and
succeeds, and then one; a warning exactly if it is a swap that missed its bound; an entry of a
failed swap exactly if it is a swap that a pool refused; and an entry of an observation exactly if a
pool gained one, which is then the one of that pool and time. -/
theorem journal_is_faithful (capacity : UInt64) (ops : List Op) :
    let r := empty capacity
    ((r.log ops).filter (·.message = "swap")).map (·.fields) =
      ((r.journal ops).filterMap receipt?).map swapRecord ∧
    ∀ (i : ℕ) op, ops[i]? = some op → ∃ o, (r.history ops)[i]? = some o ∧
      o.events.countP (·.level = .info) =
        (if op.mutates ∧ o.answer.refusal? = none then 1 else 0) ∧
      o.events.countP (·.level = .warn) = (if slipped (op, o.answer) then 1 else 0) ∧
      o.events.countP (·.message = "Swap failed") = (if rejected (op, o.answer) then 1 else 0) ∧
      let recorded := o.events.filter (·.message = "Recorded oracle observation")
      (recorded = [] ∧ ∀ id obs, ¬Gains (r.run (ops.take i)) o.next id obs) ∨
      ∃ id slot obs, recorded = [.observationRecorded id slot obs.timestamp] ∧
        ∀ p a, Gains (r.run (ops.take i)) o.next p a ↔ p = id ∧ a = obs := by
  intro r
  have hr : r.Consistent := consistent_empty capacity
  refine ⟨hr.swaps_log ops, ?_⟩
  intro i op hop
  have hwritten := (hr.run (ops.take i)).step_written op
  exact ⟨_, getElem?_outcomes step r hop, hwritten.info, hwritten.warned, hwritten.failures,
    hwritten.recordings⟩

theorem events_of_greedy :
    (opening ++ [greedy])[2]? = some greedy ∧
      ∃ o, ((empty 8).history (opening ++ [greedy]))[2]? = some o ∧
        o.events.countP (·.level = .info) = 0 ∧ o.events.countP (·.level = .warn) = 1 ∧
        o.events.countP (·.message = "Swap failed") = 1 := by
  refine ⟨rfl, ?_⟩
  obtain ⟨o, ho, hinfo, hwarned, hfailed, -⟩ :=
    (journal_is_faithful 8 (opening ++ [greedy])).2 2 greedy rfl
  have hanswers : (((empty 8).history (opening ++ [greedy]))[2]?).map
      (fun o => (o.answer.refusal?, slipped (greedy, o.answer), rejected (greedy, o.answer))) =
      some (some (.settlement (.slippageExceeded 1981651376 2000000000)), true, true) := by
    decide +kernel
  rw [ho, Option.map_some, Option.some_inj, Prod.mk.injEq, Prod.mk.injEq] at hanswers
  obtain ⟨hrefusal, hslipped, hrejected⟩ := hanswers
  rw [hrefusal, if_neg (fun h => nomatch h.2)] at hinfo
  rw [hslipped, if_pos rfl] at hwarned
  rw [hrejected, if_pos rfl] at hfailed
  exact ⟨o, ho, hinfo, hwarned, hfailed⟩

end Journal

end Registry

end ConstantProduct
