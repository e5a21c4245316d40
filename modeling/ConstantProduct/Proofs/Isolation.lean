import Mathlib
import ConstantProduct.Proofs.Creation
import ConstantProduct.Proofs.RegistryRuns
import ConstantProduct.Proofs.Soundness

namespace ConstantProduct

namespace Registry

def Op.tierFor? (P : PoolId) : Op → Option UInt16
  | .createPool id index .. => if id = P then some index else none
  | _ => none

def tiersFor (P : PoolId) (ops : List Op) : List UInt16 := ops.filterMap (·.tierFor? P)

/-- The operation names the pool `P`, or writes a tier with an index in `I`. -/
def Op.concerns (P : PoolId) (I : List UInt16) : Op → Bool
  | .register t => t.index ∈ I
  | .updateTier index _ => index ∈ I
  | op => op.pool? = some P

/-- The operations of a run that name the pool `P` or write a tier that it is to be created
under. -/
def concerning (P : PoolId) (ops : List Op) : List Op := ops.filter (·.concerns P (tiersFor P ops))

def journalFor (r : Registry) (P : PoolId) (ops : List Op) : List (Op × Answer) :=
  (r.journal ops).filter (·.1.concerns P (tiersFor P ops))

section Isolation

variable {P : PoolId} {I : List UInt16} {r r' : Registry} {op : Op}

theorem Op.concerns_of_tierFor? {i : UInt16} (h : op.tierFor? P = some i) :
    op.concerns P I = true := by
  cases op <;> simp_all [tierFor?, concerns, pool?]

/-- The operations that do not concern a pool do not create it. -/
theorem tiersFor_filter (P : PoolId) (I : List UInt16) (ops : List Op) :
    tiersFor P (ops.filter (·.concerns P I)) = tiersFor P ops := by
  rw [tiersFor, List.filterMap_filter]
  refine List.filterMap_congr fun op _ => ?_
  rcases h : op.tierFor? P with _ | i
  · simp
  · rw [Op.concerns_of_tierFor? h]
    rfl

/-- Each tier is kept under its own index, and the pool `P`, if there is one, has its tier in
`I`. -/
structure Confined (P : PoolId) (I : List UInt16) (r : Registry) : Prop where
  keyed : r.Keyed
  tier_mem : ∀ l : Ledger, r.pools[P]? = some l → l.pool.tier ∈ I

theorem confined_empty (P : PoolId) (I : List UInt16) (capacity : UInt64) :
    Confined P I (empty capacity) := ⟨keyed_empty capacity, by simp [empty]⟩

theorem Confined.step (h : Confined P I r) (hI : ∀ i, op.tierFor? P = some i → i ∈ I) :
    Confined P I (r.step op).next := by
  refine ⟨h.keyed.step op, ?_⟩
  intro l hl
  cases r.step_effect op with
  | unchanged _ _ pools => exact h.tier_mem l (pools ▸ hl)
  | registered _ _ _ pools => exact h.tier_mem l (pools ▸ hl)
  | updated _ _ _ _ pools => exact h.tier_mem l (pools ▸ hl)
  | created found _ create _ _ pools =>
    rw [pools, pools_insert] at hl
    split_ifs at hl with hid
    · obtain ⟨-, -, -, rfl⟩ := Ledger.create_eq_ok_iff.1 create
      rw [← Option.some.inj hl, Ledger.opened, Pool.opened, h.keyed _ _ found]
      exact hI _ (if_pos hid)
    · exact h.tier_mem l hl
  | stepped _ found lop _ _ pools =>
    rw [pools, pools_insert] at hl
    split_ifs at hl with hid
    · rw [hid] at found
      obtain ⟨-, -, -, htier, -⟩ := Ledger.step_fixed _ lop
      rw [← Option.some.inj hl, htier]
      exact h.tier_mem _ found
    · exact h.tier_mem l hl

/-- Two registries with the same pool `P`, the same tiers in `I`, and rings of the same size for new
pools. -/
structure Alike (P : PoolId) (I : List UInt16) (r r' : Registry) : Prop where
  capacity : r.capacity = r'.capacity
  pool : r.pools[P]? = r'.pools[P]?
  tiers : ∀ i ∈ I, r.tiers[i]? = r'.tiers[i]?

theorem Alike.trans {r'' : Registry} (h : Alike P I r r') (h' : Alike P I r' r'') :
    Alike P I r r'' where
  capacity := h.capacity.trans h'.capacity
  pool := h.pool.trans h'.pool
  tiers i hi := (h.tiers i hi).trans (h'.tiers i hi)

/-- An operation that does not concern the pool leaves all of it alone. -/
theorem alike_step_of_not_concerns (r : Registry) (hop : op.concerns P I = false) :
    Alike P I (r.step op).next r := by
  refine ⟨r.capacity_step op, ?_, ?_⟩
  · cases r.step_effect op with
    | unchanged _ _ pools => rw [pools]
    | registered _ _ _ pools => rw [pools]
    | updated _ _ _ _ pools => rw [pools]
    | created _ _ _ _ _ pools =>
      rw [pools, pools_insert, if_neg]
      rintro rfl
      simp [Op.concerns, Op.pool?] at hop
    | stepped names _ _ _ _ pools =>
      rw [pools, pools_insert, if_neg]
      rintro rfl
      cases op <;> simp_all [Op.concerns, Op.pool?]
  · intro i hi
    cases r.step_effect op with
    | unchanged _ tiers _ => rw [tiers]
    | registered _ _ tiers _ =>
      rw [tiers, tiers_insert, if_neg]
      rintro rfl
      simp [Op.concerns, hi] at hop
    | updated _ _ _ tiers _ =>
      rw [tiers, tiers_insert, if_neg]
      rintro rfl
      simp [Op.concerns, hi] at hop
    | created _ _ _ _ tiers _ => rw [tiers]
    | stepped _ _ _ _ tiers _ => rw [tiers]

namespace Alike

theorem insert_tier (h : Alike P I r r') (i : UInt16) (t : FeeTier) (s s' : Stats) :
    Alike P I { r with tiers := r.tiers.insert i t, stats := s }
      { r' with tiers := r'.tiers.insert i t, stats := s' } where
  capacity := h.capacity
  pool := h.pool
  tiers j hj := by rw [tiers_insert, tiers_insert, h.tiers j hj]

theorem insert_pool (h : Alike P I r r') (id : PoolId) (l : Ledger) (s s' : Stats) :
    Alike P I { r with pools := r.pools.insert id l, stats := s }
      { r' with pools := r'.pools.insert id l, stats := s' } where
  capacity := h.capacity
  pool := by rw [pools_insert, pools_insert, h.pool]
  tiers := h.tiers

theorem with_stats (h : Alike P I r r') (s s' : Stats) :
    Alike P I { r with stats := s } { r' with stats := s' } :=
  ⟨h.capacity, h.pool, h.tiers⟩

theorem tier_eq (h : Alike P I r r') {i : UInt16} (hi : i ∈ I) : r.tier i = r'.tier i := by
  rw [tier, tier, tier?, tier?, h.tiers i hi]

theorem ledger_eq (h : Alike P I r r') : r.ledger P = r'.ledger P := by
  rw [ledger, ledger, h.pool]

theorem contains_eq (h : Alike P I r r') : r.pools.contains P = r'.pools.contains P := by
  rw [Std.TreeMap.contains_eq_isSome_getElem?, Std.TreeMap.contains_eq_isSome_getElem?, h.pool]

end Alike

structure SameOutcome {α : Type} (P : PoolId) (I : List UInt16) (o o' : Outcome Registry α) :
    Prop where
  answer : o.answer = o'.answer
  next : Alike P I o.next o'.next

theorem SameOutcome.answered {α : Type} {o o' : Outcome Registry α} (h : SameOutcome P I o o')
    (wrap : α → Answer) : SameOutcome P I (answered wrap o) (answered wrap o') :=
  ⟨congrArg wrap h.answer, h.next⟩

namespace Alike

variable (h : Alike P I r r')
include h

theorem register {t : FeeTier} : SameOutcome P I (r.register t) (r'.register t) := by
  unfold Registry.register
  rcases t.validate with e | ⟨⟩
  · exact ⟨rfl, h⟩
  · exact ⟨rfl, h.insert_tier _ _ _ _⟩

theorem updateTier {index : UInt16} (hindex : index ∈ I) (u : TierUpdate) :
    SameOutcome P I (r.updateTier index u) (r'.updateTier index u) := by
  unfold Registry.updateTier
  rw [← h.tier_eq hindex]
  rcases r.tier index with e | t
  · exact ⟨rfl, h⟩
  dsimp only
  rcases t.update u with e | t'
  · exact ⟨rfl, h⟩
  · exact ⟨rfl, h.insert_tier _ _ _ _⟩

theorem createPool {index : UInt16} (hindex : index ∈ I) (reserves : PerToken Amount)
    (openTime : Int64) : SameOutcome P I (r.createPool P index reserves openTime)
      (r'.createPool P index reserves openTime) := by
  unfold Registry.createPool
  rw [← h.tier_eq hindex, ← h.contains_eq, ← h.capacity]
  rcases r.tier index with e | t
  · exact ⟨rfl, h⟩
  dsimp only
  split_ifs
  · exact ⟨rfl, h⟩
  rcases Ledger.create P t reserves openTime r.capacity with e | l
  · exact ⟨rfl, h⟩
  · exact ⟨rfl, h.insert_pool _ _ _ _⟩

theorem quote (hr : Confined P I r) (request : Request) :
    r.quote P request = r'.quote P request := by
  rw [Registry.quote, Registry.quote, ← h.ledger_eq]
  rcases hl : r.ledger P with e | l
  · rfl
  · rw [ok_bind, ok_bind, h.tier_eq (hr.tier_mem l (r.ledger_eq_ok_iff.1 hl))]

theorem swap (hr : Confined P I r) (request : Request) (timestamp : Int64) :
    SameOutcome P I (r.swap P request timestamp) (r'.swap P request timestamp) := by
  unfold Registry.swap
  rw [← h.ledger_eq]
  rcases hl : r.ledger P with e | l
  · exact ⟨rfl, h⟩
  dsimp only
  rw [← h.tier_eq (hr.tier_mem l (r.ledger_eq_ok_iff.1 hl))]
  rcases r.tier l.pool.tier with e | t
  · exact ⟨rfl, h⟩
  dsimp only
  rcases (l.swap request t timestamp).answer with e | receipt
  · exact ⟨rfl, h.with_stats _ _⟩
  · exact ⟨rfl, h.insert_pool _ _ _ _⟩

theorem onLedger {α : Type} (f : Ledger → Outcome Ledger α) :
    SameOutcome P I (r.onLedger P f) (r'.onLedger P f) := by
  unfold Registry.onLedger
  rw [← h.ledger_eq]
  rcases r.ledger P with e | l
  · exact ⟨rfl, h⟩
  · exact ⟨rfl, h.insert_pool _ _ _ _⟩

theorem observations : r.observations P = r'.observations P := by
  rw [Registry.observations, Registry.observations, h.ledger_eq]

/-- To an operation that concerns the pool, registries that are alike respond the same. -/
theorem step (hr : Confined P I r) (hop : op.concerns P I = true)
    (hI : ∀ i, op.tierFor? P = some i → i ∈ I) : SameOutcome P I (r.step op) (r'.step op) := by
  cases op with
  | register t => exact h.register.answered _
  | updateTier index u => exact (h.updateTier (of_decide_eq_true hop) u).answered _
  | createPool id index reserves openTime =>
    obtain rfl := Option.some.inj (of_decide_eq_true hop)
    exact (h.createPool (hI index (if_pos rfl)) reserves openTime).answered _
  | quoteExactInput id direction amountIn =>
    obtain rfl := Option.some.inj (of_decide_eq_true hop)
    exact ⟨congrArg Answer.quote (h.quote hr _), h⟩
  | quoteExactOutput id direction amountOut =>
    obtain rfl := Option.some.inj (of_decide_eq_true hop)
    exact ⟨congrArg Answer.quote (h.quote hr _), h⟩
  | swap id request timestamp =>
    obtain rfl := Option.some.inj (of_decide_eq_true hop)
    exact (h.swap hr request timestamp).answered _
  | collectProtocol id requested =>
    obtain rfl := Option.some.inj (of_decide_eq_true hop)
    exact (h.onLedger _).answered _
  | collectFund id requested =>
    obtain rfl := Option.some.inj (of_decide_eq_true hop)
    exact (h.onLedger _).answered _
  | setStatus id bits =>
    obtain rfl := Option.some.inj (of_decide_eq_true hop)
    exact (h.onLedger _).answered _
  | pool id =>
    obtain rfl := Option.some.inj (of_decide_eq_true hop)
    exact ⟨congrArg (fun l : Option Ledger => Answer.pool (l.map Ledger.pool)) h.pool, h⟩
  | observations id =>
    obtain rfl := Option.some.inj (of_decide_eq_true hop)
    exact ⟨congrArg Answer.observations h.observations, h⟩
  | tier index => simp [Op.concerns, Op.pool?] at hop
  | poolIds => simp [Op.concerns, Op.pool?] at hop

end Alike

/-- The operations that do not concern the pool can be left out of a run: the others answer as
before, and the registries stay alike. -/
theorem Alike.run_filter (h : Alike P I r r') (hr : Confined P I r) {ops : List Op}
    (hI : tiersFor P ops ⊆ I) :
    (r.journal ops).filter (·.1.concerns P I) = r'.journal (ops.filter (·.concerns P I)) ∧
      Alike P I (r.run ops) (r'.run (ops.filter (·.concerns P I))) := by
  induction ops generalizing r r' with
  | nil => exact ⟨rfl, h⟩
  | cons op ops ih =>
    have hop : ∀ i, op.tierFor? P = some i → i ∈ I := fun i hi =>
      hI (List.mem_filterMap.2 ⟨op, List.mem_cons_self, hi⟩)
    have hops : tiersFor P ops ⊆ I := fun i hi => by
      obtain ⟨op', hmem, hi⟩ := List.mem_filterMap.1 hi
      exact hI (List.mem_filterMap.2 ⟨op', List.mem_cons_of_mem _ hmem, hi⟩)
    simp only [journal_cons, run_cons, List.filter_cons]
    cases hconcerns : op.concerns P I with
    | true =>
      have hstep := h.step hr hconcerns hop
      obtain ⟨hjournal, hrun⟩ := ih hstep.next (hr.step hop) hops
      rw [if_pos rfl, if_pos rfl, journal_cons, run_cons, hjournal, hstep.answer]
      exact ⟨rfl, hrun⟩
    | false =>
      -- Only the first registry moves, and not in the part that is compared.
      have hstep := (r.alike_step_of_not_concerns hconcerns).trans h
      obtain ⟨hjournal, hrun⟩ := ih hstep (hr.step hop) hops
      rw [if_neg Bool.false_ne_true, if_neg Bool.false_ne_true, hjournal]
      exact ⟨rfl, hrun⟩

end Isolation

/-- In two runs with the same operations on a pool and on the tiers it is to be created under, those
operations have the same answers and the pool ends the same, whatever happens to others. -/
theorem pools_do_not_interfere (capacity : UInt64) (P : PoolId) {ops ops' : List Op}
    (h : concerning P ops = concerning P ops') :
    (empty capacity).journalFor P ops = (empty capacity).journalFor P ops' ∧
      ((empty capacity).run ops).pools[P]? = ((empty capacity).run ops').pools[P]? := by
  have hI : tiersFor P ops = tiersFor P ops' := by
    rw [← tiersFor_filter P (tiersFor P ops) ops, ← tiersFor_filter P (tiersFor P ops') ops']
    exact congrArg (tiersFor P) h
  have hempty : Alike P (tiersFor P ops) (empty capacity) (empty capacity) :=
    ⟨rfl, rfl, fun _ _ => rfl⟩
  have hconfined := confined_empty P (tiersFor P ops) capacity
  obtain ⟨hjournal, hrun⟩ := hempty.run_filter hconfined (List.Subset.refl _)
  have hsubset : tiersFor P ops' ⊆ tiersFor P ops := hI ▸ List.Subset.refl _
  obtain ⟨hjournal', hrun'⟩ := hempty.run_filter hconfined hsubset
  rw [concerning, concerning, ← hI] at h
  refine ⟨?_, ?_⟩
  · rw [journalFor, journalFor, ← hI, hjournal, hjournal', h]
  · rw [hrun.pool, hrun'.pool, h]

def alone : List Op :=
  [.register Ledger.tenth, .createPool .zero 0 ⟨1000000000, 24000000000⟩ 100,
    .swap .zero ⟨.zeroForOne, .exactInput 100000000 0⟩ 200, .observations .zero]

def inCompany : List Op :=
  let other : PoolId := ⟨.replicate 32 9⟩
  [.register { Ledger.tenth with index := 1 }, .register Ledger.tenth,
    .createPool .zero 0 ⟨1000000000, 24000000000⟩ 100, .createPool other 1 ⟨5000, 7000⟩ 50,
    .swap other ⟨.oneForZero, .exactInput 90 0⟩ 150, .updateTier 1 (.protocolRate 1000),
    .swap .zero ⟨.zeroForOne, .exactInput 100000000 0⟩ 200, .collectProtocol other ⟨1, 1⟩,
    .poolIds, .observations .zero]

theorem journalFor_alone_eq : concerning .zero alone = concerning .zero inCompany ∧
    (empty 8).journalFor .zero alone = (empty 8).journalFor .zero inCompany ∧
      ((empty 8).run alone).pools[PoolId.zero]? = ((empty 8).run inCompany).pools[PoolId.zero]? :=
  ⟨by decide, pools_do_not_interfere 8 .zero (by decide)⟩

end Registry

end ConstantProduct
