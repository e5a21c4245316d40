import Mathlib
import ConstantProduct.Proofs.RegistryRuns

namespace ConstantProduct.Registry

section Counted

def created? : Op × Answer → Option PoolId
  | (.createPool id _ _ _, .done (.ok ())) => some id
  | _ => none

def registered? : Op × Answer → Option UInt16
  | (.register t, .done (.ok ())) => some t.index
  | _ => none

def applied? : Op × Answer → Option Int64
  | (.swap _ _ timestamp, .swap (.ok _)) => some timestamp
  | _ => none

/-- A swap was refused by its pool, and not for want of the pool or of its tier. -/
def rejected : Op × Answer → Bool
  | (.swap _ _ _, .swap (.error (.settlement _))) => true
  | _ => false

/-- The counters have moved by what an operation with its answer did. -/
structure Counts (r : Registry) (j : Op × Answer) (next : Registry) : Prop where
  fresh : ∀ id, created? j = some id → id ∉ r.pools
  mem_pools : ∀ id, id ∈ next.pools ↔ id ∈ r.pools ∨ created? j = some id
  mem_tiers : ∀ i, i ∈ next.tiers ↔ i ∈ r.tiers ∨ registered? j = some i
  pools : next.stats.pools = r.stats.pools + (created? j).toList.length
  tiers : next.stats.tiers = r.stats.tiers + (registered? j).toList.countP (· ∉ r.tiers)
  swapsApplied : next.stats.swapsApplied = r.stats.swapsApplied + (applied? j).toList.length
  swapsRejected : next.stats.swapsRejected = r.stats.swapsRejected + (rejected j).toNat
  lastSwap : next.stats.lastSwap = (applied? j).toList.foldl max r.stats.lastSwap

variable {r next : Registry} {j : Op × Answer}

theorem Counts.of_uncounted (created : created? j = none) (registered : registered? j = none)
    (applied : applied? j = none) (hrejected : rejected j = false) (stats : next.stats = r.stats)
    (pools : ∀ id, id ∈ next.pools ↔ id ∈ r.pools) (tiers : ∀ i, i ∈ next.tiers ↔ i ∈ r.tiers) :
    Counts r j next where
  fresh id h := by simp [created] at h
  mem_pools id := by simp [created, pools]
  mem_tiers i := by simp [registered, tiers]
  pools := by simp [created, stats]
  tiers := by simp [registered, stats]
  swapsApplied := by simp [applied, stats]
  swapsRejected := by simp [hrejected, stats]
  lastSwap := by simp [applied, stats]

theorem Counts.of_unchanged (created : created? j = none) (registered : registered? j = none)
    (applied : applied? j = none) (hrejected : rejected j = false) : Counts r j r :=
  .of_uncounted created registered applied hrejected rfl (fun _ => Iff.rfl) fun _ => Iff.rfl

theorem mem_putLedger {id : PoolId} {l l' : Ledger} (h : r.ledger id = .ok l) (p : PoolId) :
    p ∈ (r.putLedger id l').pools ↔ p ∈ r.pools := by
  have hid : id ∈ r.pools := mem_pools_iff.2 ⟨l, r.ledger_eq_ok_iff.1 h⟩
  rw [putLedger, Std.TreeMap.mem_insert, Std.compare_eq_iff_eq]
  constructor
  · rintro (rfl | hp)
    · exact hid
    · exact hp
  · exact .inr

theorem swap_counts (r : Registry) (id : PoolId) (request : Request) (timestamp : Int64) :
    Counts r (.swap id request timestamp, .swap (r.swap id request timestamp).answer)
      (r.swap id request timestamp).next := by
  unfold swap
  rcases h : r.ledger id with e | l
  · obtain rfl := ledger_error h
    exact .of_unchanged rfl rfl rfl rfl
  dsimp only
  rcases ht : r.tier l.pool.tier with e | t
  · obtain rfl := tier_error ht
    exact .of_unchanged rfl rfl rfl rfl
  dsimp only
  rcases (l.swap request t timestamp).answer with e | receipt
  · exact {
      fresh := by simp [created?]
      mem_pools := by simp [created?]
      mem_tiers := by simp [registered?]
      pools := rfl
      tiers := rfl
      swapsApplied := rfl
      swapsRejected := rfl
      lastSwap := rfl }
  · exact {
      fresh := by simp [created?]
      mem_pools := fun p => by simpa [created?] using mem_putLedger h p
      mem_tiers := by simp [registered?, putLedger]
      pools := rfl
      tiers := rfl
      swapsApplied := rfl
      swapsRejected := rfl
      lastSwap := rfl }

/-- An operation on the ledger of a registered pool moves no counter. -/
theorem onLedger_counts {α : Type} (r : Registry) (id : PoolId) (f : Ledger → Outcome Ledger α)
    {j : Op × Answer} (created : created? j = none) (registered : registered? j = none)
    (applied : applied? j = none) (hrejected : rejected j = false) :
    Counts r j (r.onLedger id f).next := by
  unfold onLedger
  rcases h : r.ledger id with e | l
  · exact .of_unchanged created registered applied hrejected
  · exact .of_uncounted created registered applied hrejected rfl (mem_putLedger h) fun _ => Iff.rfl

/-- All that an operation does to the counters, and to what they count. -/
theorem step_counts (r : Registry) (op : Op) :
    Counts r (op, (r.step op).answer) (r.step op).next := by
  cases op with
  | register t =>
    simp only [step, answered, register]
    rcases t.validate with e | ⟨⟩
    · exact .of_unchanged rfl rfl rfl rfl
    · exact {
        fresh := by simp [created?]
        mem_pools := by simp [created?, withTier]
        mem_tiers := fun i => by
          simp [registered?, withTier, Std.TreeMap.mem_insert, or_comm]
        pools := rfl
        tiers := by
          by_cases hi : t.index ∈ r.tiers <;> simp [registered?, withTier, hi]
        swapsApplied := rfl
        swapsRejected := rfl
        lastSwap := rfl }
  | updateTier index u =>
    simp only [step, answered, updateTier]
    rcases h : r.tier index with e | t
    · exact .of_unchanged rfl rfl rfl rfl
    dsimp only
    rcases t.update u with e | next
    · exact .of_unchanged rfl rfl rfl rfl
    · refine .of_uncounted rfl rfl rfl rfl rfl (fun _ => Iff.rfl) fun i => ?_
      -- The tier was there, so its index is no new one.
      have hindex : index ∈ r.tiers := mem_tiers_iff.2 ⟨t, r.tier_eq_ok_iff.1 h⟩
      simp only [Std.TreeMap.mem_insert, Std.compare_eq_iff_eq]
      constructor
      · rintro (rfl | hi)
        · exact hindex
        · exact hi
      · exact .inr
  | createPool id index reserves openTime =>
    simp only [step, answered, createPool]
    rcases r.tier index with e | t
    · exact .of_unchanged rfl rfl rfl rfl
    dsimp only
    split_ifs with hid
    · exact .of_unchanged rfl rfl rfl rfl
    rcases Ledger.create id t reserves openTime r.capacity with e | l
    · exact .of_unchanged rfl rfl rfl rfl
    · exact {
        fresh := by
          rintro _ ⟨⟩
          rwa [Std.TreeMap.contains_iff_mem] at hid
        mem_pools := fun p => by
          simp [created?, putLedger, Std.TreeMap.mem_insert, or_comm]
        mem_tiers := by simp [registered?, putLedger]
        pools := rfl
        tiers := rfl
        swapsApplied := rfl
        swapsRejected := rfl
        lastSwap := rfl }
  | swap id request timestamp => exact r.swap_counts id request timestamp
  | collectProtocol id requested => exact r.onLedger_counts id _ rfl rfl rfl rfl
  | collectFund id requested => exact r.onLedger_counts id _ rfl rfl rfl rfl
  | setStatus id bits => exact r.onLedger_counts id _ rfl rfl rfl rfl
  | tier index => exact .of_unchanged rfl rfl rfl rfl
  | quoteExactInput id direction amountIn => exact .of_unchanged rfl rfl rfl rfl
  | quoteExactOutput id direction amountOut => exact .of_unchanged rfl rfl rfl rfl
  | pool id => exact .of_unchanged rfl rfl rfl rfl
  | observations id => exact .of_unchanged rfl rfl rfl rfl
  | poolIds => exact .of_unchanged rfl rfl rfl rfl

structure Tallied (r : Registry) (js : List (Op × Answer)) : Prop where
  created_nodup : (js.filterMap created?).Nodup
  mem_pools : ∀ id, id ∈ r.pools ↔ id ∈ js.filterMap created?
  mem_tiers : ∀ i, i ∈ r.tiers ↔ i ∈ js.filterMap registered?
  pools : r.stats.pools = (js.filterMap created?).length
  tiers : r.stats.tiers = (js.filterMap registered?).toFinset.card
  swapsApplied : r.stats.swapsApplied = (js.filterMap applied?).length
  swapsRejected : r.stats.swapsRejected = js.countP rejected
  lastSwap : IsGreatest {t | t ∈ 0 :: js.filterMap applied?} r.stats.lastSwap

theorem tallied_empty (capacity : UInt64) : (empty capacity).Tallied [] where
  created_nodup := List.nodup_nil
  mem_pools := by simp [empty]
  mem_tiers := by simp [empty]
  pools := rfl
  tiers := rfl
  swapsApplied := rfl
  swapsRejected := rfl
  lastSwap := ⟨List.mem_cons_self, fun t ht => by
    obtain rfl := List.mem_singleton.1 ht
    exact Int64.le_refl 0⟩

theorem isGreatest_max {times : List Int64} {last : Int64}
    (h : IsGreatest {t | t ∈ times} last) (timestamp : Int64) :
    IsGreatest {t | t ∈ times ++ [timestamp]} (max last timestamp) := by
  have hmax : max last timestamp = if last ≤ timestamp then timestamp else last := rfl
  rw [hmax]
  split_ifs with hle
  · refine ⟨by simp, fun t ht => ?_⟩
    rcases List.mem_append.1 ht with ht | ht
    · exact Int64.le_trans (h.2 ht) hle
    · exact List.mem_singleton.1 ht ▸ Int64.le_refl _
  · refine ⟨List.mem_append_left _ h.1, fun t ht => ?_⟩
    rcases List.mem_append.1 ht with ht | ht
    · exact h.2 ht
    · rw [List.mem_singleton.1 ht]
      exact (Int64.le_total last timestamp).resolve_left hle

theorem filterMap_concat {α β : Type} (f : α → Option β) (l : List α) (a : α) :
    (l ++ [a]).filterMap f = l.filterMap f ++ (f a).toList := by
  rw [List.filterMap_append]
  rcases h : f a with _ | b <;> simp [h]

theorem Counts.tallied {js : List (Op × Answer)} (h : Counts r j next) (hr : r.Tallied js) :
    next.Tallied (js ++ [j]) where
  created_nodup := by
    have hfresh : ∀ id, created? j = some id → id ∉ js.filterMap created? := fun id hid hmem =>
      h.fresh id hid ((hr.mem_pools id).2 hmem)
    rw [filterMap_concat]
    rcases hid : created? j with _ | id
    · simpa using hr.created_nodup
    · rw [Option.toList_some, ← List.concat_eq_append, List.nodup_concat]
      exact ⟨hfresh id hid, hr.created_nodup⟩
  mem_pools id := by
    rw [h.mem_pools, hr.mem_pools, filterMap_concat, List.mem_append, Option.mem_toList]
  mem_tiers i := by
    rw [h.mem_tiers, hr.mem_tiers, filterMap_concat, List.mem_append, Option.mem_toList]
  pools := by rw [h.pools, hr.pools, filterMap_concat, List.length_append]
  tiers := by
    rw [h.tiers, hr.tiers, filterMap_concat]
    -- An index adds to the distinct ones only where no earlier registration had it.
    rcases registered? j with _ | i
    · simp
    · by_cases hi : i ∈ r.tiers
      · have hmem := (hr.mem_tiers i).1 hi
        simp [hi, hmem]
      · have hmem := mt (hr.mem_tiers i).2 hi
        simp [hi, hmem]
  swapsApplied := by rw [h.swapsApplied, hr.swapsApplied, filterMap_concat, List.length_append]
  swapsRejected := by
    rw [h.swapsRejected, hr.swapsRejected, List.countP_append]
    cases hj : rejected j <;> simp [hj]
  lastSwap := by
    rw [h.lastSwap, filterMap_concat, ← List.cons_append]
    rcases applied? j with _ | t
    · simpa using hr.lastSwap
    · exact isGreatest_max hr.lastSwap t

theorem Tallied.step {js : List (Op × Answer)} (h : r.Tallied js) (op : Op) :
    (r.step op).next.Tallied (js ++ [(op, (r.step op).answer)]) :=
  (r.step_counts op).tallied h

/-- A registry that was empty has as many pools as it counts, each of them created once; it counts
the indices under which tiers were registered, once each, the swaps that were applied and those that
a pool refused; and its last swap is the latest of those applied, or 0 where no swap was later. -/
theorem counters_are_exact (capacity : UInt64) (ops : List Op) :
    let r := (empty capacity).run ops
    let js := (empty capacity).journal ops
    (r.poolIds.Nodup ∧ (js.filterMap created?).Perm r.poolIds ∧
      r.stats.pools = r.poolIds.length) ∧
    ((∀ i, (∃ t, r.tier? i = some t) ↔ i ∈ js.filterMap registered?) ∧
      r.stats.tiers = (js.filterMap registered?).toFinset.card) ∧
    r.stats.swapsApplied = (js.filterMap applied?).length ∧
    r.stats.swapsRejected = js.countP rejected ∧
    IsGreatest {t | t ∈ 0 :: js.filterMap applied?} r.stats.lastSwap := by
  intro r js
  have h : r.Tallied js := run_invariant (fun _ _ op h => h.step op) (tallied_empty capacity) ops
  have hids : r.poolIds.Nodup := Std.TreeMap.nodup_keys
  have hperm : (js.filterMap created?).Perm r.poolIds :=
    (List.perm_ext_iff_of_nodup h.created_nodup hids).2 fun id => by
      rw [← h.mem_pools, poolIds, Std.TreeMap.mem_keys]
  refine ⟨⟨hids, hperm, h.pools.trans hperm.length_eq⟩, ⟨fun i => ?_, h.tiers⟩, h.swapsApplied,
    h.swapsRejected, h.lastSwap⟩
  rw [← h.mem_tiers, mem_tiers_iff, tier?]

end Counted

end ConstantProduct.Registry
