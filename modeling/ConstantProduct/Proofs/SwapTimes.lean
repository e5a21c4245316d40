import Mathlib
import ConstantProduct.Proofs.PriceHistory
import ConstantProduct.Proofs.Soundness

namespace ConstantProduct

section Lists

variable {α : Type}

/-- The last `n` items of a list with one more depend on the last `n` of the list alone. -/
theorem rtake_rtake_concat (l : List α) (a : α) (n : ℕ) :
    (l.rtake n ++ [a]).rtake n = (l ++ [a]).rtake n := by
  cases n with
  | zero => rw [List.rtake_zero, List.rtake_zero]
  | succ n =>
    rw [List.rtake_concat_succ, List.rtake_concat_succ]
    simp [List.rtake_eq_reverse_take_reverse, List.take_take]

theorem getLast?_rtake (l : List α) {n : ℕ} (hn : 0 < n) : (l.rtake n).getLast? = l.getLast? := by
  rw [List.rtake, List.getLast?_drop]
  split_ifs with h
  · rw [List.length_eq_zero_iff.1 (by omega : l.length = 0), List.getLast?_nil]
  · rfl

variable [DecidableEq α]

theorem destutter'_concat (l : List α) (a b : α) :
    (l ++ [b]).destutter' (· ≠ ·) a =
      if (a :: l).getLast? = some b then l.destutter' (· ≠ ·) a
      else l.destutter' (· ≠ ·) a ++ [b] := by
  induction l generalizing a with
  | nil =>
    by_cases h : a = b
    · simp [h]
    · simp [h]
  | cons c l ih =>
    rw [List.cons_append, List.getLast?_cons_cons]
    by_cases h : a = c
    · rw [List.destutter'_cons_neg _ (not_not.2 h), List.destutter'_cons_neg _ (not_not.2 h), ih, h]
    · rw [List.destutter'_cons_pos _ h, List.destutter'_cons_pos _ h, ih]
      split_ifs <;> rfl

/-- An item more is dropped just when it repeats the last one. -/
theorem destutter_concat (l : List α) (b : α) :
    (l ++ [b]).destutter (· ≠ ·) =
      if l.getLast? = some b then l.destutter (· ≠ ·) else l.destutter (· ≠ ·) ++ [b] := by
  cases l with
  | nil => rfl
  | cons a l => exact destutter'_concat l a b

theorem getLast?_destutter (l : List α) : (l.destutter (· ≠ ·)).getLast? = l.getLast? := by
  induction l using List.reverseRecOn with
  | nil => rfl
  | append_singleton l a ih =>
    rw [destutter_concat, List.getLast?_concat]
    split_ifs with h
    · rw [ih, h]
    · rw [List.getLast?_concat]

end Lists

namespace Ring

/-- The ring holds the last of some times, those at which it was recorded in, each once. -/
def KeepsTimes (r : Ring) (times : List Int64) : Prop :=
  r.observations.map (·.timestamp) = (times.destutter (· ≠ ·)).rtake r.capacity

variable {r : Ring} {times : List Int64}

theorem capacity_pos (r : Ring) : 0 < r.capacity := r.size_pos

theorem observations_push_eq_rtake (r : Ring) (o : Observation) :
    (r.push o).observations = (r.observations ++ [o]).rtake r.capacity := by
  rw [observations_push, List.rtake, List.length_append, length_observations, List.length_singleton]
  rfl

theorem KeepsTimes.latest (h : r.KeepsTimes times) :
    r.latest?.map (·.timestamp) = times.getLast? := by
  have hlast := congrArg List.getLast? h
  rwa [List.getLast?_map, getLast?_observations, getLast?_rtake _ r.capacity_pos,
    getLast?_destutter] at hlast

/-- Only the time of the newest observation is not observed again. -/
theorem stage_eq_none {timestamp : Int64} {prices : PerToken Wide}
    (h : r.stage timestamp prices = .ok none) : r.latest?.map (·.timestamp) = some timestamp := by
  obtain ⟨-, hupdate⟩ := stage_eq_ok_iff.1 h
  unfold update at hupdate
  rcases hlatest : r.latest? with _ | last
  · simp [hlatest] at hupdate
  · simp only [hlatest] at hupdate
    split_ifs at hupdate with hsame
    rw [Option.map_some, hsame]

/-- What is staged is committed as one observation of its time, whether it is new or not. -/
theorem KeepsTimes.commit {timestamp : Int64} {prices : PerToken Wide}
    {staged : Option Observation} (h : r.KeepsTimes times)
    (hs : r.stage timestamp prices = .ok staged) :
    (r.commit staged).KeepsTimes (times ++ [timestamp]) := by
  unfold KeepsTimes
  rw [destutter_concat, capacity_commit, ← h.latest]
  rcases staged with _ | o
  · rw [if_pos (stage_eq_none hs)]
    exact h
  · obtain ⟨htime, hlater⟩ := stage_eq_some hs
    have hnew : ¬r.latest?.map (·.timestamp) = some timestamp := by
      rw [Option.map_eq_some_iff]
      rintro ⟨last, hlast, hsame⟩
      exact Int64.lt_irrefl (hsame ▸ (hlater last hlast).1)
    rw [if_neg hnew, Ring.commit, observations_push_eq_rtake,
      ← rtake_rtake_concat (times.destutter (· ≠ ·)), ← h]
    simp [List.rtake, htime]

end Ring

namespace Ledger

def swapTime? : Op × Answer → Option Int64
  | (.swap _ _ timestamp, .swap (.ok _)) => some timestamp
  | _ => none

def swapTimes (l : Ledger) (ops : List Op) : List Int64 := (l.journal ops).filterMap swapTime?

theorem swapTime?_step (l : Ledger) (op : Op) :
    swapTime? (op, (l.step op).answer) = (l.step op).answer.receipt?.map (·.timestamp) := by
  cases op with
  | swap r tier timestamp =>
    rcases h : l.stage r tier timestamp with e | s
    · simp [step, swap, h, swapTime?, Answer.receipt?]
    · simp [step, swap, h, swapTime?, Answer.receipt?, Staged.receipt]
  | quote r tier => rfl
  | collectProtocol requested => rfl
  | collectFund requested => rfl
  | setStatus bits => rfl

theorem swapTimes_eq_map (l : Ledger) (ops : List Op) :
    l.swapTimes ops = (l.receipts ops).map (·.timestamp) := by
  induction ops generalizing l with
  | nil => rfl
  | cons op ops ih =>
    have hrest : (l.step op).next.swapTimes ops = _ := ih _
    rw [swapTimes] at hrest ⊢
    rw [receipts, answers_cons, journal_cons, List.filterMap_cons, List.filterMap_cons,
      swapTime?_step, hrest, receipts]
    rcases (l.step op).answer.receipt? with _ | receipt <;> rfl

/-- No swap passes before the opening time, or at it. -/
theorem openTime_lt_swapTimes (l : Ledger) (ops : List Op) :
    ∀ t ∈ l.swapTimes ops, l.pool.openTime < t := by
  rw [swapTimes_eq_map, receipts_eq_journal, List.forall_mem_map]
  refine (run_invariant (P := fun l' js => l'.pool.openTime = l.pool.openTime ∧
    ∀ r ∈ js.filterMap (·.2.receipt?), l.pool.openTime < r.timestamp) ?_ ⟨rfl, by simp⟩).2
  rintro l' js op - ⟨hopen, hlate⟩
  obtain ⟨-, -, -, -, hkept⟩ := step_fixed l' op
  refine ⟨hkept.trans hopen, ?_⟩
  rw [List.filterMap_append]
  intro receipt hmem
  rcases List.mem_append.1 hmem with hmem | hmem
  · exact hlate receipt hmem
  · rcases step_cases l' op with ⟨hnone, -⟩ | ⟨r, tier, timestamp, s, -, hs, hsome, -⟩
    · simp [hnone] at hmem
    · obtain ⟨hswappable, -⟩ := stage_eq_ok_iff.1 hs
      obtain rfl : receipt = s.receipt timestamp := by simpa [hsome] using hmem
      exact hopen ▸ hswappable.opened

theorem keepsTimes_opened (id : PoolId) (tier : FeeTier) (reserves : PerToken Amount)
    (openTime : Int64) (capacity : UInt64) :
    (opened id tier reserves openTime capacity).oracle.KeepsTimes [openTime] := by
  have hpos := (opened id tier reserves openTime capacity).oracle.capacity_pos
  unfold Ring.KeepsTimes
  rw [observations_opened, List.destutter_singleton, List.rtake, List.length_singleton,
    Nat.sub_eq_zero_of_le (Nat.succ_le_of_lt hpos)]
  rfl

/-- The ring of a run holds the last of the times of its swaps. -/
theorem keepsTimes_run (id : PoolId) (tier : FeeTier) (reserves : PerToken Amount)
    (openTime : Int64) (capacity : UInt64) (ops : List Op) :
    let l := opened id tier reserves openTime capacity
    (l.run ops).oracle.KeepsTimes (openTime :: l.swapTimes ops) := by
  dsimp only
  rw [swapTimes_eq_map]
  refine run_of_swaps (P := fun _ ring rs => ring.KeepsTimes (openTime :: rs.map (·.timestamp)))
    ?_ (keepsTimes_opened id tier reserves openTime capacity)
  intro l r tier timestamp s rs _ hs h
  obtain ⟨-, -, -, -, -, htimely, -, hobservation⟩ := stage_eq_ok_iff.1 hs
  rw [List.map_append, ← List.cons_append]
  exact h.commit (Ring.stage_eq_ok_iff.2 ⟨htimely, hobservation⟩)

/-- One observation per time. The swaps of a run that pass do so after the opening, in the order of
their times; and the observations are of the opening time and of those times, each once, of which
the ring holds as many of the last as it has slots. -/
theorem one_observation_per_time {id : PoolId} {tier : FeeTier} {reserves : PerToken Amount}
    {openTime : Int64} {capacity : UInt64} {l : Ledger}
    (hcreate : create id tier reserves openTime capacity = .ok l) (ops : List Op) :
    let ring := (l.run ops).oracle
    (∀ t ∈ l.swapTimes ops, openTime < t) ∧ (l.swapTimes ops).Pairwise (· ≤ ·) ∧
    ring.observations.map (·.timestamp) =
      ((openTime :: l.swapTimes ops).destutter (· ≠ ·)).rtake (max capacity.toNat 1) ∧
    ∃ newest, ring.latest? = some newest ∧
      newest.timestamp = (l.swapTimes ops).getLast?.getD openTime := by
  obtain ⟨-, -, hpos, rfl⟩ := create_eq_ok_iff.1 hcreate
  have htimes := keepsTimes_run id tier reserves openTime capacity ops
  have hordered := (tracks_run id tier reserves openTime capacity ops).ordered
  have hsound : Sound id tier.index openTime capacity
      ((opened id tier reserves openTime capacity).run ops) := (sound_opened _ _ hpos).run ops
  refine ⟨openTime_lt_swapTimes _ ops, ?_, ?_, ?_⟩
  · rw [swapTimes_eq_map]
    exact List.pairwise_map.2 hordered
  · rw [← hsound.capacity_eq]
    exact htimes
  · have hnewest := htimes.latest
    rw [List.getLast?_cons, Option.map_eq_some_iff] at hnewest
    exact hnewest

def crowdedTimes : List Op :=
  [.swap ⟨.zeroForOne, .exactInput 100000 0⟩ tenth 200,
    .swap ⟨.oneForZero, .exactInput 100000 0⟩ tenth 200,
    .swap ⟨.zeroForOne, .exactInput 100000 0⟩ tenth 150,
    .swap ⟨.zeroForOne, .exactInput 100000 0⟩ tenth 300]

theorem timestamps_of_crowdedTimes :
    let l := opened default tenth ⟨1000000000, 24000000000⟩ 100 2
    l.swapTimes crowdedTimes = [200, 200, 300] ∧
      (l.run crowdedTimes).oracle.observations.map (·.timestamp) = [200, 300] := by
  have hcreate : create default tenth ⟨1000000000, 24000000000⟩ 100 2 =
      .ok (opened default tenth ⟨1000000000, 24000000000⟩ 100 2) :=
    create_eq_ok_iff.2 ⟨by decide, rfl, fun t => by cases t <;> decide, rfl⟩
  have hswaps : (opened default tenth ⟨1000000000, 24000000000⟩ 100 2).swapTimes crowdedTimes =
      [200, 200, 300] := by decide +kernel
  obtain ⟨-, -, htimes, -⟩ := one_observation_per_time hcreate crowdedTimes
  refine ⟨hswaps, ?_⟩
  rw [htimes, hswaps]
  decide

end Ledger

end ConstantProduct
