import Mathlib
import ConstantProduct.Proofs.PriceHistory
import ConstantProduct.Proofs.Recording

namespace ConstantProduct

section WeightedMean

variable {s : Finset ℕ} {price weight : ℕ → ℕ}

/-- A weighted mean, rounded down, is no less than the least of the values. -/
theorem exists_le_weightedMean (hpos : 0 < ∑ k ∈ s, weight k) :
    ∃ k ∈ s, price k ≤ (∑ k ∈ s, price k * weight k) / ∑ k ∈ s, weight k := by
  have hlt : ∑ k ∈ s, price k * weight k <
      ∑ k ∈ s, ((∑ k ∈ s, price k * weight k) / ∑ k ∈ s, weight k + 1) * weight k := by
    rw [← Finset.mul_sum, Nat.add_one_mul, Nat.mul_comm]
    exact Nat.lt_mul_div_succ _ hpos
  obtain ⟨k, hk, h⟩ := Finset.exists_lt_of_sum_lt hlt
  exact ⟨k, hk, Nat.le_of_lt_succ (Nat.lt_of_mul_lt_mul_right h)⟩

theorem exists_weightedMean_le (hne : s.Nonempty) (hpos : ∀ k ∈ s, 0 < weight k) :
    ∃ k ∈ s, (∑ k ∈ s, price k * weight k) / ∑ k ∈ s, weight k ≤ price k := by
  have hle : ∑ k ∈ s, (∑ k ∈ s, price k * weight k) / (∑ k ∈ s, weight k) * weight k ≤
      ∑ k ∈ s, price k * weight k := by
    rw [← Finset.mul_sum]
    exact Nat.div_mul_le_self _ _
  obtain ⟨k, hk, h⟩ := Finset.exists_le_of_sum_le hne hle
  exact ⟨k, hk, Nat.le_of_mul_le_mul_right h (hpos k hk)⟩

end WeightedMean

namespace Observation

theorem seconds_lt (a b : Int64) : seconds a b < 2 ^ 64 := by
  have := a.le_toInt
  have := b.toInt_lt
  unfold seconds
  omega

theorem toNat_elapsed (a b : Int64) : (elapsed a b).toNat = seconds a b :=
  Wide.toNat_ofNat_lt ((seconds_lt a b).trans (by norm_num))

theorem elapsed_ne_zero {a b : Int64} (h : a < b) : elapsed a b ≠ 0 := by
  have hpos := seconds_pos h
  rw [ne_eq, Wide.eq_zero_iff, toNat_elapsed]
  omega

theorem seconds_add {a b c : Int64} (hab : a ≤ b) (hbc : b ≤ c) :
    seconds a b + seconds b c = seconds a c := by
  have := Int64.le_iff_toInt_le.1 hab
  have := Int64.le_iff_toInt_le.1 hbc
  unfold seconds
  omega

/-- Between an observation and a later one there is an average: what the sums grew by, divided by
the seconds. -/
theorem exists_average {older newer : Observation} (h : older.timestamp < newer.timestamp) :
    ∃ mean, older.average? newer = some mean ∧ ∀ t,
      (mean.get t).toNat = (newer.cumulative.get t - older.cumulative.get t).toNat /
        seconds older.timestamp newer.timestamp := by
  refine ⟨_, if_neg (Int64.not_le.2 h), ?_⟩
  intro t
  rw [← toNat_elapsed]
  cases t <;> exact BitVec.toNat_udiv

end Observation

namespace Sample

def price (samples : List Sample) (t : Token) (k : ℕ) : ℕ :=
  ((samples.getD k default).prices.get t).toNat

/-- The seconds up to the sample at a place from the one before it. -/
def span (samples : List Sample) (k : ℕ) : ℕ :=
  Observation.seconds (samples.getD (k - 1) default).timestamp (samples.getD k default).timestamp

theorem exists_mem_tail {samples : List Sample} {k : ℕ} (hpos : 0 < k) (hk : k < samples.length) :
    ∃ s ∈ samples.tail, ∀ t, price samples t k = (s.prices.get t).toNat := by
  refine ⟨samples[k], ?_, ?_⟩
  · obtain ⟨m, rfl⟩ : ∃ m, k = m + 1 := ⟨k - 1, by omega⟩
    rw [← List.getElem_tail (by rw [List.length_tail]; omega)]
    exact List.getElem_mem _
  · intro t
    rw [price, List.getD_eq_getElem _ _ hk]

end Sample

namespace Ring

variable {r : Ring} {samples : List Sample} {older newer o : Observation} {i j k : ℕ}

theorem Reflects.timestamp_eq (h : r.Reflects samples) (ho : r.observations[k]? = some o) :
    o.timestamp = (samples.getD k default).timestamp := by
  have htimes : (r.observations.map (·.timestamp))[k]? = (samples.map (·.timestamp))[k]? :=
    congrArg (·[k]?) h.times
  rw [List.getElem?_map, List.getElem?_map, ho] at htimes
  rw [List.getD_eq_getElem?_getD]
  rcases hs : samples[k]? with _ | s
  · rw [hs] at htimes
    cases htimes
  · rw [hs] at htimes
    exact Option.some.inj htimes

theorem Reflects.advance_eq (h : r.Reflects samples) (holder : r.observations[k]? = some older)
    (hnewer : r.observations[k + 1]? = some newer) :
    newer = older.advance (samples.getD (k + 1) default).timestamp
      (samples.getD (k + 1) default).prices := by
  obtain ⟨hk, rfl⟩ := List.getElem?_eq_some_iff.1 holder
  obtain ⟨hk', rfl⟩ := List.getElem?_eq_some_iff.1 hnewer
  have hlength : samples.length = r.observations.length := by
    rw [h.length_eq, length_observations]
  have hsums := List.isChain_iff_getElem.1 h.sums k (by simp; omega)
  rw [List.getElem_zip, List.getElem_zip] at hsums
  rwa [List.getD_eq_getElem _ _ (hlength ▸ hk')]

theorem Increasing.getElem_lt (h : r.Increasing) (hij : i < j)
    (holder : r.observations[i]? = some older) (hnewer : r.observations[j]? = some newer) :
    older.timestamp < newer.timestamp := by
  obtain ⟨hi, rfl⟩ := List.getElem?_eq_some_iff.1 holder
  obtain ⟨hj, rfl⟩ := List.getElem?_eq_some_iff.1 hnewer
  exact List.pairwise_iff_getElem.1 h i j hi hj hij

theorem Reflects.span_eq (h : r.Reflects samples) (holder : r.observations[k]? = some older)
    (hnewer : r.observations[k + 1]? = some newer) :
    Sample.span samples (k + 1) = Observation.seconds older.timestamp newer.timestamp := by
  rw [Sample.span, Nat.add_sub_cancel, h.timestamp_eq holder, h.timestamp_eq hnewer]

/-- The seconds between two observations are those between each and the next, and the growth of
their sums is that of each over the one before. -/
theorem Reflects.between (h : r.Reflects samples) (hi : r.Increasing) (hij : i ≤ j)
    (holder : r.observations[i]? = some older) (hnewer : r.observations[j]? = some newer) :
    ∑ k ∈ Finset.Ioc i j, Sample.span samples k =
        Observation.seconds older.timestamp newer.timestamp ∧
      ∀ t, newer.cumulative.get t - older.cumulative.get t = BitVec.ofNat 128
        (∑ k ∈ Finset.Ioc i j, Sample.price samples t k * Sample.span samples k) := by
  induction j, hij using Nat.le_induction generalizing newer with
  | base =>
    rw [Option.some.inj (holder.symm.trans hnewer), Finset.Ioc_self]
    exact ⟨by simp [Observation.seconds], fun t => by simp⟩
  | succ j hij ih =>
    -- One observation further the sum gains the span up to it, at the price recorded with it.
    obtain ⟨mid, hmid⟩ : ∃ mid, r.observations[j]? = some mid := by
      obtain ⟨hlt, -⟩ := List.getElem?_eq_some_iff.1 hnewer
      exact ⟨_, List.getElem?_eq_getElem (by omega)⟩
    obtain ⟨hspan, hsums⟩ := ih hmid
    have hlast := h.span_eq hmid hnewer
    have hmidlt := hi.getElem_lt (Nat.lt_succ_self j) hmid hnewer
    have hle : older.timestamp ≤ mid.timestamp := by
      rcases hij.lt_or_eq with hlt | heq
      · exact Int64.le_of_lt (hi.getElem_lt hlt holder hmid)
      · subst heq
        rw [Option.some.inj (holder.symm.trans hmid)]
        exact Int64.le_refl _
    refine ⟨?_, ?_⟩
    · rw [Finset.sum_Ioc_succ_top hij, hspan, hlast]
      exact Observation.seconds_add hle (Int64.le_of_lt hmidlt)
    · intro t
      have hstep := Observation.cumulative_advance mid (samples.getD (j + 1) default).timestamp
        (samples.getD (j + 1) default).prices t
      rw [← h.advance_eq hmid hnewer, ← h.timestamp_eq hnewer, ← hlast] at hstep
      rw [Finset.sum_Ioc_succ_top hij, BitVec.ofNat_add, ← hsums t, hstep, BitVec.add_sub_comm]
      rfl

theorem Reflects.span_pos (h : r.Reflects samples) (hi : r.Increasing)
    (hnewer : r.observations[j]? = some newer) (hk : k ∈ Finset.Ioc i j) :
    0 < Sample.span samples k := by
  obtain ⟨hik, hkj⟩ := Finset.mem_Ioc.1 hk
  obtain ⟨hlt, -⟩ := List.getElem?_eq_some_iff.1 hnewer
  obtain ⟨m, rfl⟩ : ∃ m, k = m + 1 := ⟨k - 1, by omega⟩
  have hbefore : r.observations[m]? = some r.observations[m] := List.getElem?_eq_getElem (by omega)
  have hat : r.observations[m + 1]? = some r.observations[m + 1] :=
    List.getElem?_eq_getElem (by omega)
  rw [h.span_eq hbefore hat]
  exact Observation.seconds_pos (hi.getElem_lt (Nat.lt_succ_self m) hbefore hat)

/-- The average between two observations divides the total of the prices recorded since the older,
each times its seconds. Where the total is not cut, it lies between the least of them and the
greatest. -/
theorem Reflects.exists_mean (h : r.Reflects samples) (hi : r.Increasing) (hij : i < j)
    (holder : r.observations[i]? = some older) (hnewer : r.observations[j]? = some newer) :
    ∃ mean, older.average? newer = some mean ∧ ∀ t,
      let price := Sample.price samples t
      let total := ∑ k ∈ Finset.Ioc i j, price k * Sample.span samples k
      (mean.get t).toNat =
          total % 2 ^ 128 / Observation.seconds older.timestamp newer.timestamp ∧
        (total < 2 ^ 128 → (∃ k ∈ Finset.Ioc i j, price k ≤ (mean.get t).toNat) ∧
          ∃ k ∈ Finset.Ioc i j, (mean.get t).toNat ≤ price k) := by
  have hlater := hi.getElem_lt hij holder hnewer
  obtain ⟨mean, haverage, hmean⟩ := Observation.exists_average hlater
  obtain ⟨hspan, hsums⟩ := h.between hi hij.le holder hnewer
  refine ⟨mean, haverage, ?_⟩
  intro t price total
  have htotal : (mean.get t).toNat =
      total % 2 ^ 128 / Observation.seconds older.timestamp newer.timestamp := by
    rw [hmean, hsums, BitVec.toNat_ofNat]
  refine ⟨htotal, ?_⟩
  intro hcut
  rw [htotal, Nat.mod_eq_of_lt hcut, ← hspan]
  refine ⟨exists_le_weightedMean ?_, exists_weightedMean_le ?_ ?_⟩
  · rw [hspan]
    exact Observation.seconds_pos hlater
  · exact Finset.nonempty_Ioc.2 hij
  · intro k hk
    exact h.span_pos hi hnewer hk

end Ring

namespace Receipt

/-- What a swap gives the ring to record: the prices that it leaves. -/
def sample (r : Receipt) : Sample := ⟨r.timestamp, Pool.prices r.reserves⟩

end Receipt

namespace Ledger

theorem stage_sample {l : Ledger} {r : Request} {tier : FeeTier} {timestamp : Int64} {s : Staged}
    (h : l.stage r tier timestamp = .ok s) :
    l.oracle.stage timestamp (s.receipt timestamp).sample.prices = .ok s.observation := by
  obtain ⟨-, -, -, -, -, htimely, -, hobservation⟩ := stage_eq_ok_iff.1 h
  exact Ring.stage_eq_ok_iff.2 ⟨htimely, hobservation⟩

/-- The ring of a pool is a ring in which the prices of its opening and those left by each swap have
been recorded. -/
theorem oracle_run (id : PoolId) (tier : FeeTier) (reserves : PerToken Amount) (openTime : Int64)
    (capacity : UInt64) (ops : List Op) :
    let l := opened id tier reserves openTime capacity
    (l.run ops).oracle = (Ring.empty id capacity).recordAll
      (⟨openTime, Pool.prices reserves⟩ :: (l.receipts ops).map (·.sample)) := by
  refine run_of_swaps (P := fun _ ring rs => ring = (Ring.empty id capacity).recordAll
    (⟨openTime, Pool.prices reserves⟩ :: rs.map (·.sample))) ?_ rfl
  intro l r tier timestamp s rs _ hs h
  have hrecord : (l.oracle.record timestamp (s.receipt timestamp).sample.prices).next =
      l.oracle.commit s.observation := by
    rw [Ring.record, stage_sample hs]
  rw [← hrecord, h, List.map_append, Ring.recordAll, Ring.recordAll, ← List.cons_append,
    List.foldl_append]
  rfl

theorem price_lt_of_opened {reserves : PerToken Amount} {openTime : Int64} {rs : List Receipt}
    {s : Sample} (h : s ∈ ⟨openTime, Pool.prices reserves⟩ :: rs.map (·.sample)) (t : Token) :
    (s.prices.get t).toNat < 2 ^ 96 := by
  rcases List.mem_cons.1 h with rfl | h
  · exact Pool.toNat_prices reserves t ▸ spotPrice_lt reserves t
  · obtain ⟨r, -, rfl⟩ := List.mem_map.1 h
    exact Pool.toNat_prices r.reserves t ▸ spotPrice_lt r.reserves t

end Ledger

/-- Over less than 2^32 seconds the mean prices of a window are among those recorded in it since its
oldest observation, if no price reaches 2^96. -/
theorem Ring.Reflects.exists_windowMean {r : Ring} {samples : List Sample}
    {oldest newest : Observation} {between : List Observation} (h : r.Reflects samples)
    (hi : r.Increasing) (hprices : ∀ s ∈ samples, ∀ t, (s.prices.get t).toNat < 2 ^ 96)
    (hobs : r.observations = oldest :: between ++ [newest])
    (hspan : Observation.seconds oldest.timestamp newest.timestamp < 2 ^ 32) :
    ∃ mean, r.windowAverage? = some mean ∧ ∀ t,
      (∃ s ∈ samples.tail, s.prices.get t ≤ mean.get t) ∧
        ∃ s ∈ samples.tail, mean.get t ≤ s.prices.get t := by
  have hlength : samples.length = between.length + 2 := by
    rw [h.length_eq, ← length_observations, hobs]
    simp
  have holdest : r.observations[0]? = some oldest := by rw [hobs]; rfl
  have hnewest : r.observations[between.length + 1]? = some newest := by rw [hobs]; simp
  have hmem {k : ℕ} (hk : k ∈ Finset.Ioc 0 (between.length + 1)) :
      ∃ s ∈ samples.tail, ∀ t, Sample.price samples t k = (s.prices.get t).toNat := by
    obtain ⟨hpos, hle⟩ := Finset.mem_Ioc.1 hk
    exact Sample.exists_mem_tail hpos (by omega)
  -- Prices below 2^96 over less than 2^32 seconds have a total that is not cut.
  have htotal (t : Token) : ∑ k ∈ Finset.Ioc 0 (between.length + 1),
      Sample.price samples t k * Sample.span samples k < 2 ^ 128 := by
    have hle : ∀ k ∈ Finset.Ioc 0 (between.length + 1),
        Sample.price samples t k * Sample.span samples k ≤ 2 ^ 96 * Sample.span samples k := by
      intro k hk
      obtain ⟨s, hs, hprice⟩ := hmem hk
      rw [hprice]
      exact Nat.mul_le_mul_right _ (hprices s (List.mem_of_mem_tail hs) t).le
    calc ∑ k ∈ Finset.Ioc 0 (between.length + 1), Sample.price samples t k * Sample.span samples k
        ≤ ∑ k ∈ Finset.Ioc 0 (between.length + 1), 2 ^ 96 * Sample.span samples k :=
          Finset.sum_le_sum hle
      _ = 2 ^ 96 * Observation.seconds oldest.timestamp newest.timestamp := by
          rw [← Finset.mul_sum, (h.between hi (Nat.zero_le _) holdest hnewest).1]
      _ < 2 ^ 128 := by omega
  obtain ⟨mean, haverage, hmean⟩ := h.exists_mean hi (Nat.succ_pos _) holdest hnewest
  refine ⟨mean, ?_, ?_⟩
  · have hhead : r.observations.head? = some oldest := by rw [hobs]; rfl
    have hlast : r.observations.getLast? = some newest := by rw [hobs, List.getLast?_concat]
    rw [windowAverage?, hhead, hlast]
    exact haverage
  · intro t
    obtain ⟨⟨k, hk, hlow⟩, ⟨k', hk', hhigh⟩⟩ := (hmean t).2 (htotal t)
    obtain ⟨s, hs, hprice⟩ := hmem hk
    obtain ⟨s', hs', hprice'⟩ := hmem hk'
    rw [hprice] at hlow
    rw [hprice'] at hhigh
    exact ⟨⟨s, hs, BitVec.le_def.2 hlow⟩, ⟨s', hs', BitVec.le_def.2 hhigh⟩⟩

namespace Ledger

/-- Averages are true means. Whatever has been recorded in a new ring, any two of its observations
have an average, and that is the total of the prices accepted since the older, each times the
seconds before it, modulo 2^128, divided by the seconds between the two: it lies among those prices
where the total is not cut. A pool records the prices of its opening and those that each swap
leaves, and the average over a window of less than 2^32 seconds lies among those recorded since its
oldest observation. -/
theorem averages_are_means (id : PoolId) (capacity : UInt64) :
    (∀ (samples : List Sample) (i j : ℕ) (older newer : Observation),
      let ring := (Ring.empty id capacity).recordAll samples
      let retained := (Ring.empty id capacity).retained samples
      i < j → ring.observations[i]? = some older → ring.observations[j]? = some newer →
        ring.observations.map (·.timestamp) = retained.map (·.timestamp) ∧
        ∃ mean, older.average? newer = some mean ∧ ∀ t,
          let price := Sample.price retained t
          let total := ∑ k ∈ Finset.Ioc i j, price k * Sample.span retained k
          (mean.get t).toNat =
              total % 2 ^ 128 / Observation.seconds older.timestamp newer.timestamp ∧
            (total < 2 ^ 128 → (∃ k ∈ Finset.Ioc i j, price k ≤ (mean.get t).toNat) ∧
              ∃ k ∈ Finset.Ioc i j, (mean.get t).toNat ≤ price k)) ∧
    ∀ (tier : FeeTier) (reserves : PerToken Amount) (openTime : Int64) (l : Ledger) (ops : List Op),
      create id tier reserves openTime capacity = .ok l →
        let ring := (l.run ops).oracle
        let samples := ⟨openTime, Pool.prices reserves⟩ :: (l.receipts ops).map (·.sample)
        let retained := (Ring.empty id capacity).retained samples
        ring = (Ring.empty id capacity).recordAll samples ∧
        ∀ (oldest newest : Observation) (between : List Observation),
          ring.observations = oldest :: between ++ [newest] →
          Observation.seconds oldest.timestamp newest.timestamp < 2 ^ 32 →
            ∃ mean, ring.windowAverage? = some mean ∧ ∀ t,
              (∃ s ∈ retained.tail, s.prices.get t ≤ mean.get t) ∧
                ∃ s ∈ retained.tail, mean.get t ≤ s.prices.get t := by
  refine ⟨?_, ?_⟩
  · intro samples i j older newer ring retained hij holder hnewer
    have hreflects : ring.Reflects retained := Ring.reflects_recordAll id capacity samples
    have hincreasing : ring.Increasing := Ring.increasing_recordAll id capacity samples
    exact ⟨hreflects.times, hreflects.exists_mean hincreasing hij holder hnewer⟩
  · intro tier reserves openTime l ops hcreate ring samples retained
    obtain ⟨-, -, -, hl⟩ := create_eq_ok_iff.1 hcreate
    have hring : ring = (Ring.empty id capacity).recordAll samples := by
      simp only [ring, samples, hl, oracle_run]
    refine ⟨hring, ?_⟩
    intro oldest newest between hobs hspan
    have hreflects : ring.Reflects retained := hring ▸ Ring.reflects_recordAll id capacity samples
    have hincreasing : ring.Increasing := hring ▸ Ring.increasing_recordAll id capacity samples
    refine hreflects.exists_windowMean hincreasing ?_ hobs hspan
    intro s hs t
    exact price_lt_of_opened (Ring.mem_of_mem_retained hs) t

/-- A price of nearly 2^127, twice around a time that is past and one that is repeated: the first
observation is dropped, and the sums wrap before the last. -/
def wrapping : List Sample :=
  [⟨0, ⟨7, 7⟩⟩, ⟨1, ⟨0x7FFFFFFFFFFFFFFFFFFFFFFFFFFFFFFF, 5⟩⟩, ⟨1, ⟨9, 9⟩⟩, ⟨0, ⟨9, 9⟩⟩,
    ⟨3, ⟨0x7FFFFFFFFFFFFFFFFFFFFFFFFFFFFFFF, 6⟩⟩]

/-- The average of the wrapped sums is the price, and a market in which one swap has passed has an
average over its window. -/
theorem average_of_wrapped_sums :
    (∃ mean, Observation.average? ⟨1, ⟨0x7FFFFFFFFFFFFFFFFFFFFFFFFFFFFFFF, 5⟩⟩
        ⟨3, ⟨0x7FFFFFFFFFFFFFFFFFFFFFFFFFFFFFFD, 17⟩⟩ = some mean ∧
      (mean.get .zero).toNat = 2 * (2 ^ 127 - 1) % 2 ^ 128 / 2) ∧
    ∃ mean, (market.run lateSwap).oracle.windowAverage? = some mean := by
  have htotal : ∑ k ∈ Finset.Ioc 0 1,
      Sample.price ((Ring.empty default 2).retained wrapping) .zero k *
        Sample.span ((Ring.empty default 2).retained wrapping) k = 2 * (2 ^ 127 - 1) := by decide
  obtain ⟨-, mean, haverage, hmean⟩ :=
    (averages_are_means default 2).1 wrapping 0 1
      ⟨1, ⟨0x7FFFFFFFFFFFFFFFFFFFFFFFFFFFFFFF, 5⟩⟩ ⟨3, ⟨0x7FFFFFFFFFFFFFFFFFFFFFFFFFFFFFFD, 17⟩⟩
      (by decide) (by decide) (by decide)
  have hzero := (hmean .zero).1
  rw [htotal] at hzero
  obtain ⟨mean', hwindow, -⟩ :=
    ((averages_are_means default 8).2 tenth ⟨1000000000, 24000000000⟩ 100 market lateSwap
      create_market).2 ⟨100, .both 0⟩ ⟨200, ⟨8620609594500, 21398421800⟩⟩ [] (by decide) (by decide)
  exact ⟨⟨mean, haverage, hzero⟩, mean', hwindow⟩

end Ledger

end ConstantProduct
