import Mathlib
import ConstantProduct.Proofs.Creation
import ConstantProduct.Proofs.Runs

namespace ConstantProduct

theorem Wide.ofNat_eq_ofNat_iff {a b : ℕ} :
    BitVec.ofNat 128 a = BitVec.ofNat 128 b ↔ a ≡ b [MOD 2 ^ 128] := by
  rw [← BitVec.toNat_inj, BitVec.toNat_ofNat, BitVec.toNat_ofNat, Nat.ModEq]

/-- Over less than 2^32 seconds, different prices accumulate to different sums. -/
theorem spotPrice_mul_modEq_iff {reserves reserves' : PerToken Amount} {t : Token} {n : ℕ}
    (hpos : 0 < n) (hn : n < 2 ^ 32) :
    spotPrice reserves t * n ≡ spotPrice reserves' t * n [MOD 2 ^ 128] ↔
      spotPrice reserves t = spotPrice reserves' t := by
  have hlt (rs : PerToken Amount) : spotPrice rs t * n < 2 ^ 128 :=
    calc spotPrice rs t * n < 2 ^ 96 * 2 ^ 32 := Nat.mul_lt_mul'' (spotPrice_lt rs t) hn
      _ = 2 ^ 128 := by norm_num
  constructor
  · intro h
    exact Nat.eq_of_mul_eq_mul_right hpos (h.eq_of_lt_of_lt (hlt _) (hlt _))
  · intro h
    rw [h]

namespace Observation

def seconds (a b : Int64) : ℕ := (b.toInt - a.toInt).toNat

theorem seconds_pos {a b : Int64} (h : a < b) : 0 < seconds a b := by
  have := Int64.lt_iff_toInt_lt.1 h
  unfold seconds
  omega

theorem cumulative_advance (o : Observation) (timestamp : Int64) (prices : PerToken Wide)
    (t : Token) : (o.advance timestamp prices).cumulative.get t =
      o.cumulative.get t +
        BitVec.ofNat 128 ((prices.get t).toNat * seconds o.timestamp timestamp) := by
  rw [BitVec.ofNat_mul, BitVec.ofNat_toNat, BitVec.setWidth_eq]
  cases t <;> rfl

theorem cumulative_advance_sub (o : Observation) (timestamp : Int64) (reserves : PerToken Amount)
    (t : Token) :
    (o.advance timestamp (Pool.prices reserves)).cumulative.get t - o.cumulative.get t =
      BitVec.ofNat 128 (spotPrice reserves t * seconds o.timestamp timestamp) := by
  rw [cumulative_advance, Pool.toNat_prices, BitVec.add_comm, BitVec.add_sub_cancel]

end Observation

namespace Receipt

/-- The reserves after some swaps on the given reserves. -/
def standing (initial : PerToken Amount) (rs : List Receipt) : PerToken Amount :=
  (rs.getLast?.map (·.reserves)).getD initial

/-- The time of the last of some swaps, or the opening time. -/
def lastTime (openTime : Int64) (rs : List Receipt) : Int64 :=
  (rs.getLast?.map (·.timestamp)).getD openTime

def Ordered (rs : List Receipt) : Prop := rs.Pairwise fun a b => a.timestamp ≤ b.timestamp

@[simp] theorem lastTime_concat (openTime : Int64) (rs : List Receipt) (r : Receipt) :
    lastTime openTime (rs ++ [r]) = r.timestamp := by simp [lastTime]

theorem Ordered.le_lastTime {openTime : Int64} {rs : List Receipt} (h : Ordered rs) {r : Receipt}
    (hr : r ∈ rs) : r.timestamp ≤ lastTime openTime rs := by
  rw [lastTime, List.getLast?_eq_some_getLast (List.ne_nil_of_mem hr)]
  exact List.Pairwise.rel_getLast_of_rel_getLast_getLast h hr (Int64.le_refl _)

theorem Ordered.concat {openTime : Int64} {rs : List Receipt} (h : Ordered rs) {r : Receipt}
    (hr : lastTime openTime rs ≤ r.timestamp) : Ordered (rs ++ [r]) := by
  refine pairwise_concat h (fun _ _ _ => Int64.le_trans) ?_
  intro last hlast
  rwa [lastTime, hlast] at hr

/-- One observation follows another in a history of receipts: `closing` is the first swap at its
time, those before it reach up to the time of the other, and the cumulative prices have grown by
the prices after `closing`. -/
structure Follows (openTime : Int64) (rs before : List Receipt) (closing : Receipt)
    (older newer : Observation) : Prop where
  prefix_of : before ++ [closing] <+: rs
  opened : lastTime openTime before = older.timestamp
  closed : closing.timestamp = newer.timestamp
  later : older.timestamp < newer.timestamp
  growth : ∀ t, newer.cumulative.get t - older.cumulative.get t =
    BitVec.ofNat 128
      (spotPrice closing.reserves t * Observation.seconds older.timestamp newer.timestamp)

theorem Follows.append {openTime : Int64} {rs before : List Receipt} {closing : Receipt}
    {older newer : Observation} (h : Follows openTime rs before closing older newer)
    (later : List Receipt) : Follows openTime (rs ++ later) before closing older newer :=
  { h with prefix_of := h.prefix_of.trans (List.prefix_append _ _) }

end Receipt

namespace Ledger

structure Tracks (openTime : Int64) (ring : Ring) (rs : List Receipt) : Prop where
  chain : ring.observations.IsChain fun older newer =>
    ∃ before closing, Receipt.Follows openTime rs before closing older newer
  newest : ∃ last, ring.latest? = some last ∧ last.timestamp = Receipt.lastTime openTime rs
  ordered : Receipt.Ordered rs

variable {l : Ledger} {r : Request} {tier : FeeTier} {timestamp openTime : Int64} {s : Staged}

theorem Tracks.swap {rs : List Receipt} (h : Tracks openTime l.oracle rs)
    (hs : l.stage r tier timestamp = .ok s) :
    Tracks openTime (l.oracle.commit s.observation) (rs ++ [s.receipt timestamp]) := by
  obtain ⟨-, -, -, -, -, htimely, -, hobservation⟩ := stage_eq_ok_iff.1 hs
  obtain ⟨last, hlatest, htime⟩ := h.newest
  have hle : last.timestamp ≤ timestamp := htimely last hlatest
  have hordered : Receipt.Ordered (rs ++ [s.receipt timestamp]) := h.ordered.concat (htime ▸ hle)
  have hchain : l.oracle.observations.IsChain fun older newer => ∃ before closing,
      Receipt.Follows openTime (rs ++ [s.receipt timestamp]) before closing older newer := by
    refine h.chain.imp ?_
    rintro older newer ⟨before, closing, hf⟩
    exact ⟨before, closing, hf.append _⟩
  rw [Ring.update_of_latest hlatest] at hobservation
  by_cases hsame : timestamp = last.timestamp
  · rw [hobservation, if_pos hsame]
    exact ⟨hchain, ⟨last, hlatest, by rw [Receipt.lastTime_concat, ← hsame]; rfl⟩, hordered⟩
  · rw [hobservation, if_neg hsame, Ring.commit]
    refine ⟨?_, ⟨_, Ring.latest?_push _ _, by rw [Receipt.lastTime_concat]; rfl⟩, hordered⟩
    -- A full ring drops its oldest observation, which leaves a chain a chain.
    rw [Ring.observations_push]
    refine List.IsChain.drop (hchain.append (List.isChain_singleton _) ?_) _
    intro older holder newer hnewer
    rw [Ring.getLast?_observations, hlatest, Option.mem_some_iff] at holder
    rw [List.head?_cons, Option.mem_some_iff] at hnewer
    subst holder hnewer
    have hlt : last.timestamp < timestamp := Int64.lt_of_le_of_ne hle (Ne.symm hsame)
    exact ⟨rs, s.receipt timestamp, List.prefix_rfl, htime.symm, rfl, hlt, fun t =>
      Observation.cumulative_advance_sub last timestamp s.pool.reserves t⟩

theorem tracks_opened (id : PoolId) (tier : FeeTier) (reserves : PerToken Amount) (openTime : Int64)
    (capacity : UInt64) :
    Tracks openTime (opened id tier reserves openTime capacity).oracle [] where
  chain := by
    rw [observations_opened]
    exact List.isChain_singleton _
  newest := ⟨_, Ring.latest?_push _ _, rfl⟩
  ordered := List.Pairwise.nil

theorem tracks_run (id : PoolId) (tier : FeeTier) (reserves : PerToken Amount) (openTime : Int64)
    (capacity : UInt64) (ops : List Op) :
    let l := opened id tier reserves openTime capacity
    Tracks openTime (l.run ops).oracle (l.receipts ops) := by
  refine run_of_swaps (P := fun _ ring rs => Tracks openTime ring rs) ?_ (tracks_opened ..)
  intro l r tier timestamp s rs _ hs h
  exact h.swap hs

/-- Between consecutive observations of a run the cumulative prices grow by the prices after the
first swap at the later time, times the seconds between. These are the prices in force during that
time only if that swap left them as they were. -/
theorem cumulative_growth {id : PoolId} {tier : FeeTier} {reserves : PerToken Amount}
    {openTime : Int64} {capacity : UInt64} {l : Ledger} {k : ℕ} {older newer : Observation}
    (hcreate : create id tier reserves openTime capacity = .ok l) (ops : List Op)
    (holder : (l.run ops).oracle.observations[k]? = some older)
    (hnewer : (l.run ops).oracle.observations[k + 1]? = some newer) :
    ∃ before closing after, l.receipts ops = before ++ closing :: after ∧
      (∀ r ∈ before, r.timestamp ≤ older.timestamp) ∧
      Receipt.lastTime openTime before = older.timestamp ∧
      older.timestamp < newer.timestamp ∧ closing.timestamp = newer.timestamp ∧
      (∀ r ∈ after, newer.timestamp ≤ r.timestamp) ∧
      ∀ t,
        let growth := newer.cumulative.get t - older.cumulative.get t
        let seconds := Observation.seconds older.timestamp newer.timestamp
        let inForce := spotPrice (Receipt.standing reserves before) t
        let closed := spotPrice closing.reserves t
        growth = BitVec.ofNat 128 (closed * seconds) ∧
          (growth = BitVec.ofNat 128 (inForce * seconds) ↔
            inForce * seconds ≡ closed * seconds [MOD 2 ^ 128]) ∧
          (seconds < 2 ^ 32 →
            (growth = BitVec.ofNat 128 (inForce * seconds) ↔ inForce = closed)) := by
  obtain ⟨-, -, -, rfl⟩ := create_eq_ok_iff.1 hcreate
  obtain ⟨hchain, -, hordered⟩ := tracks_run id tier reserves openTime capacity ops
  obtain ⟨hk, rfl⟩ := List.getElem?_eq_some_iff.1 holder
  obtain ⟨hk', rfl⟩ := List.getElem?_eq_some_iff.1 hnewer
  obtain ⟨before, closing, ⟨after, hrs⟩, hopened, hclosed, hlater, hgrowth⟩ :=
    List.isChain_iff_getElem.1 hchain k hk'
  rw [List.append_assoc, List.singleton_append] at hrs
  rw [← hrs] at hordered ⊢
  obtain ⟨hbefore, hrest, -⟩ := List.pairwise_append.1 hordered
  refine ⟨before, closing, after, rfl, ?_, hopened, hlater, hclosed, ?_, ?_⟩
  · intro r hr
    rw [← hopened]
    exact Receipt.Ordered.le_lastTime hbefore hr
  · intro r hr
    rw [← hclosed]
    exact (List.pairwise_cons.1 hrest).1 r hr
  · intro t
    dsimp only
    -- The growth is known, so both equivalences compare its price with the one in force.
    rw [hgrowth t]
    refine ⟨rfl, eq_comm.trans Wide.ofNat_eq_ofNat_iff, ?_⟩
    intro hn
    exact (eq_comm.trans Wide.ofNat_eq_ofNat_iff).trans
      (spotPrice_mul_modEq_iff (Observation.seconds_pos hlater) hn)

/-- A single swap, a hundred seconds after the opening of the market. -/
def lateSwap : List Op :=
  [.swap ⟨.zeroForOne, .exactInput 100000000 1981651376⟩ tenth 200]

/-- Over the hundred seconds before `lateSwap` the sum grows by a price after the swap. -/
theorem growth_of_late_swap : ∃ before closing after,
    market.receipts lateSwap = before ++ closing :: after ∧ closing.timestamp = 200 ∧
      (8620609594500 : Wide) - 0 = BitVec.ofNat 128 (spotPrice closing.reserves .zero * 100) := by
  have holder : (market.run lateSwap).oracle.observations[0]? = some ⟨100, .both 0⟩ := by decide
  have hnewer : (market.run lateSwap).oracle.observations[1]? =
      some ⟨200, ⟨8620609594500, 21398421800⟩⟩ := by decide
  obtain ⟨before, closing, after, hrs, -, -, -, hclosed, -, h⟩ :=
    cumulative_growth create_market lateSwap holder hnewer
  exact ⟨before, closing, after, hrs, hclosed, (h .zero).1⟩

/-- The opening price was in force for all of the hundred seconds before `lateSwap`, and is not the
one that the observations weight by them. -/
theorem late_swap_reprices_interval : ∃ older newer,
    (market.run lateSwap).oracle.observations = [older, newer] ∧
      older.timestamp = 100 ∧ newer.timestamp = 200 ∧
        newer.cumulative.get .zero - older.cumulative.get .zero ≠
          BitVec.ofNat 128 (spotPrice market.pool.reserves .zero *
            Observation.seconds older.timestamp newer.timestamp) :=
  ⟨⟨100, .both 0⟩, ⟨200, ⟨8620609594500, 21398421800⟩⟩, by decide, rfl, rfl, by decide⟩

end Ledger

end ConstantProduct
