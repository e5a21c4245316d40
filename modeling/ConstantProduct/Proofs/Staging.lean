import Mathlib
import ConstantProduct.Ledger
import ConstantProduct.Proofs.Booking
import ConstantProduct.Proofs.Quoting
import ConstantProduct.Proofs.SpotPrice

namespace ConstantProduct

namespace Pool

structure Open (p : Pool) (timestamp : Int64) : Prop where
  active : p.status = .active
  /-- Bit 0 of the status bits stops swaps. -/
  enabled : p.statusBits.toNat.testBit 0 = false
  opened : p.openTime < timestamp

theorem swapsEnabled_iff (p : Pool) :
    p.swapsEnabled = true ↔ p.statusBits.toNat.testBit 0 = false := by
  rw [swapsEnabled, beq_iff_eq, ← UInt8.toNat_inj, UInt8.toNat_and, Nat.testBit_zero]
  change p.statusBits.toNat &&& 1 = 0 ↔ _
  rw [Nat.and_one_is_mod]
  simp

theorem ensureSwappable_eq (p : Pool) (timestamp : Int64) :
    p.ensureSwappable timestamp =
      if p.status ≠ .active ∨ p.swapsEnabled = false then .error (.poolNotActive p.statusBits)
      else if timestamp ≤ p.openTime then .error (.poolNotOpen p.openTime timestamp)
      else .ok () := by
  simp only [ensureSwappable, Bool.not_eq_true, throw_eq_error, error_bind, pure_eq_ok]

theorem ensureSwappable_eq_ok_iff (p : Pool) (timestamp : Int64) :
    p.ensureSwappable timestamp = .ok () ↔ p.Open timestamp := by
  rw [ensureSwappable_eq]
  constructor
  · intro h
    split_ifs at h with hs ht
    rw [not_or, not_not, Bool.not_eq_false, swapsEnabled_iff] at hs
    exact ⟨hs.1, hs.2, Int64.not_le.1 ht⟩
  · intro h
    have hs : ¬(p.status ≠ .active ∨ p.swapsEnabled = false) := by
      rw [not_or, not_not, Bool.not_eq_false, swapsEnabled_iff]
      exact ⟨h.active, h.enabled⟩
    rw [if_neg hs, if_neg (Int64.not_le.2 h.opened)]

end Pool

def Order.Accepts : Order → Quote → Prop
  | .exactInput _ minimumOut, q => minimumOut ≤ q.amountOut
  | .exactOutput _ maximumIn, q => q.amountIn ≤ maximumIn

instance : (o : Order) → (q : Quote) → Decidable (o.Accepts q)
  | .exactInput _ minimumOut, q => inferInstanceAs (Decidable (minimumOut ≤ q.amountOut))
  | .exactOutput _ maximumIn, q => inferInstanceAs (Decidable (q.amountIn ≤ maximumIn))

theorem Order.checkBound_eq_ok_iff (o : Order) (q : Quote) :
    o.checkBound q = .ok () ↔ o.Accepts q := by
  cases o with
  | exactInput x minimumOut =>
    unfold checkBound Accepts
    dsimp only
    split_ifs with h
    · simp [UInt64.not_le.2 h]
    · simp [UInt64.not_lt.1 h]
  | exactOutput y maximumIn =>
    unfold checkBound Accepts
    dsimp only
    split_ifs with h
    · simp [UInt64.not_le.2 h]
    · simp [UInt64.not_lt.1 h]

theorem Order.checkBound_error {o : Order} {q : Quote} {e : Error} (h : o.checkBound q = .error e) :
    ∃ quoted bound, e = .slippageExceeded quoted bound := by
  cases o <;> unfold checkBound at h <;> dsimp only at h <;> split_ifs at h <;> cases h <;>
    exact ⟨_, _, rfl⟩

namespace Ring

def Timely (r : Ring) (timestamp : Int64) : Prop :=
  ∀ last, r.latest? = some last → last.timestamp ≤ timestamp

/-- What an observation at a time writes, if its time is not before that of the newest. -/
def update (r : Ring) (timestamp : Int64) (prices : PerToken Wide) : Option Observation :=
  match r.latest? with
  | none => some ⟨timestamp, .both 0⟩
  | some last => if timestamp = last.timestamp then none else some (last.advance timestamp prices)

theorem update_of_latest {r : Ring} {last : Observation} (h : r.latest? = some last)
    (timestamp : Int64) (prices : PerToken Wide) :
    r.update timestamp prices =
      if timestamp = last.timestamp then none else some (last.advance timestamp prices) := by
  rw [update, h]

theorem stage_eq_ok_iff {r : Ring} {timestamp : Int64} {prices : PerToken Wide}
    {staged : Option Observation} :
    r.stage timestamp prices = .ok staged ↔
      r.Timely timestamp ∧ staged = r.update timestamp prices := by
  unfold stage Timely update
  rcases hl : r.latest? with _ | last
  · simp [eq_comm]
  · simp only [Option.some.injEq, forall_eq']
    by_cases hlt : timestamp < last.timestamp
    · simp [hlt, Int64.not_le.2 hlt]
    · rw [if_neg hlt]
      split_ifs <;> simp [Int64.not_lt.1 hlt, eq_comm]

theorem stage_error {r : Ring} {timestamp : Int64} {prices : PerToken Wide}
    {e : ConstantProduct.Error}
    (h : r.stage timestamp prices = .error e) : ∃ last, e = .staleTimestamp timestamp last := by
  unfold stage at h
  rcases hl : r.latest? with _ | last
  · simp [hl] at h
  · simp only [hl] at h
    split_ifs at h
    cases h
    exact ⟨_, rfl⟩

end Ring

namespace Ledger

variable {l : Ledger} {r : Request} {tier : FeeTier} {timestamp : Int64}

/-- A swap passes just when each of its checks does, and then it writes the booked pool and the
observation of its prices. -/
theorem stage_eq_ok_iff {s : Staged} :
    l.stage r tier timestamp = .ok s ↔
      l.pool.Open timestamp ∧ l.quote r tier = .ok s.quote ∧ r.order.Accepts s.quote ∧
        l.pool.Admits s.quote ∧ (∀ t, 0 < (s.pool.reserves.get t).toNat) ∧
          l.oracle.Timely timestamp ∧ s.pool = l.pool.booked s.quote ∧
            s.observation = l.oracle.update timestamp (Pool.prices s.pool.reserves) := by
  rw [stage, bind_eq_ok]
  constructor
  · rintro ⟨⟨⟩, hopen, h⟩
    obtain ⟨q, hq, h⟩ := bind_eq_ok.1 h
    obtain ⟨⟨⟩, hbound, h⟩ := bind_eq_ok.1 h
    obtain ⟨pool, hpool, h⟩ := bind_eq_ok.1 h
    obtain ⟨prices, hprices, h⟩ := bind_eq_ok.1 h
    obtain ⟨staged, hstaged, h⟩ := bind_eq_ok.1 h
    obtain rfl := Except.ok.inj h
    obtain ⟨hadmits, rfl⟩ := Pool.book_eq_ok_iff.1 hpool
    obtain ⟨hpos, rfl⟩ := Pool.spotPrices_eq_ok_iff.1 hprices
    obtain ⟨htimely, rfl⟩ := Ring.stage_eq_ok_iff.1 hstaged
    exact ⟨(Pool.ensureSwappable_eq_ok_iff _ _).1 hopen, hq,
      (Order.checkBound_eq_ok_iff _ _).1 hbound, hadmits, hpos, htimely, rfl, rfl⟩
  · obtain ⟨q, pool, staged⟩ := s
    rintro ⟨hopen, hq, haccepts, hadmits, hpos, htimely, hpool, hstaged⟩
    dsimp only at hq haccepts hadmits hpos hpool hstaged
    subst hpool hstaged
    have hbook := Pool.book_eq_ok_iff.2 ⟨hadmits, rfl⟩
    have hprices := Pool.spotPrices_eq_ok_iff.2 ⟨hpos, rfl⟩
    have hstage : l.oracle.stage timestamp (Pool.prices (l.pool.booked q).reserves) = .ok _ :=
      Ring.stage_eq_ok_iff.2 ⟨htimely, rfl⟩
    refine ⟨(), (Pool.ensureSwappable_eq_ok_iff _ _).2 hopen, ?_⟩
    rw [hq, ok_bind, (Order.checkBound_eq_ok_iff _ _).2 haccepts, ok_bind, hbook, ok_bind,
      hprices, ok_bind, hstage, ok_bind, pure_eq_ok]

theorem swap_of_stage {s : Staged} (h : l.stage r tier timestamp = .ok s) :
    (l.swap r tier timestamp).answer = .ok (s.receipt timestamp) ∧
      (l.swap r tier timestamp).next = ⟨s.pool, l.oracle.commit s.observation⟩ := by
  simp [swap, h]

theorem swap_answer_eq_ok_iff {receipt : Receipt} :
    (l.swap r tier timestamp).answer = .ok receipt ↔
      ∃ s, l.stage r tier timestamp = .ok s ∧ receipt = s.receipt timestamp := by
  rcases h : l.stage r tier timestamp with e | s
  · simp [swap, h]
  · simp [swap, h, eq_comm]

theorem swap_answer_eq_error_iff {e : Error} :
    (l.swap r tier timestamp).answer = .error e ↔ l.stage r tier timestamp = .error e := by
  rcases h : l.stage r tier timestamp with e | s <;> simp [swap, h]

theorem quote_priced {q : Quote} (h : l.quote r tier = .ok q) :
    q.direction = r.direction ∧ q.Priced l.pool.reserves :=
  ⟨(Quote.price_priced h).1, (Quote.price_priced h).2.2⟩

def even (n : Amount) : Ledger :=
  ⟨{ (default : Pool) with status := .active, reserves := .both n }, Ring.empty default 1⟩

end Ledger

end ConstantProduct
