import Mathlib
import ConstantProduct.Proofs.Conservation
import ConstantProduct.Proofs.MeanPrice
import ConstantProduct.Proofs.Refusals

namespace ConstantProduct

/-- What is left of a quote's trade fee and of its payment is defined. -/
structure Quote.Defined (q : Quote) : Prop where
  shares_le : q.fees.protocolFee.toNat + q.fees.fundFee.toNat ≤ q.fees.tradeFee.toNat
  fee_le : q.fees.tradeFee ≤ q.amountIn
  lpFee : ∃ fee, q.fees.lpFee = .ok fee ∧
    fee.toNat + q.fees.protocolFee.toNat + q.fees.fundFee.toNat = q.fees.tradeFee.toNat
  credit : ∃ credit, q.reserveCredit = .ok credit ∧
    credit.toNat + q.fees.protocolFee.toNat + q.fees.fundFee.toNat = q.amountIn.toNat

theorem Quote.Priced.defined {q : Quote} {reserves : PerToken Amount} (h : q.Priced reserves) :
    q.Defined where
  shares_le := h.shares_le
  fee_le := UInt64.le_iff_toNat_le.2 h.fee_le
  lpFee := q.fees.exists_lpFee h.shares_le
  credit := by
    have hle := h.shares_le.trans h.fee_le
    have hlt := q.amountIn.toNat_lt
    refine ⟨_, by rw [q.reserveCredit_eq, if_pos hle], ?_⟩
    rw [Amount.toNat_ofNat_lt] <;> unfold Quote.credit <;> omega

namespace Ring

/-- The slots that a ring reads and writes are there, and the counts of them fit their words. -/
structure InRange (r : Ring) : Prop where
  /-- The slot that the newest observation is read from. -/
  newest : r.cursor < r.slots.size
  /-- The slot that the next observation is written to. -/
  next : r.nextSlot < r.slots.size
  /-- The place at which the slots of a full ring are split to list its history. -/
  oldest : (r.cursor + 1) % r.slots.size ≤ r.slots.size
  /-- The end of the history of a ring that is not full. -/
  used : r.length ≤ r.slots.size
  size_ne_zero : r.slots.size ≠ 0
  cursor_lt : r.cursor + 1 < UInt64.size
  /-- No memory holds an array of half the size of the address space. -/
  length_lt : r.slots.size < 2 ^ 63 → r.length + 1 < UInt64.size

theorem inRange (r : Ring) : r.InRange where
  newest := r.cursor_lt
  next := r.nextSlot_lt
  oldest := (Nat.mod_lt _ r.size_pos).le
  used := r.length_le
  size_ne_zero := r.size_pos.ne'
  cursor_lt := Nat.lt_of_le_of_lt r.cursor_lt r.size_lt
  length_lt h := by
    have hle := r.length_le
    simp only [UInt64.size]
    omega

end Ring

namespace Ledger

/-- An answer without a fault on the way to it, for a fault would be the answer; and what is left of
its fees is defined. -/
def Answer.Faultless : Answer → Prop
  | .quote (.ok q) => q.Defined
  | .swap (.ok receipt) => ∃ fee, receipt.fees.lpFee = .ok fee
  | .quote (.error e) | .swap (.error e) => ¬e.OfFault
  | .collected _ | .done => True

variable {l : Ledger} {r : Request} {tier : FeeTier} {timestamp : Int64}

theorem quote_defined {q : Quote} (h : l.quote r tier = .ok q) : q.Defined :=
  (quote_priced h).2.defined

theorem receipt_defined {receipt : Receipt}
    (h : (l.swap r tier timestamp).answer = .ok receipt) :
    ∃ fee, receipt.fees.lpFee = .ok fee := by
  obtain ⟨s, hs, rfl⟩ := swap_answer_eq_ok_iff.1 h
  obtain ⟨-, hquote, -⟩ := stage_eq_ok_iff.1 hs
  obtain ⟨fee, hfee, -⟩ := (quote_defined hquote).lpFee
  exact ⟨fee, hfee⟩

theorem step_faultless (l : Ledger) (op : Op) : (l.step op).answer.Faultless := by
  cases op with
  | swap r tier timestamp =>
    rw [step]
    rcases h : (l.swap r tier timestamp).answer with e | receipt
    · exact stage_not_fault (swap_answer_eq_error_iff.1 h)
    · exact receipt_defined h
  | quote r tier =>
    rw [step]
    rcases h : l.quote r tier with e | q
    · exact quote_not_fault h
    · exact quote_defined h
  | collectProtocol requested => trivial
  | collectFund requested => trivial
  | setStatus bits => trivial

theorem answers_faultless (l : Ledger) (ops : List Op) : ∀ a ∈ l.answers ops, a.Faultless := by
  induction ops generalizing l with
  | nil => simp
  | cons op ops ih =>
    rw [answers_cons, List.forall_mem_cons]
    exact ⟨l.step_faultless op, ih _⟩

/-- Whatever the books of a pool, its ring and the tiers are, no run meets a fault. Every quote
keeps its shares within its fee and its fee within its payment. No collection takes more than there
is, and the ring stays in range. The words that nothing checks are exact: a product is formed in
twice the width, amounts multiply and shift within the wide words, and the time from one observation
to a later one is a word and not zero. -/
theorem runs_without_fault (l : Ledger) (ops : List Op) :
    (∀ a ∈ l.answers ops, a.Faultless) ∧
    (∀ (party : Party) (requested : PerToken Amount) t,
      (Pool.covered requested (party.unclaimed (l.run ops).pool)).get t ≤
        (party.unclaimed (l.run ops).pool).get t) ∧
    (l.run ops).oracle.InRange ∧
    (∀ a b d : Wide, d ≠ 0 →
      (a.setWidth 256 * b.setWidth 256).toNat = a.toNat * b.toNat ∧ d.setWidth 256 ≠ 0) ∧
    (∀ reserves : PerToken Amount,
      (Curve.invariant reserves).toNat = reserves.zero.toNat * reserves.one.toNat) ∧
    (∀ n d : Amount, d ≠ 0 → (n.wide <<< 32).toNat = n.toNat * 2 ^ 32 ∧ d.wide ≠ 0) ∧
    ∀ a b : Int64, a < b → ((Observation.elapsed a b).toNat : ℤ) = b.toInt - a.toInt ∧
      (Observation.elapsed a b).toNat < UInt64.size ∧ Observation.elapsed a b ≠ 0 := by
  refine ⟨l.answers_faultless ops, ?_, Ring.inRange _, ?_, Curve.toNat_invariant, ?_, ?_⟩
  · intro party requested t
    rw [UInt64.le_iff_toNat_le, Pool.toNat_covered]
    exact Nat.min_le_right _ _
  · intro a b d hd
    refine ⟨a.toNat_product b, ?_⟩
    intro h
    rw [ne_eq, Wide.eq_zero_iff, ← d.toNat_divisor, h] at hd
    exact hd rfl
  · intro n d hd
    exact ⟨n.toNat_shifted, Amount.wide_ne_zero ((Amount.ne_zero_iff d).1 hd)⟩
  · intro a b h
    have hlt := Int64.lt_iff_toInt_lt.1 h
    rw [Observation.toNat_elapsed]
    refine ⟨?_, Observation.seconds_lt a b, Observation.elapsed_ne_zero h⟩
    unfold Observation.seconds
    omega

end Ledger

end ConstantProduct
