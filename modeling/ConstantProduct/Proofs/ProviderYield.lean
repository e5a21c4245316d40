import Mathlib
import ConstantProduct.Proofs.Definedness

namespace ConstantProduct

namespace Quote

namespace Priced

variable {q : Quote} {reserves : PerToken Amount}

/-- What joins the reserve is what the fee leaves of the payment, and the providers' share of it. -/
theorem credit_eq_add (h : q.Priced reserves) {share : ℕ}
    (hshare : share + q.fees.protocolFee.toNat + q.fees.fundFee.toNat = q.fees.tradeFee.toNat) :
    q.credit = (q.amountIn.toNat - q.fees.tradeFee.toNat) + share := by
  have := h.fee_le
  unfold credit
  omega

/-- The curve keeps the product on what the fee leaves, so the providers' share is extra. -/
theorem product_add_share_le (h : q.Priced reserves) {share : ℕ}
    (hshare : share + q.fees.protocolFee.toNat + q.fees.fundFee.toNat = q.fees.tradeFee.toNat) :
    (reserves.get q.direction.sold).toNat * (reserves.get q.direction.bought).toNat +
        share * ((reserves.get q.direction.bought).toNat - q.amountOut.toNat) ≤
      ((reserves.get q.direction.sold).toNat + q.credit) *
        ((reserves.get q.direction.bought).toNat - q.amountOut.toNat) := by
  rw [h.credit_eq_add hshare, ← Nat.add_assoc, Nat.add_mul]
  exact Nat.add_le_add_right h.product_le _

theorem book_ne_invariantDecreased {p : Pool} (h : q.Priced p.reserves) (before after : Wide) :
    p.book q ≠ .error (.invariantDecreased before after) := fun hbook => h.book_error hbook

end Priced

theorem product_booked {p next : Pool} {q : Quote} (h : p.book q = .ok next) :
    next.product = ((p.reserves.get q.direction.sold).toNat + q.credit) *
      ((p.reserves.get q.direction.bought).toNat - q.amountOut.toNat) := by
  obtain ⟨hadmits, rfl⟩ := Pool.book_eq_ok_iff.1 h
  exact Pool.booked_product hadmits.reserveIn_lt hadmits.out_lt.le

/-- Every quote pays the liquidity providers. It sells some of the reserve and not all, and the
product of the reserves it leads to is higher than before by their share of the fee, for each unit
that is left of the token bought. So the product never falls, it rises whenever they have a share,
and no pool with those reserves refuses the quote for a product that fell. -/
theorem every_quote_pays_providers {d : Direction} {reserves : PerToken Amount} {order : Order}
    {tier : FeeTier} {q : Quote} (h : price d reserves order tier = .ok q) :
    q.direction = d ∧ ∃ share credit : Amount,
      q.fees.lpFee = .ok share ∧ q.reserveCredit = .ok credit ∧
      let reserveIn := (reserves.get q.direction.sold).toNat
      let reserveOut := (reserves.get q.direction.bought).toNat
      let rest := reserveOut - q.amountOut.toNat
      0 < q.amountOut.toNat ∧ q.amountOut.toNat < reserveOut ∧
      reserveIn * reserveOut + share.toNat * rest ≤ (reserveIn + credit.toNat) * rest ∧
      reserveIn * reserveOut ≤ (reserveIn + credit.toNat) * rest ∧
      (0 < share.toNat → reserveIn * reserveOut < (reserveIn + credit.toNat) * rest) ∧
      ∀ p : Pool, p.reserves = reserves →
        (∀ before after, p.book q ≠ .error (.invariantDecreased before after)) ∧
        ∀ next, p.book q = .ok next →
          next.product = (reserveIn + credit.toNat) * rest ∧ p.invariant ≤ next.invariant ∧
            (0 < share.toNat → p.invariant < next.invariant) := by
  obtain ⟨hd, -, hq⟩ := price_priced h
  obtain ⟨share, hshare, hsum⟩ := hq.defined.lpFee
  obtain ⟨credit, hcredit, hjoins⟩ := hq.defined.credit
  have hcredit_eq : credit.toNat = q.credit := by unfold Quote.credit; omega
  have hgrows := hq.product_add_share_le hsum
  rw [← hcredit_eq] at hgrows
  have hrest : 0 < (reserves.get q.direction.bought).toNat - q.amountOut.toNat :=
    Nat.sub_pos_of_lt hq.out_lt
  have hstrict (hpos : 0 < share.toNat) :
      (reserves.get q.direction.sold).toNat * (reserves.get q.direction.bought).toNat <
        ((reserves.get q.direction.sold).toNat + credit.toNat) *
          ((reserves.get q.direction.bought).toNat - q.amountOut.toNat) :=
    (Nat.lt_add_of_pos_right (Nat.mul_pos hpos hrest)).trans_le hgrows
  have hkept := (Nat.le_add_right _ _).trans hgrows
  refine ⟨hd, share, credit, hshare, hcredit, hq.out_pos, hq.out_lt, hgrows, hkept, hstrict, ?_⟩
  rintro p rfl
  refine ⟨hq.book_ne_invariantDecreased, ?_⟩
  intro next hnext
  have hproduct := product_booked hnext
  rw [← hcredit_eq] at hproduct
  refine ⟨hproduct, ?_, ?_⟩
  · rw [← BitVec.not_lt, Pool.invariant_lt_iff, not_lt, hproduct, p.product_eq q.direction]
    exact hkept
  · intro hpos
    rw [Pool.invariant_lt_iff, hproduct, p.product_eq q.direction]
    exact hstrict hpos

/-- A tenth of a hundred million is the fee, of which seven tenths stay with the providers. -/
theorem lpFee_of_market : ∃ q,
    price .zeroForOne ⟨1000000000, 24000000000⟩ (.exactInput 100000000 0) Ledger.tenth = .ok q ∧
      q.fees.lpFee = .ok 7000000 ∧ q.reserveCredit = .ok 97000000 ∧
        1000000000 * 24000000000 + 7000000 * (24000000000 - q.amountOut.toNat) ≤
          (1000000000 + 97000000) * (24000000000 - q.amountOut.toNat) := by
  have hq : price .zeroForOne ⟨1000000000, 24000000000⟩ (.exactInput 100000000 0) Ledger.tenth =
      .ok (.make .zeroForOne .exactInput 100000000 1981651376 ⟨10000000, 2000000, 1000000⟩) := by
    decide
  obtain ⟨-, share, credit, hshare, hcredit, -, -, hgrows, -⟩ := every_quote_pays_providers hq
  obtain rfl : (7000000 : Amount) = share := Except.ok.inj hshare
  obtain rfl : (97000000 : Amount) = credit := Except.ok.inj hcredit
  exact ⟨_, hq, hshare, hcredit, hgrows⟩

end Quote

end ConstantProduct
