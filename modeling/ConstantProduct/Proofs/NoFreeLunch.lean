import Mathlib
import ConstantProduct.Proofs.Turnover

namespace ConstantProduct

theorem eq_zero_of_mul_le {a b m n : ℤ} (hb : 0 < b) (ham : 0 < a + m) (hm : m ≤ 0) (hn : n ≤ 0)
    (h : a * b ≤ (a + m) * (b + n)) : m = 0 := by
  by_contra hne
  have hlt : a + m < a := by omega
  have hfall : (a + m) * (b + n) < a * b :=
    calc (a + m) * (b + n) ≤ (a + m) * b := Int.mul_le_mul_of_nonneg_left (by omega) ham.le
      _ < a * b := Int.mul_lt_mul_of_pos_right hlt hb
  omega

namespace Ledger

/-- What a run keeps of the reserves it started from: they cover, with all that was paid and
received, what is left, and the product has not fallen. -/
structure Backed (initial reserves : PerToken Amount) (rs : List Receipt) : Prop where
  pos : ∀ t, 0 < (reserves.get t).toNat
  le_initial_add : ∀ t,
    ((reserves.get t).toNat : ℤ) ≤ (initial.get t).toNat + Receipt.netPaid rs t
  product_le : initial.zero.toNat * initial.one.toNat ≤ reserves.zero.toNat * reserves.one.toNat

variable {l : Ledger} {r : Request} {tier : FeeTier} {timestamp : Int64} {s : Staged}

theorem Backed.swap {initial : PerToken Amount} {rs : List Receipt}
    (h : Backed initial l.pool.reserves rs) (hs : l.stage r tier timestamp = .ok s) :
    Backed initial s.pool.reserves (rs ++ [s.receipt timestamp]) := by
  obtain ⟨-, -, -, hadmits, hpos, -, hpool, -⟩ := stage_eq_ok_iff.1 hs
  refine ⟨hpos, ?_, ?_⟩
  · intro t
    rw [Receipt.netPaid_append_singleton]
    have := h.le_initial_add t
    have := reserves_of_stage hs t
    omega
  · rw [hpool]
    exact h.product_le.trans hadmits.product_le

theorem backed_run {initial : Ledger} (hpos : ∀ t, 0 < (initial.pool.reserves.get t).toNat)
    (ops : List Op) :
    Backed initial.pool.reserves (initial.run ops).pool.reserves (initial.receipts ops) := by
  refine run_of_swaps (P := fun reserves _ rs => Backed initial.pool.reserves reserves rs) ?_ ?_
  · intro l r tier timestamp s rs _ hs h
    exact h.swap hs
  · exact ⟨hpos, fun t => by simp, le_rfl⟩

/-- No free lunch. Over any run the reserves at its start, with all that traders paid and received
since, are positive and keep their product; so the traders cannot gain of one token without having
paid of the other. -/
theorem no_free_lunch (l : Ledger) (ops : List Op) (hpos : ∀ t, 0 < l.pool.reserves.get t) :
    let net := Receipt.netPaid (l.receipts ops)
    let kept t := ((l.pool.reserves.get t).toNat : ℤ) + net t
    (∀ t, 0 < kept t) ∧
      ((l.pool.reserves.get .zero).toNat : ℤ) * (l.pool.reserves.get .one).toNat ≤
        kept .zero * kept .one ∧
      ((∀ t, net t ≤ 0) → ∀ t, net t = 0) := by
  have h := backed_run (fun t => UInt64.lt_iff_toNat_lt.1 (hpos t)) ops
  intro net kept
  -- What is kept covers the reserves at the end, and these are positive and have the product.
  have hkept : ∀ t, 0 < kept t := fun t =>
    (Int.natCast_pos.2 (h.pos t)).trans_le (h.le_initial_add t)
  have hproduct : ((l.pool.reserves.get .zero).toNat : ℤ) * (l.pool.reserves.get .one).toNat ≤
      kept .zero * kept .one :=
    calc ((l.pool.reserves.get .zero).toNat : ℤ) * (l.pool.reserves.get .one).toNat
        ≤ (((l.run ops).pool.reserves.get .zero).toNat : ℤ) *
            ((l.run ops).pool.reserves.get .one).toNat := by exact_mod_cast h.product_le
      _ ≤ kept .zero * kept .one :=
          mul_le_mul (h.le_initial_add .zero) (h.le_initial_add .one) (Int.natCast_nonneg _)
            (hkept .zero).le
  refine ⟨hkept, hproduct, ?_⟩
  intro hgain
  have hpos0 : 0 < ((l.pool.reserves.get .zero).toNat : ℤ) :=
    Int.natCast_pos.2 (UInt64.lt_iff_toNat_lt.1 (hpos .zero))
  have hpos1 : 0 < ((l.pool.reserves.get .one).toNat : ℤ) :=
    Int.natCast_pos.2 (UInt64.lt_iff_toNat_lt.1 (hpos .one))
  have h0 : net .zero = 0 :=
    eq_zero_of_mul_le hpos1 (hkept .zero) (hgain .zero) (hgain .one) hproduct
  have h1 : net .one = 0 := by
    rw [mul_comm, mul_comm (kept .zero)] at hproduct
    exact eq_zero_of_mul_le hpos0 (hkept .one) (hgain .one) (hgain .zero) hproduct
  intro t
  cases t <;> assumption

/-- Ten sold for nine, and the nine sold back, leave the pool with the product it had. -/
theorem product_after_round_trip :
    let rs := (even 1000).receipts [.swap ⟨.zeroForOne, .exactInput 10 0⟩ default 1,
      .swap ⟨.oneForZero, .exactInput 9 0⟩ default 2]
    rs.length = 2 ∧
      (1000 : ℤ) * 1000 ≤ (1000 + Receipt.netPaid rs .zero) * (1000 + Receipt.netPaid rs .one) :=
  ⟨by decide, (no_free_lunch (even 1000) _ (fun t => by cases t <;> decide)).2.1⟩

end Ledger

end ConstantProduct
