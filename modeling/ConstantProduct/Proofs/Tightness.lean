import Mathlib
import ConstantProduct.Proofs.Pricing

namespace ConstantProduct

theorem Fee.isLeast_gross (a : ℕ) {r : ℕ} (hr : r < 1000000) :
    IsLeast {n | a ≤ net n r} (gross a r) := by
  constructor
  · exact (gross_le_iff hr).1 le_rfl
  · intro n hn
    exact (gross_le_iff hr).2 hn

namespace Curve

/-- Giving `sold` for `paid` does not lower the product of the reserves. The numbers are integers,
so that no difference is cut off at zero. -/
def Keeps (reserveIn reserveOut paid sold : ℤ) : Prop :=
  reserveIn * reserveOut ≤ (reserveIn + paid) * (reserveOut - sold)

section Extremal

variable {ri ro : ℕ}

/-- The product is kept by selling up to what the curve sells, and no further. -/
theorem keeps_iff_le_output (hri : 0 < ri) (a : ℕ) (z : ℤ) :
    Keeps ri ro a z ↔ z ≤ output ri ro a := by
  have hgrown : (0 : ℤ) < ri + a := by omega
  have hexpand : ((ri : ℤ) + a) * (ro - z) = ri * ro + (ro * a - z * (ri + a)) := by ring
  have hout : (output ri ro a : ℤ) = ro * a / (ri + a) := by
    unfold output
    push_cast
    rfl
  rw [hout, Int.le_ediv_iff_mul_le hgrown, Keeps, hexpand]
  omega

/-- The product is kept by paying what the curve asks, or more. -/
theorem keeps_iff_input_le {y : ℕ} (hy : y < ro) (a : ℕ) :
    Keeps ri ro a y ↔ input ri ro y ≤ a := by
  have hexpand : ((ri : ℤ) + a) * (ro - y) = ri * ro + ((ro - y) * a - ri * y) := by ring
  rw [input, ceilDiv_le_iff_le_mul (by omega), Keeps, hexpand]
  zify [hy.le]
  omega

theorem isGreatest_output (hri : 0 < ri) (a : ℕ) :
    IsGreatest {z : ℤ | Keeps ri ro a z} (output ri ro a) := by
  constructor
  · exact (keeps_iff_le_output hri a _).2 le_rfl
  · intro z hz
    exact (keeps_iff_le_output hri a z).1 hz

theorem isLeast_input {y : ℕ} (hy : y < ro) :
    IsLeast {a : ℕ | Keeps ri ro a y} (input ri ro y) := by
  constructor
  · exact (keeps_iff_input_le hy _).2 le_rfl
  · intro a ha
    exact (keeps_iff_input_le hy a).1 ha

end Extremal

variable {ri ro r : Amount}

/-- Exact input sells the most that keeps the product for what the fee leaves of the payment. -/
theorem exactInput_eq_ok_iff_isGreatest {x y f : Amount} :
    exactInput ri ro x r = .ok (y, f) ↔
      0 < ri ∧ r ≤ 1000000 ∧ 0 < y ∧ f.toNat = Fee.due x.toNat r.toNat ∧
        IsGreatest {z : ℤ | Keeps ri.toNat ro.toNat (x.toNat - f.toNat) z} y.toNat := by
  have hpaid (hr : r.toNat ≤ 1000000) (hf : f.toNat = Fee.due x.toNat r.toNat) :
      (x.toNat : ℤ) - f.toNat = Fee.net x.toNat r.toNat := by
    have hle := Fee.due_le x.toNat hr
    unfold Fee.net
    omega
  rw [exactInput_eq_ok_iff, UInt64.lt_iff_toNat_lt, UInt64.lt_iff_toNat_lt, UInt64.le_iff_toNat_le]
  constructor
  · rintro ⟨hri, hr, hpos, hy, hf⟩
    refine ⟨hri, hr, hpos, hf, ?_⟩
    rw [hpaid hr hf, hy]
    exact isGreatest_output hri _
  · rintro ⟨hri, hr, hpos, hf, hgreatest⟩
    refine ⟨hri, hr, hpos, ?_, hf⟩
    rw [hpaid hr hf] at hgreatest
    exact Int.ofNat.inj (hgreatest.unique (isGreatest_output hri _))

/-- Exact output asks for the least payment of which the fee leaves the least that keeps the
product for what is sold. -/
theorem exactOutput_eq_ok_iff_isLeast {y g f : Amount} :
    exactOutput ri ro y r = .ok (g, f) ↔
      r < 1000000 ∧ 0 < y ∧ y < ro ∧ f ≤ g ∧
        IsLeast {a : ℕ | Keeps ri.toNat ro.toNat a y.toNat} (g.toNat - f.toNat) ∧
          IsLeast {n | g.toNat - f.toNat ≤ Fee.net n r.toNat} g.toNat := by
  rw [UInt64.lt_iff_toNat_lt, UInt64.lt_iff_toNat_lt, UInt64.lt_iff_toNat_lt,
    UInt64.le_iff_toNat_le]
  constructor
  · intro h
    obtain ⟨hr, hpos, hlt, hg, hf⟩ := exactOutput_eq_ok_iff.1 h
    refine ⟨hr, hpos, hlt, hf ▸ Fee.due_le _ hr.le, ?_, ?_⟩
    · rw [sub_fee_of_exactOutput h]
      exact isLeast_input hlt
    · rw [sub_fee_of_exactOutput h, hg]
      exact Fee.isLeast_gross _ hr
  · rintro ⟨hr, hpos, hlt, hle, hpaid, hleast⟩
    have hin := hpaid.unique (isLeast_input hlt)
    have hg := hleast.unique (Fee.isLeast_gross _ hr)
    apply exactOutput_eq_ok_iff.2
    refine ⟨hr, hpos, hlt, ?_, ?_⟩
    · rw [cost, ← hin]
      exact hg
    · have hfee := Fee.due_gross (g.toNat - f.toNat) hr
      rw [← hg] at hfee
      omega

/-- Pricing is the tightest that the curve allows. What exact input sells is the greatest number that
keeps the product of the reserves for what the fee leaves of the payment. What the fee leaves of the
payment that exact output asks for is the least number that keeps it, and the payment is the least
of which the fee leaves so much. Together with the range of the arguments this is all that there is
to know of the two modes: an answer with these properties is the answer given. -/
theorem pricing_is_tightest (reserveIn reserveOut feeRate : Amount) :
    (∀ amountIn y f : Amount, exactInput reserveIn reserveOut amountIn feeRate = .ok (y, f) ↔
      0 < reserveIn ∧ feeRate ≤ 1000000 ∧ 0 < y ∧
        f.toNat = Fee.due amountIn.toNat feeRate.toNat ∧
          IsGreatest {z : ℤ | Keeps reserveIn.toNat reserveOut.toNat
            (amountIn.toNat - f.toNat) z} y.toNat) ∧
    ∀ amountOut g f : Amount, exactOutput reserveIn reserveOut amountOut feeRate = .ok (g, f) ↔
      feeRate < 1000000 ∧ 0 < amountOut ∧ amountOut < reserveOut ∧ f ≤ g ∧
        IsLeast {a : ℕ | Keeps reserveIn.toNat reserveOut.toNat a amountOut.toNat}
          (g.toNat - f.toNat) ∧
        IsLeast {n | g.toNat - f.toNat ≤ Fee.net n feeRate.toNat} g.toNat :=
  ⟨fun _ _ _ => exactInput_eq_ok_iff_isGreatest, fun _ _ _ => exactOutput_eq_ok_iff_isLeast⟩

end Curve

end ConstantProduct
