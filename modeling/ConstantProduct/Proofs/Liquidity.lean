import Mathlib
import ConstantProduct.Proofs.Pricing

namespace ConstantProduct

theorem Fee.exists_wide_due (amount rate : Amount) (hr : rate ≤ 1000000) :
    ∃ fee : Amount, mulDiv amount.wide rate.wide whole.wide .up = .ok fee.wide ∧ fee ≤ amount := by
  have hrate : rate.toNat ≤ 1000000 := UInt64.le_iff_toNat_le.1 hr
  have hfit := (due_le amount.toNat hrate).trans_lt amount.toNat_lt
  refine ⟨UInt64.ofNat (due amount.toNat rate.toNat), ?_, ?_⟩
  · rw [mulDiv_amounts _ _ .up whole_wide_ne_zero, Amount.wide_ofNat hfit]
    rfl
  · rw [UInt64.le_iff_toNat_le, toNat_due amount hrate]
    exact due_le _ hrate

namespace Curve

theorem exists_wide_output (ri ro a : Amount) (h : ¬(ri = 0 ∧ a = 0)) :
    ∃ y : Amount, mulDiv ro.wide a.wide (ri.wide + a.wide) .down = .ok y.wide ∧ y ≤ ro := by
  have hfit := (output_le ri.toNat ro.toNat a.toNat).trans_lt ro.toNat_lt
  have hgrown : (ri.wide + a.wide).toNat = ri.toNat + a.toNat := by
    have := ri.toNat_lt
    have := a.toNat_lt
    rw [BitVec.toNat_add, Amount.toNat_wide, Amount.toNat_wide]
    omega
  have hne : ri.wide + a.wide ≠ 0 := by
    rw [Amount.eq_zero_iff, Amount.eq_zero_iff] at h
    rw [ne_eq, Wide.eq_zero_iff, hgrown]
    omega
  refine ⟨UInt64.ofNat (output ri.toNat ro.toNat a.toNat), ?_, ?_⟩
  · rw [mulDiv_amounts _ _ .down hne, hgrown, Amount.wide_ofNat hfit]
    rfl
  · rw [UInt64.le_iff_toNat_le, toNat_output]
    exact output_le _ _ _

/-- Neither reserve is empty, and `paid`, free of the fee, is enough for a unit of the second. -/
def Liquid (reserveIn reserveOut : Amount) (paid : ℕ) : Prop :=
  0 < reserveIn ∧ 0 < reserveOut ∧ reserveIn.toNat ≤ paid * (reserveOut.toNat - 1)

instance (reserveIn reserveOut : Amount) (paid : ℕ) :
    Decidable (Liquid reserveIn reserveOut paid) := inferInstanceAs (Decidable (_ ∧ _ ∧ _))

@[simp] theorem not_liquid_zero (reserveOut : Amount) (paid : ℕ) : ¬Liquid 0 reserveOut paid :=
  fun h => UInt64.lt_irrefl 0 h.1

theorem output_pos_iff {ri ro a : ℕ} (hri : 0 < ri) (hro : 0 < ro) :
    0 < output ri ro a ↔ ri ≤ a * (ro - 1) := by
  have hsold : ro * a = a * (ro - 1) + a := by
    rw [Nat.mul_comm, ← Nat.mul_add_one, Nat.sub_add_cancel hro]
  change 1 ≤ output ri ro a ↔ _
  rw [le_output_iff hri, hsold]
  omega

section Words

variable {ri ro : Amount} {a : ℕ}

/-- A payment buys something, and not all of the reserve, just when the pool is liquid for it. -/
theorem liquid_iff (h : ¬(ri = 0 ∧ a = 0)) :
    Liquid ri ro a ↔
      0 < output ri.toNat ro.toNat a ∧ output ri.toNat ro.toNat a < ro.toNat := by
  rw [Liquid, UInt64.lt_iff_toNat_lt, UInt64.lt_iff_toNat_lt]
  constructor
  · rintro ⟨hri, hro, hle⟩
    exact ⟨(output_pos_iff hri hro).2 hle, output_lt a hri hro⟩
  · rintro ⟨hpos, hlt⟩
    have hro : 0 < ro.toNat := hpos.trans hlt
    have hri : 0 < ri.toNat := by
      -- Into an empty reserve any payment would buy all of the other.
      by_contra h0
      rw [Amount.eq_zero_iff] at h
      rw [Nat.eq_zero_of_not_pos h0, output_of_empty _ (by omega)] at hlt
      exact lt_irrefl _ hlt
    exact ⟨hri, hro, (output_pos_iff hri hro).1 hpos⟩

theorem refused_iff (h : ¬(ri = 0 ∧ a = 0)) :
    (UInt64.ofNat (output ri.toNat ro.toNat a) = 0 ∨
      ro ≤ UInt64.ofNat (output ri.toNat ro.toNat a)) ↔ ¬Liquid ri ro a := by
  rw [liquid_iff h, Amount.eq_zero_iff, UInt64.le_iff_toNat_le, toNat_output]
  omega

end Words

/-- Every answer of exact input, the refusal for want of liquidity told by the arguments. -/
theorem exactInput_eq_of_liquidity (ri ro x r : Amount) :
    exactInput ri ro x r =
      if x = 0 then .error .zeroInput
      else if 1000000 < r then .error (.invalidFeeRate r .aboveWhole)
      else if ri = 0 ∧ Fee.net x.toNat r.toNat = 0 then .error (.divisionByZero .mulDiv)
      else
        let y := UInt64.ofNat (purchase ri.toNat ro.toNat x.toNat r.toNat)
        if Liquid ri ro (Fee.net x.toNat r.toNat) then
          .ok (y, UInt64.ofNat (Fee.due x.toNat r.toNat))
        else .error (.insufficientLiquidity y ro) := by
  have hempty : ri.toNat + Fee.net x.toNat r.toNat = 0 ↔ ri = 0 ∧ Fee.net x.toNat r.toNat = 0 := by
    rw [Amount.eq_zero_iff]
    omega
  rw [exactInput_eq]
  simp only [hempty]
  by_cases h0 : ri = 0 ∧ Fee.net x.toNat r.toNat = 0
  · rw [if_pos h0, if_pos h0]
    rfl
  · simp only [if_neg h0, purchase, refused_iff h0, ite_not]
    rfl

/-- Exact input answers just when something is paid, at a rate up to the whole, and the pool is
liquid for what the fee leaves of it. Otherwise the first of four causes that applies is named:
nothing is paid; the rate is above the whole; nothing is there on the side paid in, and nothing is
left to add; the pool is not liquid. It is never an overflow or a fault: of the two words that are
narrowed, that of the fee is not above the payment, and that of what is sold not above the
reserve. -/
theorem liquidity_criterion (reserveIn reserveOut amountIn feeRate : Amount) :
    let answer := exactInput reserveIn reserveOut amountIn feeRate
    let a := Fee.net amountIn.toNat feeRate.toNat
    ((∃ y f, answer = .ok (y, f)) ↔
      amountIn ≠ 0 ∧ feeRate ≤ 1000000 ∧ Liquid reserveIn reserveOut a) ∧
    (answer = .error .zeroInput ↔ amountIn = 0) ∧
    (answer = .error (.invalidFeeRate feeRate .aboveWhole) ↔ amountIn ≠ 0 ∧ 1000000 < feeRate) ∧
    (answer = .error (.divisionByZero .mulDiv) ↔
      amountIn ≠ 0 ∧ feeRate ≤ 1000000 ∧ reserveIn = 0 ∧ a = 0) ∧
    ((∃ y, answer = .error (.insufficientLiquidity y reserveOut)) ↔
      amountIn ≠ 0 ∧ feeRate ≤ 1000000 ∧ ¬(reserveIn = 0 ∧ a = 0) ∧
        ¬Liquid reserveIn reserveOut a) ∧
    (∀ c, answer ≠ .error (.overflow c)) ∧ (∀ fault, answer ≠ .error (.fault fault)) ∧
    (feeRate ≤ 1000000 → ∃ f : Amount,
      mulDiv amountIn.wide feeRate.wide Fee.whole.wide .up = .ok f.wide ∧ f ≤ amountIn) ∧
    ∀ paid : Amount, ¬(reserveIn = 0 ∧ paid = 0) → ∃ y : Amount,
      mulDiv reserveOut.wide paid.wide (reserveIn.wide + paid.wide) .down = .ok y.wide ∧
        y ≤ reserveOut := by
  have hfee := Fee.exists_wide_due amountIn feeRate
  have hsold := exists_wide_output reserveIn reserveOut
  dsimp only
  rw [exactInput_eq_of_liquidity, ← UInt64.not_lt]
  rw [← UInt64.not_lt] at hfee
  -- One case for each check and one for the answer; in each case one of the conditions holds.
  split_ifs with hx hr h0 hl
  · refine ⟨?_, ?_, ?_, ?_, ?_, ?_, ?_, hfee, hsold⟩ <;> simp [hx]
  · refine ⟨?_, ?_, ?_, ?_, ?_, ?_, ?_, hfee, hsold⟩ <;> simp [hx, hr]
  · refine ⟨?_, ?_, ?_, ?_, ?_, ?_, ?_, hfee, hsold⟩ <;> simp [hx, hr, h0]
  · refine ⟨?_, ?_, ?_, ?_, ?_, ?_, ?_, hfee, hsold⟩ <;> simp [hx, hr, h0, hl]
  · refine ⟨?_, ?_, ?_, ?_, ?_, ?_, ?_, hfee, hsold⟩ <;> simp [hx, hr, h0, hl]

/-- The largest payment buys one of two units out of the largest reserve, but not at the least
rate: then it lacks the fee. -/
theorem exactInput_of_last_unit :
    (∃ y f, exactInput Amount.max 2 Amount.max 0 = .ok (y, f)) ∧
      ∃ y, exactInput Amount.max 2 Amount.max 1 = .error (.insufficientLiquidity y 2) := by
  obtain ⟨hfree, -⟩ := liquidity_criterion Amount.max 2 Amount.max 0
  obtain ⟨-, -, -, -, hcharged, -⟩ := liquidity_criterion Amount.max 2 Amount.max 1
  exact ⟨hfree.2 (by decide), hcharged.2 (by decide)⟩

end Curve

end ConstantProduct
