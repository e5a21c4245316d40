import Mathlib
import ConstantProduct.Proofs.LeastCost

namespace ConstantProduct

theorem Fee.gross_mono {a a' r r' : ℕ} (ha : a' ≤ a) (hrate : r' ≤ r) (hr : r < 1000000) :
    gross a' r' ≤ gross a r := by
  have hkept : a * 1000000 ≤ gross a r * (1000000 - r) :=
    (le_net_iff hr.le).1 ((gross_le_iff hr).1 le_rfl)
  rw [gross_le_iff (by omega), le_net_iff (by omega)]
  calc
    a' * 1000000 ≤ a * 1000000 := Nat.mul_le_mul_right _ ha
    _ ≤ gross a r * (1000000 - r) := hkept
    _ ≤ gross a r * (1000000 - r') := Nat.mul_le_mul_left _ (by omega)

namespace Curve

section Terms

variable {ri ri' ro ro' y y' r r' : ℕ}

/-- The curve asks no more for less, when less is on the side paid in and more on the other. -/
theorem input_mono (hri : ri' ≤ ri) (hro : ro ≤ ro') (hy : y' ≤ y) (hlt : y < ro) :
    input ri' ro' y' ≤ input ri ro y := by
  have hpaid : ri * y ≤ (ro - y) * input ri ro y := (ceilDiv_le_iff_le_mul (by omega)).1 le_rfl
  apply (ceilDiv_le_iff_le_mul (by omega)).2
  calc
    ri' * y' ≤ ri * y := Nat.mul_le_mul hri hy
    _ ≤ (ro - y) * input ri ro y := hpaid
    _ ≤ (ro' - y') * input ri ro y := Nat.mul_le_mul_right _ (by omega)

theorem cost_mono (hri : ri' ≤ ri) (hro : ro ≤ ro') (hy : y' ≤ y) (hlt : y < ro)
    (hrate : r' ≤ r) (hr : r < 1000000) : cost ri' ro' y' r' ≤ cost ri ro y r :=
  Fee.gross_mono (input_mono hri hro hy hlt) hrate hr

end Terms

section Amounts

variable {ri ri' ro ro' r r' x x' y y' g f : Amount}

/-- What a payment buys is not all of the reserve and costs no more than the payment; at a fee of
the whole it buys nothing. -/
theorem cost_le_of_exactInput (h : exactInput ri ro x r = .ok (y, f)) :
    0 < y.toNat ∧ y.toNat < ro.toNat ∧ r.toNat < 1000000 ∧
      cost ri.toNat ro.toNat y.toNat r.toNat ≤ x.toNat := by
  obtain ⟨hri, hr, hpos, hy, -⟩ := exactInput_eq_ok_iff.1 h
  have hlt := lt_of_exactInput h
  have hrate : r.toNat < 1000000 := rate_lt_of_purchase_pos hr (hy ▸ hpos)
  exact ⟨hpos, hlt, hrate, (cost_le_iff hri hlt hrate).2 hy.le⟩

theorem exactInput_mono (hri : 0 < ri') (hle : ri' ≤ ri) (hro : ro ≤ ro') (hx : x ≤ x')
    (hrate : r' ≤ r) (h : exactInput ri ro x r = .ok (y, f)) : Delivers ri' ro' r' x' y := by
  obtain ⟨hpos, hlt, hr, hcost⟩ := cost_le_of_exactInput h
  rw [UInt64.le_iff_toNat_le] at hle hro hx hrate
  rw [delivers_iff hri (UInt64.lt_iff_toNat_lt.2 (hrate.trans_lt hr))
    (UInt64.lt_iff_toNat_lt.2 hpos) (UInt64.lt_iff_toNat_lt.2 (hlt.trans_le hro))]
  exact (cost_mono hle hro le_rfl hlt hrate hr).trans (hcost.trans hx)

theorem exactOutput_mono (hri : ri' ≤ ri) (hro : ro ≤ ro') (hpos : 0 < y') (hy : y' ≤ y)
    (hrate : r' ≤ r) (h : exactOutput ri ro y r = .ok (g, f)) :
    ∃ g' f', exactOutput ri' ro' y' r' = .ok (g', f') ∧ g' ≤ g := by
  obtain ⟨hr, -, hlt, hg, -⟩ := exactOutput_eq_ok_iff.1 h
  rw [UInt64.le_iff_toNat_le] at hri hro hy hrate
  apply exists_exactOutput_of_cost_le (hrate.trans_lt hr) (UInt64.lt_iff_toNat_lt.1 hpos)
  · exact (hy.trans_lt hlt).trans_le hro
  · rw [hg]
    exact cost_mono hri hro hy hlt hrate hr

end Amounts

/-- Pricing is monotone, including where it is defined. If exact input answers, it answers for every
lower reserve on the side paid in that is not empty, higher reserve on the other, higher payment and
lower rate, and sells no less. If exact output answers, it answers for every lower reserve on the
side paid in, higher reserve on the other, smaller purchase but none and lower rate, and asks for no
more. -/
theorem pricing_is_monotone (reserveIn reserveOut feeRate : Amount) :
    (∀ amountIn y f, exactInput reserveIn reserveOut amountIn feeRate = .ok (y, f) →
      ∀ reserveIn' reserveOut' amountIn' feeRate' : Amount, 0 < reserveIn' →
        reserveIn' ≤ reserveIn → reserveOut ≤ reserveOut' → amountIn ≤ amountIn' →
          feeRate' ≤ feeRate → ∃ y' f',
            exactInput reserveIn' reserveOut' amountIn' feeRate' = .ok (y', f') ∧ y ≤ y') ∧
    ∀ amountOut g f, exactOutput reserveIn reserveOut amountOut feeRate = .ok (g, f) →
      ∀ reserveIn' reserveOut' amountOut' feeRate' : Amount, reserveIn' ≤ reserveIn →
        reserveOut ≤ reserveOut' → 0 < amountOut' → amountOut' ≤ amountOut →
          feeRate' ≤ feeRate → ∃ g' f',
            exactOutput reserveIn' reserveOut' amountOut' feeRate' = .ok (g', f') ∧ g' ≤ g := by
  refine ⟨?_, ?_⟩
  · intro x y f h ri' ro' x' r' hpos hri hro hx hrate
    exact exactInput_mono hpos hri hro hx hrate h
  · intro y g f h ri' ro' y' r' hri hro hpos hy hrate
    exact exactOutput_mono hri hro hpos hy hrate h

/-- The largest payment just buys one of two units out of the largest reserve, and one unit just
costs it. On easier terms both are still priced, even where nothing is there on the side paid in. -/
theorem priced_on_easier_terms :
    exactInput Amount.max 2 Amount.max 0 = .ok (1, 0) ∧
      (∃ y f, exactInput 18446744073709551614 3 Amount.max 0 = .ok (y, f) ∧ 1 ≤ y) ∧
    exactOutput Amount.max 2 1 0 = .ok (Amount.max, 0) ∧
      ∃ g f, exactOutput 0 3 1 0 = .ok (g, f) ∧ g ≤ Amount.max := by
  have hin : exactInput Amount.max 2 Amount.max 0 = .ok (1, 0) := by decide
  have hout : exactOutput Amount.max 2 1 0 = .ok (Amount.max, 0) := by decide
  obtain ⟨input, output⟩ := pricing_is_monotone Amount.max 2 0
  exact ⟨hin, input _ _ _ hin 18446744073709551614 3 Amount.max 0 (by decide) (by decide)
    (by decide) (by decide) (by decide), hout, output _ _ _ hout 0 3 1 0 (by decide) (by decide)
    (by decide) (by decide) (by decide)⟩

end Curve

end ConstantProduct
