import Mathlib
import ConstantProduct.Decimal

namespace ConstantProduct

/-- `k` is an integer nearest to `x`, and the even one of two that are equally near. -/
structure Nearest (x : ℚ) (k : ℕ) : Prop where
  abs_sub_le : |x - k| ≤ 1 / 2
  even_of_tie : |x - k| = 1 / 2 → Even k

theorem nearest_natCast (k : ℕ) : Nearest k k where
  abs_sub_le := by norm_num
  even_of_tie h := by norm_num at h

theorem nearest_roundHalfEven (n : ℕ) {d : ℕ} (hd : 0 < d) :
    Nearest (n / d) (roundHalfEven n d) := by
  have hpos : (0 : ℚ) < d := Nat.cast_pos.2 hd
  have hx : (n : ℚ) / d = (n / d : ℕ) + (n % d : ℕ) / d := by
    rw [div_eq_iff hpos.ne', add_mul, div_mul_cancel₀ _ hpos.ne', mul_comm]
    exact_mod_cast (Nat.div_add_mod n d).symm
  have hle : ((n % d : ℕ) : ℚ) / d ≤ 1 / 2 ↔ 2 * (n % d) ≤ d := by
    rw [div_le_div_iff₀ hpos two_pos, one_mul, mul_comm]
    norm_cast
  have hge : 1 / 2 ≤ ((n % d : ℕ) : ℚ) / d ↔ d ≤ 2 * (n % d) := by
    rw [div_le_div_iff₀ two_pos hpos, one_mul, mul_comm]
    norm_cast
  have hnonneg : (0 : ℚ) ≤ (n % d : ℕ) / d := by positivity
  have hlt : ((n % d : ℕ) : ℚ) / d < 1 := by
    rw [div_lt_one hpos]
    exact_mod_cast Nat.mod_lt n hd
  rw [hx]
  -- All that counts from here on is the fractional part and on which side of a half it is.
  generalize ((n % d : ℕ) : ℚ) / d = part at hle hge hnonneg hlt
  unfold roundHalfEven
  dsimp only
  split_ifs with h
  · have hpart := hle.2 (by omega)
    have habs : |((n / d : ℕ) : ℚ) + part - (n / d : ℕ)| = part := by
      rw [add_sub_cancel_left, abs_of_nonneg hnonneg]
    refine ⟨habs.trans_le hpart, ?_⟩
    intro htie
    have := hge.1 (habs.symm.trans htie).ge
    exact Nat.even_iff.2 (by omega)
  · have hpart := hge.2 (by omega)
    have habs : |((n / d : ℕ) : ℚ) + part - (n / d + 1 : ℕ)| = 1 - part := by
      rw [abs_of_neg] <;> push_cast <;> linarith
    refine ⟨by linarith, ?_⟩
    intro htie
    have := hle.1 (by linarith)
    exact Nat.even_iff.2 (by omega)

namespace Nearest

variable {x y : ℚ} {k l : ℕ}

theorem mono (hx : Nearest x k) (hy : Nearest y l) (h : x ≤ y) : k ≤ l := by
  by_contra hlt
  have hle : (l : ℚ) + 1 ≤ k := by exact_mod_cast not_le.1 hlt
  have hk := (abs_le.1 hx.abs_sub_le).1
  have hl := (abs_le.1 hy.abs_sub_le).2
  -- Both are ties, between the same two integers, and these are not both even.
  have hxk : x - k = -(1 / 2) := by linarith
  have hyl : y - l = 1 / 2 := by linarith
  have hkl : k = l + 1 := by
    have : (k : ℚ) = l + 1 := by linarith
    exact_mod_cast this
  have hek := hx.even_of_tie (by rw [hxk]; norm_num)
  have hel := hy.even_of_tie (by rw [hyl]; norm_num)
  rw [hkl, Nat.even_add_one] at hek
  exact hek hel

theorem unique (hk : Nearest x k) (hl : Nearest x l) : k = l :=
  le_antisymm (hk.mono hl le_rfl) (hl.mono hk le_rfl)

theorem le_iff {b : ℕ} (hb : Even b) (h : Nearest x k) : b ≤ k ↔ (b : ℚ) - 1 / 2 ≤ x := by
  constructor
  · intro hle
    have hcast : (b : ℚ) ≤ k := Nat.cast_le.2 hle
    have hk := (abs_le.1 h.abs_sub_le).1
    linarith
  · intro hle
    have htie : Nearest (b - 1 / 2) b := ⟨by norm_num, fun _ => hb⟩
    exact htie.mono h hle

/-- What is rounded in units of `1 / c` is off by half a unit at most. -/
theorem abs_div_sub_le {c : ℚ} (hc : 0 < c) (h : Nearest (x * c) k) : |k / c - x| ≤ 1 / 2 / c := by
  have hk := h.abs_sub_le
  rw [← div_mul_cancel₀ (k : ℚ) hc.ne', ← sub_mul, abs_mul, abs_of_pos hc, abs_sub_comm] at hk
  exact (le_div_iff₀ hc).2 hk

theorem even_add {m : ℕ} (hm : Even m) (h : Nearest x k) : Nearest (m + x) (m + k) := by
  have hsub : (m : ℚ) + x - (m + k : ℕ) = x - k := by push_cast; ring
  constructor
  · rw [hsub]
    exact h.abs_sub_le
  · intro htie
    rw [hsub] at htie
    exact hm.add (h.even_of_tie htie)

end Nearest

end ConstantProduct
