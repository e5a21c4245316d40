import Mathlib
import ConstantProduct.FixedPoint
import ConstantProduct.Proofs.Words

namespace ConstantProduct

def Rounding.quotient : Rounding → ℕ → ℕ → ℕ
  | up, n, d => n ⌈/⌉ d
  | down, n, d => n / d

theorem ceilDiv_of_mod_eq_zero {n d : ℕ} (hd : 0 < d) (h : n % d = 0) : n ⌈/⌉ d = n / d := by
  obtain ⟨k, rfl⟩ := Nat.dvd_of_mod_eq_zero h
  rw [Nat.mul_div_cancel_left k hd]
  exact smul_ceilDiv hd k

theorem ceilDiv_of_mod_ne_zero {n d : ℕ} (hd : 0 < d) (h : n % d ≠ 0) :
    n ⌈/⌉ d = n / d + 1 := by
  have hn := Nat.div_add_mod n d
  have hm := Nat.mod_lt n hd
  apply le_antisymm
  · rw [ceilDiv_le_iff_le_mul hd, Nat.mul_add]
    omega
  · rw [Nat.add_one_le_iff]
    by_contra hle
    have := (ceilDiv_le_iff_le_mul hd).1 (not_lt.1 hle)
    omega

theorem div_add_one_lt {n d b : ℕ} (hn : n < b) (hd : 0 < d) (h : n % d ≠ 0) : n / d + 1 < b := by
  have hd2 : 2 ≤ d := by
    by_contra hlt
    obtain rfl : d = 1 := by omega
    exact h (Nat.mod_one n)
  have hle : n / d ≤ n / 2 := Nat.div_le_div_left hd2 (by norm_num)
  have hpos : n ≠ 0 := by
    rintro rfl
    exact h (Nat.zero_mod d)
  omega

namespace Wide

theorem toNat_mul_lt (a b : Wide) : a.toNat * b.toNat < 2 ^ 256 :=
  calc
    _ < 2 ^ 128 * 2 ^ 128 := Nat.mul_lt_mul'' a.isLt b.isLt
    _ = 2 ^ 256 := by norm_num

/-- No digit of a product is lost in twice the width. -/
theorem toNat_product (a b : Wide) :
    (a.setWidth 256 * b.setWidth 256).toNat = a.toNat * b.toNat := by
  have ha := a.isLt
  have hb := b.isLt
  rw [BitVec.toNat_mul, BitVec.toNat_setWidth, BitVec.toNat_setWidth,
    Nat.mod_eq_of_lt (by omega : a.toNat < 2 ^ 256),
    Nat.mod_eq_of_lt (by omega : b.toNat < 2 ^ 256), Nat.mod_eq_of_lt (a.toNat_mul_lt b)]

theorem toNat_divisor (d : Wide) : (d.setWidth 256).toNat = d.toNat := by
  have hd := d.isLt
  rw [BitVec.toNat_setWidth, Nat.mod_eq_of_lt (by omega)]

theorem toNat_floor (a b d : Wide) :
    (a.setWidth 256 * b.setWidth 256 / d.setWidth 256).toNat = a.toNat * b.toNat / d.toNat := by
  rw [BitVec.toNat_udiv, toNat_product, toNat_divisor]

theorem remainder_ne_zero_iff (a b d : Wide) :
    a.setWidth 256 * b.setWidth 256 % d.setWidth 256 ≠ 0 ↔ a.toNat * b.toNat % d.toNat ≠ 0 := by
  rw [ne_eq, ← BitVec.toNat_inj, BitVec.toNat_umod, toNat_product, toNat_divisor]
  rfl

/-- A remainder means a divisor of two at least, and so room for one more. -/
theorem toNat_floor_add_one {a b d : Wide} (hd : d ≠ 0)
    (h : a.setWidth 256 * b.setWidth 256 % d.setWidth 256 ≠ 0) :
    (a.setWidth 256 * b.setWidth 256 / d.setWidth 256 + 1).toNat =
      a.toNat * b.toNat / d.toNat + 1 := by
  rw [BitVec.toNat_add, toNat_floor]
  exact Nat.mod_eq_of_lt (div_add_one_lt (a.toNat_mul_lt b) ((ne_zero_iff d).1 hd)
    ((remainder_ne_zero_iff a b d).1 h))

end Wide

theorem mulDiv_zero (a b : Wide) (rounding : Rounding) :
    mulDiv a b 0 rounding = .error (.divisionByZero .mulDiv) := rfl

/-- A quotient that no wide word holds is the only one refused: rounding up never overflows. -/
theorem mulDiv_eq (a b d : Wide) (rounding : Rounding) (hd : d ≠ 0) :
    mulDiv a b d rounding =
      if rounding.quotient (a.toNat * b.toNat) d.toNat < 2 ^ 128
      then .ok (BitVec.ofNat 128 (rounding.quotient (a.toNat * b.toNat) d.toNat))
      else .error (.overflow .mulDiv) := by
  have hpos := (Wide.ne_zero_iff d).1 hd
  have hfloor := a.toNat_floor b d
  have hrem := a.remainder_ne_zero_iff b d
  have hnext := Wide.toNat_floor_add_one (a := a) (b := b) hd
  simp only [mulDiv, hd, ↓reduceIte, throw_eq_error, pure_eq_ok, ok_bind]
  set product := a.setWidth 256 * b.setWidth 256
  set divisor := d.setWidth 256
  by_cases hup : rounding = .up ∧ product % divisor ≠ 0
  · obtain ⟨rfl, hne⟩ := hup
    -- A remainder leaves room for the increment, so its own check never refuses.
    have hone : product / divisor ≠ BitVec.allOnes 256 := by
      intro h
      have hzero := hnext hne
      rw [h] at hzero
      cases hzero
    rw [if_pos ⟨rfl, hne⟩, if_neg hone, ← BitVec.ofNat_toNat, hnext hne]
    simp only [Rounding.quotient, ceilDiv_of_mod_ne_zero hpos (hrem.1 hne)]
    rfl
  · have hq : rounding.quotient (a.toNat * b.toNat) d.toNat = (product / divisor).toNat := by
      cases rounding with
      | down => exact hfloor.symm
      | up =>
        have hmod : a.toNat * b.toNat % d.toNat = 0 := by
          by_contra hne
          exact hup ⟨rfl, hrem.2 hne⟩
        rw [hfloor]
        exact ceilDiv_of_mod_eq_zero hpos hmod
    rw [if_neg hup, hq, ← BitVec.ofNat_toNat]
    rfl

theorem Rounding.quotient_le (rounding : Rounding) {d : ℕ} (n : ℕ) (hd : 0 < d) :
    rounding.quotient n d ≤ n := by
  cases rounding with
  | down => exact Nat.div_le_self n d
  | up => exact (ceilDiv_le_iff_le_mul hd).2 (Nat.le_mul_of_pos_left n hd)

theorem Amount.toNat_mul_lt (a b : Amount) : a.toNat * b.toNat < 2 ^ 128 :=
  calc
    _ < 2 ^ 64 * 2 ^ 64 := Nat.mul_lt_mul'' a.toNat_lt b.toNat_lt
    _ = 2 ^ 128 := by norm_num

theorem mulDiv_amounts (a b : Amount) {d : Wide} (rounding : Rounding) (hd : d ≠ 0) :
    mulDiv a.wide b.wide d rounding =
      .ok (BitVec.ofNat 128 (rounding.quotient (a.toNat * b.toNat) d.toNat)) := by
  have hpos := (Wide.ne_zero_iff d).1 hd
  have hlt := (rounding.quotient_le _ hpos).trans_lt (a.toNat_mul_lt b)
  rw [mulDiv_eq _ _ _ _ hd, Amount.toNat_wide, Amount.toNat_wide, if_pos hlt]

end ConstantProduct
