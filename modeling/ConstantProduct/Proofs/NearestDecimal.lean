import Mathlib
import ConstantProduct.Proofs.HalfEven

namespace ConstantProduct

theorem tenTo_eq (n : ℕ) : tenTo n = 10 ^ n := rfl

namespace Decimal

def value (d : Decimal) : ℚ := d.mantissa / 10 ^ d.scale

section Value

variable {d e : Decimal}

theorem value_nonneg (d : Decimal) : 0 ≤ d.value := by
  unfold value
  positivity

theorem value_mul (d : Decimal) : d.value * 10 ^ d.scale = d.mantissa :=
  div_mul_cancel₀ _ (by positivity)

theorem value_le_iff : d.value ≤ e.value ↔ d.value * 10 ^ e.scale ≤ e.mantissa := by
  rw [← e.value_mul]
  exact (mul_le_mul_iff_of_pos_right (by positivity)).symm

/-- At a scale that is no coarser a decimal is an integer. -/
theorem exists_natCast_eq {k : ℕ} (h : d.scale ≤ k) : ∃ m : ℕ, d.value * 10 ^ k = m := by
  obtain ⟨j, rfl⟩ := Nat.exists_eq_add_of_le h
  refine ⟨d.mantissa * 10 ^ j, ?_⟩
  rw [pow_add, ← mul_assoc, value_mul]
  push_cast
  rfl

/-- What is rounded at a scale does not pass a decimal of that scale or a coarser one. -/
theorem le_of_nearest {y : ℚ} (hy : Nearest (y * 10 ^ e.scale) e.mantissa) (hs : d.scale ≤ e.scale)
    (h : d.value ≤ y) : d.value ≤ e.value := by
  obtain ⟨m, hm⟩ := exists_natCast_eq hs
  have hle : (m : ℚ) ≤ y * 10 ^ e.scale := hm ▸ mul_le_mul_of_nonneg_right h (by positivity)
  rw [value_le_iff, hm]
  exact_mod_cast (nearest_natCast m).mono hy hle

theorem ge_of_nearest {x : ℚ} (hx : Nearest (x * 10 ^ d.scale) d.mantissa) (hs : e.scale ≤ d.scale)
    (h : x ≤ e.value) : d.value ≤ e.value := by
  obtain ⟨m, hm⟩ := exists_natCast_eq hs
  have hle : x * 10 ^ d.scale ≤ m := hm ▸ mul_le_mul_of_nonneg_right h (by positivity)
  have hmantissa : (d.mantissa : ℚ) ≤ m := by exact_mod_cast hx.mono (nearest_natCast m) hle
  rw [← hm, ← d.value_mul] at hmantissa
  exact le_of_mul_le_mul_right hmantissa (by positivity)

end Value

/-- With `k` places what is nearest to `x` is out of range. -/
def OutOfRange (x : ℚ) (k : ℕ) : Prop := (mantissaBound : ℚ) - 1 / 2 ≤ x * 10 ^ k

namespace OutOfRange

variable {x y : ℚ} {j k m : ℕ}

theorem iff_of_nearest (h : Nearest (x * 10 ^ k) m) : OutOfRange x k ↔ mantissaBound ≤ m :=
  (h.le_iff (by decide)).symm

theorem natCast_iff {n : ℕ} : OutOfRange n k ↔ mantissaBound ≤ n * 10 ^ k := by
  have h := nearest_natCast (n * 10 ^ k)
  rw [Nat.cast_mul, Nat.cast_pow, Nat.cast_ofNat] at h
  exact iff_of_nearest h

theorem mono (h : OutOfRange x k) (hxy : x ≤ y) : OutOfRange y k :=
  h.trans (mul_le_mul_of_nonneg_right hxy (by positivity))

theorem finer (h : OutOfRange x j) (hx : 0 ≤ x) (hjk : j ≤ k) : OutOfRange x k :=
  h.trans (mul_le_mul_of_nonneg_left (pow_le_pow_right₀ (by norm_num) hjk) hx)

/-- Where one place more is out of range, ten times the mantissa is no less than any in range: for
the bound ends in six, and five would have been rounded up. -/
theorem le_mantissa (h : OutOfRange x (k + 1)) (hm : Nearest (x * 10 ^ k) m) :
    mantissaBound - 1 ≤ 10 * m := by
  have hnear := (abs_le.1 hm.abs_sub_le).2
  have hcast : (mantissaBound : ℚ) < 10 * m + 6 := by
    unfold OutOfRange at h
    rw [pow_succ, ← mul_assoc] at h
    generalize (mantissaBound : ℚ) = bound at h ⊢
    linarith
  have hlt : mantissaBound < 10 * m + 6 := by exact_mod_cast hcast
  simp only [mantissaBound] at hlt ⊢
  omega

end OutOfRange

/-- `d` is `x`, or nearest to it at the finest scale that has a mantissa for it. -/
structure Renders (x : ℚ) (d : Decimal) : Prop where
  nearest : Nearest (x * 10 ^ d.scale) d.mantissa
  finest : d.value = x ∨ ∀ k, d.scale < k → k ≤ 28 → OutOfRange x k

namespace Renders

variable {x y : ℚ} {d e : Decimal}

theorem le_of_outOfRange (hy : Nearest (y * 10 ^ e.scale) e.mantissa)
    (hout : OutOfRange y (e.scale + 1)) (hlt : e.scale < d.scale) : d.value ≤ e.value := by
  have hmantissa : (d.mantissa : ℚ) ≤ 10 * e.mantissa := by
    have hle := Nat.le_sub_one_of_lt d.mantissa_lt
    exact_mod_cast hle.trans (hout.le_mantissa hy)
  have hscale : d.value * 10 ^ (e.scale + 1) ≤ d.mantissa := by
    rw [← d.value_mul]
    exact mul_le_mul_of_nonneg_left (pow_le_pow_right₀ (by norm_num) hlt) d.value_nonneg
  rw [pow_succ, ← mul_assoc] at hscale
  rw [value_le_iff]
  linarith

/-- Rendering is monotone, also where the greater number has fewer places. -/
theorem value_mono (hx : Renders x d) (hy : Renders y e) (h : x ≤ y) : d.value ≤ e.value := by
  obtain hlt | heq | hlt := lt_trichotomy d.scale e.scale
  · obtain hexact | hfiner := hx.finest
    · exact le_of_nearest hy.nearest hlt.le (hexact.trans_le h)
    · -- With the places of the greater number the smaller one would be in range.
      have hout := (hfiner _ hlt e.scale_le).mono h
      exact absurd e.mantissa_lt (not_lt.2 ((OutOfRange.iff_of_nearest hy.nearest).1 hout))
  · have hnearest := hx.nearest
    have hmul := d.value_mul
    rw [heq] at hnearest hmul
    rw [value_le_iff, hmul]
    exact_mod_cast hnearest.mono hy.nearest (mul_le_mul_of_nonneg_right h (by positivity))
  · obtain hexact | hfiner := hy.finest
    · exact ge_of_nearest hx.nearest hlt.le (h.trans hexact.ge)
    · have hout := hfiner _ (Nat.lt_succ_self _) (hlt.trans_le d.scale_le)
      exact le_of_outOfRange hy.nearest hout hlt

theorem self (d : Decimal) : Renders d.value d :=
  ⟨by rw [value_mul]; exact nearest_natCast _, Or.inl rfl⟩

/-- A number that is a decimal is rendered as it. -/
theorem value_eq (h : Renders e.value d) : d.value = e.value :=
  le_antisymm (h.value_mono (self e) le_rfl) ((self e).value_mono h le_rfl)

theorem abs_sub_le {t : ℕ} (h : Renders x d) (ht : t ≤ 28) (hfit : ¬OutOfRange x t) :
    |d.value - x| ≤ 1 / 2 / 10 ^ t := by
  obtain hexact | hfiner := h.finest
  · rw [hexact, sub_self, abs_zero]
    positivity
  · have hle : t ≤ d.scale := by
      by_contra hlt
      exact hfit (hfiner t (not_le.1 hlt) ht)
    calc
      |d.value - x| ≤ 1 / 2 / 10 ^ d.scale := h.nearest.abs_div_sub_le (by positivity)
      _ ≤ 1 / 2 / 10 ^ t := by gcongr; norm_num

end Renders

section Search

variable {n d scale : ℕ} {hs : scale ≤ 28} {e : Decimal}

theorem nearest_at (n : ℕ) (hd : 0 < d) (k : ℕ) :
    Nearest (n / d * 10 ^ k) (roundHalfEven (n * tenTo k) d) := by
  have h := nearest_roundHalfEven (n * tenTo k) hd
  rwa [tenTo_eq, Nat.cast_mul, Nat.cast_pow, mul_div_right_comm] at h

theorem outOfRange_iff (hd : 0 < d) {k : ℕ} :
    OutOfRange (n / d) k ↔ mantissaBound ≤ roundHalfEven (n * tenTo k) d :=
  OutOfRange.iff_of_nearest (nearest_at n hd k)

theorem nearestAt?_of_lt (h : roundHalfEven (n * tenTo scale) d < mantissaBound) :
    nearestAt? n d scale hs = some ⟨_, scale, h, hs⟩ := by
  cases scale <;> rw [nearestAt?] <;> exact dif_pos h

theorem nearestAt?_eq_some (hd : 0 < d) (h : nearestAt? n d scale hs = some e) :
    e.scale ≤ scale ∧ Nearest (n / d * 10 ^ e.scale) e.mantissa ∧
      ∀ k, e.scale < k → k ≤ scale → OutOfRange (n / d) k := by
  induction scale with
  | zero =>
    rw [nearestAt?] at h
    split_ifs at h with hfit
    obtain rfl := Option.some.inj h
    refine ⟨le_rfl, nearest_at n hd 0, ?_⟩
    intro k hk hk'
    exact absurd hk' (not_le.2 hk)
  | succ scale ih =>
    rw [nearestAt?] at h
    split_ifs at h with hfit
    · obtain rfl := Option.some.inj h
      refine ⟨le_rfl, nearest_at n hd _, ?_⟩
      intro k hk hk'
      exact absurd hk' (not_le.2 hk)
    · obtain ⟨hle, hnearest, hfiner⟩ := ih h
      refine ⟨hle.trans (Nat.le_succ _), hnearest, ?_⟩
      intro k hk hk'
      obtain hlt | rfl := Nat.lt_or_eq_of_le hk'
      · exact hfiner k hk (Nat.le_of_lt_succ hlt)
      · exact (outOfRange_iff hd).2 (not_lt.1 hfit)

theorem nearestAt?_eq_none_iff (hd : 0 < d) :
    nearestAt? n d scale hs = none ↔ OutOfRange (n / d) 0 := by
  induction scale with
  | zero =>
    rw [nearestAt?, outOfRange_iff hd]
    split_ifs with hfit
    · exact iff_of_false (by rintro ⟨⟩) (not_le.2 hfit)
    · exact iff_of_true rfl (not_lt.1 hfit)
  | succ scale ih =>
    rw [nearestAt?]
    split_ifs with hfit
    · refine iff_of_false (by rintro ⟨⟩) ?_
      intro h
      exact not_le.2 hfit ((outOfRange_iff hd).1 (h.finer (by positivity) (Nat.zero_le _)))
    · exact ih

/-- The quotient by a power of ten is an integer at that scale, so that no finer one is missed. -/
theorem renders_of_nearestAt? (h : nearestAt? n (tenTo scale) scale hs = some e) :
    Renders (n / tenTo scale) e := by
  have hten : 0 < tenTo scale := Nat.pow_pos (by decide)
  have hn : (n : ℚ) / tenTo scale * 10 ^ scale = n := by
    rw [tenTo_eq, Nat.cast_pow]
    exact div_mul_cancel₀ _ (by positivity)
  obtain ⟨hle, hnearest, hfiner⟩ := nearestAt?_eq_some hten h
  refine ⟨hnearest, ?_⟩
  obtain rfl | hcoarse := hle.eq_or_lt
  · left
    rw [hn] at hnearest
    rw [← hnearest.unique (nearest_natCast n), tenTo_eq, Nat.cast_pow]
    rfl
  · right
    intro k hk _
    obtain hle | hlt := le_or_gt k scale
    · exact hfiner k hk hle
    · exact (hfiner scale hcoarse le_rfl).finer (by positivity) hlt.le

end Search

section Sum

theorem strip_value (mantissa scale : ℕ) :
    ((strip mantissa scale).1 : ℚ) / 10 ^ (strip mantissa scale).2 = mantissa / 10 ^ scale := by
  induction scale generalizing mantissa with
  | zero => rfl
  | succ scale ih =>
    unfold strip
    split_ifs with h
    · have hten : (mantissa : ℚ) = (mantissa / 10 : ℕ) * 10 := by
        exact_mod_cast (Nat.div_mul_cancel (Nat.dvd_of_mod_eq_zero h)).symm
      rw [ih, hten, pow_succ, mul_div_mul_right _ _ (by norm_num)]
    · rfl

variable {n : ℕ} {d e : Decimal}

theorem stripped_sum (n : ℕ) (d : Decimal) :
    let short := strip d.mantissa d.scale
    ((n * tenTo short.2 + short.1 : ℕ) : ℚ) / tenTo short.2 = n + d.value := by
  intro short
  have hpos : (0 : ℚ) < 10 ^ short.2 := by positivity
  rw [tenTo_eq, value, ← strip_value]
  push_cast
  rw [add_div, mul_div_cancel_right₀ _ hpos.ne']

theorem renders_of_addNat? (h : addNat? n d = some e) : Renders (n + d.value) e := by
  rw [← stripped_sum n d]
  exact renders_of_nearestAt? h

theorem addNat?_eq_none_iff : addNat? n d = none ↔ OutOfRange (n + d.value) 0 := by
  rw [← stripped_sum n d]
  exact nearestAt?_eq_none_iff (Nat.pow_pos (by decide))

end Sum

end Decimal

end ConstantProduct
