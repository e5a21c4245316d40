import Mathlib
import ConstantProduct.Proofs.NearestDecimal

namespace ConstantProduct.Decimal

section Word

/-- The number that a word stands for in units of the 28th place, its fraction rounded to them. -/
def units (value : ℕ) : ℕ :=
  value / UInt32.size * 10 ^ 28 + roundHalfEven (value % UInt32.size * tenTo 28) UInt32.size

theorem cast_size : (UInt32.size : ℚ) = 2 ^ 32 := by norm_num [UInt32.size]

/-- An integer has an even number of units, so that to round the fraction is to round the whole. -/
theorem nearest_units (value : ℕ) : Nearest (value / 2 ^ 32 * 10 ^ 28) (units value) := by
  have hvalue : (value : ℚ) = (value / UInt32.size : ℕ) * 2 ^ 32 + (value % UInt32.size : ℕ) := by
    exact_mod_cast (Nat.div_add_mod' value (2 ^ 32)).symm
  have hsum : (value : ℚ) / 2 ^ 32 * 10 ^ 28 = (value / UInt32.size * 10 ^ 28 : ℕ) +
      (value % UInt32.size * tenTo 28 : ℕ) / UInt32.size := by
    rw [hvalue, cast_size, tenTo_eq]
    push_cast
    ring
  have hwhole : Even (value / UInt32.size * 10 ^ 28) := Even.mul_left (by decide) _
  rw [hsum]
  exact (nearest_roundHalfEven _ (by decide)).even_add hwhole

/-- All 28 places of a fraction have a mantissa. -/
theorem nearest?_fraction {n : ℕ} (hn : n < UInt32.size) :
    ∃ e, nearest? n UInt32.size = some e ∧
      e.value = roundHalfEven (n * tenTo 28) UInt32.size / 10 ^ 28 := by
  have hle : (n : ℚ) / UInt32.size * 10 ^ 28 ≤ (10 ^ 28 : ℕ) := by
    have hone : (n : ℚ) / UInt32.size ≤ 1 := by
      rw [cast_size, div_le_one (by positivity)]
      exact_mod_cast hn.le
    push_cast
    exact mul_le_of_le_one_left (by positivity) hone
  have hfit : roundHalfEven (n * tenTo 28) UInt32.size < mantissaBound :=
    ((nearest_at n (by decide) 28).mono (nearest_natCast _) hle).trans_lt (by decide)
  refine ⟨⟨_, 28, hfit, le_rfl⟩, ?_, rfl⟩
  rw [nearest?, if_neg (by decide)]
  exact nearestAt?_of_lt hfit

theorem ofX32?_eq (value : Wide) :
    ∃ (n : ℕ) (fraction : Decimal), ofX32? value = addNat? n fraction ∧
      n + fraction.value = units value.toNat / 10 ^ 28 := by
  obtain ⟨fraction, hfraction, hvalue⟩ :=
    nearest?_fraction (Nat.mod_lt value.toNat (show 0 < UInt32.size by decide))
  refine ⟨_, fraction, by rw [ofX32?, hfraction]; rfl, ?_⟩
  rw [hvalue, units, Nat.cast_add, Nat.cast_mul, Nat.cast_pow, Nat.cast_ofNat, add_div,
    mul_div_cancel_right₀ _ (by positivity)]

variable {v w : Wide} {d e : Decimal}

theorem renders_of_ofX32? (h : ofX32? v = some d) : Renders (units v.toNat / 10 ^ 28) d := by
  obtain ⟨n, fraction, heq, hsum⟩ := ofX32?_eq v
  rw [heq] at h
  rw [← hsum]
  exact renders_of_addNat? h

/-- The least number of units that is out of range: all that a mantissa cannot hold without places,
and the half below it that is rounded up. -/
def unitsBound : ℕ := (2 * mantissaBound - 1) * (5 * 10 ^ 27)

theorem outOfRange_iff_unitsBound_le {n : ℕ} : OutOfRange (n / 10 ^ 28) 0 ↔ unitsBound ≤ n := by
  have hbound : ((mantissaBound : ℚ) - 1 / 2) * 10 ^ 28 = unitsBound := by
    norm_num [unitsBound, mantissaBound]
  rw [OutOfRange, pow_zero, mul_one, le_div_iff₀ (by positivity), hbound, Nat.cast_le]

/-- Only the words of the last half unit have `unitsBound` units or more. -/
theorem unitsBound_le_iff (value : ℕ) : unitsBound ≤ units value ↔ 2 ^ 128 - 2 ^ 31 ≤ value := by
  have hbound : ((unitsBound : ℚ) - 1 / 2) * 2 ^ 32 = (unitsBound * 2 ^ 32 - 2 ^ 31 : ℕ) := by
    norm_num [unitsBound, mantissaBound]
  have hvalue : (value : ℚ) * 10 ^ 28 = (value * 10 ^ 28 : ℕ) := by push_cast; rfl
  rw [(nearest_units value).le_iff (by decide), div_mul_eq_mul_div, le_div_iff₀ (by positivity),
    hbound, hvalue, Nat.cast_le]
  simp only [unitsBound, mantissaBound]
  omega

theorem ofX32?_eq_none_iff : ofX32? v = none ↔ 2 ^ 128 - 2 ^ 31 ≤ v.toNat := by
  obtain ⟨n, fraction, heq, hsum⟩ := ofX32?_eq v
  rw [heq, addNat?_eq_none_iff, hsum, outOfRange_iff_unitsBound_le, unitsBound_le_iff]

theorem units_le (value : ℕ) : units value ≤ (value / 2 ^ 32 + 1) * 10 ^ 28 := by
  have hlt : (value : ℚ) / 2 ^ 32 ≤ (value / 2 ^ 32 + 1 : ℕ) := by
    rw [div_le_iff₀ (by positivity)]
    exact_mod_cast (Nat.lt_mul_of_div_lt (Nat.lt_succ_self (value / 2 ^ 32)) (by decide)).le
  apply (nearest_units value).mono (nearest_natCast _)
  rw [Nat.cast_mul, Nat.cast_pow, Nat.cast_ofNat]
  exact mul_le_mul_of_nonneg_right hlt (by positivity)

theorem units_mono (h : v ≤ w) : units v.toNat ≤ units w.toNat := by
  have hcast : (v.toNat : ℚ) ≤ w.toNat := Nat.cast_le.2 (BitVec.le_def.1 h)
  apply (nearest_units v.toNat).mono (nearest_units w.toNat)
  gcongr

theorem abs_units_sub_le (value : ℕ) :
    |(units value : ℚ) / 10 ^ 28 - value / 2 ^ 32| ≤ 1 / 2 / 10 ^ 28 :=
  (nearest_units value).abs_div_sub_le (by positivity)

theorem ofX32?_error {t : ℕ} (h : ofX32? v = some d) (ht : t ≤ 28)
    (hfit : (v.toNat / 2 ^ 32 + 1) * 10 ^ t < 2 ^ 96) :
    |d.value - v.toNat / 2 ^ 32| ≤ 1 / 10 ^ t := by
  have hunits : (units v.toNat : ℚ) / 10 ^ 28 ≤ (v.toNat / 2 ^ 32 + 1 : ℕ) := by
    rw [div_le_iff₀ (by positivity)]
    exact_mod_cast units_le v.toNat
  have hin : ¬OutOfRange (units v.toNat / 10 ^ 28) t := by
    intro hout
    exact not_le.2 hfit (OutOfRange.natCast_iff.1 (hout.mono hunits))
  calc
    |d.value - v.toNat / 2 ^ 32|
      ≤ |d.value - units v.toNat / 10 ^ 28| +
        |(units v.toNat : ℚ) / 10 ^ 28 - v.toNat / 2 ^ 32| := abs_sub_le _ _ _
    _ ≤ 1 / 2 / 10 ^ t + 1 / 2 / 10 ^ 28 :=
      add_le_add ((renders_of_ofX32? h).abs_sub_le ht hin) (abs_units_sub_le _)
    _ ≤ 1 / 2 / 10 ^ t + 1 / 2 / 10 ^ t := by
      gcongr
      norm_num
    _ = 1 / 10 ^ t := by ring

/-- A word below seven has all its units in its decimal. -/
theorem ofX32?_exact (h : ofX32? v = some d) (hsmall : v.toNat / 2 ^ 32 ≤ 6) :
    d.value = units v.toNat / 10 ^ 28 := by
  have hle := units_le v.toNat
  have hfit : units v.toNat < mantissaBound := by
    simp only [mantissaBound]
    omega
  let e : Decimal := ⟨units v.toNat, 28, hfit, le_rfl⟩
  have he : e.value = units v.toNat / 10 ^ 28 := by rw [value]
  have hd := renders_of_ofX32? h
  rw [← he] at hd ⊢
  exact hd.value_eq

end Word

/-- The decimal of a word is faithful. A word has one unless it is within the last half unit of all
words; the decimal is then off by at most one in any place that the next integer could be told in,
and for a word below seven by at most half of one in the last place; and a word that is no less has
a decimal that is no less. -/
theorem rendering_is_faithful (v : Wide) :
    (ofX32? v = none ↔ 2 ^ 128 - 2 ^ 31 ≤ v.toNat) ∧
    (v.toNat < 2 ^ 128 - 2 ^ 31 → ∃ d, ofX32? v = some d ∧
      (∀ t ≤ 28, (v.toNat / 2 ^ 32 + 1) * 10 ^ t < 2 ^ 96 →
        |d.value - v.toNat / 2 ^ 32| ≤ 1 / 10 ^ t) ∧
      (v.toNat / 2 ^ 32 ≤ 6 → |d.value - v.toNat / 2 ^ 32| ≤ 1 / 2 / 10 ^ 28) ∧
      ∀ (w : Wide) (e : Decimal), v ≤ w → ofX32? w = some e → d.value ≤ e.value) := by
  refine ⟨ofX32?_eq_none_iff, ?_⟩
  intro hlt
  obtain ⟨d, hd⟩ := Option.ne_none_iff_exists'.1 (ofX32?_eq_none_iff.not.2 (not_le.2 hlt))
  refine ⟨d, hd, fun t => ofX32?_error hd, ?_, ?_⟩
  · intro hsmall
    rw [ofX32?_exact hd hsmall]
    exact abs_units_sub_le _
  · intro w e hvw he
    have hunits : (units v.toNat : ℚ) / 10 ^ 28 ≤ units w.toNat / 10 ^ 28 := by
      gcongr
      exact units_mono hvw
    exact (renders_of_ofX32? hd).value_mono (renders_of_ofX32? he) hunits

/-- A word just below seven and the last word that is rendered. -/
theorem ofX32_of_last_word :
    let v : Wide := 0x6FFFFFFFF
    let last : Wide := 0xFFFFFFFFFFFFFFFFFFFFFFFF7FFFFFFF
    ∃ d e, ofX32? v = some d ∧ ofX32? last = some e ∧ ofX32? (last + 1) = none ∧
      |d.value - v.toNat / 2 ^ 32| ≤ 1 / 10 ^ 28 ∧
        |d.value - v.toNat / 2 ^ 32| ≤ 1 / 2 / 10 ^ 28 ∧ d.value ≤ e.value := by
  intro v last
  obtain ⟨-, hv⟩ := rendering_is_faithful v
  obtain ⟨-, hlast⟩ := rendering_is_faithful last
  obtain ⟨hnext, -⟩ := rendering_is_faithful (last + 1)
  obtain ⟨d, hd, herror, hsmall, hmono⟩ := hv (by decide)
  obtain ⟨e, he, -⟩ := hlast (by decide)
  exact ⟨d, e, hd, he, hnext.2 (by decide), herror 28 le_rfl (by decide), hsmall (by decide),
    hmono last e (by decide) he⟩

end ConstantProduct.Decimal
