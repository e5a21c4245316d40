import Mathlib
import ConstantProduct.Proofs.Quotient

namespace ConstantProduct

/-- `q` is what `n / d` is rounded to: down, the greatest number whose product with `d` is not above
`n`; up, the least whose product is not below. -/
def Rounding.Rounds : Rounding → ℕ → ℕ → ℕ → Prop
  | down, n, d, q => IsGreatest {k | k * d ≤ n} q
  | up, n, d, q => IsLeast {k | n ≤ k * d} q

namespace Rounding

variable {rounding : Rounding} {n d q : ℕ}

theorem rounds_quotient (rounding : Rounding) (n : ℕ) (hd : 0 < d) :
    rounding.Rounds n d (rounding.quotient n d) := by
  cases rounding with
  | down =>
    refine ⟨Nat.div_mul_le_self n d, ?_⟩
    intro k hk
    exact (Nat.le_div_iff_mul_le hd).2 hk
  | up =>
    have hle (k : ℕ) : n ⌈/⌉ d ≤ k ↔ n ≤ k * d := by rw [ceilDiv_le_iff_le_mul hd, Nat.mul_comm]
    refine ⟨(hle _).1 le_rfl, ?_⟩
    intro k hk
    exact (hle k).2 hk

theorem rounds_iff (hd : 0 < d) : rounding.Rounds n d q ↔ q = rounding.quotient n d := by
  have hquotient := rounding.rounds_quotient n hd
  constructor
  · intro h
    cases rounding with
    | down => exact h.unique hquotient
    | up => exact h.unique hquotient
  · rintro rfl
    exact hquotient

end Rounding

variable {a b d w : Wide}

section Product

variable {rounding : Rounding}

/-- A word is the answer just when the quotient is rounded to it. -/
theorem mulDiv_eq_ok_iff (hd : d ≠ 0) :
    mulDiv a b d rounding = .ok w ↔ rounding.Rounds (a.toNat * b.toNat) d.toNat w.toNat := by
  have hw := w.isLt
  rw [mulDiv_eq a b d rounding hd, Rounding.rounds_iff ((Wide.ne_zero_iff d).1 hd)]
  split_ifs with hfit
  · rw [Except.ok.injEq, ← BitVec.toNat_inj, Wide.toNat_ofNat_lt hfit, eq_comm]
  · constructor
    · rintro ⟨⟩
    · intro h
      exact absurd (h ▸ hw) hfit

theorem mulDiv_eq_error_iff (hd : d ≠ 0) {e : Error} :
    mulDiv a b d rounding = .error e ↔
      e = .overflow .mulDiv ∧ 2 ^ 128 ≤ rounding.quotient (a.toNat * b.toNat) d.toNat := by
  rw [mulDiv_eq a b d rounding hd]
  split_ifs with hfit
  · constructor
    · rintro ⟨⟩
    · rintro ⟨-, hle⟩
      exact absurd hfit (not_lt.2 hle)
  · rw [Except.error.injEq, and_iff_left (not_lt.1 hfit), eq_comm]

theorem mulDiv_zero_iff :
    mulDiv a b d rounding = .error (.divisionByZero .mulDiv) ↔ d = 0 := by
  constructor
  · intro h
    by_contra hd
    obtain ⟨⟨⟩, -⟩ := (mulDiv_eq_error_iff hd).1 h
  · rintro rfl
    exact mulDiv_zero a b rounding

theorem mulDiv_ne_rounding_overflow :
    mulDiv a b d rounding ≠ .error (.overflow .mulDivRounding) := by
  intro h
  by_cases hd : d = 0
  · rw [mulDiv_zero_iff.2 hd] at h
    cases h
  · obtain ⟨⟨⟩, -⟩ := (mulDiv_eq_error_iff hd).1 h

end Product

section Ceiling

theorem Wide.umod_eq_zero_iff (a b : Wide) : a % b = 0 ↔ a.toNat % b.toNat = 0 := by
  rw [Wide.eq_zero_iff, BitVec.toNat_umod]

/-- One more than a quotient that leaves a remainder is still a word. -/
theorem Wide.toNat_udiv_add_one (hb : b ≠ 0) (h : a % b ≠ 0) :
    (a / b).toNat + 1 < 2 ^ 128 ∧ (a / b + 1).toNat = a.toNat ⌈/⌉ b.toNat := by
  have hpos := (Wide.ne_zero_iff b).1 hb
  have hmod := (Wide.umod_eq_zero_iff a b).not.1 h
  have hroom := div_add_one_lt a.isLt hpos hmod
  rw [BitVec.toNat_add, BitVec.toNat_udiv, ceilDiv_of_mod_ne_zero hpos hmod]
  exact ⟨hroom, Nat.mod_eq_of_lt hroom⟩

theorem exists_ceilDiv (a : Wide) (hb : b ≠ 0) :
    ∃ w : Wide, ceilDiv a b = .ok w ∧ w.toNat = a.toNat ⌈/⌉ b.toNat := by
  rw [ceilDiv, if_neg hb]
  split_ifs with h
  · refine ⟨a / b, rfl, ?_⟩
    rw [BitVec.toNat_udiv, ceilDiv_of_mod_eq_zero ((Wide.ne_zero_iff b).1 hb)
      ((Wide.umod_eq_zero_iff a b).1 h)]
  · obtain ⟨hroom, hnext⟩ := Wide.toNat_udiv_add_one hb h
    exact ⟨a / b + 1, if_pos hroom, hnext⟩

theorem ceilDiv_eq_error_iff {e : Error} :
    ceilDiv a b = .error e ↔ b = 0 ∧ e = .divisionByZero .ceilDiv := by
  by_cases hb : b = 0
  · subst hb
    rw [ceilDiv, if_pos rfl, Except.error.injEq, and_iff_right rfl, eq_comm]
  · obtain ⟨w, hw, -⟩ := exists_ceilDiv a hb
    rw [hw]
    constructor
    · rintro ⟨⟩
    · rintro ⟨h, -⟩
      exact absurd h hb

theorem ceilDiv_eq_ok_iff : ceilDiv a b = .ok w ↔ mulDiv a 1 b .up = .ok w := by
  by_cases hb : b = 0
  · subst hb
    rw [mulDiv_zero, ceilDiv, if_pos rfl]
    constructor <;> rintro ⟨⟩
  · obtain ⟨q, hq, hceil⟩ := exists_ceilDiv a hb
    have hone : a.toNat * (1 : Wide).toNat = a.toNat := Nat.mul_one _
    rw [mulDiv_eq_ok_iff hb, hone, Rounding.rounds_iff ((Wide.ne_zero_iff b).1 hb), hq,
      Except.ok.injEq, ← BitVec.toNat_inj, hceil, eq_comm]
    rfl

end Ceiling

/-- A product is divided exactly. For a divisor other than zero there is a number that the quotient
is rounded to, and the answer is the word for it, or an overflow where there is no such word; a zero
divisor is refused, and nothing else is refused as one. On the way the product is formed without
loss, and a quotient that leaves a remainder has a word after it, so that rounding up is never
refused. The quotient of a single word, rounded up, is that of its product with one; only a zero
divisor is refused, and no word overflows on the way. -/
theorem quotients_are_exact (a b d : Wide) :
    (∀ rounding : Rounding,
      (mulDiv a b d rounding = .error (.divisionByZero .mulDiv) ↔ d = 0) ∧
      (d ≠ 0 → ∃ q, rounding.Rounds (a.toNat * b.toNat) d.toNat q ∧
        ((∃ w, mulDiv a b d rounding = .ok w) ↔ q < 2 ^ 128) ∧
        (∀ w, mulDiv a b d rounding = .ok w ↔ w.toNat = q) ∧
        ∀ e, mulDiv a b d rounding = .error e ↔ e = .overflow .mulDiv ∧ 2 ^ 128 ≤ q) ∧
      mulDiv a b d rounding ≠ .error (.overflow .mulDivRounding)) ∧
    (let product := a.setWidth 256 * b.setWidth 256
      let divisor := d.setWidth 256
      product.toNat = a.toNat * b.toNat ∧
        (d ≠ 0 → product % divisor ≠ 0 →
          (product / divisor + 1).toNat = (product / divisor).toNat + 1)) ∧
    (∀ w, ceilDiv a d = .ok w ↔ mulDiv a 1 d .up = .ok w) ∧
    ((∃ w, ceilDiv a d = .ok w) ↔ d ≠ 0) ∧
    (∀ e, ceilDiv a d = .error e ↔ d = 0 ∧ e = .divisionByZero .ceilDiv) ∧
    (d ≠ 0 → a % d ≠ 0 → (a / d).toNat + 1 < 2 ^ 128) := by
  refine ⟨?_, ⟨a.toNat_product b, ?_⟩, fun w => ceilDiv_eq_ok_iff, ?_, fun e =>
    ceilDiv_eq_error_iff, fun hd h => (Wide.toNat_udiv_add_one hd h).1⟩
  · intro rounding
    refine ⟨mulDiv_zero_iff, ?_, mulDiv_ne_rounding_overflow⟩
    intro hd
    have hrounds := rounding.rounds_quotient (a.toNat * b.toNat) ((Wide.ne_zero_iff d).1 hd)
    have hanswer (w : Wide) : mulDiv a b d rounding = .ok w ↔
        w.toNat = rounding.quotient (a.toNat * b.toNat) d.toNat := by
      rw [mulDiv_eq_ok_iff hd, Rounding.rounds_iff ((Wide.ne_zero_iff d).1 hd)]
    refine ⟨_, hrounds, ?_, hanswer, fun e => mulDiv_eq_error_iff hd⟩
    constructor
    · rintro ⟨w, hw⟩
      exact (hanswer w).1 hw ▸ w.isLt
    · intro hfit
      exact ⟨_, (hanswer _).2 (Wide.toNat_ofNat_lt hfit)⟩
  · intro hd h
    rw [Wide.toNat_floor_add_one hd h, Wide.toNat_floor]
  · constructor
    · rintro ⟨w, hw⟩ hd
      have hrefused := ceilDiv_eq_error_iff (a := a).2 ⟨hd, rfl⟩
      rw [hw] at hrefused
      cases hrefused
    · intro hd
      obtain ⟨w, hw, -⟩ := exists_ceilDiv a hd
      exact ⟨w, hw⟩

/-- The square of the last word but one, over the word before it, leaves a remainder of one: down it
is the last word, and up there is no word for it. -/
theorem last_word_not_rounded_up :
    mulDiv (-2) (-2) (-3) .down = .ok (-1) ∧
      mulDiv (-2) (-2) (-3) .up = .error (.overflow .mulDiv) := by
  obtain ⟨hquotient, -⟩ := quotients_are_exact (-2) (-2) (-3)
  obtain ⟨-, hdown, -⟩ := hquotient .down
  obtain ⟨-, hup, -⟩ := hquotient .up
  obtain ⟨q, hq, -, hanswer, -⟩ := hdown (by decide)
  obtain ⟨p, hp, -, -, hrefused⟩ := hup (by decide)
  obtain rfl := (Rounding.rounds_iff (by decide)).1 hq
  obtain rfl := (Rounding.rounds_iff (by decide)).1 hp
  exact ⟨(hanswer _).2 (by decide), (hrefused _).2 (by decide)⟩

end ConstantProduct
