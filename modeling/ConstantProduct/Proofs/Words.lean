import Mathlib
import ConstantProduct.Word

namespace ConstantProduct

section Sequence

variable {ε α β : Type}

@[simp] theorem ok_bind (a : α) (f : α → Except ε β) : (Except.ok a >>= f) = f a := by rfl

@[simp] theorem error_bind (e : ε) (f : α → Except ε β) :
    ((Except.error e : Except ε α) >>= f) = .error e := by rfl

@[simp] theorem pure_eq_ok (a : α) : (pure a : Except ε α) = .ok a := by rfl

@[simp] theorem throw_eq_error (e : ε) : (throw e : Except ε α) = .error e := by rfl

theorem bind_eq_ok {x : Except ε α} {f : α → Except ε β} {b : β} :
    x >>= f = .ok b ↔ ∃ a, x = .ok a ∧ f a = .ok b := by
  cases x with
  | error e => simp
  | ok a => simp

theorem bind_eq_error {x : Except ε α} {f : α → Except ε β} {e : ε} :
    x >>= f = .error e ↔ x = .error e ∨ ∃ a, x = .ok a ∧ f a = .error e := by
  cases x with
  | error e' => simp
  | ok a => simp

end Sequence

namespace Amount

theorem toNat_ofNat_lt {n : ℕ} (hn : n < 2 ^ 64) : (UInt64.ofNat n).toNat = n :=
  UInt64.toNat_ofNat_of_lt' hn

theorem eq_zero_iff (a : Amount) : a = 0 ↔ a.toNat = 0 := by
  rw [← UInt64.toNat_inj]
  rfl

theorem ne_zero_iff (a : Amount) : ¬a = 0 ↔ 0 < a.toNat := by
  rw [eq_zero_iff, Nat.pos_iff_ne_zero]

theorem add?_eq_some_iff {a b s : Amount} : a.add? b = some s ↔ s.toNat = a.toNat + b.toNat := by
  refine ⟨toNat_of_add?, fun h => ?_⟩
  have hs : a.toNat + b.toNat < UInt64.size := h ▸ s.toNat_lt
  rw [add?, if_pos hs, Option.some_inj, ← UInt64.toNat_inj, UInt64.toNat_add, h]
  exact Nat.mod_eq_of_lt hs

theorem add?_eq_none_iff {a b : Amount} : a.add? b = none ↔ 2 ^ 64 ≤ a.toNat + b.toNat := by
  simp only [add?, UInt64.size, ite_eq_right_iff, reduceCtorEq, imp_false]
  omega

theorem add?_of_lt {a b : Amount} (h : a.toNat + b.toNat < 2 ^ 64) : a.add? b = some (a + b) :=
  if_pos h

theorem sub?_of_le {a b : Amount} (h : b.toNat ≤ a.toNat) : a.sub? b = some (a - b) :=
  if_pos (UInt64.le_iff_toNat_le.2 h)

theorem sub?_eq_some_iff {a b d : Amount} : a.sub? b = some d ↔ a.toNat = b.toNat + d.toNat := by
  constructor
  · intro h
    have := toNat_of_sub? h
    omega
  · intro h
    have hle : b ≤ a := UInt64.le_iff_toNat_le.2 (by omega)
    rw [sub?, if_pos hle, Option.some_inj, ← UInt64.toNat_inj, UInt64.toNat_sub_of_le _ _ hle]
    omega

theorem sub?_eq_none_iff {a b : Amount} : a.sub? b = none ↔ a.toNat < b.toNat := by
  simp only [sub?, UInt64.le_iff_toNat_le, ite_eq_right_iff, reduceCtorEq, imp_false]
  omega

theorem add_eq_ok {a b : Amount} (h : a.toNat + b.toNat < 2 ^ 64) :
    a.add b = .ok (UInt64.ofNat (a.toNat + b.toNat)) := by
  have hs : a.add? b = some (UInt64.ofNat (a.toNat + b.toNat)) :=
    add?_eq_some_iff.2 (toNat_ofNat_lt h)
  rw [add, hs]

theorem exists_sub_eq_ok {a b : Amount} (h : b.toNat ≤ a.toNat) :
    ∃ d : Amount, d.toNat = a.toNat - b.toNat ∧ a.sub b = .ok d := by
  have ha := a.toNat_lt
  have hd : (UInt64.ofNat (a.toNat - b.toNat)).toNat = a.toNat - b.toNat :=
    toNat_ofNat_lt (by omega)
  have hsub : a.sub? b = some (UInt64.ofNat (a.toNat - b.toNat)) := by
    rw [sub?_eq_some_iff, hd]
    omega
  exact ⟨_, hd, by rw [sub, hsub]⟩

theorem wide_ne_zero {a : Amount} (h : 0 < a.toNat) : a.wide ≠ 0 := by
  intro h0
  have := congrArg BitVec.toNat h0
  rw [toNat_wide] at this
  exact h.ne' this

end Amount

namespace Wide

theorem toNat_ofNat_lt {n : ℕ} (hn : n < 2 ^ 128) : (BitVec.ofNat 128 n).toNat = n := by
  rw [BitVec.toNat_ofNat]
  exact Nat.mod_eq_of_lt hn

theorem eq_zero_iff (a : Wide) : a = 0 ↔ a.toNat = 0 := by
  rw [← BitVec.toNat_inj]
  rfl

theorem ne_zero_iff (a : Wide) : a ≠ 0 ↔ 0 < a.toNat := by
  rw [ne_eq, eq_zero_iff, Nat.pos_iff_ne_zero]

theorem add_wide (a b : Amount) :
    Wide.add a.wide b.wide = .ok (BitVec.ofNat 128 (a.toNat + b.toNat)) := by
  have ha := a.toNat_lt
  have hb := b.toNat_lt
  have hs : a.wide.toNat + b.wide.toNat < size := by
    simp only [Amount.toNat_wide, size]
    omega
  rw [add, if_pos hs]
  rfl

theorem amount_ofNat {n : ℕ} (hn : n < 2 ^ 128) (c : Calculation) :
    Wide.amount (BitVec.ofNat 128 n) c =
      if n < 2 ^ 64 then .ok (UInt64.ofNat n) else .error (.overflow c) := by
  rw [amount, amount?, toNat_ofNat_lt hn]
  by_cases h : n < 2 ^ 64
  · rw [if_pos h, if_pos (show n < UInt64.size from h)]
  · rw [if_neg h, if_neg (show ¬n < UInt64.size from h)]

theorem asAmount_ofNat {n : ℕ} (hn : n < 2 ^ 64) :
    Wide.asAmount (BitVec.ofNat 128 n) = .ok (UInt64.ofNat n) := by
  have hw : (BitVec.ofNat 128 n).toNat = n := toNat_ofNat_lt (by omega)
  rw [asAmount, amount?, hw, if_pos (show n < UInt64.size from hn)]

end Wide

theorem Amount.wide_ofNat {n : ℕ} (hn : n < 2 ^ 64) :
    wide (UInt64.ofNat n) = BitVec.ofNat 128 n := by
  apply BitVec.eq_of_toNat_eq
  rw [toNat_wide, toNat_ofNat_lt hn, Wide.toNat_ofNat_lt (by omega)]

end ConstantProduct
