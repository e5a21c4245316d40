import Mathlib
import ConstantProduct.Pool
import ConstantProduct.Proofs.Quotient

namespace ConstantProduct

theorem PerToken.forall_pos_iff (p : PerToken Amount) :
    (∀ t, 0 < (p.get t).toNat) ↔ ¬(p.zero = 0 ∨ p.one = 0) := by
  rw [not_or, Amount.ne_zero_iff, Amount.ne_zero_iff]
  constructor
  · intro h
    exact ⟨h .zero, h .one⟩
  · rintro ⟨h0, h1⟩ t
    cases t <;> assumption

/-- The price of a token in the other at the given reserves, with 32 fractional bits. -/
def spotPrice (reserves : PerToken Amount) (t : Token) : ℕ :=
  (reserves.get t.other).toNat * 2 ^ 32 / (reserves.get t).toNat

theorem spotPrice_lt (reserves : PerToken Amount) (t : Token) : spotPrice reserves t < 2 ^ 96 := by
  have h := (reserves.get t.other).toNat_lt
  have hle := Nat.div_le_self ((reserves.get t.other).toNat * 2 ^ 32) (reserves.get t).toNat
  unfold spotPrice
  omega

theorem Amount.toNat_shifted (n : Amount) : (n.wide <<< 32).toNat = n.toNat * 2 ^ 32 := by
  have hn := n.toNat_lt
  rw [BitVec.toNat_shiftLeft, Amount.toNat_wide, Nat.shiftLeft_eq]
  exact Nat.mod_eq_of_lt (by omega)

theorem priceX32_eq (n d : Amount) :
    priceX32 n d =
      if d = 0 then .error (.divisionByZero .price)
      else .ok (BitVec.ofNat 128 (n.toNat * 2 ^ 32 / d.toNat)) := by
  have hn := n.toNat_lt
  have hle := Nat.div_le_self (n.toNat * 2 ^ 32) d.toNat
  have hquotient : n.wide <<< 32 / d.wide = BitVec.ofNat 128 (n.toNat * 2 ^ 32 / d.toNat) := by
    apply BitVec.eq_of_toNat_eq
    rw [BitVec.toNat_udiv, n.toNat_shifted, Amount.toNat_wide, Wide.toNat_ofNat_lt (by omega)]
  rw [priceX32, hquotient]

namespace Pool

def prices (reserves : PerToken Amount) : PerToken Wide :=
  ⟨BitVec.ofNat 128 (spotPrice reserves .zero), BitVec.ofNat 128 (spotPrice reserves .one)⟩

theorem toNat_prices (reserves : PerToken Amount) (t : Token) :
    ((prices reserves).get t).toNat = spotPrice reserves t := by
  have h := spotPrice_lt reserves t
  cases t <;> exact Wide.toNat_ofNat_lt (by omega)

theorem spotPrices_eq (p : Pool) :
    p.spotPrices =
      if p.reserves.zero = 0 ∨ p.reserves.one = 0 then .error (.divisionByZero .price)
      else .ok (prices p.reserves) := by
  rw [spotPrices, priceX32_eq, priceX32_eq]
  by_cases h0 : p.reserves.zero = 0
  · rw [if_pos h0, if_pos (Or.inl h0), error_bind]
  by_cases h1 : p.reserves.one = 0
  · rw [if_neg h0, if_pos h1, if_pos (Or.inr h1), ok_bind, error_bind]
  rw [if_neg h0, if_neg h1, if_neg (not_or.2 ⟨h0, h1⟩)]
  simp only [ok_bind, pure_eq_ok]
  rfl

/-- A pool quotes prices just when neither reserve is empty. -/
theorem spotPrices_eq_ok_iff {p : Pool} {quoted : PerToken Wide} :
    p.spotPrices = .ok quoted ↔
      (∀ t, 0 < (p.reserves.get t).toNat) ∧ quoted = prices p.reserves := by
  rw [spotPrices_eq, p.reserves.forall_pos_iff]
  split_ifs with h
  · simp [h]
  · simp [h, eq_comm]

end Pool

end ConstantProduct
