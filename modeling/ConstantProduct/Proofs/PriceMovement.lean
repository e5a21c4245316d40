import Mathlib
import ConstantProduct.Proofs.Staging

namespace ConstantProduct

section Reserves

variable {reserves before after : PerToken Amount} {t : Token}

/-- Neither price is rounded up, so that their product does not exceed one. -/
theorem spotPrice_mul_le (reserves : PerToken Amount) (t : Token) :
    spotPrice reserves t * spotPrice reserves t.other ≤ 2 ^ 64 := by
  set a := (reserves.get t).toNat
  set b := (reserves.get t.other).toNat
  have hother : spotPrice reserves t.other = a * 2 ^ 32 / b := by rw [spotPrice, Token.other_other]
  calc
    _ = b * 2 ^ 32 / a * (a * 2 ^ 32 / b) := by rw [hother, spotPrice]
    _ ≤ b * 2 ^ 32 * (a * 2 ^ 32) / (a * b) := Nat.div_mul_div_le _ _ _ _
    _ = 2 ^ 64 * (a * b) / (a * b) := by ring_nf
    _ ≤ 2 ^ 64 := Nat.div_le_of_le_mul (Nat.mul_comm _ _).le

/-- Neither price is rounded by a whole unit, so that one more of each exceeds one. -/
theorem lt_spotPrice_add_one_mul (hpos : ∀ t, 0 < (reserves.get t).toNat) (t : Token) :
    2 ^ 64 < (spotPrice reserves t + 1) * (spotPrice reserves t.other + 1) := by
  set a := (reserves.get t).toNat
  set b := (reserves.get t.other).toNat
  have hprice : b * 2 ^ 32 < a * (spotPrice reserves t + 1) := Nat.lt_mul_div_succ _ (hpos t)
  have hother : a * 2 ^ 32 < b * (spotPrice reserves t.other + 1) := by
    rw [spotPrice, Token.other_other]
    exact Nat.lt_mul_div_succ _ (hpos t.other)
  have hproduct := Nat.mul_lt_mul'' hprice hother
  apply Nat.lt_of_mul_lt_mul_left (a := a * b)
  calc
    a * b * 2 ^ 64 = b * 2 ^ 32 * (a * 2 ^ 32) := by ring
    _ < a * (spotPrice reserves t + 1) * (b * (spotPrice reserves t.other + 1)) := hproduct
    _ = a * b * ((spotPrice reserves t + 1) * (spotPrice reserves t.other + 1)) := by ring

theorem spotPrice_le (hpos : 0 < (before.get t).toNat)
    (hmore : (before.get t).toNat ≤ (after.get t).toNat)
    (hless : (after.get t.other).toNat ≤ (before.get t.other).toNat) :
    spotPrice after t ≤ spotPrice before t :=
  Nat.div_le_div (Nat.mul_le_mul_right _ hless) hmore hpos.ne'

end Reserves

namespace Ledger

variable {l : Ledger} {r : Request} {tier : FeeTier} {timestamp : Int64} {receipt : Receipt}

/-- A swap adds to the reserve of the token sold and takes from that of the token bought. -/
theorem reserves_of_swap (h : (l.swap r tier timestamp).answer = .ok receipt) :
    let before := l.pool.reserves
    let after := (l.swap r tier timestamp).next.pool.reserves
    (∀ t, 0 < (after.get t).toNat) ∧
      (before.get r.direction.sold).toNat ≤ (after.get r.direction.sold).toNat ∧
        (after.get r.direction.bought).toNat ≤ (before.get r.direction.bought).toNat := by
  obtain ⟨s, hs, -⟩ := swap_answer_eq_ok_iff.1 h
  obtain ⟨-, hquote, -, hadmits, hpos, -, hpool, -⟩ := stage_eq_ok_iff.1 hs
  rw [(swap_of_stage hs).2, ← (quote_priced hquote).1]
  refine ⟨hpos, ?_, ?_⟩
  · rw [hpool, hadmits.reserveIn]
    exact Nat.le_add_right _ _
  · rw [hpool, hadmits.reserveOut]
    exact Nat.sub_le _ _

end Ledger

namespace Pool

/-- A pool without an empty reserve quotes both its prices. Each is below `2 ^ 96`, and they are
reciprocal as far as rounding down lets them be: with 32 fractional bits each, their product is not
above one, and with one unit more of each it is. Whatever has been observed of the pool, no swap
raises the price of the token that the trader sells, or lowers that of the token received. -/
theorem prices_oppose_trader (p : Pool) (hpos : ∀ t, 0 < p.reserves.get t) :
    ∃ before, p.spotPrices = .ok before ∧
      before.zero.toNat < 2 ^ 96 ∧ before.one.toNat < 2 ^ 96 ∧
      before.zero.toNat * before.one.toNat ≤ 2 ^ 64 ∧
      2 ^ 64 < (before.zero.toNat + 1) * (before.one.toNat + 1) ∧
      ∀ (oracle : Ring) (r : Request) (tier : FeeTier) (timestamp : Int64) (receipt : Receipt),
        let swapped := Ledger.swap ⟨p, oracle⟩ r tier timestamp
        swapped.answer = .ok receipt → ∃ after, swapped.next.pool.spotPrices = .ok after ∧
          after.get r.direction.sold ≤ before.get r.direction.sold ∧
          before.get r.direction.bought ≤ after.get r.direction.bought := by
  have hpos' : ∀ t, 0 < (p.reserves.get t).toNat := fun t => UInt64.lt_iff_toNat_lt.1 (hpos t)
  have h0 : (prices p.reserves).zero.toNat = spotPrice p.reserves .zero := toNat_prices _ .zero
  have h1 : (prices p.reserves).one.toNat = spotPrice p.reserves .one := toNat_prices _ .one
  refine ⟨_, spotPrices_eq_ok_iff.2 ⟨hpos', rfl⟩, ?_⟩
  rw [h0, h1]
  refine ⟨spotPrice_lt _ _, spotPrice_lt _ _, spotPrice_mul_le _ .zero,
    lt_spotPrice_add_one_mul hpos' .zero, ?_⟩
  intro oracle r tier timestamp receipt swapped h
  obtain ⟨hafter, hsold, hbought⟩ := Ledger.reserves_of_swap h
  refine ⟨_, spotPrices_eq_ok_iff.2 ⟨hafter, rfl⟩, ?_, ?_⟩
  · rw [BitVec.le_def, toNat_prices, toNat_prices]
    exact spotPrice_le (hpos' _) hsold hbought
  · rw [BitVec.le_def, toNat_prices, toNat_prices]
    apply spotPrice_le (hafter _) hbought
    rw [Direction.bought, Token.other_other]
    exact hsold

/-- A pool all but empty of token one quotes nothing for token zero. The sale of one unit of token
one does not raise its price. -/
theorem spotPrices_of_scarce_token :
    let p : Pool := { (Ledger.even 1).pool with reserves := ⟨Amount.max, 1⟩ }
    let swapped := Ledger.swap ⟨p, (Ledger.even 1).oracle⟩ ⟨.oneForZero, .exactInput 1 0⟩ default 1
    ∃ before after, p.spotPrices = .ok before ∧ swapped.next.pool.spotPrices = .ok after ∧
      before.zero.toNat * before.one.toNat ≤ 2 ^ 64 ∧ after.one ≤ before.one ∧
        before.zero ≤ after.zero := by
  intro p swapped
  obtain ⟨before, hbefore, -, -, hproduct, -, hmoves⟩ :=
    prices_oppose_trader p (fun t => by cases t <;> decide)
  have hreceipt : swapped.answer = .ok ⟨.oneForZero, .exactInput, 1, 0x7FFFFFFFFFFFFFFF, ⟨0, 0, 0⟩,
    ⟨0x8000000000000000, 2⟩, 1⟩ := by decide
  obtain ⟨after, hafter, hsold, hbought⟩ := hmoves _ _ _ _ _ hreceipt
  exact ⟨before, after, hbefore, hafter, hproduct, hsold, hbought⟩

end Pool

end ConstantProduct
