import Mathlib
import ConstantProduct.Proofs.Staging

namespace ConstantProduct

namespace Error

def OfOverflow : Error → Prop
  | .overflow _ | .accumulatorOverflow .. => True
  | _ => False

/-- An error of the books rather than of the swap. -/
def Internal : Error → Prop
  | .invariantDecreased .. | .divisionByZero _ | .fault _ => True
  | _ => False

theorem OfOverflow.not_internal {e : Error} (h : e.OfOverflow) : ¬e.Internal := by
  cases e <;> simp_all [OfOverflow, Internal]

theorem OfPricing.not_internal {e : Error} (h : e.OfPricing) : ¬e.Internal := by
  cases e <;> simp_all [OfPricing, Internal]

end Error

namespace Quote.Priced

variable {p : Pool} {q : Quote}

theorem le_credit {reserves : PerToken Amount} (h : q.Priced reserves) :
    q.amountIn.toNat - q.fees.tradeFee.toNat ≤ q.credit := by
  have := h.shares_le
  unfold credit
  omega

theorem product_le_booked (h : q.Priced p.reserves)
    (hin : (p.reserves.get q.direction.sold).toNat + q.credit < 2 ^ 64) :
    p.product ≤ (p.booked q).product := by
  rw [p.product_eq q.direction, Pool.booked_product hin h.out_lt.le]
  exact h.product_le.trans (Nat.mul_le_mul_right _ (Nat.add_le_add_left h.le_credit _))

/-- The books can take a quote of the pool's own if the vault that is paid into has room. -/
theorem admits (h : q.Priced p.reserves) (hv : ∀ t, p.vault t < 2 ^ 64)
    (hroom : p.vault q.direction.sold + q.amountIn.toNat < 2 ^ 64) : p.Admits q := by
  have hshares := h.shares_le.trans h.fee_le
  -- Reserve and accounts of fees each grow within the vault, so its room is room for all three.
  have hin : (p.reserves.get q.direction.sold).toNat + q.credit < 2 ^ 64 := by
    unfold Pool.vault at hroom
    unfold credit
    omega
  have hp : (p.protocolFees.get q.direction.sold).toNat + q.fees.protocolFee.toNat < 2 ^ 64 := by
    unfold Pool.vault at hroom
    omega
  have hf : (p.fundFees.get q.direction.sold).toNat + q.fees.fundFee.toNat < 2 ^ 64 := by
    unfold Pool.vault at hroom
    omega
  refine ⟨hshares, hin, h.out_lt, hp, hf, ?_, h.product_le_booked hin⟩
  rw [q.direction.forall_token, Pool.booked_vault_sold hshares hin hp hf]
  have hbought := Pool.booked_vault_bought h.out_lt.le
  have := hv q.direction.bought
  exact ⟨hroom, by omega⟩

/-- The books refuse a quote of the pool's own only for want of room. -/
theorem book_error (h : q.Priced p.reserves) {e : Error} (hb : p.book q = .error e) :
    e.OfOverflow := by
  rw [Pool.book_eq] at hb
  dsimp only at hb
  split_ifs at hb with hs hi ho hp hf h0 h1 hk
  · exact absurd (h.shares_le.trans h.fee_le) (not_le.2 hs)
  · cases hb; trivial
  · exact absurd h.out_lt (not_lt.2 ho)
  · cases hb; trivial
  · cases hb; trivial
  · cases hb; trivial
  · cases hb; trivial
  · exact absurd (h.product_le_booked (not_le.1 hi)) (not_le.2 hk)

end Quote.Priced

namespace Ledger

variable {l : Ledger} {r : Request} {tier : FeeTier} {timestamp : Int64}

/-- No swap on reserves that are not empty fails on a check that only guards the books. -/
theorem stage_error_not_internal (hpos : ∀ t, 0 < (l.pool.reserves.get t).toNat) {e : Error}
    (h : l.stage r tier timestamp = .error e) : ¬e.Internal := by
  rcases bind_eq_error.1 h with h | ⟨-, -, h⟩
  · rw [Pool.ensureSwappable_eq] at h
    split_ifs at h <;> cases h <;> exact id
  rcases bind_eq_error.1 h with h | ⟨q, hq, h⟩
  · exact (Quote.price_error (hpos _) h).not_internal
  rcases bind_eq_error.1 h with h | ⟨-, -, h⟩
  · obtain ⟨a, b, rfl⟩ := Order.checkBound_error h
    exact id
  rcases bind_eq_error.1 h with h | ⟨next, hnext, h⟩
  · exact ((quote_priced hq).2.book_error h).not_internal
  obtain ⟨hadmits, rfl⟩ := Pool.book_eq_ok_iff.1 hnext
  rw [Pool.spotPrices_eq_ok_iff.2 ⟨hadmits.reserves_pos hpos, rfl⟩, ok_bind] at h
  rcases bind_eq_error.1 h with h | ⟨_, -, h⟩
  · obtain ⟨last, rfl⟩ := Ring.stage_error h
    exact id
  · cases h

/-- A swap for which the vault paid into has no room fails with an overflow. -/
theorem stage_overflow {q : Quote} (hopen : l.pool.Open timestamp)
    (hq : l.quote r tier = .ok q) (haccepts : r.order.Accepts q)
    (hfull : 2 ^ 64 ≤ l.pool.vault q.direction.sold + q.amountIn.toNat) :
    ∃ e, l.stage r tier timestamp = .error e ∧ e.OfOverflow := by
  rw [stage, (Pool.ensureSwappable_eq_ok_iff _ _).2 hopen, ok_bind, hq, ok_bind,
    (Order.checkBound_eq_ok_iff _ _).2 haccepts, ok_bind]
  rcases hb : l.pool.book q with e | next
  · exact ⟨e, rfl, (quote_priced hq).2.book_error hb⟩
  · obtain ⟨hadmits, rfl⟩ := Pool.book_eq_ok_iff.1 hb
    have hlt := hadmits.vault_lt q.direction.sold
    rw [hadmits.vault_sold] at hlt
    exact absurd hlt (not_lt.2 hfull)

theorem stage_of_room {q : Quote} (hpos : ∀ t, 0 < (l.pool.reserves.get t).toNat)
    (hfits : ∀ t, l.pool.vault t < 2 ^ 64) (hopen : l.pool.Open timestamp)
    (hq : l.quote r tier = .ok q) (haccepts : r.order.Accepts q)
    (hroom : l.pool.vault q.direction.sold + q.amountIn.toNat < 2 ^ 64)
    (htimely : l.oracle.Timely timestamp) :
    l.stage r tier timestamp = .ok ⟨q, l.pool.booked q,
      l.oracle.update timestamp (Pool.prices (l.pool.booked q).reserves)⟩ := by
  have hadmits := (quote_priced hq).2.admits hfits hroom
  exact stage_eq_ok_iff.2
    ⟨hopen, hq, haccepts, hadmits, hadmits.reserves_pos hpos, htimely, rfl, rfl⟩

/-- Which swaps pass on vaults that fit. -/
theorem swap_passes_iff (hpos : ∀ t, 0 < (l.pool.reserves.get t).toNat)
    (hfits : ∀ t, l.pool.vault t < 2 ^ 64) :
    (∃ receipt, (l.swap r tier timestamp).answer = .ok receipt) ↔
      l.pool.Open timestamp ∧ ∃ q, l.quote r tier = .ok q ∧ r.order.Accepts q ∧
        l.pool.vault r.direction.sold + q.amountIn.toNat < 2 ^ 64 ∧ l.oracle.Timely timestamp := by
  constructor
  · rintro ⟨receipt, h⟩
    obtain ⟨s, hs, -⟩ := swap_answer_eq_ok_iff.1 h
    obtain ⟨hopen, hq, haccepts, hadmits, -, htimely, -⟩ := stage_eq_ok_iff.1 hs
    refine ⟨hopen, s.quote, hq, haccepts, ?_, htimely⟩
    rw [← (quote_priced hq).1, ← hadmits.vault_sold]
    exact hadmits.vault_lt _
  · rintro ⟨hopen, q, hq, haccepts, hroom, htimely⟩
    rw [← (quote_priced hq).1] at hroom
    have hs := stage_of_room hpos hfits hopen hq haccepts hroom htimely
    exact ⟨_, (swap_of_stage hs).1⟩

theorem receipt_of_swap {receipt : Receipt}
    (h : (l.swap r tier timestamp).answer = .ok receipt) :
    ∃ q, l.quote r tier = .ok q ∧ receipt = ⟨q.direction, q.mode, q.amountIn, q.amountOut, q.fees,
      (l.swap r tier timestamp).next.pool.reserves, timestamp⟩ := by
  obtain ⟨s, hs, rfl⟩ := swap_answer_eq_ok_iff.1 h
  obtain ⟨-, hq, -⟩ := stage_eq_ok_iff.1 hs
  refine ⟨s.quote, hq, ?_⟩
  rw [(swap_of_stage hs).2]
  rfl

/-- The complete criterion of a swap. It passes just when the pool is open, the request has a quote
within its bound, the vault paid into has room and time has not gone back; the receipt is then the
quote's. For want of room alone it fails with an overflow, and never on a check of the books. -/
theorem swap_criterion (l : Ledger) (r : Request) (tier : FeeTier) (timestamp : Int64)
    (balances : PerToken Amount) (hpos : ∀ t, 0 < l.pool.reserves.get t)
    (hbalances : l.pool.vaultBalances = .ok balances) :
    let swapped := l.swap r tier timestamp
    ((∃ receipt, swapped.answer = .ok receipt) ↔
      l.pool.Open timestamp ∧ ∃ q, l.quote r tier = .ok q ∧ r.order.Accepts q ∧
        (balances.get r.direction.sold).toNat + q.amountIn.toNat < 2 ^ 64 ∧
          l.oracle.Timely timestamp) ∧
    (∀ receipt, swapped.answer = .ok receipt → ∃ q, l.quote r tier = .ok q ∧
      receipt = ⟨q.direction, q.mode, q.amountIn, q.amountOut, q.fees,
        swapped.next.pool.reserves, timestamp⟩) ∧
    (∀ q, l.pool.Open timestamp → l.quote r tier = .ok q → r.order.Accepts q →
      2 ^ 64 ≤ (balances.get r.direction.sold).toNat + q.amountIn.toNat →
        ∃ e, swapped.answer = .error e ∧ e.OfOverflow) ∧
    (∀ e, swapped.answer = .error e → ¬e.Internal) := by
  have hpos' : ∀ t, 0 < (l.pool.reserves.get t).toNat := fun t => UInt64.lt_iff_toNat_lt.1 (hpos t)
  have hvault := Pool.vaultBalances_eq_ok_iff.1 hbalances
  have hfits : ∀ t, l.pool.vault t < 2 ^ 64 := fun t => hvault t ▸ (balances.get t).toNat_lt
  dsimp only
  refine ⟨?_, fun receipt => receipt_of_swap, ?_, ?_⟩
  · rw [hvault]
    exact swap_passes_iff hpos' hfits
  · intro q hopen hq haccepts hfull
    rw [hvault, ← (quote_priced hq).1] at hfull
    obtain ⟨e, he, hof⟩ := stage_overflow hopen hq haccepts hfull
    exact ⟨e, swap_answer_eq_error_iff.2 he, hof⟩
  · intro e h
    exact stage_error_not_internal hpos' (swap_answer_eq_error_iff.1 h)

/-- A pool with a thousand of each token and no fees takes ten of one for nine of the other. -/
theorem exists_swap_even : ∃ receipt,
    ((even 1000).swap ⟨.zeroForOne, .exactInput 10 9⟩ default 1).answer = .ok receipt := by
  have hq : (even 1000).quote ⟨.zeroForOne, .exactInput 10 9⟩ default =
      .ok (.make .zeroForOne .exactInput 10 9 ⟨0, 0, 0⟩) := by decide
  exact (swap_criterion (even 1000) ⟨.zeroForOne, .exactInput 10 9⟩ default 1 (.both 1000)
    (fun t => by cases t <;> decide) (by decide)).1.2
    ⟨⟨rfl, rfl, by decide⟩, _, hq, by decide, by decide, fun last h => by cases h⟩

end Ledger

end ConstantProduct
