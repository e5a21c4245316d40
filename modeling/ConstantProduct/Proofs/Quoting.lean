import Mathlib
import ConstantProduct.Pool
import ConstantProduct.Proofs.Pricing

namespace ConstantProduct

/-- What holds of a quote at the reserves for which it was made. -/
structure Quote.Priced (q : Quote) (reserves : PerToken Amount) : Prop where
  shares_le : q.fees.protocolFee.toNat + q.fees.fundFee.toNat ≤ q.fees.tradeFee.toNat
  fee_le : q.fees.tradeFee.toNat ≤ q.amountIn.toNat
  out_pos : 0 < q.amountOut.toNat
  out_lt : q.amountOut.toNat < (reserves.get q.direction.bought).toNat
  /-- What the fee leaves of the payment keeps the product of the reserves. -/
  product_le :
    (reserves.get q.direction.sold).toNat * (reserves.get q.direction.bought).toNat ≤
      ((reserves.get q.direction.sold).toNat + (q.amountIn.toNat - q.fees.tradeFee.toNat)) *
        ((reserves.get q.direction.bought).toNat - q.amountOut.toNat)

namespace Curve

/-- A purchase keeps the product of the reserves just when the payment makes up for it. -/
theorem paid_iff_product_le {ri ro a y : ℕ} (hy : y ≤ ro) :
    y * (ri + a) ≤ ro * a ↔ ri * ro ≤ (ri + a) * (ro - y) := by
  have hsub : (ri + a) * (ro - y) + y * (ri + a) = (ri + a) * ro := by
    rw [Nat.mul_comm y, ← Nat.mul_add, Nat.sub_add_cancel hy]
  rw [Nat.add_mul ri a ro, Nat.mul_comm a] at hsub
  omega

theorem exactInput_product_le {ri ro x r y f : Amount}
    (h : exactInput ri ro x r = .ok (y, f)) :
    0 < y.toNat ∧ y.toNat < ro.toNat ∧ f.toNat ≤ x.toNat ∧
      ri.toNat * ro.toNat ≤ (ri.toNat + (x.toNat - f.toNat)) * (ro.toNat - y.toNat) := by
  obtain ⟨hri, hr, hpos, hy, hf⟩ := exactInput_eq_ok_iff.1 h
  have hlt := lt_of_exactInput h
  refine ⟨hpos, hlt, hf ▸ Fee.due_le _ hr, (paid_iff_product_le hlt.le).1 ?_⟩
  rw [hf, ← Fee.net]
  exact (le_output_iff hri).1 hy.le

theorem exactOutput_product_le {ri ro y r g f : Amount}
    (h : exactOutput ri ro y r = .ok (g, f)) :
    0 < y.toNat ∧ y.toNat < ro.toNat ∧ f.toNat ≤ g.toNat ∧
      ri.toNat * ro.toNat ≤ (ri.toNat + (g.toNat - f.toNat)) * (ro.toNat - y.toNat) := by
  obtain ⟨hr, hpos, hlt, -, hf⟩ := exactOutput_eq_ok_iff.1 h
  refine ⟨hpos, hlt, hf ▸ Fee.due_le _ hr.le, (paid_iff_product_le hlt.le).1 ?_⟩
  have hpaid := (sub_fee_of_exactOutput h).symm
  have hin : ri.toNat * y.toNat ≤ (ro.toNat - y.toNat) * input ri.toNat ro.toNat y.toNat :=
    (ceilDiv_le_iff_le_mul (by omega)).1 le_rfl
  rw [← hpaid, Nat.mul_add, Nat.mul_comm y.toNat]
  rw [Nat.sub_mul] at hin
  have := Nat.mul_le_mul_right (input ri.toNat ro.toNat y.toNat) hlt.le
  omega

end Curve

def Error.OfPricing : Error → Prop
  | .zeroInput | .zeroOutput | .invalidFeeRate .. | .insufficientLiquidity .. | .overflow _ => True
  | _ => False

theorem Fee.split_eq_ok {fee p f : Amount} {s : FeeSplit} (h : split fee p f = .ok s) :
    s.tradeFee = fee ∧ s.protocolFee.toNat + s.fundFee.toNat ≤ fee.toNat := by
  obtain ⟨hsum, htrade, hprotocol, hfund⟩ := split_eq_ok_iff.1 h
  rw [hprotocol, hfund]
  exact ⟨htrade, part_add_part_le _ hsum⟩

theorem Fee.split_error {fee p f : Amount} {e : Error} (h : split fee p f = .error e) :
    e.OfPricing := by
  obtain ⟨rate, cause, rfl⟩ := split_error_cases h
  trivial

theorem Curve.exactInput_error {ri ro x r : Amount} {e : Error} (hri : 0 < ri.toNat)
    (h : exactInput ri ro x r = .error e) : e.OfPricing := by
  rw [exactInput_eq] at h
  dsimp only at h
  split_ifs at h with hx hr h0
  · cases h; trivial
  · cases h; trivial
  · omega
  · cases h; trivial

theorem Curve.exactOutput_error {ri ro y r : Amount} {e : Error}
    (h : exactOutput ri ro y r = .error e) : e.OfPricing := by
  rw [exactOutput_eq] at h
  dsimp only at h
  split_ifs at h <;> cases h <;> trivial

namespace Quote

variable {d : Direction} {reserves : PerToken Amount} {order : Order} {tier : FeeTier}

/-- Exact input quotes an order just when the curve answers and the fee can be split. -/
theorem price_exactInput_eq_ok_iff {x bound : Amount} {q : Quote} :
    price d reserves (.exactInput x bound) tier = .ok q ↔ ∃ y fee fees,
      Curve.exactInput (reserves.get d.sold) (reserves.get d.bought) x (tier.tradeRate d) =
        .ok (y, fee) ∧
      Fee.split fee tier.protocolRate tier.fundRate = .ok fees ∧
        q = make d .exactInput x y fees := by
  constructor
  · intro h
    obtain ⟨⟨y, fee⟩, hy, h⟩ := bind_eq_ok.1 h
    obtain ⟨fees, hfees, h⟩ := bind_eq_ok.1 h
    exact ⟨y, fee, fees, hy, hfees, (Except.ok.inj h).symm⟩
  · rintro ⟨y, fee, fees, hy, hfees, rfl⟩
    simp only [price, hy, hfees, ok_bind, pure_eq_ok]

/-- Exact output quotes an order just when the curve answers and the fee can be split. -/
theorem price_exactOutput_eq_ok_iff {y bound : Amount} {q : Quote} :
    price d reserves (.exactOutput y bound) tier = .ok q ↔ ∃ g fee fees,
      Curve.exactOutput (reserves.get d.sold) (reserves.get d.bought) y (tier.tradeRate d) =
        .ok (g, fee) ∧
      Fee.split fee tier.protocolRate tier.fundRate = .ok fees ∧
        q = make d .exactOutput g y fees := by
  constructor
  · intro h
    obtain ⟨⟨g, fee⟩, hg, h⟩ := bind_eq_ok.1 h
    obtain ⟨fees, hfees, h⟩ := bind_eq_ok.1 h
    exact ⟨g, fee, fees, hg, hfees, (Except.ok.inj h).symm⟩
  · rintro ⟨g, fee, fees, hg, hfees, rfl⟩
    simp only [price, hg, hfees, ok_bind, pure_eq_ok]

theorem price_priced {q : Quote} (h : price d reserves order tier = .ok q) :
    q.direction = d ∧ q.mode = order.mode ∧ q.Priced reserves := by
  cases order with
  | exactInput x bound =>
    obtain ⟨y, fee, fees, hy, hfees, rfl⟩ := price_exactInput_eq_ok_iff.1 h
    obtain ⟨rfl, hshares⟩ := Fee.split_eq_ok hfees
    obtain ⟨hpos, hlt, hle, hprod⟩ := Curve.exactInput_product_le hy
    exact ⟨rfl, rfl, hshares, hle, hpos, hlt, hprod⟩
  | exactOutput y bound =>
    obtain ⟨g, fee, fees, hg, hfees, rfl⟩ := price_exactOutput_eq_ok_iff.1 h
    obtain ⟨rfl, hshares⟩ := Fee.split_eq_ok hfees
    obtain ⟨hpos, hlt, hle, hprod⟩ := Curve.exactOutput_product_le hg
    exact ⟨rfl, rfl, hshares, hle, hpos, hlt, hprod⟩

/-- In both modes the trade fee of a quote is the fee due on its payment, and is not all of it. -/
theorem price_due {q : Quote} (h : price d reserves order tier = .ok q) :
    q.fees.tradeFee.toNat = Fee.due q.amountIn.toNat (tier.tradeRate d).toNat ∧
      (tier.tradeRate d).toNat < 1000000 := by
  cases order with
  | exactInput x bound =>
    obtain ⟨y, fee, fees, hy, hfees, rfl⟩ := price_exactInput_eq_ok_iff.1 h
    obtain ⟨rfl, -⟩ := Fee.split_eq_ok hfees
    obtain ⟨-, hr, hpos, hy, hfee⟩ := Curve.exactInput_eq_ok_iff.1 hy
    exact ⟨hfee, Curve.rate_lt_of_purchase_pos hr (hy ▸ hpos)⟩
  | exactOutput y bound =>
    obtain ⟨g, fee, fees, hg, hfees, rfl⟩ := price_exactOutput_eq_ok_iff.1 h
    obtain ⟨rfl, -⟩ := Fee.split_eq_ok hfees
    obtain ⟨hr, -, -, -, hfee⟩ := Curve.exactOutput_eq_ok_iff.1 hg
    exact ⟨hfee, hr⟩

theorem price_error {e : Error} (hpos : 0 < (reserves.get d.sold).toNat)
    (h : price d reserves order tier = .error e) : e.OfPricing := by
  cases order with
  | exactInput x bound =>
    rcases bind_eq_error.1 h with h | ⟨⟨y, f⟩, -, h⟩
    · exact Curve.exactInput_error hpos h
    rcases bind_eq_error.1 h with h | ⟨s, -, h⟩
    · exact Fee.split_error h
    · cases h
  | exactOutput y bound =>
    rcases bind_eq_error.1 h with h | ⟨⟨g, f⟩, -, h⟩
    · exact Curve.exactOutput_error h
    rcases bind_eq_error.1 h with h | ⟨s, -, h⟩
    · exact Fee.split_error h
    · cases h

end Quote

end ConstantProduct
