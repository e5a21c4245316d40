import Mathlib
import ConstantProduct.Proofs.Creation
import ConstantProduct.Proofs.LeastCost
import ConstantProduct.Proofs.SwapCriterion

namespace ConstantProduct

namespace Curve

variable {ri ro y r g f : Amount}

/-- The fee that exact output finds in a payment is the trade fee on it. -/
theorem trade_of_exactOutput (h : exactOutput ri ro y r = .ok (g, f)) : Fee.trade g r = .ok f := by
  obtain ⟨hr, -, -, -, hfee⟩ := exactOutput_eq_ok_iff.1 h
  exact Fee.trade_eq_ok_iff.2 ⟨hr.le, hfee⟩

/-- The payment that exact output asks for buys as much as exact input, at the same fee. -/
theorem exists_exactInput_of_exactOutput (hri : 0 < ri) (h : exactOutput ri ro y r = .ok (g, f)) :
    ∃ z, exactInput ri ro g r = .ok (z, f) ∧ y ≤ z := by
  obtain ⟨hr, hpos, hlt, hcost, hfee⟩ := exactOutput_eq_ok_iff.1 h
  have hdelivers : Delivers ri ro r g y :=
    (delivers_iff hri (UInt64.lt_iff_toNat_lt.2 hr) (UInt64.lt_iff_toNat_lt.2 hpos)
      (UInt64.lt_iff_toNat_lt.2 hlt)).2 hcost.ge
  obtain ⟨z, fee, hz, hle⟩ := hdelivers
  obtain ⟨-, -, -, -, hfee'⟩ := exactInput_eq_ok_iff.1 hz
  have hsame : fee = f := UInt64.toNat_inj.1 (hfee'.trans hfee.symm)
  exact ⟨z, hsame ▸ hz, hle⟩

end Curve

/-- The quote of a payment that buys `amountOut`, in place of the quote of a purchase. -/
def Quote.asInput (q : Quote) (amountOut : Amount) : Quote :=
  make q.direction .exactInput q.amountIn amountOut q.fees

section AsInput

variable (q : Quote) (z : Amount)

@[simp] theorem Quote.direction_asInput : (q.asInput z).direction = q.direction := rfl

@[simp] theorem Quote.amountOut_asInput : (q.asInput z).amountOut = z := rfl

@[simp] theorem Quote.credit_asInput : (q.asInput z).credit = q.credit := rfl

end AsInput

theorem Quote.exists_asInput {d : Direction} {reserves : PerToken Amount} {y bound : Amount}
    {tier : FeeTier} {q : Quote} (hpos : 0 < reserves.get d.sold)
    (h : price d reserves (.exactOutput y bound) tier = .ok q) (minimum : Amount) :
    q.amountOut = y ∧ ∃ z, y ≤ z ∧
      price d reserves (.exactInput q.amountIn minimum) tier = .ok (q.asInput z) := by
  obtain ⟨g, fee, fees, hg, hfees, rfl⟩ := price_exactOutput_eq_ok_iff.1 h
  obtain ⟨z, hz, hle⟩ := Curve.exists_exactInput_of_exactOutput hpos hg
  exact ⟨rfl, z, hle, price_exactInput_eq_ok_iff.2 ⟨z, fee, fees, hz, hfees, rfl⟩⟩

namespace Ledger

/-- One swap pays as another does, at the same fees, and buys no less; the books are the same but
for that. -/
structure Staged.BuysNoLess (more less : Staged) : Prop where
  amountIn_eq : more.quote.amountIn = less.quote.amountIn
  fees_eq : more.quote.fees = less.quote.fees
  amountOut_le : less.quote.amountOut ≤ more.quote.amountOut
  protocolFees_eq : more.pool.protocolFees = less.pool.protocolFees
  fundFees_eq : more.pool.fundFees = less.pool.fundFees
  reserveIn_eq : more.pool.reserves.get less.quote.direction.sold =
    less.pool.reserves.get less.quote.direction.sold
  reserveOut_add : (more.pool.reserves.get less.quote.direction.bought).toNat +
    (more.quote.amountOut.toNat - less.quote.amountOut.toNat) =
      (less.pool.reserves.get less.quote.direction.bought).toNat

variable {l : Ledger} {d : Direction} {y bound : Amount} {tier : FeeTier} {timestamp : Int64}
  {s : Staged}

/-- A swap that passes as exact output passes as exact input of its payment, and buys no less. -/
theorem exists_stage_asInput (hpos : ∀ t, 0 < (l.pool.reserves.get t).toNat)
    (hfits : ∀ t, l.pool.vault t < 2 ^ 64)
    (h : l.stage ⟨d, .exactOutput y bound⟩ tier timestamp = .ok s) :
    s.quote.amountOut = y ∧
      ∃ s', l.stage ⟨d, .exactInput s.quote.amountIn 0⟩ tier timestamp = .ok s' ∧
        s'.BuysNoLess s := by
  obtain ⟨hopen, hq, -, hadmits, -, htimely, hpool, -⟩ := stage_eq_ok_iff.1 h
  obtain ⟨hout, z, hle, hquote⟩ :=
    Quote.exists_asInput (UInt64.lt_iff_toNat_lt.2 (hpos d.sold)) hq 0
  have hquote' : l.quote ⟨d, .exactInput s.quote.amountIn 0⟩ tier = .ok (s.quote.asInput z) :=
    hquote
  have hbound : (Order.exactInput s.quote.amountIn 0).Accepts (s.quote.asInput z) :=
    UInt64.le_iff_toNat_le.2 (Nat.zero_le _)
  -- The vault that is paid into has the same room, whatever leaves the other one.
  have hroom : l.pool.vault s.quote.direction.sold + s.quote.amountIn.toNat < 2 ^ 64 := by
    rw [← hadmits.vault_sold]
    exact hadmits.vault_lt _
  have hstage := stage_of_room hpos hfits hopen hquote' hbound hroom htimely
  have hadmits' := (stage_eq_ok_iff.1 hstage).2.2.2.1
  refine ⟨hout, _, hstage, rfl, rfl, hout ▸ hle, hpool ▸ rfl, hpool ▸ rfl, ?_, ?_⟩
  · have hin := hadmits.reserveIn
    have hin' := hadmits'.reserveIn
    simp only [Quote.direction_asInput, Quote.credit_asInput] at hin'
    rw [hpool, ← UInt64.toNat_inj, hin, hin']
  · have hrest := hadmits.reserveOut
    have hrest' := hadmits'.reserveOut
    have hlt := hadmits'.out_lt
    simp only [Quote.direction_asInput, Quote.amountOut_asInput] at hrest' hlt
    rw [← hout, UInt64.le_iff_toNat_le] at hle
    simp only [hpool, Quote.amountOut_asInput]
    omega

/-- The two modes of a swap charge the same fee for the same payment. On the curve, what exact
output asks for pays the fee that it tells, and buys no less as exact input. On a ledger, the swap
of that payment passes whenever the purchase does, with the same fees and the same effect on the
books but for what more it buys. -/
theorem modes_charge_alike :
    (∀ reserveIn reserveOut amountOut feeRate payment fee : Amount, 0 < reserveIn →
      Curve.exactOutput reserveIn reserveOut amountOut feeRate = .ok (payment, fee) →
        Fee.trade payment feeRate = .ok fee ∧
          ∃ z, Curve.exactInput reserveIn reserveOut payment feeRate = .ok (z, fee) ∧
            amountOut ≤ z) ∧
    ∀ (l : Ledger) (d : Direction) (amountOut maximumIn : Amount) (tier : FeeTier)
      (timestamp : Int64) (balances : PerToken Amount) (receipt : Receipt),
      (∀ t, 0 < l.pool.reserves.get t) → l.pool.vaultBalances = .ok balances →
      let purchase := l.swap ⟨d, .exactOutput amountOut maximumIn⟩ tier timestamp
      let payment := l.swap ⟨d, .exactInput receipt.amountIn 0⟩ tier timestamp
      purchase.answer = .ok receipt →
        ∃ receipt', payment.answer = .ok receipt' ∧ receipt'.amountIn = receipt.amountIn ∧
          receipt'.fees = receipt.fees ∧ amountOut ≤ receipt'.amountOut ∧
          payment.next.pool.reserves.get d.sold = purchase.next.pool.reserves.get d.sold ∧
          payment.next.pool.protocolFees = purchase.next.pool.protocolFees ∧
          payment.next.pool.fundFees = purchase.next.pool.fundFees ∧
          (payment.next.pool.reserves.get d.bought).toNat +
            (receipt'.amountOut.toNat - amountOut.toNat) =
              (purchase.next.pool.reserves.get d.bought).toNat := by
  refine ⟨?_, ?_⟩
  · intro ri ro y r g f hri h
    exact ⟨Curve.trade_of_exactOutput h, Curve.exists_exactInput_of_exactOutput hri h⟩
  · intro l d y bound tier timestamp balances receipt hpos hbalances
    dsimp only
    intro hanswer
    obtain ⟨s, hs, rfl⟩ := swap_answer_eq_ok_iff.1 hanswer
    obtain ⟨hout, s', hs', h⟩ :=
      exists_stage_asInput (fun t => UInt64.lt_iff_toNat_lt.1 (hpos t))
        (Pool.vault_lt_of_balances hbalances) hs
    obtain ⟨rfl, -⟩ := quote_priced (stage_eq_ok_iff.1 hs).2.1
    obtain ⟨hanswer', hnext'⟩ := swap_of_stage hs'
    obtain ⟨-, hnext⟩ := swap_of_stage hs
    have hpaid : (s.receipt timestamp).amountIn = s.quote.amountIn := rfl
    rw [hpaid, hnext, hnext', ← hout]
    exact ⟨_, hanswer', h.amountIn_eq, h.fees_eq, h.amountOut_le, h.reserveIn_eq,
      h.protocolFees_eq, h.fundFees_eq, h.reserveOut_add⟩

/-- A million costs 46299, of which 4630 are the fee; so much is charged on 46299 paid as input. -/
theorem fees_of_purchase_eq : ∃ receipt receipt',
    (market.swap ⟨.zeroForOne, .exactOutput 1000000 46299⟩ tenth 200).answer = .ok receipt ∧
      (market.swap ⟨.zeroForOne, .exactInput 46299 0⟩ tenth 200).answer = .ok receipt' ∧
        receipt.fees = ⟨4630, 926, 463⟩ ∧ receipt'.fees = receipt.fees ∧
          1000000 ≤ receipt'.amountOut := by
  have hanswer : (market.swap ⟨.zeroForOne, .exactOutput 1000000 46299⟩ tenth 200).answer =
      .ok ⟨.zeroForOne, .exactOutput, 46299, 1000000, ⟨4630, 926, 463⟩,
        ⟨1000044910, 23999000000⟩, 200⟩ := by decide
  obtain ⟨receipt', hanswer', -, hfees, hle, -⟩ :=
    modes_charge_alike.2 market .zeroForOne 1000000 46299 tenth 200 ⟨1000000000, 24000000000⟩ _
      (fun t => by cases t <;> decide) (by decide) hanswer
  exact ⟨_, receipt', hanswer, hanswer', rfl, hfees, hle⟩

end Ledger

end ConstantProduct
