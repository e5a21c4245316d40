import Mathlib
import ConstantProduct.Proofs.Conservation
import ConstantProduct.Proofs.LeastCost
import ConstantProduct.Proofs.SwapCriterion

namespace ConstantProduct

/-- A payment in two parts leaves no more than the payment in one. -/
theorem Fee.net_add_net_le (x y : ℕ) {r : ℕ} (hr : r ≤ 1000000) :
    net x r + net y r ≤ net (x + y) r := by
  have hx := (le_net_iff hr).1 (le_refl (net x r))
  have hy := (le_net_iff hr).1 (le_refl (net y r))
  rw [le_net_iff hr, Nat.add_mul (net x r), Nat.add_mul x]
  exact Nat.add_le_add hx hy

theorem Curve.mul_le_of_le {u ri a rest y : ℕ} (hle : u ≤ ri)
    (h : ri * (rest + y) ≤ (ri + a) * rest) : u * (rest + y) ≤ (u + a) * rest := by
  have hy : u * y ≤ ri * y := Nat.mul_le_mul_right y hle
  rw [Nat.mul_add, Nat.add_mul] at h ⊢
  omega

/-- The rates of a tier let some swap be priced in a direction. -/
structure FeeTier.Trades (tier : FeeTier) (d : Direction) : Prop where
  rate_lt : (tier.tradeRate d).toNat < 1000000
  split_ok : ∀ fee, ∃ fees, Fee.split fee tier.protocolRate tier.fundRate = .ok fees

theorem Fee.exists_split {fee p f : Amount} {fees : FeeSplit} (h : split fee p f = .ok fees)
    (fee' : Amount) : ∃ fees', split fee' p f = .ok fees' :=
  exists_split_iff.2 (exists_split_iff.1 ⟨fees, h⟩)

namespace Quote

variable {d : Direction} {reserves : PerToken Amount} {order : Order} {tier : FeeTier}

theorem trades_of_price {q : Quote} (h : price d reserves order tier = .ok q) : tier.Trades d := by
  refine ⟨(price_due h).2, ?_⟩
  cases order with
  | exactInput x bound =>
    obtain ⟨_, _, _, -, hfees, -⟩ := price_exactInput_eq_ok_iff.1 h
    exact Fee.exists_split hfees
  | exactOutput y bound =>
    obtain ⟨_, _, _, -, hfees, -⟩ := price_exactOutput_eq_ok_iff.1 h
    exact Fee.exists_split hfees

theorem exists_price_exactInput {x y : Amount} (htrades : tier.Trades d)
    (h : Curve.Delivers (reserves.get d.sold) (reserves.get d.bought) (tier.tradeRate d) x y)
    (bound : Amount) :
    ∃ q, price d reserves (.exactInput x bound) tier = .ok q ∧ y ≤ q.amountOut := by
  obtain ⟨z, fee, hz, hle⟩ := h
  obtain ⟨fees, hfees⟩ := htrades.split_ok fee
  exact ⟨_, price_exactInput_eq_ok_iff.2 ⟨z, fee, fees, hz, hfees, rfl⟩, hle⟩

theorem exists_price_exactOutput {x y : Amount} (htrades : tier.Trades d)
    (hpos : 0 < reserves.get d.sold) (hy : 0 < y) (hlt : y < reserves.get d.bought)
    (h : Curve.Delivers (reserves.get d.sold) (reserves.get d.bought) (tier.tradeRate d) x y)
    (bound : Amount) :
    ∃ q, price d reserves (.exactOutput y bound) tier = .ok q ∧ q.amountIn ≤ x := by
  have hrate : tier.tradeRate d < 1000000 := UInt64.lt_iff_toNat_lt.2 htrades.rate_lt
  obtain ⟨g, fee, hg, hle⟩ := Curve.exists_exactOutput_le hpos hrate hy hlt h
  obtain ⟨fees, hfees⟩ := htrades.split_ok fee
  exact ⟨_, price_exactOutput_eq_ok_iff.2 ⟨g, fee, fees, hg, hfees, rfl⟩, hle⟩

end Quote

namespace Receipt

def amountsIn (rs : List Receipt) : ℕ := (rs.map (·.amountIn.toNat)).sum

def amountsOut (rs : List Receipt) : ℕ := (rs.map (·.amountOut.toNat)).sum

/-- What the trade fees leave of all that some swaps were paid. -/
def amountsNet (rate : ℕ) (rs : List Receipt) : ℕ :=
  (rs.map fun r => Fee.net r.amountIn.toNat rate).sum

section Sums

variable (rs : List Receipt) (r : Receipt) (rate : ℕ)

@[simp] theorem amountsOut_concat :
    amountsOut (rs ++ [r]) = amountsOut rs + r.amountOut.toNat := by simp [amountsOut]

@[simp] theorem amountsNet_concat : amountsNet rate (rs ++ [r]) =
    amountsNet rate rs + Fee.net r.amountIn.toNat rate := by
  rw [amountsNet, amountsNet, List.map_append, List.sum_append, List.map_singleton,
    List.sum_singleton]

end Sums

/-- Fees on the parts leave no more than the fee on the whole. -/
theorem amountsNet_le {rate : ℕ} (hr : rate ≤ 1000000) (rs : List Receipt) :
    amountsNet rate rs ≤ Fee.net (amountsIn rs) rate := by
  induction rs with
  | nil => exact Nat.zero_le _
  | cons r rs ih =>
    have hparts := Fee.net_add_net_le r.amountIn.toNat (amountsIn rs) hr
    rw [amountsIn] at ih hparts
    rw [amountsNet, amountsIn, List.map_cons, List.map_cons, List.sum_cons, List.sum_cons]
    exact (Nat.add_le_add_left ih _).trans hparts

end Receipt

namespace Ledger

/-- What swaps in one direction, at the rates of one tier, leave of the reserves they started
from. -/
structure Swept (d : Direction) (tier : FeeTier) (initial reserves : PerToken Amount)
    (rs : List Receipt) : Prop where
  direction_eq : ∀ r ∈ rs, r.direction = d
  trades : rs ≠ [] → tier.Trades d ∧ 0 < Receipt.amountsOut rs
  rest_pos : 0 < (reserves.get d.bought).toNat
  add_net_le : (initial.get d.sold).toNat + Receipt.amountsNet (tier.tradeRate d).toNat rs ≤
    (reserves.get d.sold).toNat
  rest_add : (reserves.get d.bought).toNat + Receipt.amountsOut rs =
    (initial.get d.bought).toNat
  product_le : (initial.get d.sold).toNat * (initial.get d.bought).toNat ≤
    ((initial.get d.sold).toNat + Receipt.amountsNet (tier.tradeRate d).toNat rs) *
      (reserves.get d.bought).toNat

variable {l : Ledger} {d : Direction} {tier : FeeTier} {order : Order} {timestamp : Int64}
  {s : Staged} {initial : PerToken Amount} {rs : List Receipt}

theorem Swept.nil (hpos : 0 < (initial.get d.bought).toNat) : Swept d tier initial initial [] where
  direction_eq := by simp
  trades h := absurd rfl h
  rest_pos := hpos
  add_net_le := le_rfl
  rest_add := rfl
  product_le := le_rfl

theorem Swept.swap (h : Swept d tier initial l.pool.reserves rs)
    (hs : l.stage ⟨d, order⟩ tier timestamp = .ok s) :
    Swept d tier initial s.pool.reserves (rs ++ [s.receipt timestamp]) := by
  obtain ⟨-, hq, -, hadmits, -, -, hpool, -⟩ := stage_eq_ok_iff.1 hs
  obtain ⟨hd, hpriced⟩ := quote_priced hq
  obtain ⟨hfee, -⟩ := Quote.price_due hq
  have hin := hadmits.reserveIn
  have hrest := hadmits.reserveOut
  have hlt := hpriced.out_lt
  have hproduct := hpriced.product_le
  have hcredit := hpriced.le_credit
  dsimp only at hd hfee
  rw [hfee, ← Fee.net] at hproduct hcredit
  rw [hd, ← hpool] at hin hrest
  rw [hd] at hlt hproduct
  have hreceiptIn : (s.receipt timestamp).amountIn = s.quote.amountIn := rfl
  have hreceiptOut : (s.receipt timestamp).amountOut = s.quote.amountOut := rfl
  have hadd := h.add_net_le
  have hadded := h.rest_add
  constructor
  case direction_eq =>
    intro r hr
    rcases List.mem_append.1 hr with hr | hr
    · exact h.direction_eq r hr
    · rw [List.mem_singleton.1 hr]
      exact hd
  case trades =>
    intro _
    rw [Receipt.amountsOut_concat]
    exact ⟨Quote.trades_of_price hq, Nat.add_pos_right _ hpriced.out_pos⟩
  case rest_pos => omega
  case add_net_le =>
    rw [Receipt.amountsNet_concat, hreceiptIn]
    omega
  case rest_add =>
    rw [Receipt.amountsOut_concat, hreceiptOut]
    omega
  case product_le =>
    -- The product kept at this swap is one of a reserve that holds all net payments before it.
    have hbefore : (l.pool.reserves.get d.bought).toNat =
        (s.pool.reserves.get d.bought).toNat + s.quote.amountOut.toNat := by omega
    have hinitial := h.product_le
    rw [← hrest, hbefore] at hproduct
    rw [hbefore] at hinitial
    rw [Receipt.amountsNet_concat, hreceiptIn, ← Nat.add_assoc]
    exact hinitial.trans (Curve.mul_le_of_le hadd hproduct)

def OneWay (d : Direction) (tier : FeeTier) (ops : List Op) : Prop :=
  ∀ r tier' timestamp, .swap r tier' timestamp ∈ ops → r.direction = d ∧ tier' = tier

theorem swept_run {ops : List Op} (hpos : ∀ t, 0 < (l.pool.reserves.get t).toNat)
    (hway : OneWay d tier ops) :
    Swept d tier l.pool.reserves (l.run ops).pool.reserves (l.receipts ops) := by
  refine run_of_swaps (P := fun reserves _ rs => Swept d tier l.pool.reserves reserves rs) ?_ ?_
  · intro l' r tier' timestamp s rs hmem hs h
    obtain ⟨hd, rfl⟩ := hway r tier' timestamp hmem
    obtain ⟨_, order⟩ := r
    obtain rfl : _ = d := hd
    exact h.swap hs
  · exact Swept.nil (hpos d.bought)

namespace Swept

variable {reserves : PerToken Amount} {x y : Amount}

theorem amountsOut_lt (h : Swept d tier initial reserves rs) :
    Receipt.amountsOut rs < (initial.get d.bought).toNat := by
  have := h.rest_add
  have := h.rest_pos
  omega

/-- The whole payment at once delivers as much as it did in parts. -/
theorem delivers (h : Swept d tier initial reserves rs) (hpos : 0 < initial.get d.sold)
    (hne : rs ≠ []) (hx : x.toNat = Receipt.amountsIn rs) (hy : y.toNat = Receipt.amountsOut rs) :
    Curve.Delivers (initial.get d.sold) (initial.get d.bought) (tier.tradeRate d) x y := by
  obtain ⟨⟨hrate, -⟩, hout⟩ := h.trades hne
  have hpos' : 0 < (initial.get d.sold).toNat := UInt64.lt_iff_toNat_lt.1 hpos
  have hlt : y.toNat < (initial.get d.bought).toNat := hy ▸ h.amountsOut_lt
  have hnet : Receipt.amountsNet (tier.tradeRate d).toNat rs ≤
      Fee.net x.toNat (tier.tradeRate d).toNat := hx ▸ Receipt.amountsNet_le hrate.le rs
  have hrest : (reserves.get d.bought).toNat = (initial.get d.bought).toNat - y.toNat := by
    rw [hy, ← h.rest_add, Nat.add_sub_cancel]
  have hproduct : (initial.get d.sold).toNat * (initial.get d.bought).toNat ≤
      ((initial.get d.sold).toNat + Fee.net x.toNat (tier.tradeRate d).toNat) *
        ((initial.get d.bought).toNat - y.toNat) := by
    rw [← hrest]
    exact h.product_le.trans (Nat.mul_le_mul_right _ (Nat.add_le_add_left hnet _))
  have hle : y.toNat ≤ Curve.purchase (initial.get d.sold).toNat (initial.get d.bought).toNat
      x.toNat (tier.tradeRate d).toNat :=
    (Curve.le_output_iff hpos').2 ((Curve.paid_iff_product_le hlt.le).2 hproduct)
  rw [Curve.delivers_iff hpos (UInt64.lt_iff_toNat_lt.2 hrate)
    (UInt64.lt_iff_toNat_lt.2 (hy ▸ hout)) (UInt64.lt_iff_toNat_lt.2 hlt)]
  exact (Curve.cost_le_iff hpos' hlt hrate).2 hle

/-- What a vault without collections has taken in, it holds. -/
theorem amountsIn_lt (h : Swept d tier initial reserves rs) {ops : List Op}
    (hfits : ∀ t, l.pool.vault t < 2 ^ 64)
    (hnone : ∀ (party : Party) requested, party.collection requested ∉ ops)
    (hrs : rs = l.receipts ops) : Receipt.amountsIn rs < 2 ^ 64 := by
  have hvault := vault_run l ops d.sold
  have hfits' := vault_run_lt l ops hfits d.sold
  rw [claimed_eq_zero (hnone .protocol), claimed_eq_zero (hnone .fund), ← hrs] at hvault
  have hpaid : rs.map (fun r => r.paid d.sold) = rs.map (·.amountIn.toNat) := by
    apply List.map_congr_left
    intro r hr
    rw [Receipt.paid, h.direction_eq r hr, if_pos rfl]
  have hreceived : (rs.map fun r => r.received d.sold).sum = 0 := by
    apply List.sum_eq_zero
    intro n hn
    obtain ⟨r, hr, rfl⟩ := List.mem_map.1 hn
    rw [Receipt.received, h.direction_eq r hr, if_neg d.sold_ne_bought]
  rw [hpaid, hreceived, ← Receipt.amountsIn] at hvault
  omega

end Swept

/-- Splitting an order never pays. Whatever swaps of a run pass, all one way and at the rates of one
tier, their whole payment made at once on the reserves they started from would have bought no less,
and their whole purchase made at once would have cost no more. Without collections the whole payment
is an amount. -/
theorem splitting_never_pays {l : Ledger} {d : Direction} {tier : FeeTier} {ops : List Op}
    {balances : PerToken Amount} (hpos : ∀ t, 0 < l.pool.reserves.get t)
    (hbalances : l.pool.vaultBalances = .ok balances) (hway : OneWay d tier ops)
    (hne : l.receipts ops ≠ []) :
    let paid := Receipt.amountsIn (l.receipts ops)
    let bought := Receipt.amountsOut (l.receipts ops)
    ((∀ (party : Party) requested, party.collection requested ∉ ops) → paid < 2 ^ 64) ∧
    (paid < 2 ^ 64 → ∃ x y : Amount, x.toNat = paid ∧ y.toNat = bought ∧
      (∀ minimumOut, ∃ q, l.quote ⟨d, .exactInput x minimumOut⟩ tier = .ok q ∧
        y ≤ q.amountOut) ∧
      ∀ maximumIn, ∃ q, l.quote ⟨d, .exactOutput y maximumIn⟩ tier = .ok q ∧ q.amountIn ≤ x) := by
  have h := swept_run (fun t => UInt64.lt_iff_toNat_lt.1 (hpos t)) hway
  obtain ⟨htrades, hout⟩ := h.trades hne
  have hlt := h.amountsOut_lt
  dsimp only
  refine ⟨?_, ?_⟩
  · intro hnone
    exact h.amountsIn_lt (Pool.vault_lt_of_balances hbalances) hnone rfl
  · intro hpaid
    have hx := Amount.toNat_ofNat_lt hpaid
    have hy := Amount.toNat_ofNat_lt (hlt.trans (l.pool.reserves.get d.bought).toNat_lt)
    have hdelivers := h.delivers (hpos d.sold) hne hx hy
    refine ⟨_, _, hx, hy, ?_, ?_⟩
    · intro minimumOut
      exact Quote.exists_price_exactInput htrades hdelivers minimumOut
    · intro maximumIn
      refine Quote.exists_price_exactOutput htrades (hpos d.sold) ?_ ?_ hdelivers maximumIn
      · rw [UInt64.lt_iff_toNat_lt, hy]
        exact hout
      · rw [UInt64.lt_iff_toNat_lt, hy]
        exact hlt

def pieces : List Op :=
  [.swap ⟨.zeroForOne, .exactInput 60000000 0⟩ tenth 200, .collectProtocol ⟨500000, 0⟩,
    .swap ⟨.zeroForOne, .exactOutput 500000000 30000000⟩ tenth 201]

/-- Two pieces with a collection between them buy 1729601518 for 86397773 together, and for that
payment at once there is no less. -/
theorem amountsOut_pieces_le :
    Receipt.amountsIn (market.receipts pieces) = 86397773 ∧
      Receipt.amountsOut (market.receipts pieces) = 1729601518 ∧
        ∃ x y : Amount, x.toNat = 86397773 ∧ y.toNat = 1729601518 ∧
          ∀ minimumOut, ∃ q, market.quote ⟨.zeroForOne, .exactInput x minimumOut⟩ tenth = .ok q ∧
            y ≤ q.amountOut := by
  have hpaid : Receipt.amountsIn (market.receipts pieces) = 86397773 := by decide
  have hbought : Receipt.amountsOut (market.receipts pieces) = 1729601518 := by decide
  have hway : OneWay .zeroForOne tenth pieces := by
    intro r tier timestamp hmem
    simp only [pieces, List.mem_cons, Op.swap.injEq, List.not_mem_nil, reduceCtorEq, false_or,
      or_false] at hmem
    rcases hmem with ⟨rfl, rfl, -⟩ | ⟨rfl, rfl, -⟩ <;> exact ⟨rfl, rfl⟩
  obtain ⟨x, y, hx, hy, hinput, -⟩ :=
    (splitting_never_pays (fun t => by cases t <;> decide)
      (show market.pool.vaultBalances = .ok ⟨1000000000, 24000000000⟩ by decide) hway
      (by decide)).2 (by rw [hpaid]; norm_num)
  exact ⟨hpaid, hbought, x, y, hx.trans hpaid, hy.trans hbought, hinput⟩

end Ledger

end ConstantProduct
