import Mathlib
import ConstantProduct.Curve
import ConstantProduct.Proofs.Fee

namespace ConstantProduct.Curve

def output (reserveIn reserveOut a : ℕ) : ℕ := reserveOut * a / (reserveIn + a)

/-- The least amount, free of the fee, that buys `bought`. -/
def input (reserveIn reserveOut bought : ℕ) : ℕ :=
  reserveIn * bought ⌈/⌉ (reserveOut - bought)

/-- The least payment, fee included, that buys `bought`. -/
def cost (reserveIn reserveOut bought rate : ℕ) : ℕ :=
  Fee.gross (input reserveIn reserveOut bought) rate

def purchase (reserveIn reserveOut payment rate : ℕ) : ℕ :=
  output reserveIn reserveOut (Fee.net payment rate)

theorem le_output_iff {ri ro a y : ℕ} (hri : 0 < ri) :
    y ≤ output ri ro a ↔ y * (ri + a) ≤ ro * a := Nat.le_div_iff_mul_le (by omega)

theorem output_lt {ri ro : ℕ} (a : ℕ) (hri : 0 < ri) (hro : 0 < ro) : output ri ro a < ro := by
  by_contra hle
  have h := (le_output_iff hri).1 (not_lt.1 hle)
  rw [Nat.mul_add] at h
  have := Nat.mul_pos hro hri
  omega

theorem output_le (ri ro a : ℕ) : output ri ro a ≤ ro := by
  apply Nat.div_le_of_le_mul
  rw [Nat.add_mul, Nat.mul_comm a]
  exact Nat.le_add_left _ _

/-- What is sold out of an amount is an amount. -/
theorem toNat_output (ri : ℕ) (ro : Amount) (a : ℕ) :
    (UInt64.ofNat (output ri ro.toNat a)).toNat = output ri ro.toNat a :=
  Amount.toNat_ofNat_lt ((output_le _ _ _).trans_lt ro.toNat_lt)

/-- Without a reserve on its side a payment would buy everything. -/
theorem output_of_empty (ro : ℕ) {a : ℕ} (h : 0 < a) : output 0 ro a = ro := by
  rw [output, Nat.zero_add, Nat.mul_div_cancel _ h]

/-- The payment asked for a purchase is the least that buys it. -/
theorem input_le_iff {ri ro a y : ℕ} (hri : 0 < ri) (hy : y < ro) :
    input ri ro y ≤ a ↔ y ≤ output ri ro a := by
  have hsub : (ro - y) * a + y * a = ro * a := by rw [← Nat.add_mul, Nat.sub_add_cancel hy.le]
  rw [input, ceilDiv_le_iff_le_mul (by omega), le_output_iff hri, Nat.mul_add, Nat.mul_comm ri]
  omega

theorem cost_le_iff {ri ro x y r : ℕ} (hri : 0 < ri) (hy : y < ro) (hr : r < 1000000) :
    cost ri ro y r ≤ x ↔ y ≤ purchase ri ro x r := by
  rw [cost, Fee.gross_le_iff hr, input_le_iff hri hy, purchase]

theorem input_le_cost (ri ro y : ℕ) {r : ℕ} (hr : r < 1000000) :
    input ri ro y ≤ cost ri ro y r := Fee.le_gross _ hr

theorem input_lt (ri ro : Amount) {y : ℕ} (hy : y < ro.toNat) :
    input ri.toNat ro.toNat y < 2 ^ 128 := by
  have hlt := ri.toNat_mul_lt ro
  have hle : input ri.toNat ro.toNat y ≤ ri.toNat * y :=
    Rounding.quotient_le .up (ri.toNat * y) (by omega : 0 < ro.toNat - y)
  have hmul : ri.toNat * y ≤ ri.toNat * ro.toNat := Nat.mul_le_mul_left _ hy.le
  omega

/-- Every answer of exact input. -/
theorem exactInput_eq (ri ro x r : Amount) :
    exactInput ri ro x r =
      if x = 0 then .error .zeroInput
      else if Fee.whole < r then .error (.invalidFeeRate r .aboveWhole)
      else if ri.toNat + Fee.net x.toNat r.toNat = 0 then .error (.divisionByZero .mulDiv)
      else
        let y := UInt64.ofNat (purchase ri.toNat ro.toNat x.toNat r.toNat)
        if y = 0 ∨ ro ≤ y then .error (.insufficientLiquidity y ro)
        else .ok (y, UInt64.ofNat (Fee.due x.toNat r.toNat)) := by
  by_cases hx : x = 0
  · rw [if_pos hx, exactInput, if_pos hx, throw_eq_error, error_bind]
  by_cases hr : Fee.whole < r
  · rw [if_neg hx, if_pos hr, exactInput, if_neg hx, Fee.trade_eq, if_pos hr]
    simp only [error_bind]
  have hle : r.toNat ≤ 1000000 := not_lt.1 ((Fee.lt_whole_iff r).not.1 hr)
  have hdue := Fee.toNat_due x hle
  obtain ⟨a, ha, hsub⟩ := Amount.exists_sub_eq_ok (hdue ▸ Fee.due_le x.toNat hle)
  have hnet : Fee.net x.toNat r.toNat = a.toNat := by rw [ha, hdue, Fee.net]
  rw [if_neg hx, if_neg hr, exactInput, if_neg hx, Fee.trade_eq, if_neg hr, hnet]
  simp only [ok_bind, pure_eq_ok, throw_eq_error, hsub, Wide.add_wide]
  have hgrown : (BitVec.ofNat 128 (ri.toNat + a.toNat)).toNat = ri.toNat + a.toNat :=
    Wide.toNat_ofNat_lt (by have := ri.toNat_lt; have := a.toNat_lt; omega)
  by_cases h0 : ri.toNat + a.toNat = 0
  · rw [if_pos h0, (Wide.eq_zero_iff _).2 (hgrown.trans h0), mulDiv_zero, error_bind]
  · have hne : BitVec.ofNat 128 (ri.toNat + a.toNat) ≠ 0 := by
      rw [ne_eq, Wide.eq_zero_iff, hgrown]
      exact h0
    have hq : Rounding.down.quotient (ro.toNat * a.toNat) (ri.toNat + a.toNat) =
        purchase ri.toNat ro.toNat x.toNat r.toNat := by
      rw [purchase, hnet]
      rfl
    have hout : purchase ri.toNat ro.toNat x.toNat r.toNat < 2 ^ 64 :=
      (output_le _ _ _).trans_lt ro.toNat_lt
    rw [if_neg h0, mulDiv_amounts _ _ .down hne, hgrown, hq, ok_bind,
      Wide.amount_ofNat (by omega), if_pos hout, ok_bind]
    split_ifs with h
    · rw [error_bind]
    · rfl

theorem amounts_of_cost {a g : ℕ} (hwide : g < 2 ^ 128) (hle : a ≤ g) :
    (Wide.amount (BitVec.ofNat 128 g) .exactOutputIn >>= fun amountIn =>
      Wide.asAmount (BitVec.ofNat 128 a) >>= fun net =>
        amountIn.sub net >>= fun tradeFee => .ok (amountIn, tradeFee)) =
      if g < 2 ^ 64 then .ok (UInt64.ofNat g, UInt64.ofNat (g - a))
      else .error (.overflow .exactOutputIn) := by
  rw [Wide.amount_ofNat hwide]
  by_cases hfit : g < 2 ^ 64
  · have ha : a < 2 ^ 64 := hle.trans_lt hfit
    obtain ⟨fee, hfee, hsub⟩ := Amount.exists_sub_eq_ok
      (a := UInt64.ofNat g) (b := UInt64.ofNat a)
      (by rwa [Amount.toNat_ofNat_lt hfit, Amount.toNat_ofNat_lt ha])
    rw [Amount.toNat_ofNat_lt hfit, Amount.toNat_ofNat_lt ha] at hfee
    rw [if_pos hfit, if_pos hfit, ok_bind, Wide.asAmount_ofNat ha, ok_bind, hsub, ok_bind, ← hfee,
      UInt64.ofNat_toNat]
  · rw [if_neg hfit, if_neg hfit, error_bind]

/-- Every answer of exact output: past its three checks it is refused only if no amount holds the
cost. -/
theorem exactOutput_eq (ri ro y r : Amount) :
    exactOutput ri ro y r =
      if Fee.whole ≤ r then .error (.invalidFeeRate r .wholeInExactOutput)
      else if y = 0 then .error .zeroOutput
      else if ro ≤ y then .error (.insufficientLiquidity y ro)
      else
        let g := cost ri.toNat ro.toNat y.toNat r.toNat
        if g < 2 ^ 64 then
          .ok (UInt64.ofNat g, UInt64.ofNat (g - input ri.toNat ro.toNat y.toNat))
        else .error (.overflow (if g < 2 ^ 128 then .exactOutputIn else .mulDiv)) := by
  by_cases hr : Fee.whole ≤ r
  · rw [if_pos hr, exactOutput, if_pos hr, throw_eq_error, error_bind]
  by_cases hy : y = 0
  · rw [if_neg hr, if_pos hy, exactOutput, if_neg hr, if_pos hy]
    simp only [error_bind, throw_eq_error]
  by_cases hlt : ro ≤ y
  · rw [if_neg hr, if_neg hy, if_pos hlt, exactOutput, if_neg hr, if_neg hy, if_pos hlt]
    simp only [error_bind, throw_eq_error]
  have hrate : r.toNat < 1000000 := not_le.1 (UInt64.le_iff_toNat_le.not.1 hr)
  have hless : y.toNat < ro.toNat := not_le.1 (UInt64.le_iff_toNat_le.not.1 hlt)
  have hwhole : Fee.whole.toNat = 1000000 := rfl
  obtain ⟨rest, hrest, hsub⟩ := Amount.exists_sub_eq_ok hless.le
  obtain ⟨kept, hkept, hkeep⟩ := Amount.exists_sub_eq_ok (hwhole ▸ hrate.le)
  rw [if_neg hr, if_neg hy, if_neg hlt, exactOutput, if_neg hr, if_neg hy, if_neg hlt]
  -- Both divisors are differences that the checks have made positive.
  have hin : Rounding.up.quotient (ri.toNat * y.toNat) rest.toNat =
    input ri.toNat ro.toNat y.toNat := by rw [hrest]; rfl
  have hcost : Rounding.up.quotient (input ri.toNat ro.toNat y.toNat * 1000000) kept.toNat =
    cost ri.toNat ro.toNat y.toNat r.toNat := by rw [hkept]; rfl
  have hafter : mulDiv ri.wide y.wide rest.wide .up =
      .ok (BitVec.ofNat 128 (input ri.toNat ro.toNat y.toNat)) := by
    rw [mulDiv_amounts _ _ .up (Amount.wide_ne_zero (by omega)), Amount.toNat_wide, hin]
  have hgross := mulDiv_eq (BitVec.ofNat 128 (input ri.toNat ro.toNat y.toNat)) Fee.whole.wide
    kept.wide .up (Amount.wide_ne_zero (by omega))
  rw [Wide.toNat_ofNat_lt (input_lt ri ro hless), Amount.toNat_wide, Amount.toNat_wide, hwhole,
    hcost] at hgross
  have hin_le := input_le_cost ri.toNat ro.toNat y.toNat hrate
  simp only [ok_bind, pure_eq_ok, hsub, hkeep, hafter, hgross]
  by_cases hwide : cost ri.toNat ro.toNat y.toNat r.toNat < 2 ^ 128
  · rw [if_pos hwide, ok_bind, if_pos hwide]
    exact amounts_of_cost hwide hin_le
  · rw [if_neg hwide, if_neg hwide, if_neg (by omega), error_bind]

theorem purchase_le (ri ro x r : ℕ) : purchase ri ro x r ≤ ro := output_le _ _ _

theorem purchase_lt {ri ro : ℕ} (x r : ℕ) (hri : 0 < ri) (hro : 0 < ro) :
    purchase ri ro x r < ro := output_lt _ hri hro

theorem net_pos_of_purchase_pos {ri ro x r : ℕ} (h : 0 < purchase ri ro x r) :
    0 < Fee.net x r := by
  by_contra h0
  rw [purchase, output, Nat.eq_zero_of_not_pos h0, Nat.mul_zero, Nat.zero_div] at h
  exact lt_irrefl 0 h

theorem rate_lt_of_purchase_pos {ri ro x r : ℕ} (hr : r ≤ 1000000) (h : 0 < purchase ri ro x r) :
    r < 1000000 := by
  apply hr.lt_of_ne
  rintro rfl
  have hnet := net_pos_of_purchase_pos h
  rw [Fee.net_whole] at hnet
  exact lt_irrefl 0 hnet

theorem exactInput_eq_ok_iff {ri ro x r y f : Amount} :
    exactInput ri ro x r = .ok (y, f) ↔
      0 < ri.toNat ∧ r.toNat ≤ 1000000 ∧ 0 < y.toNat ∧
        y.toNat = purchase ri.toNat ro.toNat x.toNat r.toNat ∧
          f.toNat = Fee.due x.toNat r.toNat := by
  have hp : (UInt64.ofNat (purchase ri.toNat ro.toNat x.toNat r.toNat)).toNat =
      purchase ri.toNat ro.toNat x.toNat r.toNat := toNat_output _ _ _
  rw [exactInput_eq]
  dsimp only
  constructor
  · intro h
    split_ifs at h with hx hr h0 hnone
    obtain ⟨rfl, rfl⟩ := Prod.mk.inj (Except.ok.inj h)
    have hle : r.toNat ≤ 1000000 := not_lt.1 ((Fee.lt_whole_iff r).not.1 hr)
    rw [not_or, UInt64.le_iff_toNat_le, Amount.ne_zero_iff, hp] at hnone
    refine ⟨?_, hle, by rw [hp]; exact hnone.1, hp, Fee.toNat_due x hle⟩
    -- An empty reserve sells the whole of the other, which the last check refuses.
    by_contra hri
    rw [Nat.eq_zero_of_not_pos hri] at hnone
    exact hnone.2 (output_of_empty _ (net_pos_of_purchase_pos hnone.1)).ge
  · rintro ⟨hri, hr, hpos, hy, hf⟩
    have hnet : 0 < Fee.net x.toNat r.toNat := net_pos_of_purchase_pos (hy ▸ hpos)
    have hx : ¬x = 0 := (Amount.ne_zero_iff x).2 (hnet.trans_le (Fee.net_le _ _))
    have hsold : ¬(y = 0 ∨ ro ≤ y) := by
      have hro : 0 < ro.toNat := hpos.trans_le (hy ▸ purchase_le _ _ _ _)
      rw [not_or, Amount.ne_zero_iff, UInt64.le_iff_toNat_le, not_le]
      exact ⟨hpos, hy ▸ purchase_lt _ _ hri hro⟩
    rw [if_neg hx, if_neg ((Fee.lt_whole_iff r).not.2 (not_lt.2 hr)), if_neg (by omega), ← hy,
      ← hf, UInt64.ofNat_toNat, UInt64.ofNat_toNat]
    exact if_neg hsold

theorem lt_of_exactInput {ri ro x r y f : Amount} (h : exactInput ri ro x r = .ok (y, f)) :
    y.toNat < ro.toNat := by
  obtain ⟨hri, -, hpos, hy, -⟩ := exactInput_eq_ok_iff.1 h
  have hro : 0 < ro.toNat := hpos.trans_le (hy ▸ purchase_le _ _ _ _)
  rw [hy]
  exact purchase_lt _ _ hri hro

theorem exactOutput_eq_ok_iff {ri ro y r g f : Amount} :
    exactOutput ri ro y r = .ok (g, f) ↔
      r.toNat < 1000000 ∧ 0 < y.toNat ∧ y.toNat < ro.toNat ∧
        g.toNat = cost ri.toNat ro.toNat y.toNat r.toNat ∧
          f.toNat = Fee.due g.toNat r.toNat := by
  rw [exactOutput_eq]
  dsimp only
  constructor
  · intro h
    split_ifs at h with hr hy hlt hfit
    obtain ⟨rfl, rfl⟩ := Prod.mk.inj (Except.ok.inj h)
    rw [UInt64.le_iff_toNat_le, not_le] at hr hlt
    have hg := Amount.toNat_ofNat_lt hfit
    refine ⟨hr, (Amount.ne_zero_iff y).1 hy, hlt, hg, ?_⟩
    rw [hg, cost, Fee.due_gross _ hr]
    exact Amount.toNat_ofNat_lt (Nat.sub_le _ _ |>.trans_lt hfit)
  · rintro ⟨hr, hpos, hlt, hg, hf⟩
    have hfit : cost ri.toNat ro.toNat y.toNat r.toNat < 2 ^ 64 := hg ▸ g.toNat_lt
    rw [hg, cost, Fee.due_gross _ hr, ← cost] at hf
    rw [if_neg (by rw [UInt64.le_iff_toNat_le]; exact not_le.2 hr),
      if_neg ((Amount.ne_zero_iff y).2 hpos),
      if_neg (by rw [UInt64.le_iff_toNat_le]; exact not_le.2 hlt)]
    rw [if_pos hfit, ← hf, ← hg, UInt64.ofNat_toNat, UInt64.ofNat_toNat]

/-- What the fee leaves of the payment that exact output asks for is what the curve asks. -/
theorem sub_fee_of_exactOutput {ri ro y r g f : Amount} (h : exactOutput ri ro y r = .ok (g, f)) :
    g.toNat - f.toNat = input ri.toNat ro.toNat y.toNat := by
  obtain ⟨hr, -, -, hg, hf⟩ := exactOutput_eq_ok_iff.1 h
  rw [hf, ← Fee.net, hg, cost, Fee.net_gross _ hr]

end ConstantProduct.Curve
