import Mathlib
import ConstantProduct.Fee
import ConstantProduct.Proofs.Quotient

namespace ConstantProduct

namespace Fee

def due (payment rate : ℕ) : ℕ := payment * rate ⌈/⌉ 1000000

def net (payment rate : ℕ) : ℕ := payment - due payment rate

/-- The least payment of which the trade fee leaves `a`. -/
def gross (a rate : ℕ) : ℕ := a * 1000000 ⌈/⌉ (1000000 - rate)

theorem due_le (x : ℕ) {r : ℕ} (hr : r ≤ 1000000) : due x r ≤ x := by
  rw [due, ceilDiv_le_iff_le_mul (by norm_num), Nat.mul_comm]
  exact Nat.mul_le_mul_right x hr

theorem mul_le_due (x r : ℕ) : x * r ≤ 1000000 * due x r :=
  (ceilDiv_le_iff_le_mul (by norm_num)).1 le_rfl

theorem due_pos {x r : ℕ} (hx : 0 < x) (hr : 0 < r) : 0 < due x r := by
  have hle := mul_le_due x r
  have hpos := Nat.mul_pos hx hr
  omega

theorem due_mono {x y : ℕ} (h : x ≤ y) (r : ℕ) : due x r ≤ due y r := by
  rw [due, ceilDiv_le_iff_le_mul (by norm_num)]
  exact (Nat.mul_le_mul_right r h).trans (mul_le_due y r)

/-- A payment in two parts is charged no less than the payment in one. -/
theorem due_add_le (x y r : ℕ) : due (x + y) r ≤ due x r + due y r := by
  rw [due, ceilDiv_le_iff_le_mul (by norm_num), Nat.add_mul, Nat.mul_add]
  exact Nat.add_le_add (mul_le_due x r) (mul_le_due y r)

theorem toNat_due (x : Amount) {r : ℕ} (hr : r ≤ 1000000) :
    (UInt64.ofNat (due x.toNat r)).toNat = due x.toNat r :=
  Amount.toNat_ofNat_lt ((due_le _ hr).trans_lt x.toNat_lt)

theorem net_le (x r : ℕ) : net x r ≤ x := Nat.sub_le _ _

theorem net_add_due (x : ℕ) {r : ℕ} (hr : r ≤ 1000000) : net x r + due x r = x :=
  Nat.sub_add_cancel (due_le x hr)

theorem net_whole (x : ℕ) : net x 1000000 = 0 := by
  have hdue : due x 1000000 = x := by
    rw [due, Nat.mul_comm]
    exact smul_ceilDiv (by norm_num) x
  rw [net, hdue, Nat.sub_self]

theorem le_net_iff {a x r : ℕ} (hr : r ≤ 1000000) :
    a ≤ net x r ↔ a * 1000000 ≤ x * (1000000 - r) := by
  have hx := due_le x hr
  have hsub : x * (1000000 - r) + x * r = x * 1000000 := by
    rw [← Nat.mul_add, Nat.sub_add_cancel hr]
  -- Beyond the payment itself both sides fail, so that no subtraction below is cut off at zero.
  rcases Nat.lt_or_ge x a with hlt | hle
  · have hl : ¬a ≤ net x r := fun h => absurd (h.trans (net_le x r)) (not_le.2 hlt)
    have hg : ¬a * 1000000 ≤ x * (1000000 - r) := by omega
    exact iff_of_false hl hg
  · have hdue : due x r ≤ x - a ↔ x * r ≤ 1000000 * (x - a) :=
      ceilDiv_le_iff_le_mul (by norm_num)
    have hle' : a ≤ net x r ↔ due x r ≤ x - a := by
      unfold net
      omega
    rw [hle', hdue]
    omega

theorem gross_le_iff {a x r : ℕ} (hr : r < 1000000) : gross a r ≤ x ↔ a ≤ net x r := by
  rw [le_net_iff hr.le, gross, ceilDiv_le_iff_le_mul (by omega), Nat.mul_comm x]

theorem le_gross (a : ℕ) {r : ℕ} (hr : r < 1000000) : a ≤ gross a r :=
  ((gross_le_iff hr).1 le_rfl).trans (net_le _ _)

/-- A grossed-up payment leaves no more than was asked. -/
theorem net_gross (a : ℕ) {r : ℕ} (hr : r < 1000000) : net (gross a r) r = a := by
  apply le_antisymm
  · by_contra hlt
    have hmore : (a + 1) * 1000000 ≤ gross a r * (1000000 - r) :=
      (le_net_iff hr.le).1 (not_le.1 hlt)
    have hpos : 0 < gross a r := by
      by_contra h0
      rw [Nat.eq_zero_of_not_pos h0] at hmore
      omega
    -- Otherwise one less would leave enough as well.
    have hless : ¬gross a r ≤ gross a r - 1 := by omega
    rw [gross_le_iff hr, le_net_iff hr.le, Nat.sub_mul] at hless
    omega
  · exact (gross_le_iff hr).1 le_rfl

theorem due_gross (a : ℕ) {r : ℕ} (hr : r < 1000000) : due (gross a r) r = gross a r - a := by
  have h := net_add_due (gross a r) hr.le
  rw [net_gross a hr] at h
  omega

theorem lt_whole_iff (rate : Amount) : whole < rate ↔ 1000000 < rate.toNat :=
  UInt64.lt_iff_toNat_lt

theorem whole_wide_ne_zero : whole.wide ≠ 0 := Amount.wide_ne_zero (by decide)

/-- Every answer of the trade fee. -/
theorem trade_eq (amount rate : Amount) :
    trade amount rate =
      if whole < rate then .error (.invalidFeeRate rate .aboveWhole)
      else .ok (UInt64.ofNat (due amount.toNat rate.toNat)) := by
  by_cases hr : whole < rate
  · rw [if_pos hr, trade, checkRate, if_pos hr]
    rfl
  · have hle : rate.toNat ≤ 1000000 := not_lt.1 ((lt_whole_iff rate).not.1 hr)
    have hdue : due amount.toNat rate.toNat < 2 ^ 64 :=
      (due_le amount.toNat hle).trans_lt amount.toNat_lt
    have hq : Rounding.up.quotient (amount.toNat * rate.toNat) whole.wide.toNat =
      due amount.toNat rate.toNat := rfl
    rw [if_neg hr, trade, checkRate, if_neg hr]
    simp only [ok_bind, mulDiv_amounts _ _ .up whole_wide_ne_zero, hq]
    rw [Wide.amount_ofNat (by omega), if_pos hdue]

theorem trade_eq_ok_iff {amount rate fee : Amount} :
    trade amount rate = .ok fee ↔
      rate.toNat ≤ 1000000 ∧ fee.toNat = due amount.toNat rate.toNat := by
  rw [trade_eq]
  constructor
  · intro h
    split_ifs at h with hr
    have hle : rate.toNat ≤ 1000000 := not_lt.1 ((lt_whole_iff rate).not.1 hr)
    obtain rfl := Except.ok.inj h
    exact ⟨hle, toNat_due amount hle⟩
  · rintro ⟨hle, hfee⟩
    rw [if_neg ((lt_whole_iff rate).not.2 (not_lt.2 hle)), ← hfee, UInt64.ofNat_toNat]

def part (fee rate : ℕ) : ℕ := fee * rate / 1000000

theorem part_le (fee : ℕ) {rate : ℕ} (hr : rate ≤ 1000000) : part fee rate ≤ fee := by
  apply Nat.div_le_of_le_mul
  rw [Nat.mul_comm]
  exact Nat.mul_le_mul_right fee hr

theorem part_bounds (fee rate : ℕ) :
    1000000 * part fee rate ≤ fee * rate ∧ fee * rate < 1000000 * part fee rate + 1000000 :=
  ⟨Nat.mul_div_le _ _, Nat.lt_mul_div_succ _ (by norm_num)⟩

/-- Shares whose rates do not exceed the whole do not exceed the fee. -/
theorem part_add_part_le (fee : ℕ) {p f : ℕ} (h : p + f ≤ 1000000) :
    part fee p + part fee f ≤ fee :=
  calc
    _ ≤ (fee * p + fee * f) / 1000000 := Nat.div_add_div_le_add_div
    _ = part fee (p + f) := by rw [part, Nat.mul_add]
    _ ≤ fee := part_le fee h

theorem share_eq (fee : Amount) {rate : Amount} (hr : rate.toNat ≤ 1000000) :
    share fee rate = .ok (UInt64.ofNat (part fee.toNat rate.toNat)) := by
  have hpart : part fee.toNat rate.toNat < 2 ^ 64 := (part_le fee.toNat hr).trans_lt fee.toNat_lt
  have hq : Rounding.down.quotient (fee.toNat * rate.toNat) whole.wide.toNat =
    part fee.toNat rate.toNat := rfl
  simp only [share, ok_bind, mulDiv_amounts _ _ .down whole_wide_ne_zero, hq]
  rw [Wide.amount_ofNat (by omega), if_pos hpart]

/-- Every answer of the check of two shares. The sum of rates that pass alone does not overflow. -/
theorem checkShares_eq (p f : Amount) :
    checkShares p f =
      if whole < p then .error (.invalidFeeRate p .aboveWhole)
      else if whole < f then .error (.invalidFeeRate f .aboveWhole)
      else if 1000000 < p.toNat + f.toNat then
        .error (.invalidFeeRate (UInt64.ofNat (p.toNat + f.toNat)) .sumAboveWhole)
      else .ok () := by
  by_cases hp : whole < p
  · rw [if_pos hp, checkShares, checkRate, if_pos hp]
    rfl
  by_cases hf : whole < f
  · rw [if_neg hp, if_pos hf, checkShares, checkRate, checkRate, if_neg hp, if_pos hf]
    rfl
  have hsum : p.toNat + f.toNat < 2 ^ 64 := by
    rw [lt_whole_iff] at hp hf
    omega
  have hwhole : whole < UInt64.ofNat (p.toNat + f.toNat) ↔ 1000000 < p.toNat + f.toNat := by
    rw [lt_whole_iff, Amount.toNat_ofNat_lt hsum]
  rw [if_neg hp, if_neg hf, checkShares, checkRate, checkRate, if_neg hp, if_neg hf]
  simp only [ok_bind, pure_eq_ok, throw_eq_error, Amount.add_eq_ok hsum, hwhole]

/-- Every answer of the split of a fee. -/
theorem split_eq (fee p f : Amount) :
    split fee p f =
      if whole < p then .error (.invalidFeeRate p .aboveWhole)
      else if whole < f then .error (.invalidFeeRate f .aboveWhole)
      else if 1000000 < p.toNat + f.toNat then
        .error (.invalidFeeRate (UInt64.ofNat (p.toNat + f.toNat)) .sumAboveWhole)
      else .ok ⟨fee, UInt64.ofNat (part fee.toNat p.toNat),
        UInt64.ofNat (part fee.toNat f.toNat)⟩ := by
  rw [split, shares, checkShares_eq]
  split_ifs with hp hf hs
  · rfl
  · rfl
  · rfl
  · rw [lt_whole_iff, not_lt] at hp hf
    simp only [ok_bind, pure_eq_ok, share_eq fee hp, share_eq fee hf]

/-- A fee is split just when its shares do not exceed the whole, and into just these. -/
theorem split_eq_ok_iff {fee p f : Amount} {s : FeeSplit} :
    split fee p f = .ok s ↔ p.toNat + f.toNat ≤ 1000000 ∧ s.tradeFee = fee ∧
      s.protocolFee.toNat = part fee.toNat p.toNat ∧
        s.fundFee.toNat = part fee.toNat f.toNat := by
  have hfee := fee.toNat_lt
  simp only [split_eq, lt_whole_iff]
  constructor
  · intro h
    split_ifs at h with hp hf hs
    obtain rfl := Except.ok.inj h
    have hprotocol := part_le fee.toNat (not_lt.1 hp)
    have hfund := part_le fee.toNat (not_lt.1 hf)
    exact ⟨not_lt.1 hs, rfl, Amount.toNat_ofNat_lt (by omega), Amount.toNat_ofNat_lt (by omega)⟩
  · rintro ⟨hsum, rfl, hprotocol, hfund⟩
    rw [if_neg (by omega), if_neg (by omega), if_neg (by omega), ← hprotocol, ← hfund,
      UInt64.ofNat_toNat, UInt64.ofNat_toNat]

theorem exists_split_iff {fee p f : Amount} :
    (∃ s, split fee p f = .ok s) ↔ p.toNat + f.toNat ≤ 1000000 := by
  constructor
  · rintro ⟨s, h⟩
    exact (split_eq_ok_iff.1 h).1
  · intro h
    have hfee := fee.toNat_lt
    have hprotocol := part_le fee.toNat (show p.toNat ≤ 1000000 by omega)
    have hfund := part_le fee.toNat (show f.toNat ≤ 1000000 by omega)
    exact ⟨⟨fee, UInt64.ofNat (part fee.toNat p.toNat), UInt64.ofNat (part fee.toNat f.toNat)⟩,
      split_eq_ok_iff.2 ⟨h, rfl, Amount.toNat_ofNat_lt (by omega),
        Amount.toNat_ofNat_lt (by omega)⟩⟩

theorem split_error_cases {fee p f : Amount} {e : Error} (h : split fee p f = .error e) :
    ∃ rate cause, e = .invalidFeeRate rate cause := by
  rw [split_eq] at h
  split_ifs at h <;> exact ⟨_, _, (Except.error.inj h).symm⟩

end Fee

theorem FeeSplit.exists_lpFee (s : FeeSplit)
    (h : s.protocolFee.toNat + s.fundFee.toNat ≤ s.tradeFee.toNat) :
    ∃ fee, s.lpFee = .ok fee ∧
      fee.toNat + s.protocolFee.toNat + s.fundFee.toNat = s.tradeFee.toNat := by
  obtain ⟨rest, hrest, hprotocol⟩ := Amount.exists_sub_eq_ok
    (a := s.tradeFee) (b := s.protocolFee) (by omega)
  obtain ⟨fee, hfee, hfund⟩ := Amount.exists_sub_eq_ok (a := rest) (b := s.fundFee) (by omega)
  refine ⟨fee, ?_, by omega⟩
  rw [lpFee, hprotocol, ok_bind, hfund]

end ConstantProduct
