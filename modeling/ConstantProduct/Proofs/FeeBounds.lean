import Mathlib
import ConstantProduct.Proofs.Fee

namespace ConstantProduct.Fee

/-- What two shares leave of a fee is what the rates leave of it, and less than two units more. -/
theorem rest_bounds (fee : ℕ) {p f : ℕ} (h : p + f ≤ 1000000) :
    fee * (1000000 - p - f) ≤ (fee - part fee p - part fee f) * 1000000 ∧
      (fee - part fee p - part fee f) * 1000000 < fee * (1000000 - p - f) + 2000000 := by
  obtain ⟨hp, hp'⟩ := part_bounds fee p
  obtain ⟨hf, hf'⟩ := part_bounds fee f
  have hshares := part_add_part_le fee h
  have hrates : fee * (1000000 - p - f) + fee * p + fee * f = fee * 1000000 := by
    rw [← Nat.mul_add, ← Nat.mul_add]
    congr 1
    omega
  omega

section Trade

variable {a b rate : Amount}

theorem exists_trade_iff : (∃ fee, trade a rate = .ok fee) ↔ rate.toNat ≤ 1000000 := by
  constructor
  · rintro ⟨fee, h⟩
    exact (trade_eq_ok_iff.1 h).1
  · intro h
    exact ⟨_, trade_eq_ok_iff.2 ⟨h, toNat_due a h⟩⟩

theorem trade_error {e : Error} (h : trade a rate = .error e) :
    e = .invalidFeeRate rate .aboveWhole := by
  rw [trade_eq] at h
  split_ifs at h
  exact (Except.error.inj h).symm

theorem trade_add {feeA feeB feeSum : Amount} (hfit : a.toNat + b.toNat ≤ Amount.max.toNat)
    (ha : trade a rate = .ok feeA) (hb : trade b rate = .ok feeB)
    (hsum : trade (a + b) rate = .ok feeSum) :
    feeA ≤ feeSum ∧ feeSum.toNat ≤ feeA.toNat + feeB.toNat := by
  obtain ⟨-, ha⟩ := trade_eq_ok_iff.1 ha
  obtain ⟨-, hb⟩ := trade_eq_ok_iff.1 hb
  obtain ⟨-, hsum⟩ := trade_eq_ok_iff.1 hsum
  have hmax : Amount.max.toNat = 2 ^ 64 - 1 := rfl
  have hadd : (a + b).toNat = a.toNat + b.toNat := by
    rw [UInt64.toNat_add]
    exact Nat.mod_eq_of_lt (by omega)
  rw [UInt64.le_iff_toNat_le, ha, hb, hsum, hadd]
  exact ⟨due_mono (Nat.le_add_right _ _) _, due_add_le _ _ _⟩

end Trade

section Split

variable {t p f : Amount}

theorem lpFee_of_split {s : FeeSplit} (h : split t p f = .ok s) :
    ∃ lp, s.lpFee = .ok lp ∧
      lp.toNat = t.toNat - s.protocolFee.toNat - s.fundFee.toNat ∧
      t.toNat * (1000000 - p.toNat - f.toNat) ≤ lp.toNat * 1000000 ∧
      lp.toNat * 1000000 < t.toNat * (1000000 - p.toNat - f.toNat) + 2000000 := by
  obtain ⟨hsum, rfl, hprotocol, hfund⟩ := split_eq_ok_iff.1 h
  have hshares := part_add_part_le s.tradeFee.toNat hsum
  rw [← hprotocol, ← hfund] at hshares
  obtain ⟨lp, hlp, hrest⟩ := s.exists_lpFee hshares
  have heq : lp.toNat = s.tradeFee.toNat - s.protocolFee.toNat - s.fundFee.toNat := by omega
  have hbounds := rest_bounds s.tradeFee.toNat hsum
  rw [← hprotocol, ← hfund, ← heq] at hbounds
  exact ⟨lp, hlp, heq, hbounds⟩

end Split

/-- The fees conserve what is charged, and cannot be gamed. A rate up to the whole, and only such a
rate, gives a fee; it does not exceed the payment, is not zero unless the payment or the rate is,
and two payments are charged no less than one of both, nor one of them more. Rates that do not
exceed the whole together, and only such rates, split a fee; the shares do not exceed it, and the
rest is what the rates leave of it or less than two units more. What is refused is refused for a
rate: nothing overflows. -/
theorem fees_conserved (a b rate t p f : Amount) :
    ((∃ fee, trade a rate = .ok fee) ↔ rate.toNat ≤ 1000000) ∧
    (∀ fee, trade a rate = .ok fee → fee ≤ a ∧ (0 < a → 0 < rate → 0 < fee)) ∧
    (a.toNat + b.toNat ≤ Amount.max.toNat → ∀ feeA feeB feeSum, trade a rate = .ok feeA →
      trade b rate = .ok feeB → trade (a + b) rate = .ok feeSum →
        feeA ≤ feeSum ∧ feeSum.toNat ≤ feeA.toNat + feeB.toNat) ∧
    ((∃ s, split t p f = .ok s) ↔
      p.toNat ≤ 1000000 ∧ f.toNat ≤ 1000000 ∧ p.toNat + f.toNat ≤ 1000000) ∧
    (∀ s, split t p f = .ok s → s.tradeFee = t ∧
      s.protocolFee.toNat + s.fundFee.toNat ≤ t.toNat ∧ ∃ lp, s.lpFee = .ok lp ∧
        lp.toNat = t.toNat - s.protocolFee.toNat - s.fundFee.toNat ∧
        t.toNat * (1000000 - p.toNat - f.toNat) ≤ lp.toNat * 1000000 ∧
        lp.toNat * 1000000 < t.toNat * (1000000 - p.toNat - f.toNat) + 2000000) ∧
    (∀ e, trade a rate = .error e → e = .invalidFeeRate rate .aboveWhole) ∧
    ∀ e, split t p f = .error e → ∃ refused cause, e = .invalidFeeRate refused cause := by
  refine ⟨exists_trade_iff, ?_, ?_, ?_, ?_, fun e => trade_error, fun e => split_error_cases⟩
  · intro fee h
    obtain ⟨hrate, hfee⟩ := trade_eq_ok_iff.1 h
    rw [UInt64.le_iff_toNat_le, UInt64.lt_iff_toNat_lt, UInt64.lt_iff_toNat_lt,
      UInt64.lt_iff_toNat_lt, hfee]
    exact ⟨due_le _ hrate, due_pos⟩
  · intro hfit feeA feeB feeSum
    exact trade_add hfit
  · rw [exists_split_iff]
    omega
  · intro s h
    obtain ⟨hsum, htrade, hprotocol, hfund⟩ := split_eq_ok_iff.1 h
    refine ⟨htrade, ?_, lpFee_of_split h⟩
    rw [hprotocol, hfund]
    exact part_add_part_le _ hsum

/-- The largest amount is charged no more than its parts, and a small fee leaves its providers more
than the rates do. -/
theorem trade_max_le_add :
    (∃ feeA feeB feeSum, trade (Amount.max - 1) 2500 = .ok feeA ∧ trade 1 2500 = .ok feeB ∧
      trade Amount.max 2500 = .ok feeSum ∧ feeA ≤ feeSum ∧
        feeSum.toNat ≤ feeA.toNat + feeB.toNat ∧ 0 < feeB) ∧
    ∃ s lp, split 999 120000 40000 = .ok s ∧ s.lpFee = .ok lp ∧
      lp.toNat = 999 - s.protocolFee.toNat - s.fundFee.toNat ∧
        999 * 840000 ≤ lp.toNat * 1000000 := by
  have ha : trade (Amount.max - 1) 2500 = .ok 46116860184273880 := by decide +kernel
  have hb : trade 1 2500 = .ok 1 := by decide +kernel
  have hsum : trade (Amount.max - 1 + 1) 2500 = .ok 46116860184273880 := by decide +kernel
  have hsplit : split 999 120000 40000 = .ok ⟨999, 119, 39⟩ := by decide +kernel
  obtain ⟨-, -, hadd, -, hshares, -⟩ :=
    fees_conserved (Amount.max - 1) 1 2500 999 120000 40000
  obtain ⟨-, hpos, -⟩ := fees_conserved 1 1 2500 999 120000 40000
  obtain ⟨hle, hge⟩ := hadd (by decide) _ _ _ ha hb hsum
  obtain ⟨-, -, lp, hlp, hrest, hlow, -⟩ := hshares _ hsplit
  exact ⟨⟨_, _, _, ha, hb, hsum, hle, hge, (hpos _ hb).2 (by decide) (by decide)⟩,
    _, lp, hsplit, hlp, hrest, hlow⟩

end ConstantProduct.Fee
