import Mathlib
import ConstantProduct.Proofs.SwapCriterion

namespace ConstantProduct

namespace Error

def OfRate : Error → Prop
  | .invalidFeeRate .. => True
  | _ => False

/-- A word operation that nothing guards went wrong. -/
def OfFault : Error → Prop
  | .fault _ => True
  | _ => False

theorem OfPricing.not_fault {e : Error} (h : e.OfPricing) : ¬e.OfFault := by
  cases e <;> simp_all [OfPricing, OfFault]

theorem OfOverflow.not_fault {e : Error} (h : e.OfOverflow) : ¬e.OfFault := by
  cases e <;> simp_all [OfOverflow, OfFault]

theorem OfOverflow.not_rate {e : Error} (h : e.OfOverflow) : ¬e.OfRate := by
  cases e <;> simp_all [OfOverflow, OfRate]

end Error

namespace FeeTier

variable {t : FeeTier}

theorem validate_eq_ok_iff :
    t.validate = .ok () ↔ (∀ token, t.tradeRates.get token ≤ Fee.whole) ∧
      Fee.checkShares t.protocolRate t.fundRate = .ok () := by
  have hrate (rate : Amount) : Fee.checkRate rate = .ok () ↔ rate ≤ Fee.whole := by
    unfold Fee.checkRate
    split_ifs with h
    · simp [UInt64.not_le.2 h]
    · simp [UInt64.not_lt.1 h]
  constructor
  · intro h
    obtain ⟨⟨⟩, h0, h⟩ := bind_eq_ok.1 h
    obtain ⟨⟨⟩, h1, h⟩ := bind_eq_ok.1 h
    refine ⟨fun token => ?_, h⟩
    cases token with
    | zero => exact (hrate _).1 h0
    | one => exact (hrate _).1 h1
  · rintro ⟨h, hshares⟩
    have h0 : Fee.checkRate t.tradeRates.zero = .ok () := (hrate _).2 (h .zero)
    have h1 : Fee.checkRate t.tradeRates.one = .ok () := (hrate _).2 (h .one)
    rw [validate, h0, ok_bind, h1, ok_bind, hshares]

theorem validate_of_update {t' : FeeTier} {u : TierUpdate} (h : t.update u = .ok t') :
    t'.validate = .ok () := by
  obtain ⟨⟨⟩, hvalid, hnext⟩ := bind_eq_ok.1 h
  rwa [← Except.ok.inj hnext]

end FeeTier

theorem Fee.exists_split_of_checkShares {p f : Amount} (h : checkShares p f = .ok ())
    (fee : Amount) : ∃ fees, split fee p f = .ok fees := by
  rw [checkShares_eq] at h
  split_ifs at h with hp hf hs
  exact exists_split_iff.2 (not_lt.1 hs)

namespace Curve

variable {ri ro x y r : Amount} {e : Error}

theorem exactInput_refusal (h : exactInput ri ro x r = .error e) :
    e.OfPricing ∨ e = .divisionByZero .mulDiv := by
  rw [exactInput_eq] at h
  dsimp only at h
  split_ifs at h with hx hr h0 hy
  · cases h; exact .inl trivial
  · cases h; exact .inl trivial
  · exact .inr (Except.error.inj h).symm
  · cases h; exact .inl trivial

theorem lt_of_exactInput_rate (h : exactInput ri ro x r = .error e) (he : e.OfRate) :
    Fee.whole < r := by
  rw [exactInput_eq] at h
  dsimp only at h
  split_ifs at h with hx hr h0 hy
  · cases h; exact he.elim
  · exact hr
  · cases h; exact he.elim
  · cases h; exact he.elim

theorem le_of_exactOutput_rate (h : exactOutput ri ro y r = .error e) (he : e.OfRate) :
    Fee.whole ≤ r := by
  rw [exactOutput_eq] at h
  dsimp only at h
  split_ifs at h with hr hy hlt
  · exact hr
  all_goals cases h; exact he.elim

end Curve

namespace Quote

variable {d : Direction} {reserves : PerToken Amount} {order : Order} {tier : FeeTier} {e : Error}

theorem price_refusal (h : price d reserves order tier = .error e) :
    e.OfPricing ∨ e = .divisionByZero .mulDiv := by
  cases order with
  | exactInput x bound =>
    rcases bind_eq_error.1 h with h | ⟨⟨y, f⟩, -, h⟩
    · exact Curve.exactInput_refusal h
    rcases bind_eq_error.1 h with h | ⟨s, -, h⟩
    · exact .inl (Fee.split_error h)
    · cases h
  | exactOutput y bound =>
    rcases bind_eq_error.1 h with h | ⟨⟨g, f⟩, -, h⟩
    · exact .inl (Curve.exactOutput_error h)
    rcases bind_eq_error.1 h with h | ⟨s, -, h⟩
    · exact .inl (Fee.split_error h)
    · cases h

/-- Under a valid tier a rate is refused only where a purchase would be charged the whole. -/
theorem whole_of_rate_refused (hvalid : tier.validate = .ok ())
    (h : price d reserves order tier = .error e) (he : e.OfRate) :
    order.mode = .exactOutput ∧ tier.tradeRate d = Fee.whole := by
  obtain ⟨hrates, hshares⟩ := FeeTier.validate_eq_ok_iff.1 hvalid
  have hle : tier.tradeRate d ≤ Fee.whole := hrates d.sold
  have hsplit (fee : Amount) : Fee.split fee tier.protocolRate tier.fundRate ≠ .error e := by
    obtain ⟨fees, hfees⟩ := Fee.exists_split_of_checkShares hshares fee
    simp [hfees]
  cases order with
  | exactInput x bound =>
    rcases bind_eq_error.1 h with h | ⟨⟨y, f⟩, -, h⟩
    · exact absurd (Curve.lt_of_exactInput_rate h he) (UInt64.not_lt.2 hle)
    rcases bind_eq_error.1 h with h | ⟨s, -, h⟩
    · exact absurd h (hsplit f)
    · cases h
  | exactOutput y bound =>
    rcases bind_eq_error.1 h with h | ⟨⟨g, f⟩, -, h⟩
    · exact ⟨rfl, UInt64.le_antisymm hle (Curve.le_of_exactOutput_rate h he)⟩
    rcases bind_eq_error.1 h with h | ⟨s, -, h⟩
    · exact absurd h (hsplit f)
    · cases h

end Quote

namespace Ledger

variable {l : Ledger} {r : Request} {tier : FeeTier} {timestamp : Int64} {e : Error}

/-- Every refusal of a swap. -/
theorem stage_error_cases (h : l.stage r tier timestamp = .error e) :
    e = .poolNotActive l.pool.statusBits ∨ e = .poolNotOpen l.pool.openTime timestamp ∨
      l.quote r tier = .error e ∨ (∃ quoted bound, e = .slippageExceeded quoted bound) ∨
        e.OfOverflow ∨ e = .divisionByZero .price ∨
          ∃ latest, e = .staleTimestamp timestamp latest := by
  rcases bind_eq_error.1 h with h | ⟨-, -, h⟩
  · rw [Pool.ensureSwappable_eq] at h
    split_ifs at h
    · exact .inl (Except.error.inj h).symm
    · exact .inr (.inl (Except.error.inj h).symm)
  rcases bind_eq_error.1 h with h | ⟨q, hq, h⟩
  · exact .inr (.inr (.inl h))
  rcases bind_eq_error.1 h with h | ⟨-, -, h⟩
  · exact .inr (.inr (.inr (.inl (Order.checkBound_error h))))
  rcases bind_eq_error.1 h with h | ⟨p, -, h⟩
  · exact .inr (.inr (.inr (.inr (.inl ((quote_priced hq).2.book_error h)))))
  rcases bind_eq_error.1 h with h | ⟨prices, -, h⟩
  · rw [Pool.spotPrices_eq] at h
    split_ifs at h
    exact .inr (.inr (.inr (.inr (.inr (.inl (Except.error.inj h).symm)))))
  rcases bind_eq_error.1 h with h | ⟨staged, -, h⟩
  · exact .inr (.inr (.inr (.inr (.inr (.inr (Ring.stage_error h))))))
  · cases h

theorem quote_not_fault (h : l.quote r tier = .error e) : ¬e.OfFault := by
  rcases Quote.price_refusal h with h | rfl
  · exact h.not_fault
  · exact id

theorem stage_not_fault (h : l.stage r tier timestamp = .error e) : ¬e.OfFault := by
  rcases stage_error_cases h with rfl | rfl | h | ⟨_, _, rfl⟩ | h | rfl | ⟨_, rfl⟩
  · exact id
  · exact id
  · exact quote_not_fault h
  · exact id
  · exact h.not_fault
  · exact id
  · exact id

theorem quote_of_stage_rate (h : l.stage r tier timestamp = .error e) (he : e.OfRate) :
    l.quote r tier = .error e := by
  rcases stage_error_cases h with rfl | rfl | h | ⟨_, _, rfl⟩ | h | rfl | ⟨_, rfl⟩
  · exact he.elim
  · exact he.elim
  · exact h
  · exact he.elim
  · exact absurd he h.not_rate
  · exact he.elim
  · exact he.elim

end Ledger

end ConstantProduct
