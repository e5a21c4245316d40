import Mathlib
import ConstantProduct.Proofs.Pricing

namespace ConstantProduct.Curve

/-- Exact input sells at least `y` for the payment `x`. -/
def Delivers (reserveIn reserveOut feeRate x y : Amount) : Prop :=
  ∃ z fee, exactInput reserveIn reserveOut x feeRate = .ok (z, fee) ∧ y ≤ z

variable {ri ro r : Amount}

theorem delivers_iff {x y : Amount} (hri : 0 < ri) (hr : r < 1000000) (hpos : 0 < y)
    (hy : y < ro) :
    Delivers ri ro r x y ↔ cost ri.toNat ro.toNat y.toNat r.toNat ≤ x.toNat := by
  have hy' : y.toNat < ro.toNat := UInt64.lt_iff_toNat_lt.1 hy
  have hri' : 0 < ri.toNat := UInt64.lt_iff_toNat_lt.1 hri
  have hpos' : 0 < y.toNat := UInt64.lt_iff_toNat_lt.1 hpos
  have hr' : r.toNat < 1000000 := UInt64.lt_iff_toNat_lt.1 hr
  rw [cost_le_iff hri' hy' hr']
  constructor
  · rintro ⟨z, fee, hz, hle⟩
    obtain ⟨-, -, -, hz, -⟩ := exactInput_eq_ok_iff.1 hz
    exact hz ▸ UInt64.le_iff_toNat_le.1 hle
  · intro hle
    have hz : (UInt64.ofNat (purchase ri.toNat ro.toNat x.toNat r.toNat)).toNat =
        purchase ri.toNat ro.toNat x.toNat r.toNat := toNat_output _ _ _
    refine ⟨_, _, exactInput_eq_ok_iff.2 ⟨hri', hr'.le, ?_, hz, Fee.toNat_due x hr'.le⟩, ?_⟩
    · rw [hz]
      exact hpos'.trans_le hle
    · rw [UInt64.le_iff_toNat_le, hz]
      exact hle

theorem exists_exactOutput_of_cost_le {x y : Amount} (hr : r.toNat < 1000000) (hpos : 0 < y.toNat)
    (hy : y.toNat < ro.toNat) (hx : cost ri.toNat ro.toNat y.toNat r.toNat ≤ x.toNat) :
    ∃ g fee, exactOutput ri ro y r = .ok (g, fee) ∧ g ≤ x := by
  have hfit : cost ri.toNat ro.toNat y.toNat r.toNat < 2 ^ 64 := hx.trans_lt x.toNat_lt
  have hg := Amount.toNat_ofNat_lt hfit
  have hfee := Amount.toNat_ofNat_lt ((Fee.due_le _ hr.le).trans_lt hfit)
  refine ⟨_, _, exactOutput_eq_ok_iff.2 ⟨hr, hpos, hy, hg, hg.symm ▸ hfee⟩, ?_⟩
  rw [UInt64.le_iff_toNat_le, hg]
  exact hx

theorem exists_exactOutput_le {x y : Amount} (hri : 0 < ri) (hr : r < 1000000) (hpos : 0 < y)
    (hy : y < ro) (h : Delivers ri ro r x y) :
    ∃ g fee, exactOutput ri ro y r = .ok (g, fee) ∧ g ≤ x :=
  exists_exactOutput_of_cost_le (UInt64.lt_iff_toNat_lt.1 hr) (UInt64.lt_iff_toNat_lt.1 hpos)
    (UInt64.lt_iff_toNat_lt.1 hy) ((delivers_iff hri hr hpos hy).1 h)

/-- What exact output asks for a purchase is the least payment that delivers it. -/
theorem exactOutput_isLeast {y g : Amount} (hri : 0 < ri) (hr : r < 1000000) (hpos : 0 < y)
    (hy : y < ro) :
    (∃ fee, exactOutput ri ro y r = .ok (g, fee)) ↔ IsLeast {x | Delivers ri ro r x y} g := by
  constructor
  · rintro ⟨fee, hg⟩
    obtain ⟨-, -, -, hg, -⟩ := exactOutput_eq_ok_iff.1 hg
    constructor
    · exact (delivers_iff hri hr hpos hy).2 hg.ge
    · intro x hx
      rw [UInt64.le_iff_toNat_le, hg]
      exact (delivers_iff hri hr hpos hy).1 hx
  · rintro ⟨hmem, hleast⟩
    -- The least payment that delivers has a quote; the quote is such a payment itself.
    obtain ⟨g', fee, hg', hle⟩ := exists_exactOutput_le hri hr hpos hy hmem
    obtain ⟨-, -, -, hcost, -⟩ := exactOutput_eq_ok_iff.1 hg'
    have hge : g ≤ g' := hleast ((delivers_iff hri hr hpos hy).2 hcost.ge)
    exact ⟨fee, UInt64.le_antisymm hge hle ▸ hg'⟩

/-- Exact output overflows only where no payment delivers the purchase. -/
theorem exactOutput_overflow_iff {y : Amount} (hri : 0 < ri) (hr : r < 1000000) (hpos : 0 < y)
    (hy : y < ro) :
    (∃ c, exactOutput ri ro y r = .error (.overflow c)) ↔ ∀ x, ¬Delivers ri ro r x y := by
  constructor
  · rintro ⟨c, hc⟩ x hx
    obtain ⟨g, fee, hg, -⟩ := exists_exactOutput_le hri hr hpos hy hx
    rw [hg] at hc
    cases hc
  · intro hnone
    have hr' : ¬Fee.whole ≤ r := UInt64.not_le.2 hr
    have hpos' : ¬y = 0 := (Amount.ne_zero_iff y).2 (UInt64.lt_iff_toNat_lt.1 hpos)
    have hlarge : ¬cost ri.toNat ro.toNat y.toNat r.toNat < 2 ^ 64 := by
      intro hfit
      apply hnone (UInt64.ofNat (cost ri.toNat ro.toNat y.toNat r.toNat))
      rw [delivers_iff hri hr hpos hy, Amount.toNat_ofNat_lt hfit]
    rw [exactOutput_eq, if_neg hr', if_neg hpos', if_neg (UInt64.not_le.2 hy)]
    exact ⟨_, if_neg hlarge⟩

/-- Exact output is the exact least inverse of exact input, so a delivered amount can be quoted
again for no more than was paid, and a quoted cost buys what it was quoted for. -/
theorem exactOutput_least_inverse (reserveIn reserveOut feeRate : Amount) (hri : 0 < reserveIn)
    (hr : feeRate < 1000000) :
    (∀ y, 0 < y → y < reserveOut →
      (∀ g, (∃ fee, exactOutput reserveIn reserveOut y feeRate = .ok (g, fee)) ↔
        IsLeast {x | Delivers reserveIn reserveOut feeRate x y} g) ∧
      ((∃ c, exactOutput reserveIn reserveOut y feeRate = .error (.overflow c)) ↔
        ∀ x, ¬Delivers reserveIn reserveOut feeRate x y)) ∧
    (∀ x y fee, exactInput reserveIn reserveOut x feeRate = .ok (y, fee) →
      ∃ g fee', exactOutput reserveIn reserveOut y feeRate = .ok (g, fee') ∧ g ≤ x) ∧
    (∀ y g fee, exactOutput reserveIn reserveOut y feeRate = .ok (g, fee) →
      Delivers reserveIn reserveOut feeRate g y) := by
  refine ⟨fun y hpos hy => ⟨fun g => exactOutput_isLeast hri hr hpos hy,
    exactOutput_overflow_iff hri hr hpos hy⟩, ?_, ?_⟩
  · intro x y fee hxy
    obtain ⟨hri', -, hpos, hy, -⟩ := exactInput_eq_ok_iff.1 hxy
    have hro : 0 < reserveOut.toNat := hpos.trans_le (hy ▸ purchase_le _ _ _ _)
    have hlt : y.toNat < reserveOut.toNat := hy ▸ purchase_lt _ _ hri' hro
    exact exists_exactOutput_le hri hr (UInt64.lt_iff_toNat_lt.2 hpos)
      (UInt64.lt_iff_toNat_lt.2 hlt) ⟨y, fee, hxy, UInt64.le_refl y⟩
  · intro y g fee hg
    obtain ⟨-, hpos, hlt, -, -⟩ := exactOutput_eq_ok_iff.1 hg
    exact ((exactOutput_isLeast hri hr (UInt64.lt_iff_toNat_lt.2 hpos)
      (UInt64.lt_iff_toNat_lt.2 hlt)).1 ⟨fee, hg⟩).1

/-- At equal reserves of a thousand and three per mille, half of the reserve costs 1004. -/
theorem least_cost_of_half : IsLeast {x | Delivers 1000 1000 3000 x 500} 1004 :=
  (((exactOutput_least_inverse 1000 1000 3000 (by decide) (by decide)).1 500 (by decide)
    (by decide)).1 1004).1 ⟨4, by decide⟩

end ConstantProduct.Curve
