import Mathlib
import ConstantProduct.Ledger
import ConstantProduct.Proofs.RingList
import ConstantProduct.Proofs.SpotPrice

namespace ConstantProduct

namespace Pool

def opened (id : PoolId) (tier : FeeTier) (reserves : PerToken Amount) (openTime : Int64) :
    Pool where
  id := id
  tier := tier.index
  oracleKey := id
  status := .active
  statusBits := 0
  openTime := openTime
  reserves := reserves
  protocolFees := .both 0
  fundFees := .both 0

variable {id : PoolId} {tier : FeeTier} {reserves : PerToken Amount} {openTime : Int64}

theorem create_eq_ok_iff {p : Pool} :
    create id tier reserves openTime = .ok p ↔
      tier.validate = .ok () ∧ tier.creationDisabled = false ∧
        (∀ t, 0 < (reserves.get t).toNat) ∧ p = opened id tier reserves openTime := by
  rw [create, bind_eq_ok, reserves.forall_pos_iff]
  constructor
  · rintro ⟨⟨⟩, hvalid, h⟩
    simp only [throw_eq_error, error_bind, pure_eq_ok] at h
    split_ifs at h with hdisabled hempty
    obtain rfl := Except.ok.inj h
    exact ⟨hvalid, Bool.not_eq_true _ ▸ hdisabled, hempty, rfl⟩
  · rintro ⟨hvalid, hdisabled, hempty, rfl⟩
    refine ⟨(), hvalid, ?_⟩
    rw [hdisabled, if_neg Bool.false_ne_true, if_neg hempty]
    rfl

end Pool

namespace Ledger

def opened (id : PoolId) (tier : FeeTier) (reserves : PerToken Amount) (openTime : Int64)
    (capacity : UInt64) : Ledger :=
  ⟨Pool.opened id tier reserves openTime, (Ring.empty id capacity).push ⟨openTime, .both 0⟩⟩

variable {id : PoolId} {tier : FeeTier} {reserves : PerToken Amount} {openTime : Int64}
  {capacity : UInt64}

/-- A ledger is created just when the tier is valid and lets pools be created, and neither reserve
is empty. -/
theorem create_eq_ok_iff {l : Ledger} :
    create id tier reserves openTime capacity = .ok l ↔
      tier.validate = .ok () ∧ tier.creationDisabled = false ∧
        (∀ t, 0 < (reserves.get t).toNat) ∧ l = opened id tier reserves openTime capacity := by
  rw [create, bind_eq_ok]
  constructor
  · rintro ⟨p, hp, h⟩
    obtain ⟨hvalid, hdisabled, hpos, rfl⟩ := Pool.create_eq_ok_iff.1 hp
    rw [Pool.spotPrices_eq_ok_iff.2 ⟨hpos, rfl⟩, ok_bind] at h
    exact ⟨hvalid, hdisabled, hpos, (Except.ok.inj h).symm⟩
  · rintro ⟨hvalid, hdisabled, hpos, rfl⟩
    refine ⟨_, Pool.create_eq_ok_iff.2 ⟨hvalid, hdisabled, hpos, rfl⟩, ?_⟩
    rw [Pool.spotPrices_eq_ok_iff.2 ⟨hpos, rfl⟩, ok_bind]
    rfl

theorem observations_opened :
    (opened id tier reserves openTime capacity).oracle.observations = [⟨openTime, .both 0⟩] := by
  have h := (Ring.empty id capacity).size_pos
  rw [opened, Ring.observations_push_of_partial _ _ h, Ring.observations_of_partial _ h]
  rfl

/-- A tenth of token zero, and a quarter per cent of token one. -/
def tenth : FeeTier := ⟨0, ⟨100000, 2500⟩, 200000, 100000, 0, false⟩

/-- A market opened at time 100 with 24 of one token for each of the other. -/
def market : Ledger := opened default tenth ⟨1000000000, 24000000000⟩ 100 8

theorem create_market :
    create default tenth ⟨1000000000, 24000000000⟩ 100 8 = .ok market :=
  create_eq_ok_iff.2 ⟨by decide, rfl, fun t => by cases t <;> decide, rfl⟩

end Ledger

end ConstantProduct
