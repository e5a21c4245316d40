import Mathlib
import ConstantProduct.Proofs.Conservation
import ConstantProduct.Proofs.Recording

namespace ConstantProduct

namespace Pool

theorem vault_opened_lt (id : PoolId) (tier : FeeTier) (reserves : PerToken Amount)
    (openTime : Int64) (t : Token) : (opened id tier reserves openTime).vault t < 2 ^ 64 := by
  have hvault : (opened id tier reserves openTime).vault t = (reserves.get t).toNat := by
    cases t <;> rfl
  rw [hvault]
  exact (reserves.get t).toNat_lt

end Pool

namespace Ring

theorem capacity_commit (r : Ring) (staged : Option Observation) :
    (r.commit staged).capacity = r.capacity := by
  cases staged with
  | none => rfl
  | some o => exact r.size_slots_push o

theorem owner_commit (r : Ring) (staged : Option Observation) :
    (r.commit staged).owner = r.owner := by cases staged <;> rfl

theorem mem_commit {r : Ring} {staged : Option Observation} {o : Observation}
    (h : o ∈ (r.commit staged).observations) : o ∈ r.observations ∨ staged = some o := by
  cases staged with
  | none => exact .inl h
  | some a =>
    rw [commit, observations_push] at h
    rcases List.mem_append.1 (List.mem_of_mem_drop h) with h | h
    · exact .inl h
    · exact .inr (congrArg some (List.mem_singleton.1 h).symm)

theorem latest?_commit (r : Ring) (staged : Option Observation) :
    (r.commit staged).latest? = staged.or r.latest? := by
  cases staged with
  | none => rfl
  | some o => exact r.latest?_push o

theorem observations_ne_nil_iff {r : Ring} :
    r.observations ≠ [] ↔ ∃ last, r.latest? = some last := by
  rw [← getLast?_observations, ← Option.isSome_iff_exists, List.getLast?_isSome]

end Ring

namespace Ledger

/-- What holds of a pool and its ring throughout its life, by its identifier, the index of its tier,
its opening time and the slots asked for. -/
structure Sound (id : PoolId) (tier : UInt16) (openTime : Int64) (capacity : UInt64)
    (l : Ledger) : Prop where
  active : l.pool.status = .active
  reserves_pos : ∀ t, 0 < l.pool.reserves.get t
  balanced : ∃ balances, l.pool.vaultBalances = .ok balances
  id_eq : l.pool.id = id
  oracleKey_eq : l.pool.oracleKey = id
  owner_eq : l.oracle.owner = id
  tier_eq : l.pool.tier = tier
  openTime_eq : l.pool.openTime = openTime
  capacity_eq : l.oracle.capacity = max capacity.toNat 1
  observed : l.oracle.observations ≠ []
  increasing : l.oracle.Increasing
  openTime_le : ∀ o ∈ l.oracle.observations, openTime ≤ o.timestamp

theorem sound_opened {id : PoolId} {tier : FeeTier} {reserves : PerToken Amount}
    (openTime : Int64) (capacity : UInt64) (hpos : ∀ t, 0 < (reserves.get t).toNat) :
    Sound id tier.index openTime capacity (opened id tier reserves openTime capacity) where
  active := rfl
  reserves_pos t := UInt64.lt_iff_toNat_lt.2 (hpos t)
  balanced := Pool.exists_vaultBalances_iff.2 (Pool.vault_opened_lt id tier reserves openTime)
  id_eq := rfl
  oracleKey_eq := rfl
  owner_eq := rfl
  tier_eq := rfl
  openTime_eq := rfl
  capacity_eq := by
    rw [opened, Ring.capacity, Ring.size_slots_push, Ring.empty, Array.size_replicate]
  observed := by
    rw [observations_opened]
    exact List.cons_ne_nil _ _
  increasing := by
    unfold Ring.Increasing
    rw [observations_opened]
    exact List.pairwise_singleton _ _
  openTime_le := by
    rw [observations_opened]
    intro o ho
    rw [List.mem_singleton.1 ho]
    exact Int64.le_refl _

theorem step_fixed (l : Ledger) (op : Op) :
    (l.step op).next.pool.status = l.pool.status ∧ (l.step op).next.pool.id = l.pool.id ∧
      (l.step op).next.pool.oracleKey = l.pool.oracleKey ∧
        (l.step op).next.pool.tier = l.pool.tier ∧
          (l.step op).next.pool.openTime = l.pool.openTime := by
  cases op with
  | swap r tier timestamp =>
    rcases h : l.stage r tier timestamp with e | s
    · simp [step, swap, h]
    · obtain ⟨-, -, -, -, -, -, hpool, -⟩ := stage_eq_ok_iff.1 h
      rw [step, (swap_of_stage h).2, hpool]
      exact ⟨rfl, rfl, rfl, rfl, rfl⟩
  | quote r tier => exact ⟨rfl, rfl, rfl, rfl, rfl⟩
  | collectProtocol requested => exact ⟨rfl, rfl, rfl, rfl, rfl⟩
  | collectFund requested => exact ⟨rfl, rfl, rfl, rfl, rfl⟩
  | setStatus bits => exact ⟨rfl, rfl, rfl, rfl, rfl⟩

/-- An operation leaves the ring, or commits to it what was staged for a swap. -/
theorem oracle_step (l : Ledger) (op : Op) :
    (l.step op).next.oracle = l.oracle ∨ ∃ timestamp prices staged,
      l.pool.openTime < timestamp ∧ l.oracle.stage timestamp prices = .ok staged ∧
        (l.step op).next.oracle = l.oracle.commit staged := by
  rcases step_cases l op with ⟨-, -, h⟩ | ⟨r, tier, timestamp, s, -, hs, -, hnext⟩
  · exact .inl h
  · obtain ⟨hopen, -, -, -, -, htimely, -, hobservation⟩ := stage_eq_ok_iff.1 hs
    exact .inr ⟨timestamp, Pool.prices s.pool.reserves, s.observation, hopen.opened,
      Ring.stage_eq_ok_iff.2 ⟨htimely, hobservation⟩, by rw [hnext]⟩

theorem reserves_pos_step {l : Ledger} (op : Op) (h : ∀ t, 0 < l.pool.reserves.get t) (t : Token) :
    0 < (l.step op).next.pool.reserves.get t := by
  rcases step_cases l op with ⟨-, hreserves, -⟩ | ⟨r, tier, timestamp, s, -, hs, -, hnext⟩
  · rw [hreserves]
    exact h t
  · obtain ⟨-, -, -, -, hpos, -⟩ := stage_eq_ok_iff.1 hs
    rw [hnext]
    exact UInt64.lt_iff_toNat_lt.2 (hpos t)

variable {id : PoolId} {tier : UInt16} {openTime : Int64} {capacity : UInt64} {l : Ledger}

theorem Sound.vault_lt (h : Sound id tier openTime capacity l) (t : Token) :
    l.pool.vault t < 2 ^ 64 := Pool.exists_vaultBalances_iff.1 h.balanced t

/-- Every operation preserves what holds of a pool and its ring. -/
theorem Sound.step (h : Sound id tier openTime capacity l) (op : Op) :
    Sound id tier openTime capacity (l.step op).next := by
  obtain ⟨hstatus, hid, hkey, htier, hopen⟩ := step_fixed l op
  have hpool : (∃ balances, (l.step op).next.pool.vaultBalances = .ok balances) :=
    Pool.exists_vaultBalances_iff.2 (vault_step_lt l op h.vault_lt)
  rcases oracle_step l op with horacle | ⟨timestamp, prices, staged, hlate, hstage, horacle⟩
  · exact ⟨hstatus.trans h.active, reserves_pos_step op h.reserves_pos, hpool, hid.trans h.id_eq,
      hkey.trans h.oracleKey_eq, horacle ▸ h.owner_eq, htier.trans h.tier_eq,
      hopen.trans h.openTime_eq, horacle ▸ h.capacity_eq, horacle ▸ h.observed,
      horacle ▸ h.increasing, horacle ▸ h.openTime_le⟩
  · have hobserved : (l.oracle.commit staged).observations ≠ [] := by
      obtain ⟨last, hlast⟩ := Ring.observations_ne_nil_iff.1 h.observed
      rw [Ring.observations_ne_nil_iff, Ring.latest?_commit, hlast]
      cases staged <;> exact ⟨_, rfl⟩
    have hsince : ∀ o ∈ (l.oracle.commit staged).observations, openTime ≤ o.timestamp := by
      intro o ho
      rcases Ring.mem_commit ho with ho | rfl
      · exact h.openTime_le o ho
      · rw [(Ring.stage_eq_some hstage).1, ← h.openTime_eq]
        exact Int64.le_of_lt hlate
    exact ⟨hstatus.trans h.active, reserves_pos_step op h.reserves_pos, hpool, hid.trans h.id_eq,
      hkey.trans h.oracleKey_eq, by rw [horacle, Ring.owner_commit, h.owner_eq],
      htier.trans h.tier_eq, hopen.trans h.openTime_eq,
      by rw [horacle, Ring.capacity_commit, h.capacity_eq], horacle ▸ hobserved,
      horacle ▸ h.increasing.commit hstage, horacle ▸ hsince⟩

theorem Sound.run (h : Sound id tier openTime capacity l) (ops : List Op) :
    Sound id tier openTime capacity (l.run ops) := by
  refine run_invariant (P := fun l _ => Sound id tier openTime capacity l) ?_ h
  intro l js op _ hl
  exact hl.step op

/-- A swap, whether it passes or not, takes from neither the product of the reserves nor the fees
kept for either party. -/
theorem le_swap (l : Ledger) (r : Request) (tier : FeeTier) (timestamp : Int64) :
    l.pool.invariant ≤ (l.swap r tier timestamp).next.pool.invariant ∧
      ∀ (party : Party) t, (party.unclaimed l.pool).get t ≤
        (party.unclaimed (l.swap r tier timestamp).next.pool).get t := by
  rcases h : l.stage r tier timestamp with e | s
  · have hnext : (l.swap r tier timestamp).next = l := by simp [swap, h]
    rw [hnext]
    exact ⟨BitVec.le_refl _, fun _ _ => UInt64.le_refl _⟩
  · obtain ⟨-, -, -, hadmits, -, -, hpool, -⟩ := stage_eq_ok_iff.1 h
    rw [(swap_of_stage h).2]
    refine ⟨?_, ?_⟩
    · rw [← BitVec.not_lt, Pool.invariant_lt_iff, not_lt, hpool]
      exact hadmits.product_le
    · intro party t
      rw [UInt64.le_iff_toNat_le, unclaimed_of_stage h party t]
      exact Nat.le_add_right _ _

/-- Throughout its life a pool is sound, and no swap on it takes from the product of its reserves or
from the fees it keeps. -/
theorem stays_sound {id : PoolId} {tier : FeeTier} {reserves : PerToken Amount}
    {openTime : Int64} {capacity : UInt64} {l : Ledger}
    (hcreate : create id tier reserves openTime capacity = .ok l) (ops : List Op) :
    Sound id tier.index openTime capacity (l.run ops) ∧
      ∀ (r : Request) (tier' : FeeTier) (timestamp : Int64),
        let swapped := ((l.run ops).swap r tier' timestamp).next
        (l.run ops).pool.invariant ≤ swapped.pool.invariant ∧
          ∀ (party : Party) t,
            (party.unclaimed (l.run ops).pool).get t ≤ (party.unclaimed swapped.pool).get t := by
  obtain ⟨-, -, hpos, rfl⟩ := create_eq_ok_iff.1 hcreate
  refine ⟨(sound_opened openTime capacity hpos).run ops, ?_⟩
  intro r tier' timestamp
  exact le_swap _ r tier' timestamp

/-- A market that has been swapped on, collected from and stopped is sound. -/
theorem sound_market : Sound default 0 100 8 (market.run
    [.swap ⟨.zeroForOne, .exactInput 100000000 0⟩ tenth 200, .collectProtocol ⟨500000, 1⟩,
      .setStatus 1]) :=
  (stays_sound create_market _).1

end Ledger

end ConstantProduct
