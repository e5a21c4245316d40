import Mathlib
import ConstantProduct.Proofs.Creation
import ConstantProduct.Proofs.Turnover

namespace ConstantProduct

namespace Pool

theorem toNat_covered (requested accrued : PerToken Amount) (t : Token) :
    ((covered requested accrued).get t).toNat =
      min (requested.get t).toNat (accrued.get t).toNat := by
  cases t <;> exact UInt64.toNat_min _ _

theorem remaining_add_covered (requested accrued : PerToken Amount) (t : Token) :
    ((remaining accrued (covered requested accrued)).get t).toNat +
      ((covered requested accrued).get t).toNat = (accrued.get t).toNat := by
  have hle : (covered requested accrued).get t ≤ accrued.get t := by
    rw [UInt64.le_iff_toNat_le, toNat_covered]
    exact Nat.min_le_right _ _
  have hget : (remaining accrued (covered requested accrued)).get t =
      accrued.get t - (covered requested accrued).get t := by cases t <;> rfl
  rw [hget, UInt64.toNat_sub_of_le _ _ hle]
  exact Nat.sub_add_cancel (UInt64.le_iff_toNat_le.1 hle)

theorem vault_eq (p : Pool) (t : Token) :
    p.vault t = (p.reserves.get t).toNat + ((Party.protocol.unclaimed p).get t).toNat +
      ((Party.fund.unclaimed p).get t).toNat := rfl

end Pool

namespace Ledger

theorem answer_collection (l : Ledger) (party : Party) (requested : PerToken Amount) :
    (l.step (party.collection requested)).answer =
      .collected (Pool.covered requested (party.unclaimed l.pool)) := by
  cases party <;> rfl

/-- What one step does to the fees that are kept for a party. -/
theorem unclaimed_step (l : Ledger) (op : Op) (party : Party) (t : Token) :
    ((party.unclaimed (l.step op).next.pool).get t).toNat +
        party.taken t (op, (l.step op).answer) =
      ((party.unclaimed l.pool).get t).toNat +
        party.accrued t (l.step op).answer.receipt?.toList := by
  cases op with
  | swap r tier timestamp =>
    have htaken (a : Answer) : party.taken t (.swap r tier timestamp, a) = 0 := by
      cases party <;> rfl
    rw [htaken]
    rcases h : l.stage r tier timestamp with e | s
    · simp [step, swap, h, Answer.receipt?]
    · obtain ⟨hanswer, hnext⟩ := swap_of_stage h
      have hunclaimed := unclaimed_of_stage h party t
      simp [step, hanswer, hnext, hunclaimed, Answer.receipt?, Party.accrued]
  | quote r tier => cases party <;> rfl
  | collectProtocol requested =>
    cases party with
    | protocol => exact Pool.remaining_add_covered requested l.pool.protocolFees t
    | fund => rfl
  | collectFund requested =>
    cases party with
    | protocol => rfl
    | fund => exact Pool.remaining_add_covered requested l.pool.fundFees t
  | setStatus bits => cases party <;> rfl

section Run

variable (l : Ledger) (ops : List Op)

/-- The fees that are kept for a party after a run, and what the run paid out of them. -/
theorem unclaimed_run (party : Party) (t : Token) :
    ((party.unclaimed (l.run ops).pool).get t).toNat + party.claimed t (l.journal ops) =
      ((party.unclaimed l.pool).get t).toNat + party.accrued t (l.receipts ops) := by
  rw [receipts_eq_journal]
  refine run_invariant (P := fun l' js =>
    ((party.unclaimed l'.pool).get t).toNat + party.claimed t js =
      ((party.unclaimed l.pool).get t).toNat + party.accrued t (js.filterMap (·.2.receipt?))) ?_ rfl
  intro l' js op _ h
  have hstep := unclaimed_step l' op party t
  have haccrued : party.accrued t ((js ++ [(op, (l'.step op).answer)]).filterMap (·.2.receipt?)) =
      party.accrued t (js.filterMap (·.2.receipt?)) +
        party.accrued t (l'.step op).answer.receipt?.toList := by
    rcases hr : (l'.step op).answer.receipt? with _ | receipt <;> simp [Party.accrued, hr]
  rw [haccrued, Party.claimed_concat]
  omega

theorem reserves_add_run (t : Token) :
    ((l.run ops).pool.reserves.get t).toNat +
        ((l.receipts ops).map fun r => r.received t).sum +
        Party.protocol.accrued t (l.receipts ops) + Party.fund.accrued t (l.receipts ops) =
      (l.pool.reserves.get t).toNat + ((l.receipts ops).map fun r => r.paid t).sum := by
  refine run_of_swaps (P := fun reserves _ rs => (reserves.get t).toNat +
    (rs.map fun r => r.received t).sum + Party.protocol.accrued t rs + Party.fund.accrued t rs =
      (l.pool.reserves.get t).toNat + (rs.map fun r => r.paid t).sum) ?_ rfl
  intro l' r tier timestamp s rs _ hs h
  have hstep := reserves_of_stage hs t
  simp only [List.map_append, List.map_cons, List.map_nil, List.sum_append, List.sum_singleton,
    Party.accrued_concat]
  omega

/-- What a vault holds after a run, and all that the run paid out of it. -/
theorem vault_run (t : Token) :
    (l.run ops).pool.vault t + ((l.receipts ops).map fun r => r.received t).sum +
        Party.protocol.claimed t (l.journal ops) + Party.fund.claimed t (l.journal ops) =
      l.pool.vault t + ((l.receipts ops).map fun r => r.paid t).sum := by
  have hreserves := reserves_add_run l ops t
  have hprotocol := unclaimed_run l ops .protocol t
  have hfund := unclaimed_run l ops .fund t
  rw [Pool.vault_eq, Pool.vault_eq]
  omega

theorem vault_step_lt (op : Op) (h : ∀ t, l.pool.vault t < 2 ^ 64) (t : Token) :
    (l.step op).next.pool.vault t < 2 ^ 64 := by
  rcases step_cases l op with ⟨hnone, hreserves, -⟩ | ⟨r, tier, timestamp, s, -, hs, -, hnext⟩
  · have hprotocol := unclaimed_step l op .protocol t
    have hfund := unclaimed_step l op .fund t
    have hvault := h t
    rw [hnone, Option.toList_none, Party.accrued_nil] at hprotocol hfund
    rw [Pool.vault_eq] at hvault ⊢
    rw [hreserves]
    omega
  · obtain ⟨-, -, -, hadmits, -, -, hpool, -⟩ := stage_eq_ok_iff.1 hs
    rw [hnext, hpool]
    exact hadmits.vault_lt t

theorem vault_run_lt (h : ∀ t, l.pool.vault t < 2 ^ 64) :
    ∀ t, (l.run ops).pool.vault t < 2 ^ 64 := by
  refine run_invariant (P := fun l' _ => ∀ t, l'.pool.vault t < 2 ^ 64) ?_ h
  intro l' js op _ hfits
  exact vault_step_lt l' op hfits

end Run

theorem claimed_eq_zero {ops : List Op} {party : Party}
    (h : ∀ requested, party.collection requested ∉ ops) (l : Ledger) (t : Token) :
    party.claimed t (l.journal ops) = 0 := by
  apply List.sum_eq_zero
  intro n hn
  obtain ⟨⟨op, a⟩, hj, rfl⟩ := List.mem_map.1 hn
  have hop : op ∈ ops := (List.of_mem_zip hj).1
  cases party with
  | protocol =>
    cases op with
    | collectProtocol requested => exact absurd hop (h requested)
    | _ => rfl
  | fund =>
    cases op with
    | collectFund requested => exact absurd hop (h requested)
    | _ => rfl

end Ledger

theorem Receipt.netPaid_eq (rs : List Receipt) (t : Token) :
    netPaid rs t =
      ((rs.map fun r => r.paid t).sum : ℕ) - ((rs.map fun r => r.received t).sum : ℕ) := by
  rw [netPaid]
  push_cast
  simp only [List.map_map, Function.comp_def]

namespace Ledger

/-- Value is conserved. After any run of a new pool its vaults hold the reserves it was opened with
and what traders paid less what they received, less what was collected; of that the fees for each
party are those that its swaps set aside less those that it collected. No collection pays more than
was asked, or than there is. -/
theorem value_conserved {id : PoolId} {tier : FeeTier} {reserves : PerToken Amount}
    {openTime : Int64} {capacity : UInt64} {l : Ledger}
    (hcreate : create id tier reserves openTime capacity = .ok l) (ops : List Op) :
    let pool := (l.run ops).pool
    let claimed (party : Party) (t : Token) : ℤ := party.claimed t (l.journal ops)
    (∀ t, ((pool.reserves.get t).toNat : ℤ) + (pool.protocolFees.get t).toNat +
        (pool.fundFees.get t).toNat =
      (reserves.get t).toNat + Receipt.netPaid (l.receipts ops) t -
        (claimed .protocol t + claimed .fund t)) ∧
    (∀ party t, (((party.unclaimed pool).get t).toNat : ℤ) =
      party.accrued t (l.receipts ops) - claimed party t) ∧
    ∀ (party : Party) (requested : PerToken Amount), ∃ amounts,
      ((l.run ops).step (party.collection requested)).answer = .collected amounts ∧
        ∀ t, amounts.get t ≤ requested.get t ∧ amounts.get t ≤ (party.unclaimed pool).get t := by
  obtain ⟨-, -, -, hopened⟩ := create_eq_ok_iff.1 hcreate
  -- A new pool keeps no fees yet, so its vaults hold the reserves.
  have hnone (party : Party) (t : Token) : ((party.unclaimed l.pool).get t).toNat = 0 := by
    rw [hopened]
    cases party <;> cases t <;> rfl
  have hreserves : l.pool.reserves = reserves := by rw [hopened]; rfl
  dsimp only
  refine ⟨?_, ?_, ?_⟩
  · intro t
    have hvault := vault_run l ops t
    rw [Pool.vault_eq l.pool, hnone, hnone, hreserves, Pool.vault] at hvault
    rw [Receipt.netPaid_eq]
    omega
  · intro party t
    have hunclaimed := unclaimed_run l ops party t
    rw [hnone] at hunclaimed
    omega
  · intro party requested
    refine ⟨_, answer_collection _ _ _, ?_⟩
    intro t
    rw [UInt64.le_iff_toNat_le, UInt64.le_iff_toNat_le, Pool.toNat_covered]
    exact ⟨Nat.min_le_left _ _, Nat.min_le_right _ _⟩

/-- A swap of the market sets two million aside for the protocol, of which half a million is
collected. -/
theorem protocol_fees_of_market :
    let ops : List Op := [.swap ⟨.zeroForOne, .exactInput 100000000 0⟩ tenth 200,
      .collectProtocol ⟨500000, 1⟩]
    Party.protocol.accrued .zero (market.receipts ops) = 2000000 ∧
      Party.protocol.claimed .zero (market.journal ops) = 500000 ∧
        (((market.run ops).pool.protocolFees.get .zero).toNat : ℤ) =
          Party.protocol.accrued .zero (market.receipts ops) -
            Party.protocol.claimed .zero (market.journal ops) :=
  ⟨by decide, by decide, (value_conserved create_market _).2.1 .protocol .zero⟩

end Ledger

end ConstantProduct
