import Mathlib
import ConstantProduct.Proofs.Persistence
import ConstantProduct.Proofs.SwapTimes

namespace ConstantProduct

theorem Curve.cost_of_empty (ro y r : ℕ) : cost 0 ro y r = 0 := by
  rw [cost, input, Fee.gross, Nat.zero_mul, zero_ceilDiv, Nat.zero_mul, zero_ceilDiv]

theorem Quote.amountIn_of_empty {d : Direction} {reserves : PerToken Amount} {order : Order}
    {tier : FeeTier} {q : Quote} (h : price d reserves order tier = .ok q)
    (hempty : (reserves.get d.sold).toNat = 0) : q.amountIn.toNat = 0 := by
  cases order with
  | exactInput x bound =>
    obtain ⟨y, fee, fees, hy, -, -⟩ := price_exactInput_eq_ok_iff.1 h
    obtain ⟨hpos, -⟩ := Curve.exactInput_eq_ok_iff.1 hy
    omega
  | exactOutput y bound =>
    obtain ⟨g, fee, fees, hg, -, rfl⟩ := price_exactOutput_eq_ok_iff.1 h
    obtain ⟨-, -, -, hcost, -⟩ := Curve.exactOutput_eq_ok_iff.1 hg
    rw [hempty, Curve.cost_of_empty] at hcost
    exact hcost

namespace Ring

/-- A ring has been written to since it was another: `os`, in the order of their times and later
than the newest it had. -/
structure Continues (origin : Ring) (os : List Observation) (r : Ring) : Prop where
  capacity_eq : r.capacity = origin.capacity
  observations_eq : r.observations = (origin.observations ++ os).rtake origin.capacity
  increasing :
    (origin.latest?.toList ++ os).Pairwise fun older newer => older.timestamp < newer.timestamp

variable {origin r : Ring} {os : List Observation}

theorem continues_nil (r : Ring) : r.Continues [] r where
  capacity_eq := rfl
  observations_eq := by
    have hle : r.observations.length ≤ r.capacity := r.length_observations ▸ r.length_le
    rw [List.append_nil, List.rtake, Nat.sub_eq_zero_of_le hle, List.drop_zero]
  increasing := by cases r.latest? <;> simp

/-- The newest observation is the last that was written, or was there before. -/
theorem Continues.latest_eq (h : origin.Continues os r) :
    (origin.latest?.toList ++ os).getLast? = r.latest? := by
  rw [← r.getLast?_observations, h.observations_eq, getLast?_rtake _ origin.capacity_pos,
    List.getLast?_append, List.getLast?_append, origin.getLast?_observations]
  cases origin.latest? <;> rfl

theorem Continues.commit {timestamp : Int64} {prices : PerToken Wide} {staged : Option Observation}
    (h : origin.Continues os r) (hs : r.stage timestamp prices = .ok staged) :
    origin.Continues (os ++ staged.toList) (r.commit staged) := by
  rcases staged with _ | o
  · rwa [Option.toList_none, List.append_nil]
  · obtain ⟨htime, hlater⟩ := stage_eq_some hs
    refine ⟨(capacity_commit _ _).trans h.capacity_eq, ?_, ?_⟩
    · rw [Ring.commit, observations_push_eq_rtake, h.capacity_eq, h.observations_eq,
        rtake_rtake_concat, List.append_assoc, Option.toList_some]
    · have hnew : ∀ last, (origin.latest?.toList ++ os).getLast? = some last →
          last.timestamp < o.timestamp := by
        rw [h.latest_eq, htime]
        exact fun last hlast => (hlater last hlast).1
      rw [Option.toList_some, ← List.append_assoc]
      exact pairwise_concat h.increasing (fun _ _ _ => Int64.lt_trans) hnew

end Ring

namespace Ledger

structure Valid (l : Ledger) : Prop where
  reserves_pos : l.pool.status = .active → ∀ t, 0 < l.pool.reserves.get t
  balanced : ∃ balances, l.pool.vaultBalances = .ok balances
  increasing : l.oracle.Increasing

variable {l : Ledger}

theorem Sound.valid {id : PoolId} {tier : UInt16} {openTime : Int64} {capacity : UInt64}
    (h : Sound id tier openTime capacity l) : l.Valid :=
  ⟨fun _ => h.reserves_pos, h.balanced, h.increasing⟩

theorem balanced_step (op : Op) (h : ∃ balances, l.pool.vaultBalances = .ok balances) :
    ∃ balances, (l.step op).next.pool.vaultBalances = .ok balances :=
  Pool.exists_vaultBalances_iff.2 (vault_step_lt l op (Pool.exists_vaultBalances_iff.1 h))

theorem Valid.step (h : l.Valid) (op : Op) : (l.step op).next.Valid where
  reserves_pos hactive := by
    rw [(step_fixed l op).1] at hactive
    exact reserves_pos_step op (h.reserves_pos hactive)
  balanced := balanced_step op h.balanced
  increasing := by
    rcases oracle_step l op with horacle | ⟨timestamp, prices, staged, -, hstage, horacle⟩
    · exact horacle ▸ h.increasing
    · exact horacle ▸ h.increasing.commit hstage

theorem Valid.run (h : l.Valid) (ops : List Op) : (l.run ops).Valid :=
  run_invariant (P := fun l _ => l.Valid) (fun _ _ op _ h => h.step op) h

/-- No swap passes with a reserve empty: an empty reserve has nothing to sell, and stays empty where
it is sold into. -/
theorem stage_ne_ok_of_empty {t : Token} (h : l.pool.reserves.get t = 0) (r : Request)
    (tier : FeeTier) (timestamp : Int64) (s : Staged) : l.stage r tier timestamp ≠ .ok s := by
  intro hs
  obtain ⟨-, hquote, -, hadmits, hpos, -, hpool, -⟩ := stage_eq_ok_iff.1 hs
  obtain ⟨hdirection, hpriced⟩ := quote_priced hquote
  have hempty : (l.pool.reserves.get t).toNat = 0 := (Amount.eq_zero_iff _).1 h
  have hside : ∀ t, t = s.quote.direction.sold ∨ t = s.quote.direction.bought :=
    s.quote.direction.forall_token.2 ⟨.inl rfl, .inr rfl⟩
  rcases hside t with rfl | rfl
  · have hpaid := Quote.amountIn_of_empty hquote (hdirection ▸ hempty)
    have hreserve := hpos s.quote.direction.sold
    rw [hpool, hadmits.reserveIn, hempty, Quote.credit, hpaid] at hreserve
    omega
  · have hout := hpriced.out_lt
    omega

theorem receipts_of_empty {t : Token} (h : l.pool.reserves.get t = 0) (ops : List Op) :
    l.receipts ops = [] := by
  refine (run_of_swaps (P := fun reserves _ rs => reserves = l.pool.reserves ∧ rs = []) ?_
    ⟨rfl, rfl⟩).2
  rintro l' r tier timestamp s rs - hs ⟨hreserves, -⟩
  exact absurd hs (stage_ne_ok_of_empty (hreserves ▸ h) r tier timestamp s)

/-- Once a swap has passed, the reserves are not empty and the balances fit, whatever they were. -/
theorem sound_books_of_receipts {ops : List Op} (h : l.receipts ops ≠ []) :
    (∀ t, 0 < (l.run ops).pool.reserves.get t) ∧
      ∃ balances, (l.run ops).pool.vaultBalances = .ok balances := by
  rw [receipts_eq_journal] at h
  refine (run_invariant (P := fun l js => js.filterMap (·.2.receipt?) ≠ [] →
    (∀ t, 0 < l.pool.reserves.get t) ∧ ∃ balances, l.pool.vaultBalances = .ok balances)
      ?_ (fun h => absurd rfl h)) h
  intro l js op _ ih hswapped
  rcases step_cases l op with ⟨hnone, -⟩ | ⟨r, tier, timestamp, s, -, hs, -, hnext⟩
  · have hbefore : js.filterMap (·.2.receipt?) ≠ [] := by
      simpa [hnone] using hswapped
    exact ⟨reserves_pos_step op (ih hbefore).1, balanced_step op (ih hbefore).2⟩
  · obtain ⟨-, -, -, hadmits, hpos, -, hpool, -⟩ := stage_eq_ok_iff.1 hs
    rw [hnext, Pool.exists_vaultBalances_iff, hpool]
    exact ⟨fun t => UInt64.lt_iff_toNat_lt.2 (hpool ▸ hpos t), hadmits.vault_lt⟩

theorem oracle_continues (l : Ledger) (ops : List Op) :
    ∃ os, l.oracle.Continues os (l.run ops).oracle := by
  refine run_invariant (P := fun l' _ => ∃ os, l.oracle.Continues os l'.oracle) ?_
    ⟨[], l.oracle.continues_nil⟩
  rintro l' js op - ⟨os, h⟩
  rcases oracle_step l' op with horacle | ⟨timestamp, prices, staged, -, hstage, horacle⟩
  · exact ⟨os, horacle ▸ h⟩
  · exact ⟨os ++ staged.toList, horacle ▸ h.commit hstage⟩

/-- A ledger that no run leads to: one reserve is empty, with the other its fees do not fit a word,
and the newest observation is the earlier one. -/
def damaged : Ledger where
  pool := { (default : Pool) with
    status := .active
    reserves := ⟨0, Amount.max⟩
    fundFees := ⟨0, 1⟩ }
  oracle := ((Ring.empty default 2).push ⟨200, .both 0⟩).push ⟨100, .both 0⟩

/-- A ledger that no run leads to is read from its text like any other. -/
theorem decode_encode_damaged :
    codec.decode (codec.encode damaged) = .ok damaged ∧
      damaged.pool.status = .active ∧ damaged.pool.reserves.get .zero = 0 ∧
        (∀ balances, damaged.pool.vaultBalances ≠ .ok balances) ∧ ¬damaged.oracle.Increasing := by
  refine ⟨damaged.codec_restores.decode_encode, rfl, rfl, ?_, ?_⟩
  · intro balances h
    have hfits := Pool.exists_vaultBalances_iff.1 ⟨balances, h⟩ .one
    revert hfits
    decide
  · have htimes : damaged.oracle.observations = [⟨200, .both 0⟩, ⟨100, .both 0⟩] := by decide
    rw [Ring.Increasing, htimes]
    decide

/-- What a text of a ledger leaves open, the operations guard. The text gives a ring of the right
shape. It gives the ledger it was written of, so a valid one if a run led there, and a valid ledger
stays valid. Any other can pass no swap while a reserve is empty, has books in order as soon as a
swap has passed, and observes nothing that is not later than the newest observation it was given. -/
theorem decoded_values_guarded {text : String} {l : Ledger} (h : codec.decode text = .ok l) :
    (0 < l.oracle.capacity ∧ l.oracle.observations.length ≤ l.oracle.capacity ∧
      l.oracle.latest? = l.oracle.observations.getLast?) ∧
    (∀ {id : PoolId} {tier : FeeTier} {reserves : PerToken Amount} {openTime : Int64}
      {capacity : UInt64} {origin : Ledger},
        create id tier reserves openTime capacity = .ok origin → ∀ before,
          text = codec.encode (origin.run before) → l = origin.run before ∧ l.Valid) ∧
    (l.Valid → ∀ ops, (l.run ops).Valid) ∧
    ∀ ops,
      (∀ t, l.pool.reserves.get t = 0 → l.receipts ops = []) ∧
      (l.receipts ops ≠ [] → (∀ t, 0 < (l.run ops).pool.reserves.get t) ∧
        ∃ balances, (l.run ops).pool.vaultBalances = .ok balances) ∧
      ∃ os, l.oracle.Continues os (l.run ops).oracle := by
  refine ⟨?_, ?_, Valid.run, ?_⟩
  · exact ⟨l.oracle.capacity_pos, l.oracle.length_observations ▸ l.oracle.length_le,
      l.oracle.getLast?_observations.symm⟩
  · rintro id tier reserves openTime capacity origin hcreate before rfl
    obtain ⟨-, -, hpos, rfl⟩ := create_eq_ok_iff.1 hcreate
    rw [(codec_restores _).decode_encode] at h
    obtain rfl := Except.ok.inj h
    have hsound : Sound id tier.index openTime capacity
        ((opened id tier reserves openTime capacity).run before) :=
      (sound_opened _ _ hpos).run before
    exact ⟨rfl, hsound.valid⟩
  · exact fun ops => ⟨fun t hempty => receipts_of_empty hempty ops, sound_books_of_receipts,
      oracle_continues l ops⟩

/-- A market that is stored after a swap is valid when it is read, and whatever is done then. -/
theorem stored_market_valid :
    let stored := market.run [.swap ⟨.zeroForOne, .exactInput 100000000 0⟩ tenth 200]
    codec.decode (codec.encode stored) = .ok stored ∧ stored.Valid ∧
      ∀ ops, (stored.run ops).Valid := by
  intro stored
  have hdecode := stored.codec_restores.decode_encode
  obtain ⟨-, hwritten, hkept, -⟩ := decoded_values_guarded hdecode
  have hvalid := (hwritten create_market _ rfl).2
  exact ⟨hdecode, hvalid, hkept hvalid⟩

end Ledger

end ConstantProduct
