import Mathlib
import ConstantProduct.Proofs.Consistency

namespace ConstantProduct

/-- A refused swap leaves the books and the whole ring of its pool. -/
theorem Ledger.next_of_refused_swap {l : Ledger} {request : Request} {tier : FeeTier}
    {timestamp : Int64} {e : Error} (h : (l.swap request tier timestamp).answer = .error e) :
    (l.swap request tier timestamp).next = l := by
  rw [swap_answer_eq_error_iff] at h
  simp [swap, h]

namespace Registry

section Refused

variable {r : Registry} {id : PoolId} {l : Ledger} {t : FeeTier} {e : Error}

theorem next_of_refused_swap (hl : r.pools[id]? = some l) (ht : r.tiers[l.pool.tier]? = some t)
    {request : Request} {timestamp : Int64} {cause : ConstantProduct.Error}
    (h : (l.swap request t timestamp).answer = .error cause) :
    (r.swap id request timestamp).next =
      { r with stats := { r.stats with swapsRejected := r.stats.swapsRejected + 1 } } := by
  rw [swap, r.ledger_eq_ok_iff.2 hl]
  dsimp only
  rw [r.tier_eq_ok_iff.2 ht]
  dsimp only
  rw [h]

theorem next_of_missing (hid : id ∉ r.pools) (request : Request) (timestamp : Int64) :
    (r.swap id request timestamp).next = r := by
  have hnone : r.pools[id]? = none := by simp [hid]
  rw [swap, ledger, hnone]

/-- An operation on a ledger is refused only where there is none. -/
theorem next_of_refused_onLedger {α : Type} {f : Ledger → Outcome Ledger α}
    (h : (r.onLedger id f).answer = .error e) : (r.onLedger id f).next = r := by
  unfold onLedger at h ⊢
  rcases hl : r.ledger id with cause | l
  · rfl
  · simp [hl] at h

theorem next_of_refused_register (h : (r.register t).answer = .error e) :
    (r.register t).next = r := by
  unfold register at h ⊢
  rcases ht : t.validate with cause | ⟨⟩
  · rfl
  · simp [ht] at h

theorem next_of_refused_updateTier {index : UInt16} {u : TierUpdate}
    (h : (r.updateTier index u).answer = .error e) : (r.updateTier index u).next = r := by
  unfold updateTier at h ⊢
  rcases ht : r.tier index with cause | t
  · rfl
  dsimp only
  rcases hu : t.update u with cause | next
  · rfl
  · simp [ht, hu] at h

theorem next_of_refused_createPool {index : UInt16} {reserves : PerToken Amount}
    {openTime : Int64} (h : (r.createPool id index reserves openTime).answer = .error e) :
    (r.createPool id index reserves openTime).next = r := by
  unfold createPool at h ⊢
  rcases ht : r.tier index with cause | t
  · rfl
  dsimp only
  split_ifs with hid
  · rfl
  rcases hl : Ledger.create id t reserves openTime r.capacity with cause | l
  · rfl
  · simp [ht, hid, hl] at h

/-- Only a swap that a pool refuses leaves a trace. -/
theorem next_of_refused {op : Op} (h : (r.step op).answer.refusal? = some e)
    (hop : ∀ id request timestamp, op = .swap id request timestamp → id ∉ r.pools) :
    (r.step op).next = r := by
  cases op with
  | register t => exact next_of_refused_register (refusal?_done.1 h)
  | updateTier index u => exact next_of_refused_updateTier (refusal?_updated.1 h)
  | createPool id index reserves openTime => exact next_of_refused_createPool (refusal?_done.1 h)
  | swap id request timestamp => exact next_of_missing (hop _ _ _ rfl) request timestamp
  | collectProtocol id requested => exact next_of_refused_onLedger (refusal?_collected.1 h)
  | collectFund id requested => exact next_of_refused_onLedger (refusal?_collected.1 h)
  | setStatus id bits => exact next_of_refused_onLedger (refusal?_done.1 h)
  | tier index => rfl
  | quoteExactInput id direction amountIn => rfl
  | quoteExactOutput id direction amountOut => rfl
  | pool id => rfl
  | observations id => rfl
  | poolIds => rfl

end Refused

/-- Whatever has been done to a registry, an operation that it refuses leaves its tiers, its pools
with their books and rings, and its counters. Only a swap that an existing pool refuses, for a cause
of its own and with its ledger left as it was, is counted as rejected. -/
theorem refusal_changes_nothing (capacity : UInt64) (ops : List Op) {op : Op} {e : Error}
    (h : (((empty capacity).run ops).step op).answer.refusal? = some e) :
    let r := (empty capacity).run ops
    (∀ id request timestamp (l : Ledger), op = .swap id request timestamp →
      r.pools[id]? = some l → ∃ t cause, r.tiers[l.pool.tier]? = some t ∧
        (l.swap request t timestamp).answer = .error cause ∧
        (l.swap request t timestamp).next = l ∧ e = .settlement cause ∧ (r.step op).next =
          { r with stats := { r.stats with swapsRejected := r.stats.swapsRejected + 1 } }) ∧
    ((∀ id request timestamp, op = .swap id request timestamp → id ∉ r.pools) →
      (r.step op).next = r) := by
  intro r
  refine ⟨?_, next_of_refused h⟩
  rintro id request timestamp l rfl hl
  obtain ⟨t, ht⟩ := ((consistent_empty capacity).run ops).exists_tier hl
  have hanswer := refusal?_swap.1 h
  rw [swap_answer_of_found hl ht, settle_eq_error_iff] at hanswer
  obtain ⟨cause, hswap, he⟩ := hanswer
  exact ⟨t, cause, ht, hswap, Ledger.next_of_refused_swap hswap, he,
    next_of_refused_swap hl ht hswap⟩

def opening : List Op :=
  [.register Ledger.tenth, .createPool .zero 0 ⟨1000000000, 24000000000⟩ 100]

/-- A swap that asks for more than it would get. -/
def greedy : Op := .swap .zero ⟨.zeroForOne, .exactInput 100000000 2000000000⟩ 200

theorem next_of_greedy :
    let r := (empty 8).run opening
    (r.step greedy).answer.refusal? =
        some (.settlement (.slippageExceeded 1981651376 2000000000)) ∧
      (r.step greedy).next =
        { r with stats := { r.stats with swapsRejected := r.stats.swapsRejected + 1 } } := by
  have h : (((empty 8).run opening).step greedy).answer.refusal? =
      some (.settlement (.slippageExceeded 1981651376 2000000000)) := by decide +kernel
  have hpool : ((empty 8).run opening).pools[PoolId.zero]? = some Ledger.market := by
    decide +kernel
  obtain ⟨t, cause, -, -, -, -, hnext⟩ :=
    (refusal_changes_nothing 8 opening h).1 _ _ _ _ rfl hpool
  exact ⟨h, hnext⟩

end Registry

end ConstantProduct
