import Mathlib
import ConstantProduct.Proofs.Refusals
import ConstantProduct.Proofs.RegistryRuns
import ConstantProduct.Proofs.Soundness

namespace ConstantProduct

namespace Registry

section Answers

def Answer.refusal? : Answer → Option Error
  | .done (.error e) | .updated (.error e) | .quote (.error e) | .swap (.error e)
  | .collected (.error e) | .observations (.error e) => some e
  | _ => none

/-- The pool that an operation works on. The creation of a pool works on none. -/
def Op.target? : Op → Option PoolId
  | .createPool .. => none
  | op => op.pool?

def Op.request? : Op → Option (PoolId × Request)
  | .quoteExactInput id direction amountIn => some (id, ⟨direction, .exactInput amountIn 0⟩)
  | .quoteExactOutput id direction amountOut =>
    some (id, ⟨direction, .exactOutput amountOut Amount.max⟩)
  | .swap id request _ => some (id, request)
  | _ => none

end Answers

section Lasting

variable {r : Registry} {i : UInt16} {id : PoolId}

theorem mem_tiers_step (h : i ∈ r.tiers) (op : Op) : i ∈ (r.step op).next.tiers := by
  cases r.step_effect op with
  | unchanged _ tiers _ => rwa [tiers]
  | registered _ _ tiers _ => simp [tiers, h]
  | updated _ _ _ tiers _ => simp [tiers, h]
  | created _ _ _ _ tiers _ => rwa [tiers]
  | stepped _ _ _ _ tiers _ => rwa [tiers]

theorem mem_pools_step (h : id ∈ r.pools) (op : Op) : id ∈ (r.step op).next.pools := by
  cases r.step_effect op with
  | unchanged _ _ pools => rwa [pools]
  | registered _ _ _ pools => rwa [pools]
  | updated _ _ _ _ pools => rwa [pools]
  | created _ _ _ _ _ pools => simp [pools, h]
  | stepped _ _ _ _ _ pools => simp [pools, h]

theorem mem_run (r : Registry) (ops : List Op) :
    (∀ i ∈ r.tiers, i ∈ (r.run ops).tiers) ∧ ∀ id ∈ r.pools, id ∈ (r.run ops).pools := by
  induction ops generalizing r with
  | nil => exact ⟨fun _ h => h, fun _ h => h⟩
  | cons op ops ih =>
    obtain ⟨htiers, hpools⟩ := ih (r.step op).next
    exact ⟨fun i h => htiers i (mem_tiers_step h op), fun id h => hpools id (mem_pools_step h op)⟩

theorem capacity_run (r : Registry) (ops : List Op) : (r.run ops).capacity = r.capacity := by
  induction ops generalizing r with
  | nil => rfl
  | cons op ops ih => rw [run_cons, ih, capacity_step]

end Lasting

/-- Every tier is valid and kept under its own index; every pool is sound under its own identifier,
with a ring of the registry's capacity, and its tier is registered. -/
structure Consistent (r : Registry) : Prop where
  keyed : r.Keyed
  valid : ∀ (i : UInt16) (t : FeeTier), r.tiers[i]? = some t → t.validate = .ok ()
  sound : ∀ (id : PoolId) (l : Ledger), r.pools[id]? = some l →
    ∃ openTime, Ledger.Sound id l.pool.tier openTime r.capacity l
  registered : ∀ (id : PoolId) (l : Ledger), r.pools[id]? = some l → l.pool.tier ∈ r.tiers

theorem consistent_empty (capacity : UInt64) : (empty capacity).Consistent where
  keyed := keyed_empty capacity
  valid := by simp [empty]
  sound := by simp [empty]
  registered := by simp [empty]

namespace Consistent

variable {r : Registry} {op : Op} (h : r.Consistent)
include h

theorem valid_step (op : Op) (i : UInt16) (t : FeeTier)
    (ht : (r.step op).next.tiers[i]? = some t) : t.validate = .ok () := by
  cases r.step_effect op with
  | unchanged _ tiers _ => exact h.valid i t (tiers ▸ ht)
  | registered valid _ tiers _ =>
    rw [tiers, tiers_insert] at ht
    split_ifs at ht
    · rwa [← Option.some.inj ht]
    · exact h.valid i t ht
  | updated _ update _ tiers _ =>
    rw [tiers, tiers_insert] at ht
    split_ifs at ht
    · rw [← Option.some.inj ht]
      exact FeeTier.validate_of_update update
    · exact h.valid i t ht
  | created _ _ _ _ tiers _ => exact h.valid i t (tiers ▸ ht)
  | stepped _ _ _ _ tiers _ => exact h.valid i t (tiers ▸ ht)

/-- A pool is there already, or a step of one that is, or new under a registered tier. -/
theorem sound_step (op : Op) (id : PoolId) (l : Ledger)
    (hl : (r.step op).next.pools[id]? = some l) :
    (∃ openTime, Ledger.Sound id l.pool.tier openTime r.capacity l) ∧ l.pool.tier ∈ r.tiers := by
  cases r.step_effect op with
  | unchanged _ _ pools => exact ⟨h.sound id l (pools ▸ hl), h.registered id l (pools ▸ hl)⟩
  | registered _ _ _ pools => exact ⟨h.sound id l (pools ▸ hl), h.registered id l (pools ▸ hl)⟩
  | updated _ _ _ _ pools => exact ⟨h.sound id l (pools ▸ hl), h.registered id l (pools ▸ hl)⟩
  | created found _ create _ _ pools =>
    rw [pools, pools_insert] at hl
    split_ifs at hl with hid
    -- The new pool starts out sound, under a tier that was found; the others are as they were.
    · obtain ⟨-, -, hpos, rfl⟩ := Ledger.create_eq_ok_iff.1 create
      obtain rfl := Option.some.inj hl
      rw [← hid]
      refine ⟨⟨_, Ledger.sound_opened _ _ hpos⟩, ?_⟩
      rw [Ledger.opened, Pool.opened, h.keyed _ _ found]
      exact mem_tiers_iff.2 ⟨_, found⟩
    · exact ⟨h.sound id l hl, h.registered id l hl⟩
  | stepped _ found lop _ _ pools =>
    rw [pools, pools_insert] at hl
    split_ifs at hl with hid
    · rw [hid] at found
      obtain ⟨openTime, hsound⟩ := h.sound id _ found
      have hnext := hsound.step lop
      rw [Option.some.inj hl] at hnext
      refine ⟨⟨openTime, hnext.tier_eq.symm ▸ hnext⟩, ?_⟩
      rw [hnext.tier_eq]
      exact h.registered id _ found
    · exact ⟨h.sound id l hl, h.registered id l hl⟩

theorem step (op : Op) : (r.step op).next.Consistent where
  keyed := h.keyed.step op
  valid := h.valid_step op
  sound id l hl := by
    rw [r.capacity_step op]
    exact (h.sound_step op id l hl).1
  registered id l hl := mem_tiers_step (h.sound_step op id l hl).2 op

theorem run (ops : List Op) : (r.run ops).Consistent := by
  induction ops generalizing r with
  | nil => exact h
  | cons op ops ih => exact ih (h.step op)

theorem exists_tier {id : PoolId} {l : Ledger} (hl : r.pools[id]? = some l) :
    ∃ t, r.tiers[l.pool.tier]? = some t := mem_tiers_iff.1 (h.registered id l hl)

end Consistent

section Refusals

variable {r : Registry} {id : PoolId} {l : Ledger} {t : FeeTier}

theorem quote_of_found (hl : r.pools[id]? = some l) (ht : r.tiers[l.pool.tier]? = some t)
    (request : Request) : r.quote id request = settle (l.quote request t) := by
  rw [quote, r.ledger_eq_ok_iff.2 hl, ok_bind, r.tier_eq_ok_iff.2 ht, ok_bind]

theorem swap_answer_of_found (hl : r.pools[id]? = some l) (ht : r.tiers[l.pool.tier]? = some t)
    (request : Request) (timestamp : Int64) :
    (r.swap id request timestamp).answer = settle (l.swap request t timestamp).answer := by
  rw [swap, r.ledger_eq_ok_iff.2 hl]
  dsimp only
  rw [r.tier_eq_ok_iff.2 ht]
  dsimp only
  rcases (l.swap request t timestamp).answer with e | receipt <;> rfl

theorem onLedger_answer_of_found {α : Type} (hl : r.pools[id]? = some l)
    (f : Ledger → Outcome Ledger α) : (r.onLedger id f).answer = .ok (f l).answer := by
  rw [onLedger, r.ledger_eq_ok_iff.2 hl]

theorem settle_eq_error_iff {α : Type} {x : Result α} {e : Error} :
    settle x = .error e ↔ ∃ cause, x = .error cause ∧ e = .settlement cause := by
  cases x <;> simp [settle, eq_comm]

@[simp] theorem refusal?_done {x : Except Error Unit} {e : Error} :
    (Answer.done x).refusal? = some e ↔ x = .error e := by
  cases x <;> simp [Answer.refusal?]

@[simp] theorem refusal?_updated {x : Except Error FeeTier} {e : Error} :
    (Answer.updated x).refusal? = some e ↔ x = .error e := by
  cases x <;> simp [Answer.refusal?]

@[simp] theorem refusal?_collected {x : Except Error (PerToken Amount)} {e : Error} :
    (Answer.collected x).refusal? = some e ↔ x = .error e := by
  cases x <;> simp [Answer.refusal?]

@[simp] theorem refusal?_quote {x : Except Error Quote} {e : Error} :
    (Answer.quote x).refusal? = some e ↔ x = .error e := by
  cases x <;> simp [Answer.refusal?]

@[simp] theorem refusal?_swap {x : Except Error Receipt} {e : Error} :
    (Answer.swap x).refusal? = some e ↔ x = .error e := by
  cases x <;> simp [Answer.refusal?]

/-- A pool that exists, with its tier, refuses quotes and swaps only, and each for a cause of its
own. -/
theorem refusal_of_found (hl : r.pools[id]? = some l) (ht : r.tiers[l.pool.tier]? = some t)
    {op : Op} (hop : op.target? = some id) {e : Error}
    (h : (r.step op).answer.refusal? = some e) :
    ∃ request cause, op.request? = some (id, request) ∧ e = .settlement cause ∧
      (l.quote request t = .error cause ∨
        ∃ timestamp, l.stage request t timestamp = .error cause) := by
  cases op with
  | quoteExactInput id' direction amountIn =>
    obtain rfl := Option.some.inj hop
    rw [step, refusal?_quote, quote_of_found hl ht, settle_eq_error_iff] at h
    obtain ⟨cause, hquote, rfl⟩ := h
    exact ⟨_, cause, rfl, rfl, .inl hquote⟩
  | quoteExactOutput id' direction amountOut =>
    obtain rfl := Option.some.inj hop
    rw [step, refusal?_quote, quote_of_found hl ht, settle_eq_error_iff] at h
    obtain ⟨cause, hquote, rfl⟩ := h
    exact ⟨_, cause, rfl, rfl, .inl hquote⟩
  | swap id' request timestamp =>
    obtain rfl := Option.some.inj hop
    rw [step, answered, refusal?_swap, swap_answer_of_found hl ht, settle_eq_error_iff] at h
    obtain ⟨cause, hswap, rfl⟩ := h
    exact ⟨_, cause, rfl, rfl, .inr ⟨_, Ledger.swap_answer_eq_error_iff.1 hswap⟩⟩
  -- What is not priced always succeeds on a pool that is there.
  | collectProtocol id' requested =>
    obtain rfl := Option.some.inj hop
    simp [step, answered, collectProtocol, onLedger_answer_of_found hl, Answer.refusal?] at h
  | collectFund id' requested =>
    obtain rfl := Option.some.inj hop
    simp [step, answered, collectFund, onLedger_answer_of_found hl, Answer.refusal?] at h
  | setStatus id' bits =>
    obtain rfl := Option.some.inj hop
    simp [step, answered, setStatus, onLedger_answer_of_found hl, Answer.refusal?] at h
  | observations id' =>
    obtain rfl := Option.some.inj hop
    simp [step, observations, r.ledger_eq_ok_iff.2 hl, Answer.refusal?] at h
  | pool id' => simp [step, Answer.refusal?] at h
  -- The others work on no pool.
  | createPool id' index reserves openTime => simp [Op.target?] at hop
  | register t' => simp [Op.target?, Op.pool?] at hop
  | updateTier index u => simp [Op.target?, Op.pool?] at hop
  | tier index => simp [Op.target?, Op.pool?] at hop
  | poolIds => simp [Op.target?, Op.pool?] at hop

theorem refusal_of_recreation (h : id ∈ r.pools) (index : UInt16) (reserves : PerToken Amount)
    (openTime : Int64) : (r.step (.createPool id index reserves openTime)).answer.refusal? =
      some (if index ∈ r.tiers then .poolExists id else .tierNotFound index) := by
  rcases ht : r.tiers[index]? with _ | t
  · have hmem : index ∉ r.tiers := by simp [mem_tiers_iff, ht]
    simp [step, answered, createPool, tier, tier?, Answer.refusal?, hmem]
  · have hmem : index ∈ r.tiers := mem_tiers_iff.2 ⟨t, ht⟩
    simp [step, answered, createPool, tier, tier?, Answer.refusal?, hmem, h]

end Refusals

/-- Whatever is done to a registry, failing operations included, its tiers stay valid and under
their own indices, its pools sound and under their own identifiers with rings of its capacity, and
neither a tier nor a pool is lost. Each pool has its tier, so no operation on a pool that exists
misses one; where a pool refuses a rate, a purchase was asked and the tier charges the whole. -/
theorem stays_consistent (capacity : UInt64) (ops : List Op) :
    let r := (empty capacity).run ops
    r.capacity = capacity ∧ r.Consistent ∧
    (∀ later, (∀ i ∈ r.tiers, i ∈ (r.run later).tiers) ∧
      ∀ id ∈ r.pools, id ∈ (r.run later).pools) ∧
    (∀ (op : Op) id, op.target? = some id → id ∈ r.pools →
      ∀ i, (r.step op).answer.refusal? ≠ some (.tierNotFound i)) ∧
    (∀ id ∈ r.pools, ∀ index reserves openTime,
      (r.step (.createPool id index reserves openTime)).answer.refusal? =
        some (if index ∈ r.tiers then .poolExists id else .tierNotFound index)) ∧
    ∀ (op : Op) (id : PoolId) request (l : Ledger), op.request? = some (id, request) →
      r.pools[id]? = some l → ∃ t : FeeTier, r.tiers[l.pool.tier]? = some t ∧ ∀ rate cause,
        (r.step op).answer.refusal? = some (.settlement (.invalidFeeRate rate cause)) →
          request.order.mode = .exactOutput ∧ t.tradeRate request.direction = Fee.whole := by
  intro r
  have hr : r.Consistent := (consistent_empty capacity).run ops
  refine ⟨capacity_run _ ops, hr, r.mem_run, ?_, fun id hid => refusal_of_recreation hid, ?_⟩
  · intro op id hop hid i h
    obtain ⟨l, hl⟩ := mem_pools_iff.1 hid
    obtain ⟨t, ht⟩ := hr.exists_tier hl
    obtain ⟨_, _, -, he, -⟩ := refusal_of_found hl ht hop h
    cases he
  · intro op id request l hop hl
    obtain ⟨t, ht⟩ := hr.exists_tier hl
    refine ⟨t, ht, ?_⟩
    intro rate cause h
    have htarget : op.target? = some id := by
      cases op <;> simp_all [Op.request?, Op.target?, Op.pool?]
    obtain ⟨request', e, hop', he, hrefused⟩ := refusal_of_found hl ht htarget h
    obtain rfl : request' = request := by simp_all
    obtain rfl := Error.settlement.inj he
    have hquote : l.quote request' t = .error (.invalidFeeRate rate cause) := by
      rcases hrefused with hquote | ⟨timestamp, hstage⟩
      · exact hquote
      · exact Ledger.quote_of_stage_rate hstage trivial
    exact Quote.whole_of_rate_refused (hr.valid _ _ ht) hquote trivial

end Registry

end ConstantProduct
