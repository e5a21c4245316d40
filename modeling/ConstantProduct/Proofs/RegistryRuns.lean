import Mathlib
import ConstantProduct.Registry
import ConstantProduct.Proofs.Words

namespace ConstantProduct

theorem FeeTier.index_of_update {t t' : FeeTier} {u : TierUpdate} (h : t.update u = .ok t') :
    t'.index = t.index := by
  obtain ⟨⟨⟩, -, hnext⟩ := bind_eq_ok.1 h
  obtain rfl := Except.ok.inj hnext
  cases u <;> rfl

namespace Registry

section Lookup

variable (r : Registry)

theorem tiers_insert (index i : UInt16) (t : FeeTier) :
    (r.tiers.insert index t)[i]? = if index = i then some t else r.tiers[i]? := by
  simp only [Std.TreeMap.getElem?_insert, Std.compare_eq_iff_eq]

theorem pools_insert (id p : PoolId) (l : Ledger) :
    (r.pools.insert id l)[p]? = if id = p then some l else r.pools[p]? := by
  simp only [Std.TreeMap.getElem?_insert, Std.compare_eq_iff_eq]

theorem tier_eq_ok_iff {index : UInt16} {t : FeeTier} :
    r.tier index = .ok t ↔ r.tiers[index]? = some t := by
  rw [tier, tier?]
  rcases r.tiers[index]? with _ | t' <;> simp

theorem ledger_eq_ok_iff {id : PoolId} {l : Ledger} :
    r.ledger id = .ok l ↔ r.pools[id]? = some l := by
  rw [ledger]
  rcases r.pools[id]? with _ | l' <;> simp

variable {r}

theorem ledger_error {id : PoolId} {e : Error} (h : r.ledger id = .error e) :
    e = .poolNotFound id := by
  rw [ledger] at h
  rcases hl : r.pools[id]? with _ | l
  · rw [hl] at h
    exact (Except.error.inj h).symm
  · simp [hl] at h

theorem tier_error {index : UInt16} {e : Error} (h : r.tier index = .error e) :
    e = .tierNotFound index := by
  rw [tier] at h
  rcases ht : r.tier? index with _ | t
  · rw [ht] at h
    exact (Except.error.inj h).symm
  · simp [ht] at h

theorem mem_tiers_iff {i : UInt16} : i ∈ r.tiers ↔ ∃ t : FeeTier, r.tiers[i]? = some t := by
  rw [Std.TreeMap.mem_iff_isSome_getElem?, Option.isSome_iff_exists]

theorem mem_pools_iff {id : PoolId} : id ∈ r.pools ↔ ∃ l : Ledger, r.pools[id]? = some l := by
  rw [Std.TreeMap.mem_iff_isSome_getElem?, Option.isSome_iff_exists]

end Lookup

section Effects

def Op.pool? : Op → Option PoolId
  | .createPool id .. | .quoteExactInput id .. | .quoteExactOutput id .. | .swap id ..
  | .collectProtocol id _ | .collectFund id _ | .setStatus id _ | .pool id
  | .observations id => some id
  | .register _ | .updateTier .. | .tier _ | .poolIds => none

/-- What an operation does to tiers and pools. -/
inductive Effect (r : Registry) : Op → Registry → Prop where
  | unchanged {op : Op} {next : Registry} (capacity : next.capacity = r.capacity)
      (tiers : next.tiers = r.tiers) (pools : next.pools = r.pools) : Effect r op next
  | registered {t : FeeTier} {next : Registry} (valid : t.validate = .ok ())
      (capacity : next.capacity = r.capacity) (tiers : next.tiers = r.tiers.insert t.index t)
      (pools : next.pools = r.pools) : Effect r (.register t) next
  | updated {index : UInt16} {u : TierUpdate} {t t' : FeeTier} {next : Registry}
      (found : r.tiers[index]? = some t) (update : t.update u = .ok t')
      (capacity : next.capacity = r.capacity) (tiers : next.tiers = r.tiers.insert index t')
      (pools : next.pools = r.pools) : Effect r (.updateTier index u) next
  | created {id : PoolId} {index : UInt16} {reserves : PerToken Amount} {openTime : Int64}
      {t : FeeTier} {l : Ledger} {next : Registry} (found : r.tiers[index]? = some t)
      (fresh : r.pools[id]? = none)
      (create : Ledger.create id t reserves openTime r.capacity = .ok l)
      (capacity : next.capacity = r.capacity) (tiers : next.tiers = r.tiers)
      (pools : next.pools = r.pools.insert id l) :
      Effect r (.createPool id index reserves openTime) next
  | stepped {op : Op} {id : PoolId} {l : Ledger} {next : Registry} (names : op.pool? = some id)
      (found : r.pools[id]? = some l) (lop : Ledger.Op) (capacity : next.capacity = r.capacity)
      (tiers : next.tiers = r.tiers) (pools : next.pools = r.pools.insert id (l.step lop).next) :
      Effect r op next

theorem onLedger_effect {α : Type} (r : Registry) {op : Op} {id : PoolId}
    (hop : op.pool? = some id) {f : Ledger → Outcome Ledger α} (lop : Ledger.Op)
    (hf : ∀ l, (f l).next = (l.step lop).next) : Effect r op (r.onLedger id f).next := by
  unfold onLedger
  rcases h : r.ledger id with e | l
  · exact .unchanged rfl rfl rfl
  · exact .stepped hop (r.ledger_eq_ok_iff.1 h) lop rfl rfl (by rw [← hf]; rfl)

theorem swap_effect (r : Registry) (id : PoolId) (request : Request) (timestamp : Int64) :
    Effect r (.swap id request timestamp) (r.swap id request timestamp).next := by
  unfold swap
  rcases h : r.ledger id with e | l
  · exact .unchanged rfl rfl rfl
  dsimp only
  rcases r.tier l.pool.tier with e | t
  · exact .unchanged rfl rfl rfl
  dsimp only
  rcases (l.swap request t timestamp).answer with e | receipt
  · exact .unchanged rfl rfl rfl
  · exact .stepped rfl (r.ledger_eq_ok_iff.1 h) (.swap request t timestamp) rfl rfl rfl

/-- All that an operation does to tiers and pools. -/
theorem step_effect (r : Registry) (op : Op) : Effect r op (r.step op).next := by
  cases op with
  | register t =>
    simp only [step, answered, register]
    rcases h : t.validate with e | ⟨⟩
    · exact .unchanged rfl rfl rfl
    · exact .registered h rfl rfl rfl
  | updateTier index u =>
    simp only [step, answered, updateTier]
    rcases h : r.tier index with e | t
    · exact .unchanged rfl rfl rfl
    dsimp only
    rcases hu : t.update u with e | t'
    · exact .unchanged rfl rfl rfl
    · exact .updated (r.tier_eq_ok_iff.1 h) hu rfl rfl rfl
  | createPool id index reserves openTime =>
    simp only [step, answered, createPool]
    rcases h : r.tier index with e | t
    · exact .unchanged rfl rfl rfl
    dsimp only
    split_ifs with hid
    · exact .unchanged rfl rfl rfl
    rcases hl : Ledger.create id t reserves openTime r.capacity with e | l
    · exact .unchanged rfl rfl rfl
    · rw [Std.TreeMap.contains_eq_isSome_getElem?, Option.not_isSome_iff_eq_none] at hid
      exact .created (r.tier_eq_ok_iff.1 h) hid hl rfl rfl rfl
  | swap id request timestamp => exact r.swap_effect id request timestamp
  | collectProtocol id requested =>
    exact r.onLedger_effect rfl (.collectProtocol requested) fun l => rfl
  | collectFund id requested =>
    exact r.onLedger_effect rfl (.collectFund requested) fun l => rfl
  | setStatus id bits => exact r.onLedger_effect rfl (.setStatus bits) fun l => rfl
  | tier index => exact .unchanged rfl rfl rfl
  | quoteExactInput id direction amountIn => exact .unchanged rfl rfl rfl
  | quoteExactOutput id direction amountOut => exact .unchanged rfl rfl rfl
  | pool id => exact .unchanged rfl rfl rfl
  | observations id => exact .unchanged rfl rfl rfl
  | poolIds => exact .unchanged rfl rfl rfl

theorem capacity_step (r : Registry) (op : Op) : (r.step op).next.capacity = r.capacity := by
  cases r.step_effect op <;> assumption

def Keyed (r : Registry) : Prop := ∀ i (t : FeeTier), r.tiers[i]? = some t → t.index = i

theorem keyed_empty (capacity : UInt64) : (empty capacity).Keyed := by simp [Keyed, empty]

theorem Keyed.step {r : Registry} (h : r.Keyed) (op : Op) : (r.step op).next.Keyed := by
  intro i t ht
  cases r.step_effect op with
  | unchanged _ tiers _ => exact h i t (tiers ▸ ht)
  | registered _ _ tiers _ =>
    rw [tiers, tiers_insert] at ht
    split_ifs at ht with hi
    · rw [← Option.some.inj ht, hi]
    · exact h i t ht
  | updated found update _ tiers _ =>
    rw [tiers, tiers_insert] at ht
    split_ifs at ht with hi
    · rw [← Option.some.inj ht, FeeTier.index_of_update update, h _ _ found, hi]
    · exact h i t ht
  | created _ _ _ _ tiers _ => exact h i t (tiers ▸ ht)
  | stepped _ _ _ _ tiers _ => exact h i t (tiers ▸ ht)

end Effects

def answers (r : Registry) (ops : List Op) : List Answer := (r.history ops).map (·.answer)

def journal (r : Registry) (ops : List Op) : List (Op × Answer) := ops.zip (r.answers ops)

section Unfold

variable (r : Registry) (op : Op) (ops : List Op)

@[simp] theorem run_nil : r.run [] = r := rfl

@[simp] theorem run_cons : r.run (op :: ops) = (r.step op).next.run ops := rfl

@[simp] theorem journal_nil : r.journal [] = [] := rfl

@[simp] theorem journal_cons :
    r.journal (op :: ops) = (op, (r.step op).answer) :: (r.step op).next.journal ops := rfl

end Unfold

/-- What every step preserves together with the journal, a run preserves with all of it. -/
theorem run_invariant {P : Registry → List (Op × Answer) → Prop}
    (hstep : ∀ r js op, P r js → P (r.step op).next (js ++ [(op, (r.step op).answer)]))
    {r : Registry} (h : P r []) (ops : List Op) : P (r.run ops) (r.journal ops) := by
  suffices hrun : ∀ r js, P r js → P (r.run ops) (js ++ r.journal ops) by simpa using hrun r [] h
  induction ops with
  | nil => simp
  | cons op ops ih =>
    intro r js hP
    simpa using ih _ _ (hstep r js op hP)

end Registry

end ConstantProduct
