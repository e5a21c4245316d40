import Mathlib
import ConstantProduct.Proofs.Staging

namespace ConstantProduct

namespace Ledger

def Answer.receipt? : Answer → Option Receipt
  | .swap (.ok receipt) => some receipt
  | _ => none

def answers (l : Ledger) (ops : List Op) : List Answer := (l.history ops).map (·.answer)

def receipts (l : Ledger) (ops : List Op) : List Receipt := (l.answers ops).filterMap (·.receipt?)

def journal (l : Ledger) (ops : List Op) : List (Op × Answer) := ops.zip (l.answers ops)

section Unfold

variable (l : Ledger) (op : Op) (ops : List Op)

@[simp] theorem run_nil : l.run [] = l := rfl

@[simp] theorem run_cons : l.run (op :: ops) = (l.step op).next.run ops := rfl

@[simp] theorem answers_nil : l.answers [] = [] := rfl

@[simp] theorem answers_cons :
    l.answers (op :: ops) = (l.step op).answer :: (l.step op).next.answers ops := rfl

@[simp] theorem journal_nil : l.journal [] = [] := rfl

@[simp] theorem journal_cons :
    l.journal (op :: ops) = (op, (l.step op).answer) :: (l.step op).next.journal ops := rfl

end Unfold

theorem receipts_eq_journal (l : Ledger) (ops : List Op) :
    l.receipts ops = (l.journal ops).filterMap (·.2.receipt?) := by
  rw [receipts]
  induction ops generalizing l with
  | nil => rfl
  | cons op ops ih => rw [answers_cons, journal_cons, List.filterMap_cons, List.filterMap_cons, ih]

/-- What every step of a run preserves together with the journal, the run preserves with all of
it. -/
theorem run_invariant {P : Ledger → List (Op × Answer) → Prop} {ops : List Op}
    (hstep : ∀ l js, ∀ op ∈ ops, P l js → P (l.step op).next (js ++ [(op, (l.step op).answer)]))
    {l : Ledger} (h : P l []) : P (l.run ops) (l.journal ops) := by
  suffices hrun : ∀ l js, P l js → P (l.run ops) (js ++ l.journal ops) by simpa using hrun l [] h
  -- Each step changes the ledger and lengthens the journal, so both are general.
  induction ops with
  | nil => simp
  | cons op ops ih =>
    intro l js hP
    have hrest := ih fun l js op hop => hstep l js op (List.mem_cons_of_mem _ hop)
    simpa using hrest _ _ (hstep l js op List.mem_cons_self hP)

/-- A step leaves reserves and observations alone, or is a swap that passes. -/
theorem step_cases (l : Ledger) (op : Op) :
    ((l.step op).answer.receipt? = none ∧ (l.step op).next.pool.reserves = l.pool.reserves ∧
      (l.step op).next.oracle = l.oracle) ∨
    ∃ r tier timestamp s, op = .swap r tier timestamp ∧ l.stage r tier timestamp = .ok s ∧
      (l.step op).answer.receipt? = some (s.receipt timestamp) ∧
        (l.step op).next = ⟨s.pool, l.oracle.commit s.observation⟩ := by
  cases op with
  | swap r tier timestamp =>
    rcases h : l.stage r tier timestamp with e | s
    · left
      simp [step, swap, h, Answer.receipt?]
    · right
      obtain ⟨hanswer, hnext⟩ := swap_of_stage h
      exact ⟨r, tier, timestamp, s, rfl, h, by simp [step, hanswer, Answer.receipt?], hnext⟩
  | quote r tier => exact .inl ⟨rfl, rfl, rfl⟩
  | collectProtocol requested => exact .inl ⟨rfl, rfl, rfl⟩
  | collectFund requested => exact .inl ⟨rfl, rfl, rfl⟩
  | setStatus bits => exact .inl ⟨rfl, rfl, rfl⟩

/-- What every swap of a run that passes preserves of reserves and observations together with its
receipt, the run preserves with all its receipts. -/
theorem run_of_swaps {P : PerToken Amount → Ring → List Receipt → Prop} {ops : List Op}
    (hswap : ∀ {l : Ledger} {r : Request} {tier : FeeTier} {timestamp : Int64} {s : Staged} {rs},
      .swap r tier timestamp ∈ ops → l.stage r tier timestamp = .ok s →
        P l.pool.reserves l.oracle rs →
          P s.pool.reserves (l.oracle.commit s.observation) (rs ++ [s.receipt timestamp]))
    {l : Ledger} (h : P l.pool.reserves l.oracle []) :
    P (l.run ops).pool.reserves (l.run ops).oracle (l.receipts ops) := by
  rw [receipts_eq_journal]
  refine run_invariant
    (P := fun l js => P l.pool.reserves l.oracle (js.filterMap (·.2.receipt?))) ?_ h
  intro l js op hop hP
  rw [List.filterMap_append]
  rcases step_cases l op with ⟨hnone, hreserves, horacle⟩ |
    ⟨r, tier, timestamp, s, rfl, hs, hsome, hnext⟩
  · simpa [hnone, hreserves, horacle] using hP
  · rw [hnext]
    simpa [hsome] using hswap hop hs hP

end Ledger

end ConstantProduct
