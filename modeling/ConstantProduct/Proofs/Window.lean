import Mathlib
import ConstantProduct.Proofs.RingList

namespace ConstantProduct

section Outcomes

variable {σ τ ω α : Type} {step : σ → ω → Outcome σ α} {step' : τ → ω → Outcome τ α}

/-- What relates two states and every step preserves, with equal answers, relates them after each
operation of a sequence. -/
theorem forall₂_outcomes {R : σ → τ → Prop}
    (hstep : ∀ s t op, R s t →
      (step s op).answer = (step' t op).answer ∧ R (step s op).next (step' t op).next)
    {s : σ} {t : τ} (h : R s t) (ops : List ω) :
    List.Forall₂ (fun o o' => o.answer = o'.answer ∧ R o.next o'.next)
      (outcomes step s ops) (outcomes step' t ops) := by
  induction ops generalizing s t with
  | nil => exact List.Forall₂.nil
  | cons op ops ih =>
    have hop := hstep s t op h
    exact List.Forall₂.cons hop (ih hop.2)

end Outcomes

namespace Ring

/-- A call on a history of observations. A commit may be of anything: of what was staged long ago,
has been committed before or was staged elsewhere. -/
inductive Call where
  | record (timestamp : Int64) (prices : PerToken Wide)
  | stage (timestamp : Int64) (prices : PerToken Wide)
  | commit (staged : Option Observation)

inductive Reply where
  | recorded (result : Result Unit)
  | staged (result : Result (Option Observation))
  | done

def step (r : Ring) : Call → Outcome Ring Reply
  | .record timestamp prices =>
    let o := r.record timestamp prices
    ⟨.recorded o.answer, o.next, o.events⟩
  | .stage timestamp prices => ⟨.staged (r.stage timestamp prices), r, []⟩
  | .commit staged => ⟨.done, r.commit staged, r.commitEvents staged⟩

end Ring

structure Window where
  bound : ℕ
  entries : List Observation

namespace Window

def stageAfter (latest? : Option Observation) (timestamp : Int64) (prices : PerToken Wide) :
    Result (Option Observation) :=
  match latest? with
  | none => .ok (some ⟨timestamp, .both 0⟩)
  | some last =>
    if timestamp < last.timestamp then .error (.staleTimestamp timestamp last.timestamp)
    else if timestamp = last.timestamp then .ok none
    else .ok (some (last.advance timestamp prices))

variable (w : Window)

/-- The window with one more entry, and without the oldest if there are then too many. -/
def append (o : Observation) : Window :=
  let entries := w.entries ++ [o]
  ⟨w.bound, if w.bound < entries.length then entries.tail else entries⟩

def commit : Option Observation → Window
  | none => w
  | some o => w.append o

def stage (timestamp : Int64) (prices : PerToken Wide) : Result (Option Observation) :=
  stageAfter w.entries.getLast? timestamp prices

def step : Ring.Call → Outcome Window Ring.Reply
  | .record timestamp prices =>
    match w.stage timestamp prices with
    | .error e => ⟨.recorded (.error e), w, []⟩
    | .ok staged => ⟨.recorded (.ok ()), w.commit staged, []⟩
  | .stage timestamp prices => ⟨.staged (w.stage timestamp prices), w, []⟩
  | .commit staged => ⟨.done, w.commit staged, []⟩

@[simp] theorem bound_commit (staged : Option Observation) : (w.commit staged).bound = w.bound := by
  cases staged <;> rfl

@[simp] theorem bound_step (call : Ring.Call) : (w.step call).next.bound = w.bound := by
  cases call with
  | record timestamp prices =>
    unfold step
    dsimp only
    split
    · rfl
    · exact w.bound_commit _
  | stage timestamp prices => rfl
  | commit staged => exact w.bound_commit staged

def average? : Option (PerToken Wide) := do
  let oldest ← w.entries.head?
  let newest ← w.entries.getLast?
  oldest.average? newest

end Window

namespace Ring

/-- The rings are the records of the right shape. -/
theorem ofRecord_eq_ok_iff {record : RingRecord} {r : Ring} :
    ofRecord record = .ok r ↔ record = r.toRecord := by
  constructor
  · intro h
    unfold ofRecord at h
    split_ifs at h with hslots hlength hcursor hinit hpartial
    obtain rfl := Except.ok.inj h
    have hflag : record.initialized = decide (0 < record.length) := not_not.1 hinit
    unfold toRecord Ring.initialized
    dsimp only
    rw [← hflag]
  · rintro rfl
    have hsize := r.size_pos
    have hlength := r.length_le
    have hcursor := r.cursor_lt
    have hpartial : ¬(0 < r.length ∧ r.length < r.slots.size ∧ r.cursor + 1 ≠ r.length) := by
      rintro ⟨hpos, hlt, hne⟩
      exact hne (r.cursor_eq hpos hlt)
    unfold ofRecord toRecord
    dsimp only
    rw [if_neg (by omega), dif_neg (by omega), dif_neg (by omega), if_neg (by simp [initialized]),
      dif_neg hpartial]

def window (r : Ring) : Window := ⟨r.capacity, r.observations⟩

/-- A ring stands for a window: all that it shows of itself is what the window shows, and the slots
that it reads and writes are there. -/
structure Represents (r : Ring) (w : Window) : Prop where
  observations : r.observations = w.entries
  length : r.length = w.entries.length
  isEmpty : r.isEmpty = true ↔ w.entries = []
  latest : r.latest? = w.entries.getLast?
  average : r.windowAverage? = w.average?
  capacity : r.capacity = w.bound
  capacity_pos : 1 ≤ r.capacity
  stage : r.stage = Window.stageAfter w.entries.getLast?
  cursor_lt : r.cursor < r.slots.size
  nextSlot_lt : r.nextSlot < r.slots.size
  length_le : r.length ≤ r.slots.size

theorem stage_eq (r : Ring) : r.stage = Window.stageAfter r.latest? := rfl

theorem represents_window (r : Ring) : r.Represents r.window where
  observations := rfl
  length := r.length_observations.symm
  isEmpty := by
    rw [isEmpty, beq_iff_eq, ← length_observations]
    exact List.length_eq_zero_iff
  latest := r.getLast?_observations.symm
  average := rfl
  capacity := rfl
  capacity_pos := r.size_pos
  stage := by
    rw [stage_eq, ← getLast?_observations]
    rfl
  cursor_lt := r.cursor_lt
  nextSlot_lt := r.nextSlot_lt
  length_le := r.length_le

theorem window_push (r : Ring) (o : Observation) : (r.push o).window = r.window.append o := by
  have hlength : (r.observations ++ [o]).length = r.length + 1 := by
    rw [List.length_append, length_observations, List.length_singleton]
  have hentries : (r.push o).observations =
      if r.slots.size < (r.observations ++ [o]).length then (r.observations ++ [o]).tail
      else r.observations ++ [o] := by
    rw [observations_push, hlength]
    split_ifs with h
    · have hfull : r.length = r.slots.size := le_antisymm r.length_le (Nat.le_of_lt_succ h)
      rw [hfull, Nat.add_sub_cancel_left, List.drop_one]
    · rw [Nat.sub_eq_zero_of_le (not_lt.1 h), List.drop_zero]
  rw [window, capacity, size_slots_push, hentries]
  rfl

theorem window_commit (r : Ring) (staged : Option Observation) :
    (r.commit staged).window = r.window.commit staged := by
  cases staged with
  | none => rfl
  | some o => exact r.window_push o

theorem window_stage (r : Ring) (timestamp : Int64) (prices : PerToken Wide) :
    r.window.stage timestamp prices = r.stage timestamp prices := by
  rw [r.represents_window.stage]
  rfl

/-- At one call a ring and its window answer alike, and what is left of the ring stands for what is
left of the window. -/
theorem step_window (r : Ring) (call : Call) :
    (r.step call).answer = (r.window.step call).answer ∧
      (r.step call).next.window = (r.window.step call).next := by
  cases call with
  | record timestamp prices =>
    unfold step Window.step record
    dsimp only
    rw [window_stage]
    rcases r.stage timestamp prices with e | staged
    · exact ⟨rfl, rfl⟩
    · exact ⟨rfl, r.window_commit staged⟩
  | stage timestamp prices =>
    unfold step Window.step
    dsimp only
    rw [window_stage]
    exact ⟨rfl, rfl⟩
  | commit staged => exact ⟨rfl, r.window_commit staged⟩

/-- Over a sequence of calls a ring and its window answer alike, and what is left of the ring stands
for what is left of the window, of the same bound. -/
theorem outcomes_window (r : Ring) (calls : List Call) :
    List.Forall₂
      (fun o o' => o.answer = o'.answer ∧ o.next.window = o'.next ∧ o'.next.bound = r.capacity)
      (outcomes step r calls) (outcomes Window.step r.window calls) := by
  refine forall₂_outcomes (R := fun (s : Ring) w => s.window = w ∧ w.bound = r.capacity) ?_
    ⟨rfl, rfl⟩ calls
  rintro s w call ⟨rfl, hbound⟩
  obtain ⟨hanswer, hnext⟩ := s.step_window call
  exact ⟨hanswer, hnext, (Window.bound_step _ call).trans hbound⟩

theorem outcomes_of_window_eq {r r' : Ring} (h : r'.window = r.window) (calls : List Call) :
    List.Forall₂ (fun o o' => o.answer = o'.answer ∧ o.next.window = o'.next.window)
      (outcomes step r' calls) (outcomes step r calls) := by
  refine forall₂_outcomes (R := fun (s s' : Ring) => s.window = s'.window) ?_ h calls
  intro s s' call hwindow
  obtain ⟨hanswer, hnext⟩ := s.step_window call
  obtain ⟨hanswer', hnext'⟩ := s'.step_window call
  exact ⟨by rw [hanswer, hanswer', hwindow], by rw [hnext, hnext', hwindow]⟩

/-- Whatever is called on a ring, new or read from a record, it answers as the window does that it
stands for at first, and after each call it stands for what that has become, of the same bound.
Another ring with as many slots and the same observations does the same, wherever its cursor is and
whatever is in its other slots. -/
theorem refines_window (r : Ring) (calls : List Call) :
    r.Represents r.window ∧
    List.Forall₂
      (fun o o' => o.answer = o'.answer ∧ o.next.Represents o'.next ∧ o'.next.bound = r.capacity)
      (outcomes step r calls) (outcomes Window.step r.window calls) ∧
    ∀ r' : Ring, r'.capacity = r.capacity → r'.observations = r.observations →
      List.Forall₂ (fun o o' => o.answer = o'.answer ∧ o.next.window = o'.next.window)
        (outcomes step r' calls) (outcomes step r calls) := by
  refine ⟨r.represents_window, (r.outcomes_window calls).imp ?_, ?_⟩
  · rintro o o' ⟨hanswer, hwindow, hbound⟩
    exact ⟨hanswer, hwindow ▸ o.next.represents_window, hbound⟩
  · intro r' hcapacity hobservations
    exact outcomes_of_window_eq (by rw [window, window, hcapacity, hobservations]) calls

def pair (commits : List Observation) : Ring := commits.foldl push (empty default 2)

/-- Two full rings hold the same observations in different slots, and a repeated commit and a record
find no difference. -/
theorem outcomes_of_rotated :
    let first : Observation := ⟨1, .both 0⟩
    let second : Observation := ⟨2, .both 5⟩
    let third : Observation := ⟨3, .both 7⟩
    let calls := [.commit (some second), .record 9 (.both 1)]
    (pair [second, third]).cursor ≠ (pair [first, second, third]).cursor ∧
      List.Forall₂ (fun o o' => o.answer = o'.answer ∧ o.next.window = o'.next.window)
        (outcomes step (pair [first, second, third]) calls)
        (outcomes step (pair [second, third]) calls) := by
  intro first second third calls
  have hcursor : (pair [second, third]).cursor ≠ (pair [first, second, third]).cursor := by decide
  exact ⟨hcursor, (refines_window (pair [second, third]) calls).2.2 (pair [first, second, third])
    (by decide) (by decide)⟩

end Ring

end ConstantProduct
