import Mathlib
import ConstantProduct.Proofs.Recording

namespace ConstantProduct.Ring

/-- A record at `timestamp` would write: nothing is observed yet, or the newest observation is
earlier. -/
def Awaits (r : Ring) (timestamp : Int64) : Prop :=
  r.isEmpty = true ∨ ∃ last, r.latest? = some last ∧ last.timestamp < timestamp

variable {r : Ring} {s : Sample} {timestamp : Int64}

theorem isEmpty_iff : r.isEmpty = true ↔ r.latest? = none := by
  rw [isEmpty, beq_iff_eq, latest?]
  by_cases h : 0 < r.length
  · simp [h, h.ne']
  · simp [Nat.eq_zero_of_not_pos h]

theorem not_awaits_iff :
    ¬r.Awaits timestamp ↔ ∃ last, r.latest? = some last ∧ timestamp ≤ last.timestamp := by
  unfold Awaits
  rw [isEmpty_iff]
  rcases r.latest? with _ | last
  · simp
  · simp [Int64.not_lt]

section Record

variable {prices : PerToken Wide} {e : ConstantProduct.Error}

theorem record_answer_eq_ok_iff :
    (r.record timestamp prices).answer = .ok () ↔ r.Timely timestamp := by
  have hstage : r.stage timestamp prices = .ok (r.update timestamp prices) ↔
      r.Timely timestamp := stage_eq_ok_iff.trans (and_iff_left rfl)
  rw [← hstage, record]
  rcases h : r.stage timestamp prices with e | staged
  · simp
  · simp [(stage_eq_ok_iff.1 h).2]

/-- The only refusal of a record is of a time before that of the newest observation. -/
theorem record_answer_eq_error_iff :
    (r.record timestamp prices).answer = .error e ↔ ∃ last, r.latest? = some last ∧
      timestamp < last.timestamp ∧ e = .staleTimestamp timestamp last.timestamp := by
  unfold record stage
  rcases r.latest? with _ | last
  · simp
  · by_cases hlt : timestamp < last.timestamp
    · simp [hlt, eq_comm]
    · by_cases heq : timestamp = last.timestamp <;> simp [hlt, heq]

theorem next_of_refused_record (h : (r.record timestamp prices).answer = .error e) :
    (r.record timestamp prices).next = r := by
  unfold record at h ⊢
  rcases hs : r.stage timestamp prices with cause | staged
  · rfl
  · simp [hs] at h

theorem writes_iff : r.writes s = true ↔ r.Awaits s.timestamp := by
  unfold writes stage Awaits
  rw [isEmpty_iff]
  rcases r.latest? with _ | last
  · simp
  · by_cases hlt : last.timestamp < s.timestamp
    · have hne : ¬s.timestamp = last.timestamp := fun h => Int64.lt_irrefl (h ▸ hlt)
      simp [hlt, Int64.not_lt.2 (Int64.le_of_lt hlt), hne]
    · by_cases heq : s.timestamp = last.timestamp
      · simp [heq]
      · simp [hlt, Int64.lt_of_le_of_ne (Int64.not_lt.1 hlt) heq]

/-- A record that the ring does not wait for changes nothing. -/
theorem record_of_not_awaits (h : ¬r.Awaits s.timestamp) :
    (r.record s.timestamp s.prices).next = r := by
  rcases r.record_cases s with ⟨-, hnext⟩ | ⟨o, hwrites, -⟩
  · exact hnext
  · exact absurd (writes_iff.1 hwrites) h

theorem not_awaits_record (r : Ring) (s : Sample) :
    ¬(r.record s.timestamp s.prices).next.Awaits s.timestamp := by
  rcases r.record_cases s with ⟨hwrites, hnext⟩ | ⟨o, -, hnext, htime, -⟩
  · rw [hnext, ← writes_iff, hwrites]
    exact Bool.false_ne_true
  · rw [hnext, not_awaits_iff]
    exact ⟨o, r.latest?_push o, htime ▸ Int64.le_refl _⟩

/-- A time that the ring has got to stays behind it. -/
theorem not_awaits_of_record (h : ¬r.Awaits timestamp) (s : Sample) :
    ¬(r.record s.timestamp s.prices).next.Awaits timestamp := by
  rcases r.record_cases s with ⟨-, hnext⟩ | ⟨o, -, hnext, htime, hlater⟩
  · rwa [hnext]
  · obtain ⟨last, hlast, hle⟩ := not_awaits_iff.1 h
    rw [hnext, not_awaits_iff]
    refine ⟨o, r.latest?_push o, ?_⟩
    rw [htime]
    exact Int64.le_trans hle (Int64.le_of_lt (hlater last hlast).1)

end Record

section Run

variable {samples : List Sample}

theorem recordAll_cons (r : Ring) (s : Sample) (samples : List Sample) :
    r.recordAll (s :: samples) = (r.record s.timestamp s.prices).next.recordAll samples := rfl

theorem accepted_cons_of_writes (h : r.writes s = true) :
    r.accepted (s :: samples) =
      s :: (r.record s.timestamp s.prices).next.accepted samples := by
  simp [accepted, h]

theorem accepted_cons_of_not_writes (h : r.writes s = false) :
    r.accepted (s :: samples) = (r.record s.timestamp s.prices).next.accepted samples := by
  simp [accepted, h]

/-- Only the records that write need to be made. -/
theorem recordAll_accepted (r : Ring) (samples : List Sample) :
    r.recordAll (r.accepted samples) = r.recordAll samples := by
  induction samples generalizing r with
  | nil => rfl
  | cons s samples ih =>
    rcases r.record_cases s with ⟨hwrites, hnext⟩ | ⟨o, hwrites, -⟩
    · rw [accepted_cons_of_not_writes hwrites, recordAll_cons, hnext, ih]
    · rw [accepted_cons_of_writes hwrites, recordAll_cons, recordAll_cons, ih]

theorem not_awaits_of_recordAll (h : ¬r.Awaits timestamp) (samples : List Sample) :
    ¬(r.recordAll samples).Awaits timestamp := by
  induction samples generalizing r with
  | nil => exact h
  | cons s samples ih => exact ih (not_awaits_of_record h s)

theorem not_awaits_recordAll (r : Ring) (h : timestamp ∈ samples.map (·.timestamp)) :
    ¬(r.recordAll samples).Awaits timestamp := by
  induction samples generalizing r with
  | nil => cases h
  | cons s samples ih =>
    rcases List.mem_cons.1 h with rfl | hmem
    · exact not_awaits_of_recordAll (r.not_awaits_record s) samples
    · exact ih _ hmem

/-- Records that the ring does not wait for change nothing, however many they are. -/
theorem recordAll_of_not_awaits (h : ∀ s ∈ samples, ¬r.Awaits s.timestamp) :
    r.recordAll samples = r := by
  induction samples with
  | nil => rfl
  | cons s samples ih =>
    rw [recordAll_cons, record_of_not_awaits (h s List.mem_cons_self)]
    exact ih fun s' hs' => h s' (List.mem_cons_of_mem _ hs')

end Run

/-- Records in turn are a filter of their times. On whatever ring, new or read from a record: after
some records the next is refused just when its time is before that of the newest observation, and
then changes nothing; it writes just when nothing is observed yet or the newest observation is
earlier. The records that write give the same ring when they alone are made; records at times that
there were before, at whatever prices and however many, change nothing; and observations that are in
the order of their times stay so. -/
theorem records_are_filtered (r : Ring) (samples : List Sample) :
    let ring := r.recordAll samples
    (∀ s : Sample,
      let o := ring.record s.timestamp s.prices
      (o.answer = .ok () ↔ ring.Timely s.timestamp) ∧
      (∀ e, o.answer = .error e ↔ ∃ last, ring.latest? = some last ∧
        s.timestamp < last.timestamp ∧ e = .staleTimestamp s.timestamp last.timestamp) ∧
      (∀ e, o.answer = .error e → o.next = ring) ∧
      (ring.writes s = true ↔ ring.Awaits s.timestamp)) ∧
    r.recordAll (r.accepted samples) = ring ∧
    (∀ again : List Sample, (∀ s ∈ again, s.timestamp ∈ samples.map (·.timestamp)) →
      ring.recordAll again = ring) ∧
    (r.Increasing → ring.Increasing) := by
  intro ring
  refine ⟨fun s => ⟨record_answer_eq_ok_iff, fun e => record_answer_eq_error_iff,
    fun e => next_of_refused_record, writes_iff⟩, r.recordAll_accepted samples, ?_, ?_⟩
  · intro again hagain
    exact recordAll_of_not_awaits fun s hs => not_awaits_recordAll r (hagain s hs)
  · intro h
    exact h.recordAll samples

def wrapped : Ring :=
  (empty default 2).recordAll [⟨1, .both 5⟩, ⟨2, .both 5⟩, ⟨3, .both 5⟩]

def mixed : List Sample :=
  [⟨3, .both 9⟩, ⟨2, .both 9⟩, ⟨5, .both 6⟩, ⟨5, .both 9⟩, ⟨4, .both 9⟩, ⟨7, .both 6⟩]

theorem recordAll_mixed_eq :
    wrapped.recordAll [⟨5, .both 6⟩, ⟨7, .both 6⟩] = wrapped.recordAll mixed ∧
      (wrapped.recordAll mixed).recordAll [⟨7, .both 1⟩, ⟨4, .both 1⟩, ⟨7, .both 2⟩] =
        wrapped.recordAll mixed ∧
      (wrapped.recordAll mixed).Increasing := by
  obtain ⟨-, hfilter, hagain, hincreasing⟩ := records_are_filtered wrapped mixed
  have haccepted : wrapped.accepted mixed = [⟨5, .both 6⟩, ⟨7, .both 6⟩] := by decide
  rw [haccepted] at hfilter
  exact ⟨hfilter, hagain _ (by decide), hincreasing (increasing_recordAll _ _ _)⟩

end ConstantProduct.Ring
