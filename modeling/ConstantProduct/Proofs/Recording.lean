import Mathlib
import ConstantProduct.Proofs.RingList
import ConstantProduct.Proofs.Staging

namespace ConstantProduct

structure Sample where
  timestamp : Int64
  prices : PerToken Wide
  deriving DecidableEq, Repr, Inhabited

namespace Ring

/-- The observations are in the order of their times, no two at one time. -/
def Increasing (r : Ring) : Prop :=
  r.observations.Pairwise fun older newer => older.timestamp < newer.timestamp

variable {r : Ring} {o : Observation}

theorem Increasing.push (h : r.Increasing)
    (ho : ∀ last, r.latest? = some last → last.timestamp < o.timestamp) :
    (r.push o).Increasing := by
  rw [← getLast?_observations] at ho
  rw [Increasing, observations_push]
  exact (pairwise_concat h (fun _ _ _ => Int64.lt_trans) ho).drop

/-- A staged observation that is to be written is of the time staged, and later than the newest,
which it advances. -/
theorem stage_eq_some {timestamp : Int64} {prices : PerToken Wide}
    (h : r.stage timestamp prices = .ok (some o)) :
    o.timestamp = timestamp ∧ ∀ last, r.latest? = some last →
      last.timestamp < timestamp ∧ o = last.advance timestamp prices := by
  obtain ⟨htimely, ho⟩ := stage_eq_ok_iff.1 h
  rcases hlatest : r.latest? with _ | last
  · rw [update, hlatest] at ho
    rw [Option.some.inj ho]
    exact ⟨rfl, fun last hlast => by cases hlast⟩
  · rw [update_of_latest hlatest] at ho
    split_ifs at ho with hsame
    rw [Option.some.inj ho]
    refine ⟨rfl, ?_⟩
    rintro _ ⟨⟩
    exact ⟨Int64.lt_of_le_of_ne (htimely last hlatest) (Ne.symm hsame), rfl⟩

theorem Increasing.commit {timestamp : Int64} {prices : PerToken Wide}
    {staged : Option Observation} (h : r.Increasing) (hs : r.stage timestamp prices = .ok staged) :
    (r.commit staged).Increasing := by
  rcases staged with _ | o
  · exact h
  · obtain ⟨htime, hlater⟩ := stage_eq_some hs
    refine h.push ?_
    intro last hlatest
    rw [htime]
    exact (hlater last hlatest).1

section Record

/-- The ring after samples have been recorded in turn; those that it refuses change nothing. -/
def recordAll (r : Ring) (samples : List Sample) : Ring :=
  samples.foldl (fun r s => (r.record s.timestamp s.prices).next) r

def writes (r : Ring) (s : Sample) : Bool :=
  match r.stage s.timestamp s.prices with
  | .ok (some _) => true
  | _ => false

def accepted (r : Ring) : List Sample → List Sample
  | [] => []
  | s :: samples =>
    let rest := accepted (r.record s.timestamp s.prices).next samples
    if r.writes s then s :: rest else rest

/-- The samples that wrote the observations which the ring still holds after recording. -/
def retained (r : Ring) (samples : List Sample) : List Sample :=
  (r.accepted samples).rtake (r.recordAll samples).length

theorem accepted_sublist (r : Ring) (samples : List Sample) :
    (r.accepted samples).Sublist samples := by
  induction samples generalizing r with
  | nil => exact List.Sublist.refl _
  | cons s samples ih =>
    unfold accepted
    dsimp only
    split
    · exact (ih _).cons_cons s
    · exact (ih _).cons s

theorem mem_of_mem_retained {s : Sample} {samples : List Sample} (h : s ∈ r.retained samples) :
    s ∈ samples :=
  (r.accepted_sublist samples).subset (List.mem_of_mem_drop h)

/-- A record changes nothing, or writes an observation of its time, later than the newest and with
sums that the sample's prices advance. -/
theorem record_cases (r : Ring) (s : Sample) :
    (r.writes s = false ∧ (r.record s.timestamp s.prices).next = r) ∨
    ∃ o, r.writes s = true ∧ (r.record s.timestamp s.prices).next = r.push o ∧
      o.timestamp = s.timestamp ∧ ∀ last, r.latest? = some last →
        last.timestamp < s.timestamp ∧ o = last.advance s.timestamp s.prices := by
  unfold writes record
  rcases h : r.stage s.timestamp s.prices with e | staged
  · exact .inl ⟨rfl, rfl⟩
  rcases staged with _ | o
  · exact .inl ⟨rfl, rfl⟩
  · exact .inr ⟨o, rfl, rfl, stage_eq_some h⟩

/-- What every record preserves together with the samples accepted, a sequence of records preserves
with all of them. -/
theorem recordAll_invariant {P : Ring → List Sample → Prop}
    (hwrite : ∀ r accepted s o, P r accepted → o.timestamp = s.timestamp →
      (∀ last, r.latest? = some last →
        last.timestamp < s.timestamp ∧ o = last.advance s.timestamp s.prices) →
          P (r.push o) (accepted ++ [s]))
    {r : Ring} (h : P r []) (samples : List Sample) :
    P (r.recordAll samples) (r.accepted samples) := by
  suffices hall : ∀ r before, P r before →
      P (r.recordAll samples) (before ++ r.accepted samples) by simpa using hall r [] h
  -- Each record changes the ring and may add to the samples accepted, so both are general.
  induction samples with
  | nil => simp [recordAll, accepted]
  | cons s samples ih =>
    intro r before hP
    rcases r.record_cases s with ⟨hwrites, hnext⟩ | ⟨o, hwrites, hnext, htime, hlatest⟩
    · have hrest := ih r before hP
      simpa [recordAll, accepted, hwrites, hnext] using hrest
    · have hrest := ih _ _ (hwrite r before s o hP htime hlatest)
      simpa [recordAll, accepted, hwrites, hnext] using hrest

end Record

theorem Increasing.recordAll (h : r.Increasing) (samples : List Sample) :
    (r.recordAll samples).Increasing := by
  refine recordAll_invariant (P := fun r _ => r.Increasing) ?_ h samples
  intro r _ s o h htime hlatest
  refine h.push ?_
  intro last hlast
  rw [htime]
  exact (hlatest last hlast).1

theorem increasing_empty (owner : PoolId) (capacity : UInt64) :
    (empty owner capacity).Increasing := by
  unfold Increasing
  rw [observations_of_partial _ (size_pos _)]
  exact List.Pairwise.nil

theorem increasing_recordAll (owner : PoolId) (capacity : UInt64) (samples : List Sample) :
    ((empty owner capacity).recordAll samples).Increasing :=
  (increasing_empty owner capacity).recordAll samples

/-- The observations of a ring stand for the samples that wrote them: they have the same times, and
each observation is the one before it advanced by its sample. -/
structure Reflects (r : Ring) (samples : List Sample) : Prop where
  times : r.observations.map (·.timestamp) = samples.map (·.timestamp)
  sums : (r.observations.zip samples).IsChain
    fun older newer => newer.1 = older.1.advance newer.2.timestamp newer.2.prices

theorem Reflects.length_eq {samples : List Sample} (h : r.Reflects samples) :
    samples.length = r.length := by
  simpa [length_observations] using (congrArg List.length h.times).symm

/-- What a push leaves of the samples that the observations stand for. -/
theorem Reflects.push {samples : List Sample} {s : Sample} (h : r.Reflects samples)
    (htime : o.timestamp = s.timestamp)
    (ho : ∀ last, r.latest? = some last → o = last.advance s.timestamp s.prices) :
    (r.push o).Reflects ((samples ++ [s]).drop (r.length + 1 - r.slots.size)) := by
  have hlength : r.observations.length = samples.length := by
    rw [length_observations, h.length_eq]
  refine ⟨?_, ?_⟩
  · rw [observations_push, List.map_drop, List.map_drop, List.map_append, List.map_append, h.times]
    simp [htime]
  · rw [observations_push, List.zip, ← List.drop_zipWith, ← List.zip, List.zip_append hlength]
    -- A full ring drops its oldest observation, which leaves a chain a chain.
    refine List.IsChain.drop (h.sums.append (List.isChain_singleton _) ?_) _
    intro older holder newer hnewer
    have hlast : r.latest? = some older.1 := by
      rw [← getLast?_observations, ← List.map_fst_zip hlength.le, List.getLast?_map, holder]
      rfl
    rw [← Option.mem_some_iff.1 hnewer]
    exact ho _ hlast

theorem rtake_push {samples : List Sample} {s : Sample} (h : r.length ≤ samples.length) :
    (samples ++ [s]).rtake (r.push o).length =
      (samples.rtake r.length ++ [s]).drop (r.length + 1 - r.slots.size) := by
  have hle := r.length_le
  have happend : samples.rtake r.length ++ [s] =
      (samples ++ [s]).drop (samples.length - r.length) :=
    (List.drop_append_of_le_length (Nat.sub_le _ _)).symm
  rw [happend, List.drop_drop, List.rtake, List.length_append, List.length_singleton, length_push]
  congr 1
  omega

/-- Recorded from nothing, the observations of a ring stand for the last samples accepted. -/
theorem reflects_recordAll (owner : PoolId) (capacity : UInt64) (samples : List Sample) :
    ((empty owner capacity).recordAll samples).Reflects
      ((empty owner capacity).retained samples) := by
  refine recordAll_invariant (P := fun r accepted => r.Reflects (accepted.rtake r.length))
    ?_ ?_ samples
  · intro r accepted s o h htime hlatest
    have hle : r.length ≤ accepted.length := by
      have := h.length_eq
      rw [List.rtake, List.length_drop] at this
      omega
    rw [rtake_push hle]
    exact h.push htime fun last hlast => (hlatest last hlast).2
  · have hnone : (empty owner capacity).observations = [] :=
      observations_of_partial _ (size_pos _)
    exact ⟨by rw [hnone]; rfl, by rw [hnone]; exact List.isChain_nil⟩

end Ring

end ConstantProduct
