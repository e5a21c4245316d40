import ConstantProduct.Event
import ConstantProduct.Oracle.Observation

namespace ConstantProduct

structure Ring where
  owner : PoolId
  slots : Array Observation
  /-- The slot of the newest observation. -/
  cursor : Nat
  /-- The number of slots in use. -/
  length : Nat
  cursor_lt : cursor < slots.size
  length_le : length ≤ slots.size
  /-- Until the ring is full its slots are filled in order from the first. -/
  cursor_eq : 0 < length → length < slots.size → cursor + 1 = length
  size_lt : slots.size < UInt64.size
  deriving DecidableEq, Repr

/-- The fields of a ring before its shape has been looked at. -/
structure RingRecord where
  owner : PoolId
  initialized : Bool
  cursor : Nat
  length : Nat
  slots : Array Observation
  size_lt : slots.size < UInt64.size
  deriving DecidableEq, Repr

namespace Ring

inductive Error where
  | noSlots
  | lengthOutOfRange (length capacity : Nat)
  | cursorOutOfRange (cursor capacity : Nat)
  | initializedMismatch (initialized : Bool) (length : Nat)
  | cursorMismatch (cursor length : Nat)
  deriving DecidableEq, Repr

def Error.message : Error → String
  | noSlots => "Observation ring has no slots"
  | lengthOutOfRange length capacity =>
      "Populated length " ++ toString length ++ " exceeds capacity " ++ toString capacity
  | cursorOutOfRange cursor capacity =>
      "Cursor " ++ toString cursor ++ " outside capacity " ++ toString capacity
  | initializedMismatch initialized length =>
      "Initialized flag " ++ toString initialized ++ " disagrees with length " ++ toString length
  | cursorMismatch cursor length =>
      "Cursor " ++ toString cursor ++ " is not the newest slot of a partial ring of length " ++
        toString length

def defaultCapacity : UInt64 := 100

/-- An empty ring of `capacity` slots, and of one if that is none. -/
def empty (owner : PoolId) (capacity : UInt64) : Ring where
  owner := owner
  slots := Array.replicate (max capacity.toNat 1) default
  cursor := 0
  length := 0
  cursor_lt := by rw [Array.size_replicate]; omega
  length_le := Nat.zero_le _
  cursor_eq h := absurd h (Nat.lt_irrefl 0)
  size_lt := by
    have := capacity.toNat_lt
    rw [Array.size_replicate, UInt64.size]
    omega

def ofRecord (r : RingRecord) : Except Error Ring :=
  if r.slots.size = 0 then .error .noSlots
  else if len : r.slots.size < r.length then .error (.lengthOutOfRange r.length r.slots.size)
  else if cur : r.slots.size ≤ r.cursor then .error (.cursorOutOfRange r.cursor r.slots.size)
  else if r.initialized ≠ decide (0 < r.length) then
    .error (.initializedMismatch r.initialized r.length)
  else if part : 0 < r.length ∧ r.length < r.slots.size ∧ r.cursor + 1 ≠ r.length then
    .error (.cursorMismatch r.cursor r.length)
  else .ok {
    owner := r.owner
    slots := r.slots
    cursor := r.cursor
    length := r.length
    cursor_lt := Nat.lt_of_not_le cur
    length_le := Nat.le_of_not_lt len
    cursor_eq := fun pos lt => Decidable.byContradiction fun ne => part ⟨pos, lt, ne⟩
    size_lt := r.size_lt }

def initialized (r : Ring) : Bool := decide (0 < r.length)

def toRecord (r : Ring) : RingRecord where
  owner := r.owner
  initialized := r.initialized
  cursor := r.cursor
  length := r.length
  slots := r.slots
  size_lt := r.size_lt

def capacity (r : Ring) : Nat := r.slots.size

def isEmpty (r : Ring) : Bool := r.length == 0

def latest? (r : Ring) : Option Observation :=
  have := r.cursor_lt
  if 0 < r.length then some (r.slots[r.cursor]) else none

def nextSlot (r : Ring) : Nat := if 0 < r.length then (r.cursor + 1) % r.slots.size else 0

theorem size_pos (r : Ring) : 0 < r.slots.size := Nat.lt_of_le_of_lt (Nat.zero_le _) r.cursor_lt

theorem nextSlot_lt (r : Ring) : r.nextSlot < r.slots.size := by
  unfold nextSlot
  split
  · exact Nat.mod_lt _ r.size_pos
  · exact r.size_pos

/-- The ring with one more observation, in place of the oldest if it was full. -/
def push (r : Ring) (o : Observation) : Ring where
  owner := r.owner
  slots := r.slots.set r.nextSlot o r.nextSlot_lt
  cursor := r.nextSlot
  length := min (r.length + 1) r.slots.size
  cursor_lt := by simpa using r.nextSlot_lt
  length_le := by rw [Array.size_set]; omega
  cursor_eq := by
    simp only [Array.size_set]
    intro _ lt
    have partial_lt : r.length + 1 < r.slots.size := by omega
    have cursor_eq := r.cursor_eq
    unfold nextSlot
    split
    · rw [Nat.mod_eq_of_lt (by omega)]; omega
    · omega
  size_lt := by simpa using r.size_lt

/-- What an observation at `timestamp` would write: nothing if the time is that of the newest, and
the start of the sums if there is none. Times do not go back. -/
def stage (r : Ring) (timestamp : Int64) (prices : PerToken Wide) :
    Result (Option Observation) :=
  match r.latest? with
  | none => .ok (some ⟨timestamp, .both 0⟩)
  | some last =>
    if timestamp < last.timestamp then .error (.staleTimestamp timestamp last.timestamp)
    else if timestamp = last.timestamp then .ok none
    else .ok (some (last.advance timestamp prices))

def commit (r : Ring) : Option Observation → Ring
  | none => r
  | some o => r.push o

def commitEvents (r : Ring) : Option Observation → List Event
  | none => []
  | some o => [.observationRecorded r.owner r.nextSlot o.timestamp]

def record (r : Ring) (timestamp : Int64) (prices : PerToken Wide) : Outcome Ring (Result Unit) :=
  match r.stage timestamp prices with
  | .error e => ⟨.error e, r, []⟩
  | .ok staged => ⟨.ok (), r.commit staged, r.commitEvents staged⟩

/-- The observations in the ring, oldest first. -/
def observations (r : Ring) : List Observation :=
  let slots := r.slots.toList
  if r.length < r.slots.size then slots.take r.length
  else
    let oldest := (r.cursor + 1) % r.slots.size
    slots.drop oldest ++ slots.take oldest

def windowAverage? (r : Ring) : Option (PerToken Wide) := do
  let oldest ← r.observations.head?
  let newest ← r.observations.getLast?
  oldest.average? newest

def flip (r : Ring) : Ring where
  owner := r.owner
  slots := r.slots.map Observation.flip
  cursor := r.cursor
  length := r.length
  cursor_lt := by simpa using r.cursor_lt
  length_le := by simpa using r.length_le
  cursor_eq := by simpa using r.cursor_eq
  size_lt := by simpa using r.size_lt

end Ring

end ConstantProduct
