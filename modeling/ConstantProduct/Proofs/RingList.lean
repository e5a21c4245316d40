import Mathlib
import ConstantProduct.Oracle.Ring

namespace ConstantProduct

section Lists

variable {α : Type}

theorem take_succ_set (l : List α) (a : α) {n : ℕ} (h : n < l.length) :
    (l.set n a).take (n + 1) = l.take n ++ [a] := by
  rw [List.take_add_one, List.take_set_of_le le_rfl, List.getElem?_set_self h]
  rfl

theorem pairwise_concat {R : α → α → Prop} {l : List α} {a : α} (h : l.Pairwise R)
    (htrans : ∀ a b c, R a b → R b c → R a c) (ha : ∀ last, l.getLast? = some last → R last a) :
    (l ++ [a]).Pairwise R := by
  have : IsTrans α R := ⟨htrans⟩
  rw [← List.isChain_iff_pairwise] at h ⊢
  refine List.isChain_append.2 ⟨h, List.isChain_singleton a, ?_⟩
  rintro last hlast _ ⟨⟩
  exact ha last hlast

end Lists

namespace Ring

variable (r : Ring) (o : Observation)

theorem observations_of_partial (h : r.length < r.slots.size) :
    r.observations = r.slots.toList.take r.length := if_pos h

theorem observations_of_full (h : r.length = r.slots.size) :
    r.observations = r.slots.toList.drop ((r.cursor + 1) % r.slots.size) ++
      r.slots.toList.take ((r.cursor + 1) % r.slots.size) := if_neg h.not_lt

theorem nextSlot_of_partial (h : r.length < r.slots.size) : r.nextSlot = r.length := by
  have hcursor := r.cursor_eq
  unfold nextSlot
  split
  · rw [Nat.mod_eq_of_lt (by omega)]
    omega
  · omega

theorem nextSlot_of_full (h : r.length = r.slots.size) :
    r.nextSlot = (r.cursor + 1) % r.slots.size := if_pos (h ▸ r.size_pos)

theorem length_observations : r.observations.length = r.length := by
  have hle := r.length_le
  have hmod := Nat.mod_lt (r.cursor + 1) r.size_pos
  rcases hle.lt_or_eq with h | h
  · rw [r.observations_of_partial h, List.length_take, Array.length_toList]
    omega
  · rw [r.observations_of_full h, List.length_append, List.length_drop, List.length_take,
      Array.length_toList]
    omega

@[simp] theorem toList_slots_push : (r.push o).slots.toList = r.slots.toList.set r.nextSlot o :=
  Array.toList_set _ _ _ r.nextSlot_lt

@[simp] theorem size_slots_push : (r.push o).slots.size = r.slots.size :=
  Array.size_set r.nextSlot_lt

@[simp] theorem cursor_push : (r.push o).cursor = r.nextSlot := rfl

@[simp] theorem length_push : (r.push o).length = min (r.length + 1) r.slots.size := rfl

theorem observations_push_of_partial (h : r.length < r.slots.size) :
    (r.push o).observations = r.observations ++ [o] := by
  have hslot := r.nextSlot_of_partial h
  have htake := take_succ_set r.slots.toList o (n := r.length) (by simpa using h)
  rw [r.observations_of_partial h, ← htake]
  -- The push may fill the last slot, and the ring is then read from its oldest slot, the first.
  rcases (Nat.add_one_le_of_lt h).lt_or_eq with hlt | heq
  · rw [observations_of_partial _ (by simp; omega), toList_slots_push, length_push, hslot]
    congr 1
    omega
  · have holdest : (r.length + 1) % r.slots.size = 0 := by rw [← heq, Nat.mod_self]
    rw [observations_of_full _ (by simp; omega), toList_slots_push, cursor_push, size_slots_push,
      hslot, holdest, List.drop_zero, List.take_zero, List.append_nil, List.take_of_length_le]
    simp
    omega

theorem observations_push_of_full (h : r.length = r.slots.size) :
    (r.push o).observations = r.observations.tail ++ [o] := by
  have hslot := r.nextSlot_of_full h
  have hlt := r.nextSlot_lt
  rw [observations_of_full _ (by simp; omega), r.observations_of_full h, ← hslot, toList_slots_push,
    cursor_push, size_slots_push]
  have hne : r.slots.toList.drop r.nextSlot ≠ [] := by
    rw [ne_eq, List.drop_eq_nil_iff, Array.length_toList]
    omega
  rw [List.tail_append_of_ne_nil hne, List.tail_drop, List.append_assoc,
    ← take_succ_set _ _ (by simpa using hlt)]
  -- The slot written is the last of the array, or the oldest is now the one after it.
  rcases (Nat.add_one_le_of_lt hlt).lt_or_eq with hslots | hslots
  · rw [Nat.mod_eq_of_lt hslots, List.drop_set_of_lt (Nat.lt_succ_self _)]
  · have hdrop : r.slots.toList.drop (r.nextSlot + 1) = [] := by
      rw [List.drop_eq_nil_iff, Array.length_toList]
      omega
    rw [hdrop, hslots, Nat.mod_self, List.drop_zero, List.take_zero, List.append_nil,
      List.nil_append, List.take_of_length_le]
    simp

/-- A push appends, and drops the oldest if the ring was full. -/
theorem observations_push :
    (r.push o).observations = (r.observations ++ [o]).drop (r.length + 1 - r.slots.size) := by
  rcases r.length_le.lt_or_eq with h | h
  · rw [r.observations_push_of_partial o h, Nat.sub_eq_zero_of_le h, List.drop_zero]
  · have hne : r.observations ≠ [] := by
      rw [← List.length_pos_iff, length_observations, h]
      exact r.size_pos
    rw [r.observations_push_of_full o h, h, Nat.add_sub_cancel_left, List.drop_one,
      List.tail_append_of_ne_nil hne]

theorem latest?_eq : r.latest? = if 0 < r.length then r.slots.toList[r.cursor]? else none := by
  unfold latest?
  split_ifs with h
  · rw [Array.getElem?_toList, Array.getElem?_eq_getElem r.cursor_lt]
  · rfl

@[simp] theorem latest?_push : (r.push o).latest? = some o := by
  have hpos := r.size_pos
  rw [latest?_eq, length_push, if_pos (by omega), toList_slots_push, cursor_push,
    List.getElem?_set_self (by simpa using r.nextSlot_lt)]

/-- The newest observation is the last of the list. -/
theorem getLast?_observations : r.observations.getLast? = r.latest? := by
  have hcursor := r.cursor_lt
  have hcell : r.slots.toList[r.cursor]? = some r.slots[r.cursor] := by
    rw [Array.getElem?_toList, Array.getElem?_eq_getElem hcursor]
  rw [latest?_eq]
  rcases r.length_le.lt_or_eq with h | h
  · rw [r.observations_of_partial h, List.getLast?_take]
    by_cases h0 : r.length = 0
    · rw [if_pos h0, if_neg (by omega)]
    · have hslot := r.cursor_eq (by omega) h
      rw [if_neg h0, if_pos (by omega), ← hslot, Nat.add_sub_cancel, hcell]
      rfl
  · rw [r.observations_of_full h, if_pos (h ▸ r.size_pos), List.getLast?_append]
    rcases (Nat.add_one_le_of_lt hcursor).lt_or_eq with hlt | heq
    · rw [Nat.mod_eq_of_lt hlt, List.getLast?_take, if_neg (by omega), Nat.add_sub_cancel, hcell]
      rfl
    · rw [heq, Nat.mod_self, List.take_zero, List.drop_zero, List.getLast?_nil, Option.none_or,
        List.getLast?_eq_getElem?, Array.length_toList, ← heq, Nat.add_sub_cancel]

end Ring

end ConstantProduct
