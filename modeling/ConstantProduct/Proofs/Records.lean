import Mathlib
import ConstantProduct.Proofs.RoundTrip

namespace ConstantProduct.Json.Fields

def keys : {α : Type} → Fields α → List String
  | _, nil => []
  | _, cons key _ _ rest => key :: rest.keys

/-- The keys of a record can be told apart, and need no escape. -/
structure Legible {α : Type} (f : Fields α) : Prop where
  nodup : f.keys.Nodup
  plain : ∀ key ∈ f.keys, Plain key

def Restores : {α : Type} → Fields α → α → Prop
  | _, nil, _ => True
  | _, cons _ codec _ rest, (a, b) => codec.Restores a ∧ rest.Restores b

def entries : {α : Type} → Fields α → α → List (String × List Char)
  | _, nil, _ => []
  | _, cons key codec _ rest, (a, b) => (key, codec.write a) :: rest.entries b

/-- The slots with the first `n` values in their places. -/
def filled : {α : Type} → (f : Fields α) → α → (n : ℕ) → f.Slots
  | _, nil, _, _ => ()
  | _, cons _ _ _ rest, (_, b), 0 => (none, rest.filled b 0)
  | _, cons _ _ _ rest, (a, b), n + 1 => (some a, rest.filled b n)

@[simp] theorem restores_nil : nil.Restores () := trivial

@[simp] theorem restores_cons {α β : Type} {key : String} {codec : Codec α} {default? : Option α}
    {rest : Fields β} {a : α} {b : β} :
    (cons key codec default? rest).Restores (a, b) ↔ codec.Restores a ∧ rest.Restores b := Iff.rfl

variable {α : Type}

theorem members_eq (f : Fields α) (a : α) :
    f.members a = (f.entries a).map fun e => member e.1 e.2 := by
  induction f with
  | nil => rfl
  | cons key codec default? rest ih => simp [members, entries, ih]

theorem member_append (key : String) (value rest : List Char) :
    member key value ++ rest = inQuotes key ++ ':' :: (value ++ rest) := by simp [member]

theorem keys_entries (f : Fields α) (a : α) : (f.entries a).map (·.1) = f.keys := by
  induction f with
  | nil => rfl
  | cons key codec default? rest ih => simp [keys, entries, ih]

theorem Legible.plain_entry {f : Fields α} (hf : f.Legible) {a : α} {e : String × List Char}
    (he : e ∈ f.entries a) : Plain e.1 := by
  apply hf.plain
  rw [← keys_entries f a]
  exact List.mem_map_of_mem he

theorem filled_zero (f : Fields α) (a : α) : f.filled a 0 = f.emptySlots := by
  induction f with
  | nil => rfl
  | cons key codec default? rest ih => exact congrArg (Prod.mk none) (ih a.2)

/-- Once every value is in its place the slots make up the record. -/
theorem ofSlots?_filled (f : Fields α) (a : α) :
    f.ofSlots? (f.filled a (f.entries a).length) = some a := by
  induction f with
  | nil => rfl
  | cons key codec default? rest ih => simp [ofSlots?, filled, entries, ih]

/-- The value of the next member is read into its slot, those before it being filled. -/
theorem valueReader?_filled {f : Fields α} {a : α} (h : f.Restores a) (hkeys : f.keys.Nodup)
    {n : ℕ} {e : String × List Char} (he : (f.entries a)[n]? = some e) :
    ∃ read, f.valueReader? e.1 (f.filled a n) = some read ∧ ∀ rest, Closed rest →
      read (e.2 ++ rest) = .ok (f.filled a (n + 1), rest) := by
  induction f generalizing n with
  | nil => simp [entries] at he
  | cons key codec default? fields ih =>
    obtain ⟨a, b⟩ := a
    obtain ⟨ha, hb⟩ := h
    obtain ⟨hkey, hkeys⟩ := List.nodup_cons.1 hkeys
    cases n with
    | zero =>
      obtain rfl : (key, codec.write a) = e := by simpa [entries] using he
      refine ⟨do return (some (← codec.read), fields.filled b 0), if_pos rfl, ?_⟩
      intro rest hrest
      rw [Reader.bind_apply (ha.read rest hrest)]
      rfl
    | succ n =>
      have he : (fields.entries b)[n]? = some e := by simpa [entries] using he
      obtain ⟨read, hreader, hread⟩ := ih hb hkeys he
      -- The first field has another key, so the reader is that of the rest, past its slot.
      have hne : e.1 ≠ key := by
        rintro rfl
        rw [← keys_entries fields b] at hkey
        exact hkey (List.mem_map_of_mem (List.mem_of_getElem? he))
      have hslots : (cons key codec default? fields).valueReader? e.1
          ((cons key codec default? fields).filled (a, b) (n + 1)) =
          (fields.valueReader? e.1 (fields.filled b n)).map fun read => do
            return (some a, ← read) := if_neg hne
      refine ⟨do return (some a, ← read), by rw [hslots, hreader]; rfl, ?_⟩
      intro rest hrest
      rw [Reader.bind_apply (hread rest hrest)]
      rfl

theorem read_object (f : Fields α) (s : List Char) :
    f.read ('{' :: s) = (do
      let slots ← f.readMembers (s.length + 1) true f.emptySlots
      Reader.mark ['}']
      match f.ofSlots? slots with
      | some a => return a
      | none => Reader.fail : Reader α) s := by
  rw [read, Reader.bind_apply (Reader.blanks_cons s rfl)]
  rfl

section Members

variable {f : Fields α} {a : α} (hf : f.Legible) (h : f.Restores a)
include hf h

/-- The members from the `n`th on, read into the slots before which all are filled. -/
theorem readMembers_filled {es : List (String × List Char)} {n fuel : ℕ}
    (hes : (f.entries a).drop n = es) (hfuel : es.length < fuel) (rest : List Char) :
    f.readMembers fuel false (f.filled a n)
        ((es.flatMap fun e => ',' :: member e.1 e.2) ++ '}' :: rest) =
      .ok (f.filled a (n + es.length), '}' :: rest) := by
  induction es generalizing n fuel with
  | nil =>
    obtain ⟨fuel, rfl⟩ := Nat.exists_eq_succ_of_ne_zero (Nat.ne_zero_of_lt hfuel)
    rw [readMembers, List.flatMap_nil, List.nil_append,
      Reader.bind_apply (Reader.nextKey_end rest false)]
    rfl
  | cons e es ih =>
    obtain ⟨fuel, rfl⟩ := Nat.exists_eq_succ_of_ne_zero (Nat.ne_zero_of_lt hfuel)
    have he : (f.entries a)[n]? = some e := by
      rw [← List.head?_drop, hes]
      rfl
    have hrest : (f.entries a).drop (n + 1) = es := by rw [← List.tail_drop, hes, List.tail_cons]
    have hplain := hf.plain_entry (List.mem_of_getElem? he)
    obtain ⟨read, hreader, hread⟩ := valueReader?_filled h hf.nodup he
    have hclosed := Codec.closed_flatMap (fun e => member e.1 e.2) es (.inr (.inr rfl)) rest
    have hvalue := hread _ hclosed
    have hmembers := ih hrest (Nat.lt_of_succ_lt_succ hfuel)
    rw [List.flatMap_cons, List.append_assoc, List.cons_append, member_append, readMembers,
      Reader.bind_apply (Reader.nextKey_comma _ hplain)]
    dsimp only
    rw [Reader.bind_apply (Reader.mark_cons _ rfl), hreader]
    dsimp only
    rw [Reader.bind_apply hvalue, hmembers, List.length_cons, Nat.add_right_comm, Nat.add_assoc]

/-- The members of an object are read from the first one on, which has no comma in front of it. -/
theorem readMembers_first {fuel : ℕ} (hfuel : (f.entries a).length < fuel) (rest : List Char) :
    f.readMembers fuel true f.emptySlots (commas (f.members a) ++ '}' :: rest) =
      .ok (f.filled a (f.entries a).length, '}' :: rest) := by
  have hmembers := readMembers_filled hf h (List.drop_zero (l := f.entries a)) hfuel rest
  rw [Nat.zero_add, filled_zero] at hmembers
  rw [← hmembers, members_eq]
  obtain ⟨fuel, rfl⟩ := Nat.exists_eq_succ_of_ne_zero (Nat.ne_zero_of_lt hfuel)
  rw [readMembers, readMembers]
  rcases hentries : f.entries a with _ | ⟨e, es⟩
  · simp only [List.map_nil, commas, List.flatMap_nil, List.nil_append]
    rw [Reader.bind_apply (Reader.nextKey_end rest true),
      Reader.bind_apply (Reader.nextKey_end rest false)]
  · have hplain : Plain e.1 := hf.plain_entry (hentries ▸ List.mem_cons_self)
    rw [Codec.commas_map_cons, List.flatMap_cons, List.append_assoc, List.append_assoc,
      List.cons_append, member_append, Reader.bind_apply (Reader.nextKey_first _ hplain),
      Reader.bind_apply (Reader.nextKey_comma _ hplain)]

theorem codec_restores : f.codec.Restores a where
  opens := ⟨'{', _, rfl, by constructor <;> decide⟩
  read rest _ := by
    have hlength := Codec.length_le_commas (fun e => member e.1 e.2) (f.entries a)
    rw [← members_eq] at hlength
    have hmembers : f.readMembers ((commas (f.members a) ++ '}' :: rest).length + 1) true
        f.emptySlots (commas (f.members a) ++ '}' :: rest) =
          .ok (f.filled a (f.entries a).length, '}' :: rest) := by
      apply readMembers_first hf h
      rw [List.length_append, List.length_cons]
      omega
    simp only [codec, write, List.cons_append, List.append_assoc, List.nil_append]
    rw [read_object, Reader.bind_apply hmembers, Reader.bind_apply (Reader.mark_cons rest rfl),
      ofSlots?_filled]
    rfl

end Members

/-- A record is restored if each of its fields is. -/
theorem record_restores {β : Type} {f : Fields α} {to? : α → Except Failure β} {of : β → α} {b : β}
    (hf : f.Legible) (h : f.Restores (of b)) (hto : to? (of b) = .ok b) :
    (f.record to? of).Restores b := (codec_restores hf h).partialIso hto

end ConstantProduct.Json.Fields
