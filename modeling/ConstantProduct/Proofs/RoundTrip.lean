import Mathlib
import ConstantProduct.Json.Codec
import ConstantProduct.Proofs.Digits

namespace ConstantProduct.Json

/-- A text that may follow a value. -/
def Closed (rest : List Char) : Prop := ∀ c ∈ rest.head?, c = ',' ∨ c = ']' ∨ c = '}'

theorem closed_nil : Closed [] := by simp [Closed]

theorem closed_cons {c : Char} (h : c = ',' ∨ c = ']' ∨ c = '}') (rest : List Char) :
    Closed (c :: rest) := by simpa [Closed] using h

theorem Closed.ended {rest : List Char} (h : Closed rest) : Digits.Ended rest := by
  intro c hc
  rcases h c hc with rfl | rfl | rfl <;> rfl

structure Opens (c : Char) : Prop where
  not_blank : Reader.isBlank c = false
  not_bracket : c ≠ ']'

theorem opens_digit {c : Char} (h : c.isDigit = true) : Opens c := by
  constructor
  · by_contra hblank
    simp only [Reader.isBlank, Bool.not_eq_false, Bool.or_eq_true, beq_iff_eq] at hblank
    rcases hblank with ((rfl | rfl) | rfl) | rfl <;> exact absurd h (by decide)
  · rintro rfl
    exact absurd h (by decide)

def isPlain (c : Char) : Bool := c != '"' && c != '\\' && 0x20 ≤ c.toNat

def Plain (s : String) : Prop := s.toList.all isPlain = true

instance (s : String) : Decidable (Plain s) := inferInstanceAs (Decidable (_ = true))

namespace Reader

section Sequence

variable {α β : Type} {x : Reader α} {s t : List Char} {a : α}

theorem bind_apply (h : x s = .ok (a, t)) (f : α → Reader β) : (x >>= f) s = f a t := by
  show StateT.bind x f s = _
  rw [StateT.bind, h]
  rfl

theorem map_apply (h : x s = .ok (a, t)) (f : α → β) : (f <$> x) s = .ok (f a, t) := by
  show StateT.map f x s = _
  rw [StateT.map, h]
  rfl

theorem pure_apply (a : α) (s : List Char) : (pure a : Reader α) s = .ok (a, s) := rfl

end Sequence

section Tokens

variable {c : Char} {s : String} (rest : List Char)

theorem dropBlanks_cons (h : isBlank c = false) : dropBlanks (c :: rest) = c :: rest := by
  simp [dropBlanks, h]

theorem blanks_cons (h : isBlank c = false) : blanks (c :: rest) = .ok ((), c :: rest) := by
  rw [blanks, dropBlanks_cons rest h]

theorem mark_cons (h : isBlank c = false) : mark [c] (c :: rest) = .ok ((), rest) := by
  rw [mark, bind_apply (blanks_cons rest h)]
  simp [literal, pure_apply]

theorem stringBody_append {cs : List Char} (h : cs.all isPlain = true) :
    stringBody (cs ++ '"' :: rest) = .ok (cs, rest) := by
  induction cs with
  | nil => simp [stringBody]
  | cons c cs ih =>
    simp only [List.all_cons, isPlain, Bool.and_eq_true, bne_iff_ne, decide_eq_true_eq] at h
    obtain ⟨⟨⟨hquote, hslash⟩, hcontrol⟩, hcs⟩ := h
    have hplain : ¬(c = '\\' ∨ c.toNat < 0x20) := by simp [hslash, hcontrol]
    rw [List.cons_append, stringBody]
    · rw [if_neg hplain, ih hcs]
      rfl
    all_goals simp_all

theorem string_inQuotes (h : Plain s) : string (inQuotes s ++ rest) = .ok (s, rest) := by
  have hopen : literal ['"'] (inQuotes s ++ rest) = .ok ((), s.toList ++ '"' :: rest) := by
    simp [inQuotes, literal, pure_apply]
  rw [string, bind_apply hopen, bind_apply (stringBody_append rest h), pure_apply,
    String.ofList_toList]

theorem nextItem_end (first : Bool) : nextItem first (']' :: rest) = .ok (false, ']' :: rest) := by
  cases first <;> rfl

theorem nextItem_comma (h : Opens c) :
    nextItem false (',' :: c :: rest) = .ok (true, c :: rest) := by
  have hcomma : dropBlanks (',' :: c :: rest) = ',' :: c :: rest := dropBlanks_cons _ rfl
  have hbracket := h.not_bracket
  simp [nextItem, hcomma, dropBlanks_cons rest h.not_blank, hbracket]

theorem nextItem_first (h : Opens c) : nextItem true (c :: rest) = .ok (true, c :: rest) := by
  have hbracket := h.not_bracket
  simp [nextItem, dropBlanks_cons rest h.not_blank, hbracket]

theorem nextKey_end (first : Bool) : nextKey first ('}' :: rest) = .ok (none, '}' :: rest) := by
  cases first <;> rfl

theorem nextKey_comma (h : Plain s) :
    nextKey false (',' :: (inQuotes s ++ rest)) = .ok (some s, rest) :=
  map_apply (string_inQuotes rest h) some

theorem nextKey_first (h : Plain s) : nextKey true (inQuotes s ++ rest) = .ok (some s, rest) :=
  map_apply (string_inQuotes rest h) some

end Tokens

theorem natural_toDigits (n : ℕ) {rest : List Char} (h : Closed rest) :
    natural (Nat.toDigits 10 n ++ rest) = .ok (n, rest) := by
  have hvalue : Nat.ofDigitChars 10 (Nat.toDigits 10 n) 0 = n := Nat.ofDigitChars_ten_toDigits
  have hzero (c : Char) (cs : List Char) : Nat.toDigits 10 n ≠ '0' :: c :: cs := by
    intro hdigits
    rcases Nat.eq_zero_or_pos n with rfl | hpos
    · simp at hdigits
    · exact Digits.head?_ne_zero hpos (by rw [hdigits]; rfl)
  have hmark (c : Char) (cs : List Char) (hc : rest = c :: cs) : c ≠ '.' ∧ c ≠ 'e' ∧ c ≠ 'E' := by
    rcases h c (by rw [hc]; rfl) with rfl | rfl | rfl <;> decide
  rw [natural, Digits.takeWhile_append n h.ended, Digits.dropWhile_append n h.ended]
  split
  · exact absurd ‹_› Nat.toDigits_ne_nil
  · exact absurd ‹_› (hzero _ _)
  · exact absurd rfl (hmark _ _ rfl).1
  · exact absurd rfl (hmark _ _ rfl).2.1
  · exact absurd rfl (hmark _ _ rfl).2.2
  · rw [hvalue]

theorem exists_digits_eq (n : ℕ) : ∃ c cs, Nat.toDigits 10 n = c :: cs ∧ c.isDigit = true := by
  obtain ⟨c, cs, hdigits⟩ := List.exists_cons_of_ne_nil (Nat.toDigits_ne_nil (n := n) (b := 10))
  exact ⟨c, cs, hdigits, Digits.all_isDigit n c (by simp [hdigits])⟩

theorem opens_toDigits (n : ℕ) : ∃ c cs, Nat.toDigits 10 n = c :: cs ∧ Opens c := by
  obtain ⟨c, cs, hdigits, hc⟩ := exists_digits_eq n
  exact ⟨c, cs, hdigits, opens_digit hc⟩

theorem blanks_toDigits (n : ℕ) (rest : List Char) :
    blanks (Nat.toDigits 10 n ++ rest) = .ok ((), Nat.toDigits 10 n ++ rest) := by
  obtain ⟨c, cs, hdigits, hopens⟩ := opens_toDigits n
  rw [hdigits, List.cons_append, blanks_cons _ hopens.not_blank]

theorem integer_toDigits (n : ℕ) {rest : List Char} (h : Closed rest) :
    integer (Nat.toDigits 10 n ++ rest) = .ok (n, rest) := by
  have hread := natural_toDigits n h
  obtain ⟨c, cs, hdigits, hc⟩ := exists_digits_eq n
  rw [hdigits, List.cons_append] at hread ⊢
  unfold integer
  split
  · simp_all [Char.isDigit]
  · rw [hread]

theorem integer_negative (n : ℕ) {rest : List Char} (h : Closed rest) :
    integer ('-' :: Nat.toDigits 10 (n + 1) ++ rest) = .ok (.negSucc n, rest) := by
  rw [List.cons_append, integer, natural_toDigits (n + 1) h]
  rfl

end Reader

namespace Codec

variable {α β : Type}

/-- The codec reads the value off whatever it is written in front of. -/
structure Restores (c : Codec α) (a : α) : Prop where
  opens : ∃ first others, c.write a = first :: others ∧ Opens first
  read : ∀ rest, Closed rest → c.read (c.write a ++ rest) = .ok (a, rest)

section Items

variable {c : Codec α} {a : α} (h : c.Restores a) (rest : List Char)
include h

theorem Restores.nextItem :
    Reader.nextItem false (',' :: (c.write a ++ rest)) = .ok (true, c.write a ++ rest) := by
  obtain ⟨first, others, hwrite, hopens⟩ := h.opens
  rw [hwrite, List.cons_append, Reader.nextItem_comma _ hopens]

theorem Restores.nextItem_first :
    Reader.nextItem true (c.write a ++ rest) = .ok (true, c.write a ++ rest) := by
  obtain ⟨first, others, hwrite, hopens⟩ := h.opens
  rw [hwrite, List.cons_append, Reader.nextItem_first _ hopens]

end Items

theorem Restores.partialIso {c : Codec α} {to? : α → Except Failure β} {of : β → α} {b : β}
    (h : c.Restores (of b)) (hto : to? (of b) = .ok b) : (c.partialIso to? of).Restores b where
  opens := h.opens
  read rest hrest := by
    simp only [Codec.partialIso]
    rw [Reader.bind_apply (h.read rest hrest), hto]
    rfl

section Scalars

theorem nat_restores (n : ℕ) : Codec.nat.Restores n where
  opens := Reader.opens_toDigits n
  read rest hrest := by
    simp only [nat]
    rw [Reader.bind_apply (Reader.blanks_toDigits n rest)]
    exact Reader.natural_toDigits n hrest

theorem int_restores (n : ℤ) : Codec.int.Restores n := by
  cases n with
  | ofNat n =>
    refine ⟨Reader.opens_toDigits n, ?_⟩
    intro rest hrest
    simp only [int]
    rw [Reader.bind_apply (Reader.blanks_toDigits n rest)]
    exact Reader.integer_toDigits n hrest
  | negSucc n =>
    refine ⟨⟨'-', _, rfl, by constructor <;> decide⟩, ?_⟩
    intro rest hrest
    simp only [int]
    rw [List.cons_append, Reader.bind_apply (Reader.blanks_cons _ rfl)]
    exact Reader.integer_negative n hrest

@[simp] theorem below_restores {limit n : ℕ} (h : n < limit) : (below limit).Restores n :=
  (nat_restores n).partialIso (if_pos h)

@[simp] theorem uint8_restores (n : UInt8) : uint8.Restores n :=
  (below_restores n.toNat_lt).partialIso (by simp)

@[simp] theorem uint16_restores (n : UInt16) : uint16.Restores n :=
  (below_restores n.toNat_lt).partialIso (by simp)

@[simp] theorem uint64_restores (n : UInt64) : uint64.Restores n :=
  (below_restores n.toNat_lt).partialIso (by simp)

@[simp] theorem word128_restores (n : BitVec 128) : word128.Restores n :=
  (nat_restores n.toNat).partialIso (by simp)

@[simp] theorem int64_restores (n : Int64) : int64.Restores n := by
  have hle := n.le_toInt
  have hfits : Text.isInt64 n.toInt = true := by
    simp [Text.isInt64, n.toInt_le]
    omega
  exact (int_restores n.toInt).partialIso (by simp [hfits])

@[simp] theorem bool_restores (b : Bool) : bool.Restores b := by
  cases b with
  | false => exact ⟨⟨'f', _, rfl, by constructor <;> decide⟩, fun rest _ => rfl⟩
  | true => exact ⟨⟨'t', _, rfl, by constructor <;> decide⟩, fun rest _ => rfl⟩

end Scalars

section Arrays

/-- All texts but the first have a comma in front of them. -/
theorem commas_map_cons (write : α → List Char) (a : α) (as : List α) :
    commas ((a :: as).map write) = write a ++ as.flatMap fun a => ',' :: write a := by
  induction as generalizing a with
  | nil => simp [commas]
  | cons b as ih =>
    rw [List.flatMap_cons, List.cons_append, ← ih b]
    rfl

theorem length_le_commas (write : α → List Char) (as : List α) :
    as.length ≤ (commas (as.map write)).length + 1 := by
  have hle (as : List α) : as.length ≤ (as.flatMap fun a => ',' :: write a).length := by
    induction as with
    | nil => simp
    | cons a as ih =>
      simp only [List.flatMap_cons, List.length_append, List.length_cons]
      omega
  cases as with
  | nil => simp
  | cons a as =>
    have := hle as
    rw [commas_map_cons, List.length_append, List.length_cons]
    omega

theorem closed_flatMap (write : α → List Char) (as : List α) {c : Char}
    (hc : c = ',' ∨ c = ']' ∨ c = '}') (rest : List Char) :
    Closed ((as.flatMap fun a => ',' :: write a) ++ c :: rest) := by
  cases as with
  | nil => exact closed_cons hc rest
  | cons a as => exact closed_cons (.inl rfl) _

variable {c : Codec α}

theorem readItems_restores {as : List α} (h : ∀ a ∈ as, c.Restores a) {fuel : ℕ}
    (hfuel : as.length < fuel) (rest : List Char) :
    readItems c fuel false ((as.flatMap fun a => ',' :: c.write a) ++ ']' :: rest) =
      .ok (as, ']' :: rest) := by
  induction as generalizing fuel with
  | nil =>
    obtain ⟨fuel, rfl⟩ := Nat.exists_eq_succ_of_ne_zero (Nat.ne_zero_of_lt hfuel)
    rw [readItems, List.flatMap_nil, List.nil_append,
      Reader.bind_apply (Reader.nextItem_end rest false)]
    rfl
  | cons a as ih =>
    obtain ⟨fuel, rfl⟩ := Nat.exists_eq_succ_of_ne_zero (Nat.ne_zero_of_lt hfuel)
    obtain ⟨ha, has⟩ := List.forall_mem_cons.1 h
    have hread := ha.read _ (closed_flatMap c.write as (.inr (.inl rfl)) rest)
    have hrest := ih has (Nat.lt_of_succ_lt_succ hfuel)
    rw [List.flatMap_cons, List.append_assoc, List.cons_append, readItems,
      Reader.bind_apply (ha.nextItem _), if_pos rfl, Reader.bind_apply hread,
      Reader.bind_apply hrest]
    rfl

/-- The items of an array are read from the first one on, which has no comma in front of it. -/
theorem readItems_first {as : List α} (h : ∀ a ∈ as, c.Restores a) {fuel : ℕ}
    (hfuel : as.length < fuel) (rest : List Char) :
    readItems c fuel true (commas (as.map c.write) ++ ']' :: rest) = .ok (as, ']' :: rest) := by
  rw [← readItems_restores h hfuel rest]
  obtain ⟨fuel, rfl⟩ := Nat.exists_eq_succ_of_ne_zero (Nat.ne_zero_of_lt hfuel)
  rw [readItems, readItems]
  cases as with
  | nil =>
    simp only [List.map_nil, commas, List.flatMap_nil, List.nil_append]
    rw [Reader.bind_apply (Reader.nextItem_end rest true),
      Reader.bind_apply (Reader.nextItem_end rest false)]
  | cons a as =>
    have ha := (List.forall_mem_cons.1 h).1
    rw [commas_map_cons, List.flatMap_cons, List.append_assoc, List.append_assoc, List.cons_append,
      Reader.bind_apply (ha.nextItem_first _), Reader.bind_apply (ha.nextItem _)]

theorem list_restores {as : List α} (h : ∀ a ∈ as, c.Restores a) : (list c).Restores as where
  opens := ⟨'[', _, rfl, by constructor <;> decide⟩
  read rest _ := by
    have hlength := length_le_commas c.write as
    have hitems : readItems c ((commas (as.map c.write) ++ ']' :: rest).length + 1) true
        (commas (as.map c.write) ++ ']' :: rest) = .ok (as, ']' :: rest) := by
      apply readItems_first h
      rw [List.length_append, List.length_cons]
      omega
    simp only [list, List.cons_append, List.append_assoc, List.nil_append]
    rw [Reader.bind_apply (Reader.mark_cons _ rfl),
      Reader.bind_apply (x := fun s => readItems c (s.length + 1) true s) hitems,
      Reader.bind_apply (Reader.mark_cons rest rfl)]
    rfl

theorem readExactly_restores {as : List α} {n : ℕ} (h : ∀ a ∈ as, c.Restores a)
    (hn : as.length = n) (rest : List Char) :
    readExactly c n false ((as.flatMap fun a => ',' :: c.write a) ++ ']' :: rest) =
      .ok (⟨⟨as⟩, hn⟩, ']' :: rest) := by
  induction as generalizing n with
  | nil =>
    subst hn
    rfl
  | cons a as ih =>
    obtain ⟨n, rfl⟩ : ∃ m, n = m + 1 := ⟨as.length, hn.symm⟩
    obtain ⟨ha, has⟩ := List.forall_mem_cons.1 h
    have hread := ha.read _ (closed_flatMap c.write as (.inr (.inl rfl)) rest)
    rw [List.flatMap_cons, List.append_assoc, List.cons_append, readExactly,
      Reader.bind_apply (ha.nextItem _), if_pos rfl, Reader.bind_apply hread,
      Reader.bind_apply (ih has (Nat.succ_inj.1 hn))]
    rfl

theorem readExactly_first {as : List α} {n : ℕ} (h : ∀ a ∈ as, c.Restores a)
    (hn : as.length = n) (rest : List Char) :
    readExactly c n true (commas (as.map c.write) ++ ']' :: rest) =
      .ok (⟨⟨as⟩, hn⟩, ']' :: rest) := by
  rw [← readExactly_restores h hn rest]
  cases as with
  | nil =>
    subst hn
    rfl
  | cons a as =>
    obtain ⟨n, rfl⟩ : ∃ m, n = m + 1 := ⟨as.length, hn.symm⟩
    have ha := (List.forall_mem_cons.1 h).1
    rw [commas_map_cons, List.flatMap_cons, List.append_assoc, List.append_assoc, List.cons_append,
      readExactly, readExactly, Reader.bind_apply (ha.nextItem_first _),
      Reader.bind_apply (ha.nextItem _)]

theorem vector_restores {n : ℕ} {as : Vector α n} (h : ∀ a ∈ as, c.Restores a) :
    (vector c n).Restores as where
  opens := ⟨'[', _, rfl, by constructor <;> decide⟩
  read rest _ := by
    have hitems := readExactly_first (fun a ha => h a (by simpa using ha))
      as.length_toList rest
    simp only [vector, List.cons_append, List.append_assoc, List.nil_append]
    rw [Reader.bind_apply (Reader.mark_cons _ rfl), Reader.bind_apply hitems,
      Reader.bind_apply (Reader.mark_cons rest rfl)]
    rfl

end Arrays

section Tags

theorem inQuotes_append (s : String) (rest : List Char) :
    inQuotes s ++ rest = '"' :: (s.toList ++ '"' :: rest) := by simp [inQuotes]

/-- A name of no other listed value is read as its value. -/
theorem names_restores {all : List α} {name : α → String} {a : α} (hplain : Plain (name a))
    (hfind : all.find? (name · == name a) = some a) : (names all name).Restores a where
  opens := ⟨'"', _, rfl, by constructor <;> decide⟩
  read rest _ := by
    have hstring := Reader.string_inQuotes rest hplain
    simp only [names]
    rw [inQuotes_append] at hstring ⊢
    rw [Reader.bind_apply (Reader.blanks_cons _ rfl), Reader.bind_apply hstring, hfind]
    rfl

/-- A value is read by the reader of its kind. -/
theorem tagged_restores {table : List (String × Reader α)} {write : α → String × List Char}
    {a : α} {read : Reader α} (hplain : Plain (write a).1)
    (hlookup : table.lookup (write a).1 = some read)
    (hread : ∀ rest, Closed rest → read ((write a).2 ++ rest) = .ok (a, rest)) :
    (tagged table write).Restores a where
  opens := ⟨'{', _, rfl, by constructor <;> decide⟩
  read rest _ := by
    have hstring := Reader.string_inQuotes (':' :: ((write a).2 ++ '}' :: rest)) hplain
    have hvalue := hread ('}' :: rest) (closed_cons (.inr (.inr rfl)) rest)
    simp only [tagged, member, List.cons_append, List.append_assoc, List.nil_append]
    rw [Reader.bind_apply (Reader.mark_cons _ rfl)]
    rw [inQuotes_append] at hstring ⊢
    rw [Reader.bind_apply (Reader.blanks_cons _ rfl), Reader.bind_apply hstring, hlookup]
    dsimp only
    rw [Reader.bind_apply (Reader.mark_cons _ rfl), Reader.bind_apply hvalue,
      Reader.bind_apply (Reader.mark_cons rest rfl)]
    rfl

end Tags

end Codec

end ConstantProduct.Json
