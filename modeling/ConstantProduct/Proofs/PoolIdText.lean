import Mathlib
import ConstantProduct.PoolId

namespace ConstantProduct.PoolId

section Digits

def IsHex (n : ℕ) : Prop := 48 ≤ n ∧ n ≤ 57 ∨ 65 ≤ n ∧ n ≤ 70 ∨ 97 ≤ n ∧ n ≤ 102

instance : DecidablePred IsHex := fun n =>
  inferInstanceAs (Decidable (48 ≤ n ∧ n ≤ 57 ∨ 65 ≤ n ∧ n ≤ 70 ∨ 97 ≤ n ∧ n ≤ 102))

def lower (b : UInt8) : Char := (Char.ofNat b.toNat).toLower

variable {b v w : UInt8}

theorem hexValue?_eq_none_iff : hexValue? b = none ↔ ¬IsHex b.toNat := by
  simp only [hexValue?, IsHex, UInt8.le_iff_toNat_le, UInt8.reduceToNat]
  split_ifs <;> simp only [false_iff, true_iff] <;> omega

theorem isHex_of_hexValue? (h : hexValue? b = some v) : IsHex b.toNat := by
  by_contra hb
  rw [hexValue?_eq_none_iff.2 hb] at h
  cases h

theorem hexDigit_of_hexValue? (h : hexValue? b = some v) : v < 16 ∧ hexDigit v = lower b := by
  have hall : ∀ b, (hexValue? b).all (fun v => v < 16 ∧ hexDigit v = lower b) = true := by
    decide +kernel
  have hb := hall b
  rw [h] at hb
  exact of_decide_eq_true hb

theorem hexValue?_hexDigit : ∀ {v : UInt8}, v < 16 → hexValue? (hexDigit v).toUInt8 = some v := by
  decide +kernel

theorem isHex_hexDigit : ∀ {v : UInt8}, v < 16 → IsHex (hexDigit v).toNat := by
  decide +kernel

theorem high_lt (b : UInt8) : b / 16 < 16 := by
  rw [UInt8.lt_iff_toNat_lt, UInt8.toNat_div]
  exact Nat.div_lt_of_lt_mul b.toNat_lt

theorem low_lt (b : UInt8) : b % 16 < 16 := by
  rw [UInt8.lt_iff_toNat_lt, UInt8.toNat_mod]
  exact Nat.mod_lt _ (by decide)

theorem length_flatMap_hexPair (bytes : List UInt8) :
    (bytes.flatMap hexPair).length = 2 * bytes.length := by
  induction bytes with
  | nil => rfl
  | cons b bytes ih =>
    rw [List.flatMap_cons, List.length_append, ih, List.length_cons]
    simp only [hexPair, List.length_cons, List.length_nil]
    omega

theorem take_flatMap_hexPair (n : ℕ) (bytes : List UInt8) :
    (bytes.flatMap hexPair).take (2 * n) = (bytes.take n).flatMap hexPair := by
  induction n generalizing bytes with
  | zero => rfl
  | succ n ih =>
    cases bytes with
    | nil => rfl
    | cons b bytes => simp [Nat.mul_succ, hexPair, ih]

theorem isHex_of_mem_flatMap_hexPair (bytes : List UInt8) :
    ∀ c ∈ bytes.flatMap hexPair, IsHex c.toNat := by
  intro c hc
  obtain ⟨b, -, hc⟩ := List.mem_flatMap.1 hc
  rcases List.mem_pair.1 hc with rfl | rfl
  · exact isHex_hexDigit (high_lt b)
  · exact isHex_hexDigit (low_lt b)

theorem toNat_combine (hv : v < 16) (hw : w < 16) :
    (16 * v + w).toNat = 16 * v.toNat + w.toNat := by
  have hv' : v.toNat < 16 := UInt8.lt_iff_toNat_lt.1 hv
  have hw' : w.toNat < 16 := UInt8.lt_iff_toNat_lt.1 hw
  have hsixteen : (16 : UInt8).toNat = 16 := rfl
  rw [UInt8.toNat_add, UInt8.toNat_mul, hsixteen]
  omega

theorem combine_halves (b : UInt8) : 16 * (b / 16) + b % 16 = b := by
  rw [← UInt8.toNat_inj, toNat_combine (high_lt b) (low_lt b), UInt8.toNat_div, UInt8.toNat_mod]
  exact Nat.div_add_mod b.toNat 16

theorem hexPair_combine (hv : v < 16) (hw : w < 16) :
    hexPair (16 * v + w) = [hexDigit v, hexDigit w] := by
  have hw' : w.toNat < 16 := UInt8.lt_iff_toNat_lt.1 hw
  have hsixteen : (16 : UInt8).toNat = 16 := rfl
  have hhigh : (16 * v + w) / 16 = v := by
    rw [← UInt8.toNat_inj, UInt8.toNat_div, toNat_combine hv hw, hsixteen]
    omega
  have hlow : (16 * v + w) % 16 = w := by
    rw [← UInt8.toNat_inj, UInt8.toNat_mod, toNat_combine hv hw, hsixteen]
    omega
  rw [hexPair, hhigh, hlow]

/-- The bytes of a text are digits up to `i`, where `b` is none. -/
def FirstFault (bytes : List UInt8) (b : UInt8) (i : ℕ) : Prop :=
  bytes[i]? = some b ∧ ¬IsHex b.toNat ∧ ∀ a ∈ bytes.take i, IsHex a.toNat

theorem FirstFault.cons {bytes : List UInt8} {i : ℕ} (ha : IsHex v.toNat)
    (h : FirstFault bytes b i) : FirstFault (v :: bytes) b (i + 1) :=
  ⟨h.1, h.2.1, List.forall_mem_cons.2 ⟨ha, h.2.2⟩⟩

theorem FirstFault.unique {bytes : List UInt8} {a : UInt8} {i j : ℕ} (h : FirstFault bytes a i)
    (h' : FirstFault bytes b j) : a = b ∧ i = j := by
  have hle {a b : UInt8} {i j : ℕ} (h : FirstFault bytes a i) (h' : FirstFault bytes b j) :
      ¬i < j := by
    intro hlt
    have hmem : a ∈ bytes.take j :=
      List.mem_of_getElem? ((List.getElem?_take_of_lt hlt).trans h.1)
    exact h.2.1 (h'.2.2 a hmem)
  obtain rfl : i = j := Nat.le_antisymm (Nat.le_of_not_lt (hle h' h)) (Nat.le_of_not_lt (hle h h'))
  exact ⟨Option.some.inj (h.1.symm.trans h'.1), rfl⟩

/-- The bytes that digits stand for are written with those digits, in lower case; or there is a
first byte that is no digit. -/
theorem pairs_spec (position : ℕ) (bytes : List UInt8) (heven : bytes.length % 2 = 0) :
    (∃ out, pairs position bytes = .ok out ∧ (∀ b ∈ bytes, IsHex b.toNat) ∧
      out.flatMap hexPair = bytes.map lower) ∨
    ∃ b i, pairs position bytes = .error (.badDigit b (position + i)) ∧
      FirstFault bytes b i := by
  fun_induction pairs position bytes with
  | case1 position high low rest hhigh =>
    exact .inr ⟨high, 0, rfl, rfl, hexValue?_eq_none_iff.1 hhigh, by simp⟩
  | case2 position high low rest h hlow hhigh =>
    have hfault : FirstFault (low :: rest) low 0 := ⟨rfl, hexValue?_eq_none_iff.1 hlow, by simp⟩
    exact .inr ⟨low, 1, rfl, hfault.cons (isHex_of_hexValue? hhigh)⟩
  | case3 position high low rest h l hlow hhigh ih =>
    obtain ⟨hh, hhigh'⟩ := hexDigit_of_hexValue? hhigh
    obtain ⟨hl, hlow'⟩ := hexDigit_of_hexValue? hlow
    obtain ⟨out, hout, hhex, htext⟩ | ⟨b, i, hout, hfault⟩ := ih (by simp at heven; omega)
    · refine .inl ⟨(16 * h + l) :: out, by rw [hout]; rfl, ?_, ?_⟩
      · exact List.forall_mem_cons.2 ⟨isHex_of_hexValue? hhigh,
          List.forall_mem_cons.2 ⟨isHex_of_hexValue? hlow, hhex⟩⟩
      · rw [List.flatMap_cons, hexPair_combine hh hl, htext, hhigh', hlow']
        rfl
    · refine .inr ⟨b, i + 2, by rw [hout, Nat.add_right_comm]; rfl, ?_⟩
      exact (hfault.cons (isHex_of_hexValue? hlow)).cons (isHex_of_hexValue? hhigh)
  | case4 bytes position hshort =>
    rcases bytes with _ | ⟨high, _ | ⟨low, rest⟩⟩
    · exact .inl ⟨[], rfl, by simp, rfl⟩
    · cases heven
    · exact absurd rfl (hshort high low rest)

theorem pairs_hexPair (position : ℕ) (bytes : List UInt8) :
    pairs position ((bytes.flatMap hexPair).map Char.toUInt8) = .ok bytes := by
  induction bytes generalizing position with
  | nil => rfl
  | cons b bytes ih =>
    have hhigh := hexValue?_hexDigit (high_lt b)
    have hlow := hexValue?_hexDigit (low_lt b)
    simp only [List.flatMap_cons, hexPair, List.cons_append, List.nil_append, List.map_cons, pairs,
      hhigh, hlow, ih, combine_halves]
    rfl

end Digits

section Texts

def utf8 (s : String) : List UInt8 := s.toList.flatMap String.utf8EncodeChar

theorem length_utf8 (s : String) : (utf8 s).length = s.utf8ByteSize := by
  rw [← String.size_toByteArray, ← String.utf8Encode_toList, List.utf8Encode,
    List.size_toByteArray, utf8]

theorem IsHex.le {n : ℕ} (h : IsHex n) : n ≤ 127 := by
  unfold IsHex at h
  omega

section Ascii

variable {c : Char} (h : c.toNat ≤ 127)
include h

theorem utf8EncodeChar_of_le : String.utf8EncodeChar c = [c.toUInt8] := by
  rw [Char.toNat] at h
  simp only [String.utf8EncodeChar, if_pos h]
  rfl

theorem toNat_toUInt8 : c.toUInt8.toNat = c.toNat := by
  rw [Char.toUInt8, UInt32.toNat_toUInt8]
  exact Nat.mod_eq_of_lt (lt_of_le_of_lt h (by decide))

theorem lower_toUInt8 : lower c.toUInt8 = c.toLower := by
  rw [lower, toNat_toUInt8 h, Char.ofNat_toNat]

end Ascii

/-- A character that is no digit has a byte that is none. -/
theorem isHex_of_utf8EncodeChar {c : Char} (h : ∀ b ∈ String.utf8EncodeChar c, IsHex b.toNat) :
    IsHex c.toNat := by
  by_cases hsmall : c.toNat ≤ 127
  · rw [utf8EncodeChar_of_le hsmall, List.forall_mem_singleton, toNat_toUInt8 hsmall] at h
    exact h
  · have hlast : UInt8.ofNat (c.val.toNat % 64 + 128) ∈ String.utf8EncodeChar c := by
      rw [Char.toNat] at hsmall
      simp only [String.utf8EncodeChar, if_neg hsmall]
      split_ifs <;> simp
    have hbad := (h _ hlast).le
    rw [UInt8.toNat_ofNat'] at hbad
    omega

section Valid

variable {s : String} (h : ∀ c ∈ s.toList, IsHex c.toNat)
include h

theorem utf8_of_isHex : utf8 s = s.toList.map Char.toUInt8 := by
  rw [utf8, List.flatMap_congr fun c hc => utf8EncodeChar_of_le (h c hc).le]
  exact List.flatMap_pure_eq_map Char.toUInt8 s.toList

theorem isHex_of_mem_utf8 : ∀ b ∈ utf8 s, IsHex b.toNat := by
  rw [utf8_of_isHex h, List.forall_mem_map]
  intro c hc
  rw [toNat_toUInt8 (h c hc).le]
  exact h c hc

theorem utf8ByteSize_of_isHex : s.utf8ByteSize = s.length := by
  rw [← length_utf8, utf8_of_isHex h, List.length_map, String.length_toList]

theorem map_lower_utf8 : (utf8 s).map lower = s.toLower.toList := by
  rw [utf8_of_isHex h, List.map_map, String.toLower, String.toList_map]
  exact List.map_congr_left fun c hc => lower_toUInt8 (h c hc).le

end Valid

theorem isHex_of_utf8 {s : String} (h : ∀ b ∈ utf8 s, IsHex b.toNat) :
    ∀ c ∈ s.toList, IsHex c.toNat := fun c hc =>
  isHex_of_utf8EncodeChar fun b hb => h b (List.mem_flatMap.2 ⟨c, hc, hb⟩)

/-- The mark `0x`, `n` times in a row. -/
def marks (n : ℕ) : String := String.join (List.replicate n "0x")

theorem toList_marks_succ (n : ℕ) (s : String) :
    (marks (n + 1) ++ s).toList = '0' :: 'x' :: (marks n ++ s).toList := by
  simp [marks, List.replicate_succ]

theorem dropMarks_marks (n : ℕ) (s : String) :
    dropMarks (marks n ++ s).toList = dropMarks s.toList := by
  induction n with
  | zero => simp [marks]
  | succ n ih => rw [toList_marks_succ, dropMarks, ih]

theorem dropMarks_of_unmarked {l : List Char} (h : ¬['0', 'x'] <+: l) : dropMarks l = l := by
  fun_induction dropMarks l with
  | case1 rest _ => exact absurd ⟨rest, rfl⟩ h
  | case2 rest _ => rfl

theorem exists_marks (s : String) : ∃ n r, s = marks n ++ r ∧ ¬['0', 'x'] <+: r.toList := by
  generalize hl : s.toList = l
  induction l using dropMarks.induct generalizing s with
  | case1 rest ih =>
    obtain ⟨n, r, hrest, hr⟩ := ih (String.ofList rest) String.toList_ofList
    refine ⟨n + 1, r, ?_, hr⟩
    rw [← String.toList_inj, hl, toList_marks_succ, ← hrest, String.toList_ofList]
  | case2 rest h =>
    refine ⟨0, s, by simp [marks], ?_⟩
    rintro ⟨t, ht⟩
    exact h t (hl.symm.trans ht.symm)

end Texts

section Reading

structure HexDigits (r : String) : Prop where
  length : r.length = 64
  isHex : ∀ c ∈ r.toList, IsHex c.toNat

/-- The fault is the first that a text without marks has. -/
def Error.Tells (r : String) : Error → Prop
  | oddLength => r.utf8ByteSize % 2 = 1
  | wrongLength => r.utf8ByteSize % 2 = 0 ∧ r.utf8ByteSize ≠ 64
  | badDigit b i => r.utf8ByteSize = 64 ∧ FirstFault (utf8 r) b i

variable {r : String}

theorem HexDigits.not_tells (h : HexDigits r) (e : Error) : ¬e.Tells r := by
  have hsize := (utf8ByteSize_of_isHex h.isHex).trans h.length
  cases e with
  | oddLength => simp [Error.Tells, hsize]
  | wrongLength => simp [Error.Tells, hsize]
  | badDigit b i =>
    rintro ⟨-, hb, hbad, -⟩
    exact hbad (isHex_of_mem_utf8 h.isHex b (List.mem_of_getElem? hb))

theorem Error.Tells.unique {e e' : Error} (h : e.Tells r) (h' : e'.Tells r) : e = e' := by
  cases e <;> cases e' <;> simp only [Error.Tells] at h h'
  case badDigit.badDigit =>
    obtain ⟨rfl, rfl⟩ := h.2.unique h'.2
    rfl
  all_goals first | rfl | omega

section Outcome

variable (n : ℕ) (hr : ¬['0', 'x'] <+: r.toList)
include hr

theorem utf8_dropMarks :
    (dropMarks (marks n ++ r).toList).flatMap String.utf8EncodeChar = utf8 r := by
  rw [dropMarks_marks, dropMarks_of_unmarked hr, utf8]

theorem ofText_of_pairs {id : PoolId} (hsize : r.utf8ByteSize = 64)
    (hpairs : pairs 0 (utf8 r) = .ok id.bytes.toList) : ofText (marks n ++ r) = .ok id := by
  simp only [ofText, utf8_dropMarks n hr, length_utf8, hsize, hpairs]
  simp only [bind, Except.bind, pure, Except.pure, List.size_toArray, Vector.length_toList]
  exact congrArg Except.ok (ext_toList rfl)

/-- A text is read in full, or there is a first fault. -/
theorem ofText_spec :
    (∃ id, ofText (marks n ++ r) = .ok id ∧ HexDigits r ∧ id.text = r.toLower) ∨
    ∃ e, ofText (marks n ++ r) = .error e ∧ e.Tells r := by
  by_cases hodd : r.utf8ByteSize % 2 ≠ 0
  · refine .inr ⟨.oddLength, ?_, Nat.mod_two_ne_zero.1 hodd⟩
    simp only [ofText, utf8_dropMarks n hr, length_utf8, if_pos hodd]
    rfl
  rw [not_not] at hodd
  by_cases hsize : r.utf8ByteSize ≠ 64
  · refine .inr ⟨.wrongLength, ?_, hodd, hsize⟩
    simp only [ofText, utf8_dropMarks n hr, length_utf8, hodd, if_pos hsize]
    rfl
  rw [not_not] at hsize
  -- What is left has the right length, so only its digits can be at fault.
  rw [← length_utf8] at hodd
  obtain ⟨out, hout, hhex, htext⟩ | ⟨b, i, hout, hfault⟩ := pairs_spec 0 (utf8 r) hodd
  · have hlength : out.length = 32 := by
      have h := congrArg List.length htext
      rw [length_flatMap_hexPair, List.length_map, length_utf8, hsize] at h
      omega
    have hdigits := isHex_of_utf8 hhex
    refine .inl ⟨⟨⟨out.toArray, hlength⟩⟩, ofText_of_pairs n hr hsize hout, ⟨?_, hdigits⟩, ?_⟩
    · rw [← utf8ByteSize_of_isHex hdigits, hsize]
    · rw [← String.toList_inj, ← map_lower_utf8 hdigits, ← htext]
      exact String.toList_ofList
  · refine .inr ⟨.badDigit b i, ?_, hsize, hfault⟩
    rw [Nat.zero_add] at hout
    simp only [ofText, utf8_dropMarks n hr, length_utf8, hsize, hout]
    rfl

end Outcome

theorem HexDigits.unmarked (h : HexDigits r) : ¬['0', 'x'] <+: r.toList := by
  intro hmarked
  have hx := h.isHex 'x' (hmarked.subset (by simp))
  revert hx
  decide

theorem digits_text (id : PoolId) : HexDigits id.text := by
  constructor
  · rw [text, String.length_ofList, length_flatMap_hexPair, Vector.length_toList]
  · rw [text, String.toList_ofList]
    exact isHex_of_mem_flatMap_hexPair _

theorem short_eq (id : PoolId) : id.short.toList = id.text.toList.take 8 := by
  rw [short, text, String.toList_ofList, String.toList_ofList, take_flatMap_hexPair 4]

/-- A text is read exactly if it is marks followed by 64 hexadecimal digits; what is read is written
with those digits in lower case, and in short with the first eight of them. What is written is read
as what it was, with any marks in front. A text that is refused is refused for the first fault of
what is left without marks: an odd length, a length other than 64, or the first byte that is no
digit. -/
theorem text_is_codec :
    (∀ s, (∃ id, ofText s = .ok id) ↔ ∃ n r, s = marks n ++ r ∧ HexDigits r) ∧
    (∀ n r id, HexDigits r → ofText (marks n ++ r) = .ok id →
      id.text = r.toLower ∧ id.short.toList = r.toLower.toList.take 8) ∧
    (∀ id n, ofText (marks n ++ id.text) = .ok id) ∧
    ∀ s, ∃ n r, s = marks n ++ r ∧ ¬['0', 'x'] <+: r.toList ∧
      ∀ e, ofText s = .error e ↔ e.Tells r := by
  refine ⟨fun s => ⟨?_, ?_⟩, ?_, ?_, ?_⟩
  · rintro ⟨id, hid⟩
    obtain ⟨n, r, rfl, hr⟩ := exists_marks s
    obtain ⟨-, -, hdigits, -⟩ | ⟨e, he, -⟩ := ofText_spec n hr
    · exact ⟨n, r, rfl, hdigits⟩
    · cases hid.symm.trans he
  · rintro ⟨n, r, rfl, hdigits⟩
    obtain ⟨id, hid, -⟩ | ⟨e, -, he⟩ := ofText_spec n hdigits.unmarked
    · exact ⟨id, hid⟩
    · exact absurd he (hdigits.not_tells e)
  · intro n r id hdigits hid
    obtain ⟨id', hid', -, htext⟩ | ⟨e, -, he⟩ := ofText_spec n hdigits.unmarked
    · obtain rfl : id = id' := Except.ok.inj (hid.symm.trans hid')
      exact ⟨htext, by rw [short_eq, htext]⟩
    · exact absurd he (hdigits.not_tells e)
  · intro id n
    have hdigits := digits_text id
    refine ofText_of_pairs n hdigits.unmarked ?_ ?_
    · rw [utf8ByteSize_of_isHex hdigits.isHex, hdigits.length]
    · rw [utf8_of_isHex hdigits.isHex, text, String.toList_ofList]
      exact pairs_hexPair 0 _
  · intro s
    obtain ⟨n, r, rfl, hr⟩ := exists_marks s
    refine ⟨n, r, rfl, hr, fun e => ?_⟩
    obtain ⟨id, hid, hdigits, -⟩ | ⟨e', he', htells⟩ := ofText_spec n hr
    · rw [hid]
      exact iff_of_false nofun (hdigits.not_tells e)
    · rw [he', Except.error.injEq]
      exact ⟨fun h => h ▸ htells, fun h => htells.unique h⟩

def tens : PoolId := ⟨Vector.replicate 32 0xaa⟩

theorem ofText_of_marked_capitals :
    let r := String.ofList (List.replicate 64 'A')
    HexDigits r ∧ ofText (marks 2 ++ r) = .ok tens ∧ tens.text = r.toLower ∧
      tens.short = "aaaaaaaa" := by
  intro r
  have hdigits : HexDigits r := ⟨by decide +kernel, by simp [r, IsHex]⟩
  have hread : ofText (marks 2 ++ r) = .ok tens := by decide +kernel
  obtain ⟨htext, hshort⟩ := text_is_codec.2.1 2 r tens hdigits hread
  refine ⟨hdigits, hread, htext, String.toList_inj.1 (hshort.trans ?_)⟩
  decide +kernel

end Reading

end ConstantProduct.PoolId
