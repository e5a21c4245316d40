import Mathlib
import ConstantProduct.Toml.Quoted

namespace ConstantProduct.Toml.Quoted

section Spelling

variable {c : Char} {w : List Char}

inductive Spelled (c : Char) : List Char → Prop where
  | short {l : Char} (h : escape? l = some c) : Spelled c ['\\', l]
  | long {a b d e : Char} (h : codePoint? [a, b, d, e] = some c) : Spelled c ['\\', 'u', a, b, d, e]
  | plain (hplain : isPlain c = true) (hslash : c ≠ '\\') (hquote : c ≠ '"') : Spelled c [c]

theorem isPlain_of_not_isControl {c : Char} (h : isControl c = false) (hc : c ≠ '\n') :
    isPlain c = true := by
  rcases eq_or_ne c '\t' with rfl | htab
  · rfl
  · simp [isControl, isPlain, htab, hc] at h ⊢
    exact h

theorem ne_of_isPlain {c : Char} (h : isPlain c = true) : c ≠ '\n' ∧ c ≠ '\r' := by
  constructor <;> rintro rfl <;> cases h

theorem ne_of_escape? {l c : Char} (h : escape? l = some c) : l ≠ 'u' ∧ l ≠ 'U' := by
  constructor <;> rintro rfl <;> cases h

theorem codePoint?_of_isControl {c : Char} (h : isControl c = true) :
    codePoint? ['0', '0', hexDigit (c.toNat / 16), hexDigit (c.toNat % 16)] = some c := by
  have hall : ∀ n < 128, codePoint? ['0', '0', hexDigit (n / 16), hexDigit (n % 16)] =
      some (Char.ofNat n) := by
    decide +kernel
  have hlt : c.toNat < 128 := by
    simp only [isControl, Bool.or_eq_true, Bool.and_eq_true, decide_eq_true_eq, beq_iff_eq] at h
    omega
  rw [hall _ hlt, Char.ofNat_toNat]

theorem spelled_escaped {c : Char} (hquote : c ≠ '"') (hline : c ≠ '\n') :
    Spelled c (escaped c) := by
  unfold escaped
  split_ifs with hb ht hf hr hslash hcontrol
  · exact hb ▸ .short rfl
  · exact ht ▸ .short rfl
  · exact hf ▸ .short rfl
  · exact hr ▸ .short rfl
  · subst hslash
    exact .short rfl
  · exact .long (codePoint?_of_isControl hcontrol)
  · rw [Bool.not_eq_true] at hcontrol
    exact .plain (isPlain_of_not_isControl hcontrol hline) hslash hquote

def withFirst (c : Char) (p : List Char × List Char) : List Char × List Char := (c :: p.1, p.2)

theorem basic?_spelled (h : Spelled c w) (s : List Char) :
    basic? (w ++ s) = (basic? s).map (withFirst c) := by
  cases h with
  | @short l h =>
    simp only [List.cons_append, List.nil_append]
    rw [basic?, h]
    · cases basic? s <;> rfl
    · exact fun _ _ _ _ _ hu => absurd hu (ne_of_escape? h).1
    · exact fun _ _ _ _ _ _ _ _ _ hu => absurd hu (ne_of_escape? h).2
  | @long a b d e h =>
    simp only [List.cons_append, List.nil_append]
    rw [basic?, h]
    cases basic? s <;> rfl
  | plain hplain hslash hquote =>
    simp only [List.cons_append, List.nil_append]
    rw [basic?, if_pos ⟨hslash, hplain⟩]
    · cases basic? s <;> rfl
    all_goals simp [hslash, hquote]

theorem multiBasic?_spelled (h : Spelled c w) (s : List Char) :
    multiBasic? false (w ++ s) = (multiBasic? false s).map (withFirst c) := by
  cases h with
  | @short l h =>
    have hends : endsLine (l :: s) = false := by
      unfold escape? at h
      split at h <;> first | rfl | cases h
    simp only [List.cons_append, List.nil_append]
    rw [multiBasic?, hends, h]
    · cases multiBasic? false s <;> rfl
    · exact fun _ _ _ _ _ hu => absurd hu (ne_of_escape? h).1
    · exact fun _ _ _ _ _ _ _ _ _ hu => absurd hu (ne_of_escape? h).2
  | @long a b d e h =>
    simp only [List.cons_append, List.nil_append]
    rw [multiBasic?, h]
    cases multiBasic? false s <;> rfl
  | plain hplain hslash hquote =>
    simp only [List.cons_append, List.nil_append]
    rw [multiBasic?, if_neg (by simp), if_pos ⟨hslash, .inl hplain⟩]
    · cases multiBasic? false s <;> rfl
    all_goals simp [hslash, hquote, (ne_of_isPlain hplain).2]

end Spelling

section Basic

variable {c : Char} {w : List Char}

theorem head_of_spelled (h : Spelled c w) :
    ∃ a v, w = a :: v ∧ a ≠ '"' ∧ a ≠ '\n' ∧ a ≠ '\r' := by
  cases h with
  | plain hplain hslash hquote => exact ⟨_, _, rfl, hquote, ne_of_isPlain hplain⟩
  | _ => exact ⟨_, _, rfl, by decide, by decide, by decide⟩

theorem spelled_quote : Spelled '"' ['\\', '"'] := .short rfl

theorem writeBasic_cons (c : Char) (s : List Char) :
    ∃ w, Spelled c w ∧ writeBasic (c :: s) = w ++ writeBasic s := by
  refine ⟨_, ?_, List.flatMap_cons⟩
  split_ifs with hquote hline
  · exact hquote ▸ spelled_quote
  · exact hline ▸ .short rfl
  · exact spelled_escaped hquote hline

theorem basic?_writeBasic (s rest : List Char) :
    basic? (writeBasic s ++ '"' :: rest) = some (s, rest) := by
  induction s with
  | nil => simp [writeBasic, basic?]
  | cons c s ih =>
    obtain ⟨w, hc, hw⟩ := writeBasic_cons c s
    rw [hw, List.append_assoc, basic?_spelled hc, ih]
    rfl

theorem string?_writeBasic (s rest : List Char) :
    string? ('"' :: writeBasic s ++ '"' :: '\n' :: rest) =
      some (String.ofList s, '\n' :: rest) := by
  -- The string does not pass for one between three quotes.
  have hone (t : List Char) : writeBasic s ++ '"' :: '\n' :: rest ≠ '"' :: '"' :: t := by
    cases s with
    | nil => simp [writeBasic]
    | cons c s =>
      obtain ⟨w, hc, hw⟩ := writeBasic_cons c s
      obtain ⟨a, v, rfl, ha, -, -⟩ := head_of_spelled hc
      simp [hw, ha]
  rw [List.cons_append, string?, basic?_writeBasic]
  · rfl
  · exact hone

end Basic

section MultiBasic

/-- A quote is one of the text unless two more follow. -/
theorem multiBasic?_quote {s : List Char} (h : ∀ t, s ≠ '"' :: '"' :: t) :
    multiBasic? false ('"' :: s) = (multiBasic? false s).map (withFirst '"') := by
  rw [multiBasic?, if_neg (by simp), if_pos (by decide)]
  · cases multiBasic? false s <;> rfl
  all_goals simp [h]

theorem multiBasic?_newline (s : List Char) :
    multiBasic? false ('\n' :: s) = (multiBasic? false s).map (withFirst '\n') := by
  rw [multiBasic?, if_neg (by simp), if_pos (by decide)]
  · cases multiBasic? false s <;> rfl
  all_goals simp

theorem head_writeMultiBasic {quotes : ℕ} {c : Char} (h : quotes = 2 ∨ c ≠ '"') (s : List Char) :
    ∃ a v, writeMultiBasic quotes (c :: s) = a :: v ∧ a ≠ '"' := by
  unfold writeMultiBasic
  split_ifs with hquote hquotes hline
  · exact ⟨_, _, rfl, by decide⟩
  · exact (h.elim hquotes (absurd hquote)).elim
  · exact ⟨_, _, rfl, by decide⟩
  · obtain ⟨a, v, hw, ha, -, -⟩ := head_of_spelled (spelled_escaped hquote hline)
    exact ⟨a, _, by rw [hw, List.cons_append], ha⟩

/-- After a quote two more follow only where the string ends. -/
theorem two_quotes {quotes : ℕ} {s t t' : List Char} (hone : 1 ≤ quotes) (htwo : quotes ≤ 2)
    (h : writeMultiBasic quotes s ++ t = '"' :: '"' :: t') :
    s = [] ∨ quotes = 1 ∧ s = ['"'] := by
  rcases s with _ | ⟨c, s⟩
  · exact .inl rfl
  by_cases hc : quotes = 2 ∨ c ≠ '"'
  · obtain ⟨a, v, hw, ha⟩ := head_writeMultiBasic hc s
    rw [hw] at h
    exact absurd (List.head_eq_of_cons_eq h) ha
  · rw [not_or, not_not] at hc
    obtain ⟨hquotes, rfl⟩ := hc
    obtain rfl : quotes = 1 := by omega
    rcases s with _ | ⟨c, s⟩
    · exact .inr ⟨rfl, rfl⟩
    · obtain ⟨a, v, hw, ha⟩ := head_writeMultiBasic (.inl rfl : 2 = 2 ∨ c ≠ '"') s
      rw [writeMultiBasic, if_pos rfl, if_neg (by decide), hw] at h
      injection h with _ h
      exact absurd (List.head_eq_of_cons_eq h) ha

theorem multiBasic?_writeMultiBasic {quotes : ℕ} (h : quotes ≤ 2) (s rest : List Char) :
    multiBasic? false (writeMultiBasic quotes s ++ (basicQuote ++ '\n' :: rest)) =
      some (s, '\n' :: rest) := by
  induction s generalizing quotes with
  | nil => simp [writeMultiBasic, basicQuote, multiBasic?]
  | cons c s ih =>
    rw [writeMultiBasic]
    split_ifs with hquote hquotes hline
    · have hspelled := multiBasic?_spelled spelled_quote
        (writeMultiBasic 0 s ++ (basicQuote ++ '\n' :: rest))
      rw [ih (by decide)] at hspelled
      rw [hquote]
      exact hspelled
    · rw [List.cons_append, hquote]
      by_cases hend : ∃ t, writeMultiBasic (quotes + 1) s ++ (basicQuote ++ '\n' :: rest) =
          '"' :: '"' :: t
      · obtain ⟨t, ht⟩ := hend
        obtain rfl | ⟨hone, rfl⟩ := two_quotes (by omega) (by omega) ht
        · simp [writeMultiBasic, basicQuote, multiBasic?]
        · simp [writeMultiBasic, basicQuote, multiBasic?, hone]
      · rw [multiBasic?_quote (not_exists.1 hend), ih (by omega)]
        rfl
    · rw [List.cons_append, multiBasic?_newline, ih (by decide), hline]
      rfl
    · rw [List.append_assoc, multiBasic?_spelled (spelled_escaped hquote hline), ih (by decide)]
      rfl

/-- A string that starts on the line of its quotes is not one that starts with a newline. -/
theorem dropNewline_writeMultiBasic {s : List Char} (h : '\n' ∉ s) (rest : List Char) :
    dropNewline (writeMultiBasic 0 s ++ (basicQuote ++ rest)) =
      writeMultiBasic 0 s ++ (basicQuote ++ rest) := by
  rcases s with _ | ⟨c, s⟩
  · rfl
  rw [List.mem_cons, not_or] at h
  rw [writeMultiBasic, if_neg (by decide : ¬0 = 2), if_neg (Ne.symm h.1)]
  split_ifs with hquote
  · rfl
  · obtain ⟨a, v, hw, -, hline, hreturn⟩ := head_of_spelled (spelled_escaped hquote (Ne.symm h.1))
    rw [hw]
    simp only [List.cons_append]
    rw [dropNewline]
    all_goals simp [hline, hreturn]

end MultiBasic

section Literal

variable {s : List Char}

theorem literal?_append (h : ∀ c ∈ s, isPlain c = true ∧ c ≠ '\x27') (rest : List Char) :
    literal? (s ++ '\x27' :: rest) = some (s, rest) := by
  induction s with
  | nil => simp [literal?]
  | cons c s ih =>
    obtain ⟨⟨hplain, hquote⟩, hs⟩ := List.forall_mem_cons.1 h
    rw [List.cons_append, literal?, if_pos hplain, ih hs]
    · rfl
    · exact hquote

theorem string?_literal (h : ∀ c ∈ s, isPlain c = true ∧ c ≠ '\x27') (rest : List Char) :
    string? ('\x27' :: s ++ '\x27' :: '\n' :: rest) =
      some (String.ofList s, '\n' :: rest) := by
  have hone (t : List Char) : s ++ '\x27' :: '\n' :: rest ≠ '\x27' :: '\x27' :: t := by
    cases s with
    | nil => simp
    | cons c s => simp [(List.forall_mem_cons.1 h).1.2]
  rw [List.cons_append, string?, literal?_append h]
  · rfl
  · exact hone

theorem multiLiteral?_cons {c : Char} (hc : isPlain c = true ∨ c = '\n')
    (h : c = '\x27' → ∀ t, s ≠ '\x27' :: '\x27' :: t) :
    multiLiteral? (c :: s) = (multiLiteral? s).map (withFirst c) := by
  have hreturn : c ≠ '\r' := by
    rintro rfl
    rcases hc with ⟨⟨⟩⟩ | ⟨⟨⟩⟩
  rw [multiLiteral?, if_pos hc]
  · cases multiLiteral? s <;> rfl
  · exact fun _ hquote ht => h hquote _ ht
  · exact fun _ hquote ht => h hquote _ ht
  · exact fun _ hquote ht => h hquote _ ht
  · exact fun _ hr => absurd hr hreturn

theorem hasTriple_tail {q c : Char} (h : hasTriple q (c :: s) = false) : hasTriple q s = false := by
  rcases s with _ | ⟨a, _ | ⟨b, s⟩⟩
  · rfl
  · rfl
  · rw [hasTriple, Bool.or_eq_false_iff] at h
    exact h.2

theorem multiLiteral?_append (htriple : hasTriple '\x27' s = false)
    (h : ∀ c ∈ s, isPlain c = true ∨ c = '\n') (rest : List Char) :
    multiLiteral? (s ++ (literalQuote ++ '\n' :: rest)) = some (s, '\n' :: rest) := by
  induction s with
  | nil => simp [literalQuote, multiLiteral?]
  | cons c s ih =>
    obtain ⟨hc, hs⟩ := List.forall_mem_cons.1 h
    rw [List.cons_append]
    -- Two quotes after a quote end the string, as it has no three in a row.
    by_cases hend : c = '\x27' ∧ ∃ t, s ++ (literalQuote ++ '\n' :: rest) = '\x27' :: '\x27' :: t
    · obtain ⟨rfl, t, ht⟩ := hend
      rcases s with _ | ⟨a, _ | ⟨b, s⟩⟩
      · simp [literalQuote, multiLiteral?]
      · obtain rfl := List.head_eq_of_cons_eq ht
        simp [literalQuote, multiLiteral?]
      · simp only [List.cons_append, List.cons.injEq] at ht
        simp [hasTriple, ht.1, ht.2.1] at htriple
    · rw [multiLiteral?_cons hc fun hquote t ht => hend ⟨hquote, t, ht⟩,
        ih (hasTriple_tail htriple) hs]
      rfl

theorem dropNewline_literal (h : ∀ c ∈ s, isPlain c = true) (rest : List Char) :
    dropNewline (s ++ (literalQuote ++ rest)) = s ++ (literalQuote ++ rest) := by
  rcases s with _ | ⟨c, s⟩
  · rfl
  · have hc := (List.forall_mem_cons.1 h).1
    rw [List.cons_append, dropNewline]
    · exact fun _ heq => (ne_of_isPlain hc).1 (List.head_eq_of_cons_eq heq)
    · exact fun _ heq => (ne_of_isPlain hc).2 (List.head_eq_of_cons_eq heq)

end Literal

section Forms

/-- What comes before a string of several lines, or of one. -/
def Start (s start : List Char) : Prop := start = ['\n'] ∨ start = [] ∧ '\n' ∉ s

inductive Form (s : List Char) : List Char → Prop where
  | basic : Form s ('"' :: (writeBasic s ++ ['"']))
  | literal (h : ∀ c ∈ s, isPlain c = true ∧ c ≠ '\x27') : Form s ('\x27' :: (s ++ ['\x27']))
  | multiBasic {start : List Char} (hstart : Start s start) :
      Form s (basicQuote ++ (start ++ (writeMultiBasic 0 s ++ basicQuote)))
  | multiLiteral {start : List Char} (hstart : Start s start)
      (hplain : ∀ c ∈ s, isPlain c = true ∨ c = '\n') (htriple : hasTriple '\x27' s = false) :
      Form s (literalQuote ++ (start ++ (s ++ literalQuote)))

theorem form_write (s : List Char) : Form s (write s) := by
  have hplain (h : ¬s.any isControl = true) (c : Char) (hc : c ∈ s) :
      isPlain c = true ∨ c = '\n' := by
    have hcontrol := List.any_eq_false.1 (Bool.eq_false_of_not_eq_true h) c hc
    by_cases hline : c = '\n'
    · exact .inr hline
    · exact .inl (isPlain_of_not_isControl (Bool.eq_false_of_not_eq_true hcontrol) hline)
  have hstart : Start s (if s.contains '\n' = true then ['\n'] else []) := by
    split_ifs with hlines
    · exact .inl rfl
    · exact .inr ⟨rfl, fun h => hlines (List.contains_iff_mem.2 h)⟩
  unfold write
  dsimp only
  generalize (if s.contains '\n' = true then ['\n'] else []) = start at hstart
  simp only [List.append_assoc]
  split_ifs with h1 h2 h3 h4
  · exact .basic
  · obtain ⟨hline, hquote, hcontrol⟩ := h2
    refine .literal fun c hc => ⟨(hplain hcontrol c hc).resolve_right ?_, ?_⟩
    · rintro rfl
      exact hline (List.contains_iff_mem.2 hc)
    · rintro rfl
      exact hquote (List.contains_iff_mem.2 hc)
  · exact .multiBasic hstart
  · exact .multiLiteral hstart (hplain h4.1) (Bool.eq_false_of_not_eq_true h4.2)
  · exact .multiBasic hstart
  · exact .basic

variable {s w : List Char}

theorem opens_form (h : Form s w) : ∃ q t, w = q :: t ∧ (q = '"' ∨ q = '\x27') := by
  cases h with
  | basic => exact ⟨_, _, rfl, .inl rfl⟩
  | literal => exact ⟨_, _, rfl, .inr rfl⟩
  | multiBasic => exact ⟨_, _, rfl, .inl rfl⟩
  | multiLiteral => exact ⟨_, _, rfl, .inr rfl⟩

theorem dropNewline_start {start t : List Char} (h : Start s start)
    (ht : '\n' ∉ s → dropNewline t = t) : dropNewline (start ++ t) = t := by
  obtain rfl | ⟨rfl, hline⟩ := h
  · rfl
  · exact ht hline

theorem string?_form (h : Form s w) (rest : List Char) :
    string? (w ++ '\n' :: rest) = some (String.ofList s, '\n' :: rest) := by
  cases h with
  | basic =>
    rw [List.cons_append, List.append_assoc]
    exact string?_writeBasic s rest
  | literal h =>
    rw [List.cons_append, List.append_assoc]
    exact string?_literal h rest
  | @multiBasic start hstart =>
    have hopen (t : List Char) :
        string? (basicQuote ++ t) = (multiBasic? false (dropNewline t)).map string?.close := rfl
    rw [List.append_assoc, hopen, List.append_assoc, List.append_assoc,
      dropNewline_start hstart (dropNewline_writeMultiBasic · _),
      multiBasic?_writeMultiBasic (by decide)]
    rfl
  | @multiLiteral start hstart hplain htriple =>
    have hopen (t : List Char) :
        string? (literalQuote ++ t) = (multiLiteral? (dropNewline t)).map string?.close := rfl
    have hline (h : '\n' ∉ s) (c : Char) (hc : c ∈ s) : isPlain c = true :=
      (hplain c hc).resolve_right fun hc' => h (hc' ▸ hc)
    rw [List.append_assoc, hopen, List.append_assoc, List.append_assoc,
      dropNewline_start hstart fun h => dropNewline_literal (hline h) _,
      multiLiteral?_append htriple hplain]
    rfl

end Forms

/-- Whatever form a string is written in, what is read at the end of its line is the string. -/
theorem string?_write (s rest : List Char) :
    string? (write s ++ '\n' :: rest) = some (String.ofList s, '\n' :: rest) :=
  string?_form (form_write s) rest

end ConstantProduct.Toml.Quoted
