import Mathlib
import ConstantProduct.Proofs.Digits
import ConstantProduct.Proofs.QuotedText
import ConstantProduct.Toml.Document

namespace ConstantProduct.Toml

section Numbers

def AllDigits (s : List Char) : Prop := ∀ c ∈ s, c.isDigit = true

variable {s t : List Char}

namespace Moment

theorem char?_digits {c : Char} (h : AllDigits s) (hc : c.isDigit = false) : char? c s = none := by
  rcases s with _ | ⟨d, s⟩
  · rfl
  · rw [char?, if_neg]
    rintro rfl
    rw [h c List.mem_cons_self] at hc
    cases hc

theorem two?_digits {low high n : ℕ} (h : AllDigits s) (hs : two? low high s = some (n, t)) :
    AllDigits t := by
  rcases s with _ | ⟨a, _ | ⟨b, s⟩⟩
  · cases hs
  · cases hs
  · have hrest : t = s := by
      simp only [two?, Option.bind_eq_bind, Option.bind_eq_some_iff] at hs
      obtain ⟨_, -, _, -, hs⟩ := hs
      split_ifs at hs
      cases hs
      rfl
    intro c hc
    exact h c (List.mem_cons_of_mem _ (List.mem_cons_of_mem _ (hrest ▸ hc)))

theorem date?_digits (h : AllDigits s) : date? s = none := by
  rw [date?, Option.bind_eq_bind, Option.bind_eq_none_iff]
  rintro ⟨high, s'⟩ hhigh
  dsimp only
  rw [Option.bind_eq_bind, Option.bind_eq_none_iff]
  rintro ⟨low, s''⟩ hlow
  dsimp only
  rw [char?_digits (two?_digits (two?_digits h hhigh) hlow) (by decide)]
  rfl

theorem time?_digits (h : AllDigits s) : time? s = none := by
  rw [time?, Option.bind_eq_bind, Option.bind_eq_none_iff]
  rintro ⟨hour, s'⟩ hhour
  dsimp only
  rw [char?_digits (two?_digits h hhour) (by decide)]
  rfl

theorem text?_digits (h : AllDigits s) : text? s = none := by
  rw [text?, date?_digits h, time?_digits h]

end Moment

namespace Scalar

theorem grouped?_digits (h : AllDigits s) (hs : s ≠ []) : grouped? Char.isDigit s = some s := by
  induction s with
  | nil => exact absurd rfl hs
  | cons c s ih =>
    have hc := h c List.mem_cons_self
    rcases s with _ | ⟨d, s⟩
    · rw [grouped?, if_pos hc]
    · have hd : d ≠ '_' := by
        rintro rfl
        exact absurd (h '_' (by simp)) (by decide)
      rw [grouped?, if_pos hc, ih (fun a ha => h a (List.mem_cons_of_mem _ ha)) (by simp)]
      · rfl
      · simp
      · simp [hd]

theorem decimal?_toDigits (n : ℕ) : decimal? (Nat.toDigits 10 n) = some (Nat.toDigits 10 n) := by
  have hzero : ¬((Nat.toDigits 10 n).head? = some '0' ∧ (Nat.toDigits 10 n).length ≠ 1) := by
    rintro ⟨hhead, hlength⟩
    rcases Nat.eq_zero_or_pos n with rfl | hpos
    · exact hlength rfl
    · exact Digits.head?_ne_zero hpos hhead
  rw [decimal?, grouped?_digits (Digits.all_isDigit n) Nat.toDigits_ne_nil]
  exact if_neg hzero

theorem integer?_toDigits {n : ℕ} (h : Text.isInt64 n = true) :
    integer? (Nat.toDigits 10 n) = some (n : ℤ) := by
  have hdigits := Digits.all_isDigit n
  have hdecimal := decimal?_toDigits n
  have hvalue : Nat.ofDigitChars 10 (Nat.toDigits 10 n) 0 = n := Nat.ofDigitChars_ten_toDigits
  have hother (c : Char) (hc : c.isDigit = false) : c ∉ Nat.toDigits 10 n := by
    intro hmem
    rw [hdigits c hmem] at hc
    cases hc
  have hsigned : Text.signed (Nat.toDigits 10 n) = (false, Nat.toDigits 10 n) := by
    unfold Text.signed
    split
    next heq => exact absurd (heq ▸ List.mem_cons_self) (hother '-' rfl)
    next heq => exact absurd (heq ▸ List.mem_cons_self) (hother '+' rfl)
    next => rfl
  unfold integer?
  split
  next heq => exact absurd (heq ▸ by simp) (hother 'x' rfl)
  next heq => exact absurd (heq ▸ by simp) (hother 'o' rfl)
  next heq => exact absurd (heq ▸ by simp) (hother 'b' rfl)
  next =>
    rw [hsigned]
    dsimp only
    rw [hdecimal]
    simp [hvalue, h]

theorem ofToken?_toDigits {n : ℕ} (h : Text.isInt64 n = true) :
    ofToken? (Nat.toDigits 10 n) = some (.integer n) := by
  have hname {name : List Char} (hn : ¬AllDigits name) : Nat.toDigits 10 n ≠ name := by
    rintro rfl
    exact hn (Digits.all_isDigit n)
  rw [ofToken?, if_neg (hname (by simp [AllDigits])),
    if_neg (hname (by simp [AllDigits])),
    Moment.text?_digits (Digits.all_isDigit n), integer?_toDigits h]

/-- A run of token characters is read up to the end of its line. -/
theorem read?_token {run : List Char} {v : Value} (hne : run ≠ [])
    (hrun : ∀ c ∈ run, isTokenChar c = true) (hv : ofToken? run = some v) (rest : List Char) :
    read? (run ++ '\n' :: rest) = some (v, '\n' :: rest) := by
  have htoken : token (run ++ '\n' :: rest) = (run, '\n' :: rest) := by
    have htake : (run ++ '\n' :: rest).takeWhile isTokenChar = run := by
      rw [List.takeWhile_append_of_pos hrun]
      simp [isTokenChar]
    have hdrop : (run ++ '\n' :: rest).dropWhile isTokenChar = '\n' :: rest := by
      rw [List.dropWhile_append_of_pos hrun]
      rfl
    rw [token, htake, hdrop]
    simp [Moment.timeFollows]
  obtain ⟨c, run', rfl⟩ := List.exists_cons_of_ne_nil hne
  have hc := hrun c List.mem_cons_self
  rw [List.cons_append] at htoken ⊢
  rw [read?, htoken]
  · simp [hv]
  · rintro _ ⟨rfl⟩
    cases hc
  · rintro _ ⟨rfl⟩
    cases hc

theorem read?_write (s rest : List Char) :
    read? (Quoted.write s ++ '\n' :: rest) = some (.string (String.ofList s), '\n' :: rest) := by
  have hread := Quoted.string?_write s rest
  obtain ⟨q, t, hw, hq⟩ := Quoted.opens_form (Quoted.form_write s)
  rw [hw, List.cons_append] at hread ⊢
  rcases hq with rfl | rfl
  · rw [read?, read?.string, hread]
    rfl
  · rw [read?, read?.string, hread]
    rfl

end Scalar

end Numbers

namespace Document

section Values

/-- The text is a value that fills the rest of its line. -/
structure Written (w : List Char) (v : Value) : Prop where
  opens : ∃ c t, w = c :: t ∧ isSpace c = false
  reads : ∀ rest, value? maxDepth (w ++ '\n' :: rest) = some (v, '\n' :: rest)

theorem value?_of_scalar {levels : ℕ} {c : Char} (hbracket : c ≠ '[') (hbrace : c ≠ '\x7b')
    (s : List Char) : value? levels (c :: s) = Scalar.read? (c :: s) := by
  cases levels with
  | zero => rfl
  | succ levels => rw [value?] <;> simp [hbracket, hbrace]

theorem written_of_scalar {w : List Char} {v : Value}
    (hopens : ∃ c t, w = c :: t ∧ c ∉ [' ', '\t', '[', '\x7b'])
    (hreads : ∀ rest, Scalar.read? (w ++ '\n' :: rest) = some (v, '\n' :: rest)) :
    Written w v := by
  obtain ⟨c, t, rfl, hc⟩ := hopens
  simp only [List.mem_cons, List.not_mem_nil, or_false, not_or] at hc
  obtain ⟨hspace, htab, hbracket, hbrace⟩ := hc
  refine ⟨⟨c, t, rfl, by simp [isSpace, hspace, htab]⟩, fun rest => ?_⟩
  rw [List.cons_append, value?_of_scalar hbracket hbrace]
  exact hreads rest

theorem written_string (s : List Char) :
    Written (Quoted.write s) (.string (String.ofList s)) := by
  obtain ⟨q, t, hw, hq⟩ := Quoted.opens_form (Quoted.form_write s)
  refine written_of_scalar ⟨q, t, hw, ?_⟩ (Scalar.read?_write s)
  rcases hq with rfl | rfl <;> decide

theorem written_token {run : List Char} {v : Value} (hne : run ≠ [])
    (hrun : ∀ c ∈ run, Scalar.isTokenChar c = true) (hv : Scalar.ofToken? run = some v) :
    Written run v := by
  obtain ⟨c, t, hct⟩ := List.exists_cons_of_ne_nil hne
  have hc := hrun c (hct ▸ List.mem_cons_self)
  refine written_of_scalar ⟨c, t, hct, fun hmem => ?_⟩ (Scalar.read?_token hne hrun hv)
  simp only [List.mem_cons, List.not_mem_nil, or_false] at hmem
  rcases hmem with rfl | rfl | rfl | rfl <;> cases hc

theorem written_natural {n : ℕ} (h : Text.isInt64 n = true) :
    Written (Nat.toDigits 10 n) (.integer n) := by
  refine written_token Nat.toDigits_ne_nil (fun c hc => ?_) (Scalar.ofToken?_toDigits h)
  have hdigit := Digits.all_isDigit n c hc
  simp [Scalar.isTokenChar, Char.isAlphanum, hdigit]

theorem written_boolean (b : Bool) : Written (toString b).toList (.boolean b) := by
  cases b
  · change Written "false".toList _
    exact written_token (by simp) (by simp [Scalar.isTokenChar]) rfl
  · change Written "true".toList _
    exact written_token (by simp) (by simp [Scalar.isTokenChar]) rfl

theorem written_nothing : Written ['[', ']'] (.array []) :=
  ⟨⟨'[', [']'], rfl, rfl⟩, fun _ => rfl⟩

end Values

section Keys

/-- A key that needs no quotes. -/
def Bare (key : String) : Prop := key.toList ≠ [] ∧ ∀ c ∈ key.toList, isBareKey c = true

variable {key : String}

theorem Bare.opens (h : Bare key) : ∃ c t, key.toList = c :: t ∧ isBareKey c = true := by
  obtain ⟨c, t, hct⟩ := List.exists_cons_of_ne_nil h.1
  exact ⟨c, t, hct, h.2 c (hct ▸ List.mem_cons_self)⟩

theorem Bare.append_ne (h : Bare key) {d : Char} (hd : isBareKey d = false) (s t : List Char) :
    key.toList ++ s ≠ d :: t := by
  obtain ⟨c, u, hcu, hc⟩ := h.opens
  rw [hcu, List.cons_append]
  intro heq
  rw [List.head_eq_of_cons_eq heq, hd] at hc
  cases hc

theorem Bare.dropSpaces_append (h : Bare key) (s : List Char) :
    dropSpaces (key.toList ++ s) = key.toList ++ s := by
  obtain ⟨c, t, hct, hc⟩ := h.opens
  have hspace : isSpace c = false := by
    rw [isSpace, Bool.or_eq_false_iff, beq_eq_false_iff_ne, beq_eq_false_iff_ne]
    constructor <;> rintro rfl <;> cases hc
  rw [hct, List.cons_append, dropSpaces, List.dropWhile_cons_of_neg (by simp [hspace])]

theorem key?_bare (h : Bare key) {d : Char} (hd : isBareKey d = false) (rest : List Char)
    (hdot : ∀ t, dropSpaces (d :: rest) ≠ '.' :: t) :
    key? (key.toList ++ d :: rest) = some ([key], dropSpaces (d :: rest)) := by
  have htake : (key.toList ++ d :: rest).takeWhile isBareKey = key.toList := by
    rw [List.takeWhile_append_of_pos h.2]
    simp [hd]
  have hdrop : (key.toList ++ d :: rest).dropWhile isBareKey = d :: rest := by
    rw [List.dropWhile_append_of_pos h.2]
    simp [hd]
  have hkey : simpleKey? (dropSpaces (key.toList ++ d :: rest)) = some (key, d :: rest) := by
    rw [h.dropSpaces_append]
    unfold simpleKey?
    split
    next heq => exact absurd heq (h.append_ne rfl _ _)
    next heq => exact absurd heq (h.append_ne rfl _ _)
    next => simp only [htake, hdrop, if_neg h.1, String.ofList_toList]
  rw [key?, maxDepth, keyParts?, hkey]
  rw [Option.bind_eq_bind, Option.bind_some]
  dsimp only
  split
  next heq => exact absurd heq (hdot _)
  next => rfl

end Keys

section Lines

variable {key : String} {w s : List Char} {v : Value}

theorem pair?_bare (h : Bare key) (hw : Written w v) (rest : List Char) :
    pair? (value? maxDepth) (key.toList ++ ' ' :: '=' :: ' ' :: (w ++ '\n' :: rest)) =
      some (([key], v), '\n' :: rest) := by
  have hkey := key?_bare h (d := ' ') rfl ('=' :: ' ' :: (w ++ '\n' :: rest)) nofun
  have hspaces : dropSpaces (' ' :: (w ++ '\n' :: rest)) = w ++ '\n' :: rest := by
    obtain ⟨c, t, hct, hc⟩ := hw.opens
    rw [dropSpaces, List.dropWhile_cons_of_pos rfl, hct, List.cons_append,
      List.dropWhile_cons_of_neg (by simp [hc])]
  rw [pair?, hkey]
  simp only [Option.bind_eq_bind, Option.bind_some]
  change (value? maxDepth (dropSpaces (' ' :: (w ++ '\n' :: rest)))).bind _ = _
  rw [hspaces, hw.reads]
  rfl

theorem statement?_entry (h : Bare key) (hw : Written w v) (rest : List Char) :
    statement? (key.toList ++ ' ' :: '=' :: ' ' :: (w ++ '\n' :: rest)) =
      some (.entry [key] v, '\n' :: rest) := by
  rw [statement?, pair?_bare h hw rest]
  · rfl
  · exact fun _ => h.append_ne rfl _ _
  · exact fun _ => h.append_ne rfl _ _

theorem statement?_header (h : Bare key) (rest : List Char) :
    statement? ('[' :: (key.toList ++ ']' :: '\n' :: rest)) =
      some (.header [key], '\n' :: rest) := by
  have hkey := key?_bare h (d := ']') rfl ('\n' :: rest) nofun
  rw [statement?, hkey]
  · rfl
  · exact fun _ => h.append_ne rfl _ _

theorem statement?_arrayHeader (h : Bare key) (rest : List Char) :
    statement? ('[' :: '[' :: (key.toList ++ ']' :: ']' :: '\n' :: rest)) =
      some (.arrayHeader [key], '\n' :: rest) := by
  have hkey := key?_bare h (d := ']') rfl (']' :: '\n' :: rest) nofun
  rw [statement?, hkey]
  rfl

/-- The text is read into the statements, whatever lines more than it has are allowed for. -/
def Reads (s : List Char) (statements : List Statement) : Prop :=
  ∀ fuel, s.length < fuel → statements? fuel s = some statements

variable {statements : List Statement}

theorem reads_nil : Reads [] [] := by
  rintro (_ | fuel) hfuel
  · cases hfuel
  · rfl

theorem Reads.blank (h : Reads s statements) : Reads ('\n' :: s) statements := by
  rintro (_ | fuel) hfuel
  · cases hfuel
  · exact h fuel (Nat.lt_of_succ_lt_succ hfuel)

/-- A line that says something, in front of what else is read. -/
theorem Reads.line {line : List Char} {statement : Statement}
    (hopens : ∃ c t, line = c :: t ∧ c ∉ [' ', '\t', '#', '\n', '\r'])
    (hread : statement? (line ++ '\n' :: s) = some (statement, '\n' :: s))
    (h : Reads s statements) : Reads (line ++ '\n' :: s) (statement :: statements) := by
  rintro (_ | fuel) hfuel
  · cases hfuel
  obtain ⟨c, t, rfl, hc⟩ := hopens
  simp only [List.mem_cons, List.not_mem_nil, or_false, not_or] at hc
  obtain ⟨hspace, htab, hcomment, hline, hreturn⟩ := hc
  have hlength : s.length < fuel := by
    simp only [List.length_append, List.length_cons] at hfuel
    omega
  have hstart : dropSpaces (c :: (t ++ '\n' :: s)) = c :: (t ++ '\n' :: s) :=
    List.dropWhile_cons_of_neg (by simp [isSpace, hspace, htab])
  have hempty : isEmptyLine (c :: (t ++ '\n' :: s)) = false := by
    simp [isEmptyLine, hcomment, hline, hreturn]
  rw [List.cons_append] at hread ⊢
  rw [statements?, hstart]
  dsimp only
  rw [if_neg (by simp [hempty]), hread]
  change (statements? fuel s).bind _ = _
  rw [h fuel hlength]
  rfl

theorem Reads.entry (hkey : Bare key) (hw : Written w v) (h : Reads s statements) :
    Reads (key.toList ++ ' ' :: '=' :: ' ' :: (w ++ '\n' :: s)) (.entry [key] v :: statements) := by
  have hread := statement?_entry hkey hw s
  obtain ⟨c, t, hct, hc⟩ := hkey.opens
  have hline : key.toList ++ ' ' :: '=' :: ' ' :: (w ++ '\n' :: s) =
      (key.toList ++ ' ' :: '=' :: ' ' :: w) ++ '\n' :: s := by simp
  rw [hline] at hread ⊢
  refine Reads.line ⟨c, _, by rw [hct, List.cons_append], fun hmem => ?_⟩ hread h
  simp only [List.mem_cons, List.not_mem_nil, or_false] at hmem
  rcases hmem with rfl | rfl | rfl | rfl | rfl <;> cases hc

theorem Reads.header (hkey : Bare key) (h : Reads s statements) :
    Reads ('[' :: (key.toList ++ ']' :: '\n' :: s)) (.header [key] :: statements) := by
  have hread := statement?_header hkey s
  have hline : '[' :: (key.toList ++ ']' :: '\n' :: s) =
      ('[' :: (key.toList ++ [']'])) ++ '\n' :: s := by simp
  rw [hline] at hread ⊢
  exact Reads.line ⟨'[', _, rfl, by decide⟩ hread h

theorem Reads.arrayHeader (hkey : Bare key) (h : Reads s statements) :
    Reads ('[' :: '[' :: (key.toList ++ ']' :: ']' :: '\n' :: s))
      (.arrayHeader [key] :: statements) := by
  have hread := statement?_arrayHeader hkey s
  have hline : '[' :: '[' :: (key.toList ++ ']' :: ']' :: '\n' :: s) =
      ('[' :: '[' :: (key.toList ++ [']', ']'])) ++ '\n' :: s := by simp
  rw [hline] at hread ⊢
  exact Reads.line ⟨'[', _, rfl, by decide⟩ hread h

end Lines

end Document

end ConstantProduct.Toml
