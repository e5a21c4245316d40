namespace ConstantProduct.Toml.Quoted

/-- The character may stand in a comment or a string. -/
def isPlain (c : Char) : Bool := c == '\t' || (0x20 ≤ c.toNat && c.toNat != 0x7F)

def hexValue? (c : Char) : Option Nat :=
  if '0' ≤ c ∧ c ≤ '9' then some (c.toNat - 48)
  else if 'a' ≤ c ∧ c ≤ 'f' then some (c.toNat - 87)
  else if 'A' ≤ c ∧ c ≤ 'F' then some (c.toNat - 55)
  else none

def codePoint? (digits : List Char) : Option Char := do
  let n ← digits.foldlM (fun n c => (hexValue? c).map (16 * n + ·)) 0
  if h : n.isValidChar then return Char.ofNatAux n h
  none

def escape? : Char → Option Char
  | 'b' => some '\x08'
  | 't' => some '\t'
  | 'n' => some '\n'
  | 'f' => some '\x0c'
  | 'r' => some '\r'
  | '"' => some '"'
  | '\\' => some '\\'
  | _ => none

/-- The string up to a double quote on the same line, and the text after that quote. -/
def basic? : List Char → Option (List Char × List Char)
  | [] => none
  | '"' :: rest => some ([], rest)
  | '\\' :: 'u' :: a :: b :: c :: d :: rest => do
    let e ← codePoint? [a, b, c, d]
    let (text, rest) ← basic? rest
    return (e :: text, rest)
  | '\\' :: 'U' :: a :: b :: c :: d :: a' :: b' :: c' :: d' :: rest => do
    let e ← codePoint? [a, b, c, d, a', b', c', d']
    let (text, rest) ← basic? rest
    return (e :: text, rest)
  | '\\' :: c :: rest => do
    let e ← escape? c
    let (text, rest) ← basic? rest
    return (e :: text, rest)
  | c :: rest =>
    if c ≠ '\\' ∧ isPlain c then do
      let (text, rest) ← basic? rest
      return (c :: text, rest)
    else none

def literal? : List Char → Option (List Char × List Char)
  | [] => none
  | '\x27' :: rest => some ([], rest)
  | c :: rest =>
    if isPlain c then do
      let (text, rest) ← literal? rest
      return (c :: text, rest)
    else none

def dropNewline : List Char → List Char
  | '\n' :: rest => rest
  | '\r' :: '\n' :: rest => rest
  | s => s

def endsLine (s : List Char) : Bool :=
  match s.dropWhile fun c => c == ' ' || c == '\t' with
  | '\n' :: _ => true
  | '\r' :: '\n' :: _ => true
  | _ => false

/-- A string in three double quotes. A backslash at the end of a line drops the white space up to
the next character; up to two quotes may stand before the closing three. `skipping` says that such
white space is being dropped. -/
def multiBasic? : (skipping : Bool) → List Char → Option (List Char × List Char)
  | _, [] => none
  | _, '"' :: '"' :: '"' :: '"' :: '"' :: rest => some (['"', '"'], rest)
  | _, '"' :: '"' :: '"' :: '"' :: rest => some (['"'], rest)
  | _, '"' :: '"' :: '"' :: rest => some ([], rest)
  | _, '\\' :: 'u' :: a :: b :: c :: d :: rest => do
    let e ← codePoint? [a, b, c, d]
    let (text, rest) ← multiBasic? false rest
    return (e :: text, rest)
  | _, '\\' :: 'U' :: a :: b :: c :: d :: a' :: b' :: c' :: d' :: rest => do
    let e ← codePoint? [a, b, c, d, a', b', c', d']
    let (text, rest) ← multiBasic? false rest
    return (e :: text, rest)
  | _, '\\' :: c :: rest =>
    if endsLine (c :: rest) then multiBasic? true (c :: rest)
    else do
      let e ← escape? c
      let (text, rest) ← multiBasic? false rest
      return (e :: text, rest)
  | skipping, '\r' :: '\n' :: rest =>
    if skipping then multiBasic? true rest
    else do
      let (text, rest) ← multiBasic? false rest
      return ('\n' :: text, rest)
  | skipping, c :: rest =>
    if skipping ∧ (c = ' ' ∨ c = '\t' ∨ c = '\n') then multiBasic? true rest
    else if c ≠ '\\' ∧ (isPlain c ∨ c = '\n') then do
      let (text, rest) ← multiBasic? false rest
      return (c :: text, rest)
    else none

def multiLiteral? : List Char → Option (List Char × List Char)
  | [] => none
  | '\x27' :: '\x27' :: '\x27' :: '\x27' :: '\x27' :: rest => some (['\x27', '\x27'], rest)
  | '\x27' :: '\x27' :: '\x27' :: '\x27' :: rest => some (['\x27'], rest)
  | '\x27' :: '\x27' :: '\x27' :: rest => some ([], rest)
  | '\r' :: '\n' :: rest => do
    let (text, rest) ← multiLiteral? rest
    return ('\n' :: text, rest)
  | c :: rest =>
    if isPlain c ∨ c = '\n' then do
      let (text, rest) ← multiLiteral? rest
      return (c :: text, rest)
    else none

def string? : List Char → Option (String × List Char)
  | '"' :: '"' :: '"' :: rest => (multiBasic? false (dropNewline rest)).map close
  | '"' :: rest => (basic? rest).map close
  | '\x27' :: '\x27' :: '\x27' :: rest => (multiLiteral? (dropNewline rest)).map close
  | '\x27' :: rest => (literal? rest).map close
  | _ => none
where
  close (p : List Char × List Char) : String × List Char := (String.ofList p.1, p.2)

def lineString? : List Char → Option (String × List Char)
  | '"' :: rest => (basic? rest).map string?.close
  | '\x27' :: rest => (literal? rest).map string?.close
  | _ => none

/-- A control character for which a string needs an escape. -/
def isControl (c : Char) : Bool := (c.toNat < 0x20 && c != '\t' && c != '\n') || c.toNat == 0x7F

def hexDigit (n : Nat) : Char := Char.ofNat (if n < 10 then 48 + n else 55 + n)

def escaped (c : Char) : List Char :=
  if c = '\x08' then ['\\', 'b']
  else if c = '\t' then ['\\', 't']
  else if c = '\x0c' then ['\\', 'f']
  else if c = '\r' then ['\\', 'r']
  else if c = '\\' then ['\\', '\\']
  else if isControl c then
    ['\\', 'u', '0', '0', hexDigit (c.toNat / 16), hexDigit (c.toNat % 16)]
  else [c]

def writeBasic (s : List Char) : List Char :=
  s.flatMap fun c =>
    if c = '"' then ['\\', '"'] else if c = '\n' then ['\\', 'n'] else escaped c

/-- Escapes every third quote of a run; `quotes` counts the quotes that have just been written. -/
def writeMultiBasic : (quotes : Nat) → List Char → List Char
  | _, [] => []
  | quotes, c :: rest =>
    if c = '"' then
      if quotes = 2 then '\\' :: '"' :: writeMultiBasic 0 rest
      else '"' :: writeMultiBasic (quotes + 1) rest
    else if c = '\n' then '\n' :: writeMultiBasic 0 rest
    else escaped c ++ writeMultiBasic 0 rest

def hasTriple (q : Char) : List Char → Bool
  | a :: b :: c :: rest => (a == q && b == q && c == q) || hasTriple q (b :: c :: rest)
  | _ => false

def basicQuote : List Char := ['"', '"', '"']

def literalQuote : List Char := ['\x27', '\x27', '\x27']

/-- The first form in which a string can be written as it is, or else one with escapes. A string of
several lines starts on a line of its own. -/
def write (s : List Char) : List Char :=
  let control := s.any isControl
  let lines := s.contains '\n'
  let start := if lines then ['\n'] else []
  if ¬ lines ∧ ¬ s.contains '"' ∧ ¬ s.contains '\\' ∧ ¬ control then
    '"' :: writeBasic s ++ ['"']
  else if ¬ lines ∧ ¬ s.contains '\x27' ∧ ¬ control then '\x27' :: s ++ ['\x27']
  else if ¬ s.contains '\\' ∧ ¬ control ∧ ¬ hasTriple '"' s then
    basicQuote ++ start ++ writeMultiBasic 0 s ++ basicQuote
  else if ¬ control ∧ ¬ hasTriple '\x27' s then
    literalQuote ++ start ++ s ++ literalQuote
  else if lines then basicQuote ++ start ++ writeMultiBasic 0 s ++ basicQuote
  else '"' :: writeBasic s ++ ['"']

end ConstantProduct.Toml.Quoted
