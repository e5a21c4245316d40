namespace ConstantProduct.Json

inductive Failure where
  /-- The text is no JSON, or not of the shape that its type asks. -/
  | malformed
  /-- The value has the right shape, and its type refuses it. -/
  | refused (reason : String)
  deriving DecidableEq, Repr

abbrev Reader := StateT (List Char) (Except Failure)

namespace Reader

variable {α : Type}

def fail : Reader α := throw .malformed

def isBlank (c : Char) : Bool := c == ' ' || c == '\t' || c == '\n' || c == '\r'

def dropBlanks (s : List Char) : List Char := s.dropWhile isBlank

def blanks : Reader Unit := fun s => .ok ((), dropBlanks s)

def literal : List Char → Reader Unit
  | [] => pure ()
  | c :: cs => fun s =>
    match s with
    | [] => .error .malformed
    | d :: rest => if c = d then literal cs rest else .error .malformed

def mark (text : List Char) : Reader Unit := do
  blanks
  literal text

/-- A natural number in decimal, without leading zeros, fraction or exponent. -/
def natural : Reader Nat := fun s =>
  let digits := s.takeWhile Char.isDigit
  let rest := s.dropWhile Char.isDigit
  match digits, rest with
  | [], _ => .error .malformed
  | '0' :: _ :: _, _ => .error .malformed
  | _, '.' :: _ => .error .malformed
  | _, 'e' :: _ => .error .malformed
  | _, 'E' :: _ => .error .malformed
  | digits, rest => .ok (Nat.ofDigitChars 10 digits 0, rest)

/-- An integer; zero has no sign. -/
def integer : Reader Int := fun s =>
  match s with
  | '-' :: s =>
    match natural s with
    | .ok (0, _) => .error .malformed
    | .ok (n, rest) => .ok (-(n : Int), rest)
    | .error e => .error e
  | s =>
    match natural s with
    | .ok (n, rest) => .ok (n, rest)
    | .error e => .error e

def hexValue? (c : Char) : Option Nat :=
  if '0' ≤ c ∧ c ≤ '9' then some (c.toNat - 48)
  else if 'a' ≤ c ∧ c ≤ 'f' then some (c.toNat - 87)
  else if 'A' ≤ c ∧ c ≤ 'F' then some (c.toNat - 55)
  else none

def unit? (a b c d : Char) : Option Nat := do
  let a ← hexValue? a
  let b ← hexValue? b
  let c ← hexValue? c
  let d ← hexValue? d
  return ((a * 16 + b) * 16 + c) * 16 + d

def escape? : Char → Option Char
  | '"' => some '"'
  | '\\' => some '\\'
  | '/' => some '/'
  | 'b' => some '\x08'
  | 'f' => some '\x0c'
  | 'n' => some '\n'
  | 'r' => some '\r'
  | 't' => some '\t'
  | _ => none

def isHighSurrogate (n : Nat) : Bool := 0xD800 ≤ n && n ≤ 0xDBFF

def isLowSurrogate (n : Nat) : Bool := 0xDC00 ≤ n && n ≤ 0xDFFF

/-- The characters up to the closing quote, escapes replaced, and the text after that quote.
Surrogates stand in pairs only, and controls are escaped. -/
def stringBody : List Char → Except Failure (List Char × List Char)
  | [] => .error .malformed
  | '"' :: rest => .ok ([], rest)
  | '\\' :: 'u' :: a :: b :: c :: d :: rest =>
    match unit? a b c d with
    | none => .error .malformed
    | some n =>
      if isLowSurrogate n then .error .malformed
      else if isHighSurrogate n then
        match rest with
        | '\\' :: 'u' :: a :: b :: c :: d :: rest =>
          match unit? a b c d with
          | none => .error .malformed
          | some m =>
            if isLowSurrogate m then do
              let (text, rest) ← stringBody rest
              return (Char.ofNat (0x10000 + (n - 0xD800) * 0x400 + (m - 0xDC00)) :: text, rest)
            else .error .malformed
        | _ => .error .malformed
      else do
        let (text, rest) ← stringBody rest
        return (Char.ofNat n :: text, rest)
  | '\\' :: c :: rest =>
    match escape? c with
    | none => .error .malformed
    | some e => do
      let (text, rest) ← stringBody rest
      return (e :: text, rest)
  | c :: rest =>
    if c = '\\' ∨ c.toNat < 0x20 then .error .malformed
    else do
      let (text, rest) ← stringBody rest
      return (c :: text, rest)

def string : Reader String := do
  literal ['"']
  let text ← stringBody
  return String.ofList text

/-- Passes over a string after its opening quote; surrogates may stand alone. -/
def skipString : List Char → Except Failure (List Char)
  | [] => .error .malformed
  | '"' :: rest => .ok rest
  | '\\' :: 'u' :: a :: b :: c :: d :: rest =>
    if (unit? a b c d).isSome then skipString rest else .error .malformed
  | '\\' :: c :: rest => if (escape? c).isSome then skipString rest else .error .malformed
  | c :: rest => if c = '\\' ∨ c.toNat < 0x20 then .error .malformed else skipString rest

def skipDigits (s : List Char) : Except Failure (List Char) :=
  match s with
  | c :: rest => if c.isDigit then .ok (rest.dropWhile Char.isDigit) else .error .malformed
  | [] => .error .malformed

def skipFraction : List Char → Except Failure (List Char)
  | '.' :: rest => skipDigits rest
  | s => .ok s

def skipExponent (s : List Char) : Except Failure (List Char) :=
  match s with
  | c :: rest =>
    if c = 'e' ∨ c = 'E' then
      match rest with
      | '+' :: rest => skipDigits rest
      | '-' :: rest => skipDigits rest
      | rest => skipDigits rest
    else .ok s
  | [] => .ok s

def skipNumber (s : List Char) : Except Failure (List Char) := do
  let rest ←
    match s with
    | '0' :: c :: rest => if c.isDigit then throw .malformed else pure (c :: rest)
    | s => skipDigits s
  let rest ← skipFraction rest
  skipExponent rest

def skipScalar : List Char → Except Failure (List Char)
  | '"' :: rest => skipString rest
  | '-' :: rest => skipNumber rest
  | 'n' :: 'u' :: 'l' :: 'l' :: rest => .ok rest
  | 't' :: 'r' :: 'u' :: 'e' :: rest => .ok rest
  | 'f' :: 'a' :: 'l' :: 's' :: 'e' :: rest => .ok rest
  | s => skipNumber s

inductive Frame where
  | array
  | object
  deriving DecidableEq, Repr

def skipKey (s : List Char) : Except Failure (List Char) :=
  match dropBlanks s with
  | '"' :: rest => do
    match dropBlanks (← skipString rest) with
    | ':' :: rest => return rest
    | _ => throw .malformed
  | _ => throw .malformed

/-- Passes over what remains of a value inside the given brackets, innermost first; `done` says
that an inner value has just ended. -/
def skip : Nat → (done : Bool) → List Frame → List Char → Except Failure (List Char)
  | 0, _, _, _ => .error .malformed
  | _ + 1, true, [], s => .ok s
  | fuel + 1, true, .array :: frames, s =>
    match dropBlanks s with
    | ',' :: rest => skip fuel false (.array :: frames) rest
    | ']' :: rest => skip fuel true frames rest
    | _ => .error .malformed
  | fuel + 1, true, .object :: frames, s =>
    match dropBlanks s with
    | ',' :: rest => do skip fuel false (.object :: frames) (← skipKey rest)
    | '}' :: rest => skip fuel true frames rest
    | _ => .error .malformed
  | fuel + 1, false, frames, s =>
    match dropBlanks s with
    | '[' :: rest =>
      match dropBlanks rest with
      | ']' :: rest => skip fuel true frames rest
      | rest => skip fuel false (.array :: frames) rest
    | '{' :: rest =>
      match dropBlanks rest with
      | '}' :: rest => skip fuel true frames rest
      | rest => do skip fuel false (.object :: frames) (← skipKey rest)
    | rest => do skip fuel true frames (← skipScalar rest)

def skipValue : Reader Unit := fun s => do
  -- Each step but the last takes a character.
  let rest ← skip (s.length + 1) false [] s
  return ((), rest)

/-- Whether an array goes on; if so, reads up to the next item. -/
def nextItem (first : Bool) : Reader Bool := fun s =>
  match dropBlanks s, first with
  | ']' :: rest, _ => .ok (false, ']' :: rest)
  | rest, true => .ok (true, rest)
  | ',' :: rest, false =>
    match dropBlanks rest with
    | ']' :: _ => .error .malformed
    | rest => .ok (true, rest)
  | _, false => .error .malformed

def nextKey (first : Bool) : Reader (Option String) := fun s =>
  match dropBlanks s, first with
  | '}' :: rest, _ => .ok (none, '}' :: rest)
  | rest, true => string.map some rest
  | ',' :: rest, false => string.map some (dropBlanks rest)
  | _, false => .error .malformed

/-- A whole text that holds one value and blanks. -/
def whole (r : Reader α) (text : String) : Except Failure α := do
  let (a, rest) ← r text.toList
  if dropBlanks rest = [] then return a
  throw .malformed

end Reader

end ConstantProduct.Json
