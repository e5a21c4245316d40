import ConstantProduct.Toml.Scalar

namespace ConstantProduct.Toml

inductive Statement where
  | entry (path : List String) (value : Value)
  | header (path : List String)
  | arrayHeader (path : List String)
  deriving Repr

namespace Document

def isSpace (c : Char) : Bool := c == ' ' || c == '\t'

def dropSpaces (s : List Char) : List Char := s.dropWhile isSpace

def dropComment : List Char → List Char
  | '#' :: rest => rest.dropWhile Quoted.isPlain
  | s => s

/-- The text after the end of a line that holds nothing more than a comment. -/
def endLine? (s : List Char) : Option (List Char) :=
  match dropComment (dropSpaces s) with
  | [] => some []
  | '\n' :: rest => some rest
  | '\r' :: '\n' :: rest => some rest
  | _ => none

/-- Drops blanks, newlines and comments; `comment` says that a comment is being dropped. -/
def dropTrivia : (comment : Bool) → List Char → List Char
  | _, [] => []
  | _, '\r' :: '\n' :: rest => dropTrivia false rest
  | _, '\n' :: rest => dropTrivia false rest
  | true, c :: rest => if Quoted.isPlain c then dropTrivia true rest else c :: rest
  | false, c :: rest =>
    if isSpace c then dropTrivia false rest
    else if c = '#' then dropTrivia true rest
    else c :: rest

def isBareKey (c : Char) : Bool := c.isAlphanum || c == '-' || c == '_'

def simpleKey? (s : List Char) : Option (String × List Char) :=
  match s with
  | '"' :: _ => Quoted.lineString? s
  | '\x27' :: _ => Quoted.lineString? s
  | s =>
    let name := s.takeWhile isBareKey
    if name = [] then none else some (String.ofList name, s.dropWhile isBareKey)

/-- The parts of a dotted key, with blanks around each, `fuel` of them at most. -/
def keyParts? : (fuel : Nat) → List Char → Option (List String × List Char)
  | 0, _ => none
  | fuel + 1, s => do
    let (part, s) ← simpleKey? (dropSpaces s)
    match dropSpaces s with
    | '.' :: rest => do
      let (parts, rest) ← keyParts? fuel rest
      return (part :: parts, rest)
    | rest => return ([part], rest)

/-- The most levels of brackets in a value, and the most parts of a dotted key. -/
def maxDepth : Nat := 79

def key? (s : List Char) : Option (List String × List Char) := keyParts? maxDepth s

def items? (inner : List Char → Option (Value × List Char)) :
    (fuel : Nat) → List Char → Option (List Value × List Char)
  | 0, _ => none
  | fuel + 1, s =>
    match dropTrivia false s with
    | ']' :: rest => some ([], rest)
    | s => do
      let (item, s) ← inner s
      match dropTrivia false s with
      | ',' :: rest => do
        let (items, rest) ← items? inner fuel rest
        return (item :: items, rest)
      | ']' :: rest => return ([item], rest)
      | _ => none

def pair? (inner : List Char → Option (Value × List Char)) (s : List Char) :
    Option ((List String × Value) × List Char) := do
  let (path, s) ← key? s
  match s with
  | '=' :: s => do
    let (value, s) ← inner (dropSpaces s)
    return ((path, value), s)
  | _ => none

/-- The pairs of a table in braces, added to those before, and the text after the closing brace. -/
def pairs? (inner : List Char → Option (Value × List Char)) :
    (fuel : Nat) → Entries → List Char → Option (Entries × List Char)
  | 0, _, _ => none
  | fuel + 1, before, s => do
    let ((path, value), s) ← pair? inner s
    let entries ← Entries.insert? value path before
    match dropSpaces s with
    | ',' :: rest => pairs? inner fuel entries rest
    | '\x7d' :: rest => return (entries, rest)
    | _ => none

def inlineTable? (inner : List Char → Option (Value × List Char)) (s : List Char) :
    Option (Entries × List Char) :=
  match dropSpaces s with
  | '\x7d' :: rest => some ([], rest)
  -- Each pair takes a character.
  | s => pairs? inner (s.length + 1) [] s

/-- A value with brackets of up to the given number of levels in it. -/
def value? : (levels : Nat) → List Char → Option (Value × List Char)
  | 0, s => Scalar.read? s
  | levels + 1, s =>
    match s with
    | '[' :: rest => do
      let (items, rest) ← items? (value? levels) (rest.length + 1) rest
      return (.array items, rest)
    | '\x7b' :: rest => do
      let (entries, rest) ← inlineTable? (value? levels) rest
      return (.table .inline entries, rest)
    | s => Scalar.read? s

def statement? (s : List Char) : Option (Statement × List Char) :=
  match s with
  | '[' :: '[' :: rest => do
    let (path, rest) ← key? rest
    match rest with
    | ']' :: ']' :: rest => return (.arrayHeader path, rest)
    | _ => none
  | '[' :: rest => do
    let (path, rest) ← key? rest
    match rest with
    | ']' :: rest => return (.header path, rest)
    | _ => none
  | s => do
    let ((path, value), rest) ← pair? (value? maxDepth) s
    return (.entry path value, rest)

def isEmptyLine : List Char → Bool
  | [] => true
  | c :: _ => c == '#' || c == '\n' || c == '\r'

def statements? : (fuel : Nat) → List Char → Option (List Statement)
  | 0, _ => none
  | fuel + 1, s =>
    match dropSpaces s with
    | [] => some []
    | s =>
      if isEmptyLine s then do
        let rest ← endLine? s
        statements? fuel rest
      else do
        let (statement, rest) ← statement? s
        let rest ← endLine? rest
        let statements ← statements? fuel rest
        return statement :: statements

/-- The entries with one more statement, and the path of the section that it stands in. -/
def add? (document : List String × Entries) : Statement → Option (List String × Entries)
  | .entry path value => do
    let entries ← Entries.descend? (Entries.insert? value path) document.1 document.2
    return (document.1, entries)
  | .header path => do
    let entries ← Entries.openTable? path document.2
    return (path, entries)
  | .arrayHeader path => do
    let entries ← Entries.pushTable? path document.2
    return (path, entries)

def build? (statements : List Statement) : Option Entries :=
  (statements.foldlM add? ([], [])).map Prod.snd

def dropMark : List Char → List Char
  | '\uFEFF' :: rest => rest
  | s => s

def read? (text : String) : Option Entries := do
  let s := dropMark text.toList
  -- Each line takes a character.
  let statements ← statements? (s.length + 1) s
  build? statements

end Document

end ConstantProduct.Toml
