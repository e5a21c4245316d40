import ConstantProduct.Settings.Tree

namespace ConstantProduct

inductive Step where
  | key (name : String)
  /-- A position in a list; below zero it counts from the end. -/
  | index (i : Int)
  deriving DecidableEq, Repr

abbrev KeyPath := List Step

namespace KeyPath

def isNameChar (c : Char) : Bool := c.isAlphanum || c == ' ' || c == '_' || c == '-'

def name? (s : List Char) : Option (String × List Char) :=
  let name := s.takeWhile isNameChar
  if name = [] then none else some (String.ofList name, s.dropWhile isNameChar)

def isSpace (c : Char) : Bool := c == ' ' || c == '\t'

def index? (s : List Char) : Option (Int × List Char) := do
  let s := s.dropWhile isSpace
  let isNumberChar c := c == '-' || c.isDigit
  let i ← Text.integer? (s.takeWhile isNumberChar)
  if !Text.isInt64 i then none
  match (s.dropWhile isNumberChar).dropWhile isSpace with
  | ']' :: rest => return (i, rest)
  | _ => none

/-- The steps of a whole text, each a name after a point or an index in brackets. -/
def steps? : (fuel : Nat) → List Char → Option KeyPath
  | _, [] => some []
  | fuel + 1, '.' :: s => do
    let (name, rest) ← name? s
    let steps ← steps? fuel rest
    return .key name :: steps
  | fuel + 1, '[' :: s => do
    let (i, rest) ← index? s
    let steps ← steps? fuel rest
    return .index i :: steps
  | _, _ => none

def read? (s : List Char) : Option KeyPath := do
  let (name, rest) ← name? s
  -- Each step takes a character.
  let steps ← steps? rest.length rest
  return .key name :: steps

/-- The path that a text stands for; one that has another form is a key as a whole. -/
def ofText (s : String) : KeyPath := (read? s.toList).getD [.key s]

end KeyPath

namespace Setting

def entries : Setting → List (String × Setting)
  | table entries => entries
  | _ => []

def items : Setting → List Setting
  | list items => items
  | _ => []

def alter (f : Option Setting → Setting) (key : String) :
    List (String × Setting) → List (String × Setting)
  | [] => [(key, f none)]
  | (k, s) :: rest => if k = key then (k, f (some s)) :: rest else (k, s) :: alter f key rest

/-- The most items of a list that grows under an index. -/
def maxLength : Nat := 0x1000000

def position (length : Nat) (i : Int) : Except Settings.Error Nat :=
  if i < 0 then
    if i.natAbs ≤ length then .ok (length - i.natAbs) else .error .indexBeforeStart
  else if i.toNat < max length maxLength then .ok i.toNat
  else .error .listTooLong

/-- Items with the one at a position set, after as many absent ones as it takes. -/
def setAt (n : Nat) (s : Setting) (items : List Setting) : List Setting :=
  (items ++ List.replicate (n + 1 - items.length) absent).set n s

mutual

/-- What stands under a key after a setting was put there: a table is laid over the table that was
there, key by key, and anything else replaces what was there. -/
def overlay (old : Option Setting) : Setting → Setting
  | table entries => overlayEntries (old.getD (table [])) entries
  | s => s

def overlayEntries (target : Setting) : List (String × Setting) → Setting
  | [] => target
  | (key, s) :: rest =>
    overlayEntries (table (alter (fun old => overlay old s) (lower key) target.entries)) rest

end

/-- The tree with a setting put at the end of a path, whose keys are taken in lower case. What stands
in the way of a step is replaced. -/
def put (tree : Setting) : KeyPath → Setting → Except Settings.Error Setting
  | [], s => .ok s
  | [.key name], s => .ok (table (alter (fun old => overlay old s) (lower name) tree.entries))
  | .key name :: path, s => do
    let below ← put ((List.lookup (lower name) tree.entries).getD absent) path s
    return table (alter (fun _ => below) (lower name) tree.entries)
  | .index i :: path, s => do
    let n ← position tree.items.length i
    let below ← put (tree.items[n]?.getD absent) path s
    return list (setAt n below tree.items)

end Setting

end ConstantProduct
