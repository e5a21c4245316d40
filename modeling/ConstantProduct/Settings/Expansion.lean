import ConstantProduct.Settings.Environment
import ConstantProduct.Text.Basic

namespace ConstantProduct.Settings.Expansion

inductive Piece where
  | char (c : Char)
  /-- A variable, and what stands for it where it is not set. -/
  | variable (name : String) (fallback : Option String)
  deriving DecidableEq, Repr

def isNameChar (c : Char) : Bool := Text.isAlphanumeric c || c == '_'

/-- The texts before and after the first colon that a minus sign follows. -/
def splitFallback : List Char → Option (List Char × List Char)
  | [] => none
  | ':' :: '-' :: rest => some ([], rest)
  | c :: rest => (splitFallback rest).map fun (before, after) => (c :: before, after)

/-- The variable that stands in braces: a name, or a name of at least one character and what stands
for it. -/
def braced (inside : List Char) : Piece :=
  match splitFallback inside with
  | some (c :: name, fallback) =>
    .variable (String.ofList (c :: name)) (some (String.ofList fallback))
  | _ => .variable (String.ofList inside) none

/-- The parts of a path. Two dollar signs stand for one, and one that starts no variable for
itself. -/
def pieces (s : List Char) : List Piece :=
  match s with
  | [] => []
  | '$' :: '\x7b' :: rest =>
    match h : rest.dropWhile (· != '\x7d') with
    | [] => .char '$' :: .char '\x7b' :: pieces rest
    | _ :: after =>
      have : after.length < rest.length := by
        have := (List.dropWhile_sublist (l := rest) (· != '\x7d')).length_le
        rw [h, List.length_cons] at this
        omega
      braced (rest.takeWhile (· != '\x7d')) :: pieces after
  | '$' :: '$' :: rest => .char '$' :: pieces rest
  | '$' :: c :: rest =>
    if isNameChar c then
      have := (List.dropWhile_sublist (l := rest) isNameChar).length_le
      .variable (String.ofList (c :: rest.takeWhile isNameChar)) none ::
        pieces (rest.dropWhile isNameChar)
    else .char '$' :: pieces (c :: rest)
  | c :: rest => .char c :: pieces rest
  termination_by s.length

def fill? (env : Environment) : Piece → Option (List Char)
  | .char c => some [c]
  | .variable name fallback => ((List.lookup name env).or fallback).map String.toList

/-- A path with a home directory in place of a tilde that is its first name. -/
def home (env : Environment) (path : List Char) : List Char :=
  match path, List.lookup "HOME" env with
  | ['~'], some home => home.toList
  | '~' :: '/' :: rest, some home => home.toList ++ '/' :: rest
  | _, _ => path

/-- The path that a written one stands for; none if a variable is not set. A tilde that comes with a
variable stands for itself. -/
def expand? (env : Environment) (path : String) : Option String := do
  let filled := (← (pieces path.toList).mapM (fill? env)).flatten
  let filled := if path.toList.head? = some '~' then home env filled else filled
  return String.ofList filled

end ConstantProduct.Settings.Expansion
