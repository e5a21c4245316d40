import ConstantProduct.Text.Basic

namespace ConstantProduct.Log

inductive Verbosity where
  | off
  | error
  | warn
  | info
  | debug
  | trace
  deriving DecidableEq, Repr

namespace Verbosity

def all : List Verbosity := [off, error, warn, info, debug, trace]

def name : Verbosity → String
  | off => "off"
  | error => "error"
  | warn => "warn"
  | info => "info"
  | debug => "debug"
  | trace => "trace"

def rank : Verbosity → Nat
  | off => 0
  | error => 1
  | warn => 2
  | info => 3
  | debug => 4
  | trace => 5

/-- A level by its name, in either case, or by its rank in digits. -/
def ofText? (s : List Char) : Option Verbosity :=
  match Text.unsigned? s with
  | some n => all.find? (·.rank == n)
  | none => all.find? (·.name.toList == s.map Char.toLower)

end Verbosity

/-- The level for the targets that start with `target`, or for all. -/
structure Directive where
  target : Option String
  verbosity : Verbosity
  deriving DecidableEq, Repr

namespace Directive

def isTargetStart (c : Char) : Bool :=
  Text.isAlphanumeric c || c == '-' || c == ':' || c == '_'

def isShaped (s : List Char) : Bool :=
  (s.dropWhile Text.isWhiteSpace).head?.any isTargetStart && !s.contains '['

/-- A directive is a level, a target and a level, or a target for which everything passes. Blanks
around it are part of it; a level never has any, and no equals sign follows a blank start. -/
def ofText? (s : List Char) : Option Directive :=
  let target := String.ofList (s.takeWhile (· != '='))
  if isShaped s then
    match s.dropWhile (· != '=') with
    | [] =>
      match Verbosity.ofText? s with
      | some verbosity => some ⟨none, verbosity⟩
      | none => some ⟨some target, .trace⟩
    | _ :: level =>
      if s.head?.any Text.isWhiteSpace then none
      else if level = [] then some ⟨some target, .trace⟩
      else (Verbosity.ofText? level).map fun verbosity => ⟨some target, verbosity⟩
  else none

def text (d : Directive) : String :=
  match d.target with
  | some target => target ++ "=" ++ d.verbosity.name
  | none => d.verbosity.name

/-- `d` is for a longer target or, of two that are equally long, for the later one. -/
def precedes (d e : Directive) : Bool :=
  match d.target, e.target with
  | none, _ => false
  | some _, none => true
  | some s, some t =>
    if s.utf8ByteSize = t.utf8ByteSize then decide (t < s) else t.utf8ByteSize < s.utf8ByteSize

def covers (d : Directive) (target : String) : Bool :=
  d.target.all fun start => start.toList.isPrefixOf target.toList

end Directive

/-- Directives for different targets, each before those that it precedes. -/
structure Filter where
  directives : List Directive
  deriving DecidableEq, Repr

namespace Filter

def insert (d : Directive) : List Directive → List Directive
  | [] => [d]
  | e :: rest =>
    if d.target = e.target then d :: rest
    else if d.precedes e then d :: e :: rest
    else e :: insert d rest

/-- The filter of directives; of those for one target the last counts. -/
def ofDirectives (ds : List Directive) : Filter :=
  ⟨ds.foldl (fun directives d => insert d directives) []⟩

def ofText? (s : String) : Option Filter := do
  let written := ((s.splitOn ",").map String.toList).filter (· != [])
  return ofDirectives (← written.mapM Directive.ofText?)

def text (f : Filter) : String := ",".intercalate (f.directives.map Directive.text)

/-- What the most specific directive for a target lets through; nothing without any. -/
def verbosity (f : Filter) (target : String) : Verbosity :=
  ((f.directives.find? (·.covers target)).map Directive.verbosity).getD .off

end Filter

end ConstantProduct.Log
