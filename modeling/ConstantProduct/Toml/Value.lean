import ConstantProduct.Binary64

namespace ConstantProduct.Toml

/-- How a table came about, which decides whether a later line may still add to it. -/
inductive Origin where
  /-- A header names it. -/
  | header
  /-- A header names a table inside it. -/
  | implied
  /-- A dotted key leads through it. -/
  | dotted
  /-- It stands in braces. -/
  | inline
  deriving DecidableEq, Repr

inductive Value where
  | string (text : String)
  | integer (n : Int)
  | float (x : Binary64)
  | boolean (b : Bool)
  /-- A date, a time or both, in the standard form. -/
  | moment (text : String)
  | array (items : List Value)
  /-- The tables under headers in double brackets, of which there is at least one. -/
  | tables (items : List Value)
  | table (origin : Origin) (entries : List (String × Value))
  deriving Repr

/-- The keys and values of a table, in the order in which they were set. No key stands twice. -/
abbrev Entries := List (String × Value)

namespace Entries

/-- The entries with the value under `key` changed; the value is none where the key is absent. -/
def alter? (f : Option Value → Option Value) (key : String) : Entries → Option Entries
  | [] => (f none).map fun v => [(key, v)]
  | (k, v) :: rest =>
    if k = key then (f (some v)).map fun v => (k, v) :: rest
    else (alter? f key rest).map ((k, v) :: ·)

def alterLast? {α : Type} (f : α → Option α) : List α → Option (List α)
  | [] => none
  | [a] => (f a).map ([·])
  | a :: rest => (alterLast? f rest).map (a :: ·)

def within (f : Entries → Option Entries) : Value → Option Value
  | .table origin entries => (f entries).map (.table origin)
  | _ => none

/-- Sets the key at the end of a dotted path. The tables on the way are new or were built by dotted
keys too; the way may pass through implied tables and the last of some tables, but not end there. -/
def insert? (value : Value) : List String → Entries → Option Entries
  | [] => fun _ => none
  | [key] => alter? (fun old => if old.isNone then some value else none) key
  | key :: path =>
    alter?
      (fun
        | none => (insert? value path []).map (.table .dotted)
        | some (.table .dotted entries) => (insert? value path entries).map (.table .dotted)
        | some (.table .implied entries) =>
          if path.length = 1 then none else (insert? value path entries).map (.table .implied)
        | some (.tables items) =>
          if path.length = 1 then none
          else (alterLast? (within (insert? value path)) items).map .tables
        | some _ => none)
      key

/-- Changes the entries at the end of a header's path, through the last of some tables and through
implied tables where there are none yet. -/
def descend? (f : Entries → Option Entries) : List String → Entries → Option Entries
  | [] => f
  | key :: path =>
    alter?
      (fun
        | none => (descend? f path []).map (.table .implied)
        | some (.table .inline _) => none
        | some (.table origin entries) => (descend? f path entries).map (.table origin)
        | some (.tables items) => (alterLast? (within (descend? f path)) items).map .tables
        | some _ => none)
      key

/-- Opens the table that a header names: a new one or one that was only implied. -/
def openTable? : List String → Entries → Option Entries
  | [] => fun _ => none
  | [key] =>
    alter?
      (fun
        | none => some (.table .header [])
        | some (.table .implied entries) => some (.table .header entries)
        | some _ => none)
      key
  | key :: path => descend? (openTable? path) [key]

def pushTable? : List String → Entries → Option Entries
  | [] => fun _ => none
  | [key] =>
    alter?
      (fun
        | none => some (.tables [.table .header []])
        | some (.tables items) => some (.tables (items ++ [.table .header []]))
        | some _ => none)
      key
  | key :: path => descend? (pushTable? path) [key]

end Entries

end ConstantProduct.Toml
