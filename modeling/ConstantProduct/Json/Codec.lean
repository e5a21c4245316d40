import ConstantProduct.Json.Reader
import ConstantProduct.Text.Basic

namespace ConstantProduct.Json

structure Codec (α : Type) where
  read : Reader α
  write : α → List Char

/-- A text in quotes, for texts without a character that needs an escape. -/
def inQuotes (s : String) : List Char := '"' :: s.toList ++ ['"']

def commas : List (List Char) → List Char
  | [] => []
  | [t] => t
  | t :: ts => t ++ ',' :: commas ts

def member (key : String) (value : List Char) : List Char := inQuotes key ++ ':' :: value

namespace Codec

variable {α β : Type}

/-- The codec of a type whose values are those of another that pass a test. -/
def partialIso (c : Codec α) (to? : α → Except Failure β) (of : β → α) : Codec β where
  read := do
    let a ← c.read
    match to? a with
    | .ok b => return b
    | .error e => throw e
  write b := c.write (of b)

def nat : Codec Nat where
  read := do
    Reader.blanks
    Reader.natural
  write n := Nat.toDigits 10 n

def int : Codec Int where
  read := do
    Reader.blanks
    Reader.integer
  write
    | .ofNat n => Nat.toDigits 10 n
    | .negSucc n => '-' :: Nat.toDigits 10 (n + 1)

def below (limit : Nat) : Codec Nat :=
  nat.partialIso (fun n => if n < limit then .ok n else .error .malformed) id

def uint8 : Codec UInt8 := (below UInt8.size).partialIso (fun n => .ok (.ofNat n)) UInt8.toNat

def uint16 : Codec UInt16 := (below UInt16.size).partialIso (fun n => .ok (.ofNat n)) UInt16.toNat

def uint64 : Codec UInt64 := (below UInt64.size).partialIso (fun n => .ok (.ofNat n)) UInt64.toNat

def word128 : Codec (BitVec 128) :=
  nat.partialIso
    (fun n => if (BitVec.ofNat 128 n).toNat = n then .ok (.ofNat 128 n) else .error .malformed)
    BitVec.toNat

def int64 : Codec Int64 :=
  int.partialIso
    (fun n => if Text.isInt64 n then .ok (.ofInt n) else .error .malformed) Int64.toInt

def bool : Codec Bool where
  read := do
    Reader.blanks
    fun s =>
      match s with
      | 't' :: 'r' :: 'u' :: 'e' :: rest => .ok (true, rest)
      | 'f' :: 'a' :: 'l' :: 's' :: 'e' :: rest => .ok (false, rest)
      | _ => .error .malformed
  write b := if b then "true".toList else "false".toList

/-- Reads the items of an array up to its bracket, `fuel` of them at most. -/
def readItems (c : Codec α) : (fuel : Nat) → (first : Bool) → Reader (List α)
  | 0, _ => Reader.fail
  | fuel + 1, first => do
    if ← Reader.nextItem first then
      let a ← c.read
      let rest ← readItems c fuel false
      return a :: rest
    else return []

def list (c : Codec α) : Codec (List α) where
  read := do
    Reader.mark ['[']
    -- Each item takes a character, and the last round reads none.
    let items ← fun s => readItems c (s.length + 1) true s
    Reader.mark [']']
    return items
  write as := '[' :: commas (as.map c.write) ++ [']']

def readExactly (c : Codec α) : (n : Nat) → (first : Bool) → Reader (Vector α n)
  | 0, _ => pure #v[]
  | n + 1, first => do
    if ← Reader.nextItem first then
      let a ← c.read
      let rest ← readExactly c n false
      return ⟨⟨a :: rest.toList⟩, by simp⟩
    else Reader.fail

def vector (c : Codec α) (n : Nat) : Codec (Vector α n) where
  read := do
    Reader.mark ['[']
    let items ← readExactly c n true
    Reader.mark [']']
    return items
  write as := '[' :: commas (as.toList.map c.write) ++ [']']

end Codec

/-- The fields of a record, in the order in which they are written. A field with a default may be
missing. -/
inductive Fields : Type → Type 1 where
  | nil : Fields Unit
  | cons {α β : Type} (key : String) (codec : Codec α) (default? : Option α) (rest : Fields β) :
      Fields (α × β)

namespace Fields

def Slots : {α : Type} → Fields α → Type
  | _, nil => Unit
  | _, @cons α _ _ _ _ rest => Option α × rest.Slots

def emptySlots : {α : Type} → (f : Fields α) → f.Slots
  | _, nil => ()
  | _, cons _ _ _ rest => (none, rest.emptySlots)

/-- The reader of the value under a key, if a field has that key. A key stands once only. -/
def valueReader? : {α : Type} → (f : Fields α) → (key : String) → f.Slots → Option (Reader f.Slots)
  | _, nil, _, _ => none
  | _, cons name codec _ rest, key, slots =>
    if key = name then
      if slots.1.isSome then some Reader.fail
      else some do
        let a ← codec.read
        return (some a, slots.2)
    else
      (rest.valueReader? key slots.2).map fun read => do
        let others ← read
        return (slots.1, others)

def ofSlots? : {α : Type} → (f : Fields α) → f.Slots → Option α
  | _, nil, _ => some ()
  | _, cons _ _ default? rest, slots => do
    let a ← slots.1 <|> default?
    let b ← rest.ofSlots? slots.2
    return (a, b)

def readMembers {α : Type} (f : Fields α) : (fuel : Nat) → (first : Bool) → f.Slots → Reader f.Slots
  | 0, _, _ => Reader.fail
  | fuel + 1, first, slots => do
    match ← Reader.nextKey first with
    | none => return slots
    | some key =>
      Reader.mark [':']
      match f.valueReader? key slots with
      | some read =>
        let slots ← read
        f.readMembers fuel false slots
      | none =>
        Reader.skipValue
        f.readMembers fuel false slots

def readItems : {α : Type} → (f : Fields α) → (first : Bool) → Reader α
  | _, nil, _ => pure ()
  | _, cons _ codec default? rest, first => do
    if ← Reader.nextItem first then
      let a ← codec.read
      let b ← rest.readItems false
      return (a, b)
    else
      match default? with
      | none => Reader.fail
      | some a =>
        let b ← rest.readItems false
        return (a, b)

/-- Reads a record from an object, with its members in any order and unknown ones skipped, or from
an array of its fields. -/
def read {α : Type} (f : Fields α) : Reader α := do
  Reader.blanks
  fun s =>
    match s with
    | '\x7b' :: rest => (do
        let slots ← f.readMembers (rest.length + 1) true f.emptySlots
        Reader.mark ['\x7d']
        match f.ofSlots? slots with
        | some a => return a
        | none => Reader.fail : Reader α) rest
    | '[' :: rest => (do
        let a ← f.readItems true
        Reader.mark [']']
        return a : Reader α) rest
    | _ => .error .malformed

def members : {α : Type} → (f : Fields α) → α → List (List Char)
  | _, nil, _ => []
  | _, cons key codec _ rest, (a, b) => member key (codec.write a) :: rest.members b

def write {α : Type} (f : Fields α) (a : α) : List Char :=
  '\x7b' :: commas (f.members a) ++ ['\x7d']

def codec {α : Type} (f : Fields α) : Codec α := ⟨f.read, f.write⟩

/-- The codec of a type whose values are those of the fields that pass a test. -/
def record {α β : Type} (f : Fields α) (to? : α → Except Failure β) (of : β → α) : Codec β :=
  f.codec.partialIso to? of

end Fields

namespace Codec

/-- The listed values, by their names. A name is also read as an object with a null under it. -/
def names {α : Type} (all : List α) (name : α → String) : Codec α where
  read := do
    Reader.blanks
    fun s =>
      match s with
      | '"' :: _ => (do
          let key ← Reader.string
          match all.find? (name · == key) with
          | some a => return a
          | none => Reader.fail : Reader α) s
      | '\x7b' :: rest => (do
          Reader.blanks
          let key ← Reader.string
          match all.find? (name · == key) with
          | some a =>
            Reader.mark [':']
            Reader.mark ['n', 'u', 'l', 'l']
            Reader.mark ['\x7d']
            return a
          | none => Reader.fail : Reader α) rest
      | _ => .error .malformed
  write a := inQuotes (name a)

/-- A type of several kinds of values, each written as an object with the content under the name of
its kind. -/
def tagged {α : Type} (table : List (String × Reader α)) (write : α → String × List Char) :
    Codec α where
  read := do
    Reader.mark ['\x7b']
    Reader.blanks
    let key ← Reader.string
    match table.lookup key with
    | some read =>
      Reader.mark [':']
      let a ← read
      Reader.mark ['\x7d']
      return a
    | none => Reader.fail
  write a := '\x7b' :: member (write a).1 (write a).2 ++ ['\x7d']

end Codec

end ConstantProduct.Json
