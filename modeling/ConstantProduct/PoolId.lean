import ConstantProduct.Text.Quoted

namespace ConstantProduct

/-- The key of a pool, opaque to the pool. -/
structure PoolId where
  bytes : Vector UInt8 32
  deriving DecidableEq, Repr

namespace PoolId

def zero : PoolId := ⟨Vector.replicate 32 0⟩

instance : Inhabited PoolId := ⟨zero⟩

instance : Ord PoolId := ⟨fun a b => compare a.bytes.toList b.bytes.toList⟩

instance : Std.TransOrd PoolId where
  eq_swap {a b} :=
    @Std.OrientedCmp.eq_swap _ compare (inferInstanceAs (Std.OrientedOrd (List UInt8)))
      a.bytes.toList b.bytes.toList
  isLE_trans {a b c} :=
    @Std.TransCmp.isLE_trans _ compare (inferInstanceAs (Std.TransOrd (List UInt8)))
      a.bytes.toList b.bytes.toList c.bytes.toList

theorem ext_toList {a b : PoolId} (h : a.bytes.toList = b.bytes.toList) : a = b := by
  cases a; cases b; congr 1; exact Vector.toList_inj.1 h

instance : Std.LawfulEqOrd PoolId where
  compare_self {a} :=
    @Std.ReflCmp.compare_self _ compare (inferInstanceAs (Std.ReflOrd (List UInt8)))
      a.bytes.toList
  eq_of_compare h := ext_toList (Std.LawfulEqCmp.eq_of_compare h)

inductive Error where
  | oddLength
  | wrongLength
  /-- The byte at `position` is no hexadecimal digit. -/
  | badDigit (byte : UInt8) (position : Nat)
  deriving DecidableEq, Repr

def Error.message : Error → String
  | oddLength => "Odd number of digits"
  | wrongLength => "Invalid string length"
  | badDigit byte position =>
      "Invalid character " ++ Text.quotedChar (Char.ofNat byte.toNat) ++
        " at position " ++ toString position

def hexDigit (n : UInt8) : Char :=
  if n < 10 then Char.ofNat (48 + n.toNat) else Char.ofNat (87 + n.toNat)

def hexValue? (b : UInt8) : Option UInt8 :=
  if 48 ≤ b ∧ b ≤ 57 then some (b - 48)
  else if 97 ≤ b ∧ b ≤ 102 then some (b - 87)
  else if 65 ≤ b ∧ b ≤ 70 then some (b - 55)
  else none

def hexPair (b : UInt8) : List Char := [hexDigit (b / 16), hexDigit (b % 16)]

def text (id : PoolId) : String := String.ofList (id.bytes.toList.flatMap hexPair)

/-- The digits of the first four bytes. -/
def short (id : PoolId) : String := String.ofList ((id.bytes.toList.take 4).flatMap hexPair)

/-- The text without the `0x`s in front. -/
def dropMarks : List Char → List Char
  | '0' :: 'x' :: rest => dropMarks rest
  | rest => rest

/-- The bytes that pairs of digits stand for; `position` counts the digits before. -/
def pairs (position : Nat) : List UInt8 → Except Error (List UInt8)
  | high :: low :: rest =>
    match hexValue? high, hexValue? low with
    | none, _ => .error (.badDigit high position)
    | some _, none => .error (.badDigit low (position + 1))
    | some h, some l => (pairs (position + 2) rest).map ((16 * h + l) :: ·)
  | _ => .ok []

/-- The identifier that a text stands for. Lengths and positions are those of its bytes. -/
def ofText (text : String) : Except Error PoolId := do
  let digits := (dropMarks text.toList).flatMap String.utf8EncodeChar
  if digits.length % 2 ≠ 0 then throw .oddLength
  if digits.length ≠ 64 then throw .wrongLength
  let bytes ← pairs 0 digits
  if h : bytes.toArray.size = 32 then return ⟨⟨bytes.toArray, h⟩⟩
  throw .wrongLength

end PoolId

end ConstantProduct
