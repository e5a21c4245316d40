import ConstantProduct.Settings.KeyPath

namespace ConstantProduct

abbrev Environment := List (String × String)

namespace Environment

def marker : List Char := "cpswap_".toList

def pointed : List Char → List Char
  | '_' :: '_' :: rest => '.' :: pointed rest
  | c :: rest => c :: pointed rest
  | [] => []

/-- The path of the setting that a variable overrides. The name starts with `CPSWAP_`, in either
case, and two underscores in the rest stand for a point. -/
def path? (name : String) : Option KeyPath :=
  let name := name.toList.map Char.toLower
  if marker.isPrefixOf name then
    some (KeyPath.ofText (String.ofList (pointed (name.drop marker.length))))
  else none

def int64? (s : List Char) : Option Int := (Text.integer? s).filter Text.isInt64

def exponent? : List Char → Option Int
  | [] => some 0
  | _ :: s => Text.integer? s

/-- A floating-point number: digits with a point anywhere among them and an exponent, or a name. -/
def float? (s : List Char) : Option Binary64 :=
  let (negative, s) := Text.signed s
  let name := s.map Char.toLower
  if name = "inf".toList ∨ name = "infinity".toList then some (.infinite negative)
  else if name = "nan".toList then some .nan
  else do
    let isExponent c := c == 'e' || c == 'E'
    let mantissa := s.takeWhile (!isExponent ·)
    let exponent ← exponent? (s.dropWhile (!isExponent ·))
    let places := (mantissa.dropWhile (· != '.')).drop 1
    let digits ← Text.natural? (mantissa.takeWhile (· != '.') ++ places)
    return Binary64.ofDecimal negative digits (exponent - places.length)

/-- The setting that a value stands for: a truth value, an integer or another number if it is
written as one, and otherwise a text. -/
def setting (value : String) : Setting :=
  let s := value.toList
  let name := s.map Char.toLower
  if name = "true".toList then .boolean true
  else if name = "false".toList then .boolean false
  else
    match int64? s, float? s with
    | some n, _ => .integer n
    | none, some x => .float x
    | none, none => .text value

def override (tree : Setting) (env : Environment) : Except Settings.Error Setting :=
  env.foldlM (fun (tree : Setting) (name, value) =>
    match path? name with
    | some path => tree.put path (setting value)
    | none => .ok tree) tree

end Environment

end ConstantProduct
