import ConstantProduct.Settings.Basic
import ConstantProduct.Text.Basic
import ConstantProduct.Toml.Moment
import ConstantProduct.Toml.Value

namespace ConstantProduct

inductive Setting where
  | absent
  | boolean (b : Bool)
  | integer (n : Int)
  | float (x : Binary64)
  | text (s : String)
  | moment (s : String)
  | list (items : List Setting)
  | table (entries : List (String × Setting))
  deriving Repr

namespace Setting

mutual

def ofToml : Toml.Value → Setting
  | .string s => .text s
  | .integer n => .integer n
  | .float x => .float x
  | .boolean b => .boolean b
  | .moment s => .moment s
  | .array items => .list (ofTomlItems items)
  | .tables items => .list (ofTomlItems items)
  | .table _ entries => .table (ofTomlEntries entries)

def ofTomlItems : List Toml.Value → List Setting
  | [] => []
  | v :: rest => ofToml v :: ofTomlItems rest

def ofTomlEntries : List (String × Toml.Value) → List (String × Setting)
  | [] => []
  | (key, v) :: rest => (key, ofToml v) :: ofTomlEntries rest

end

/-- The key that marks a table in braces as a date or a time. -/
def momentKey : String := "$__toml_private_datetime"

def moment? : Setting → Option Setting
  | .text s => (Toml.Moment.text? s.toList).map fun standard => .moment (String.ofList standard)
  | _ => none

mutual

/-- The tree with each table that starts with `momentKey` read as what its first entry spells; none
if that is no date or time. -/
def withMoments? : Setting → Option Setting
  | .list items => (withMomentsItems? items).map .list
  | .table [] => some (.table [])
  | .table ((key, s) :: rest) =>
    if key = momentKey then moment? s
    else do
      let first ← withMoments? s
      let others ← withMomentsEntries? rest
      return .table ((key, first) :: others)
  | s => some s

def withMomentsItems? : List Setting → Option (List Setting)
  | [] => some []
  | s :: rest => do
    let first ← withMoments? s
    let others ← withMomentsItems? rest
    return first :: others

def withMomentsEntries? : List (String × Setting) → Option (List (String × Setting))
  | [] => some []
  | (key, s) :: rest => do
    let first ← withMoments? s
    let others ← withMomentsEntries? rest
    return (key, first) :: others

end

/-- What each kind of scalar may be read from. -/
structure Reading where
  boolean? : Setting → Option Bool
  unsigned? : Setting → Option UInt64
  text? : Setting → Option String
  /-- A date or a time passes for a table without any of the keys. -/
  momentIsTable : Bool

def uint64? (n : Int) : Option UInt64 :=
  if 0 ≤ n ∧ n < UInt64.size then some (UInt64.ofNat n.toNat) else none

def Reading.strict : Reading where
  boolean?
    | .boolean b => some b
    | _ => none
  unsigned?
    | .integer n => uint64? n
    | _ => none
  text?
    | .text s => some s
    | _ => none
  momentIsTable := true

def lower (s : String) : String := String.ofList (s.toList.map Char.toLower)

def decimal? (s : String) : Option UInt64 := do uint64? (← Text.unsigned? s.toList)

def textUnsigned? (s : String) : Option UInt64 :=
  if lower s ∈ ["true", "on", "yes"] then some 1
  else if lower s ∈ ["false", "off", "no"] then some 0
  else decimal? s

def textBoolean? (s : String) : Option Bool :=
  if lower s ∈ ["1", "true", "on", "yes"] then some true
  else if lower s ∈ ["0", "false", "off", "no"] then some false
  else none

/-- Scalars convert: numbers to and from truth values, and both to and from text. -/
def Reading.lenient : Reading where
  boolean?
    | .boolean b => some b
    | .integer n => some (n != 0)
    | .float x => some x.isNonzero
    | .text s => textBoolean? s
    | .moment s => textBoolean? s
    | _ => none
  unsigned?
    | .boolean b => some (if b then 1 else 0)
    | .integer n => uint64? n
    | .float x => some (UInt64.ofNat (x.round (UInt64.size - 1)))
    | .text s => textUnsigned? s
    | .moment s => textUnsigned? s
    | _ => none
  text?
    | .boolean b => some (toString b)
    | .integer n => some (toString n)
    | .float x => some x.text
    | .text s => some s
    | .moment s => some s
    | _ => none
  momentIsTable := false

namespace Reading

variable {α : Type}

/-- The values of the given keys of a record: by key in a table, by position in an array. -/
def fields? (r : Reading) (keys : List String) : Setting → Option (List (Option Setting))
  | .table entries => some (keys.map fun key => List.lookup key entries)
  | .list items => some (keys.zipIdx.map fun (_, i) => items[i]?)
  | .moment _ => if r.momentIsTable then some (keys.map fun _ => none) else none
  | _ => none

def orDefault (read : Setting → Option α) (default : α) : Option Setting → Option α
  | none => some default
  | some s => read s

def required (read : Setting → Option α) (s : Option Setting) : Option α := s.bind read

def uint16? (r : Reading) (s : Setting) : Option UInt16 := do
  let n ← r.unsigned? s
  if n.toNat < UInt16.size then return UInt16.ofNat n.toNat
  none

def tierKeys : List String :=
  ["index", "trade_fee_rate_zero_to_one", "trade_fee_rate_one_to_zero", "protocol_fee_rate",
    "fund_fee_rate", "create_pool_fee", "disable_create_pool"]

def tier? (r : Reading) (s : Setting) : Option FeeTier := do
  match ← r.fields? tierKeys s with
  | [index, rate0, rate1, protocol, fund, fee, disabled] =>
    let index ← required r.uint16? index
    let rate0 ← required r.unsigned? rate0
    let rate1 ← required r.unsigned? rate1
    let protocol ← required r.unsigned? protocol
    let fund ← required r.unsigned? fund
    let fee ← required r.unsigned? fee
    let disabled ← orDefault r.boolean? false disabled
    return ⟨index, ⟨rate0, rate1⟩, protocol, fund, fee, disabled⟩
  | _ => none

def tiers? (r : Reading) : Setting → Option (List FeeTier)
  | .list items => items.mapM r.tier?
  | _ => none

def logging? (r : Reading) (s : Setting) : Option LogSettings := do
  match ← r.fields? ["level", "json"] s with
  | [level, json] =>
    let level ← orDefault r.text? Settings.defaultLogging.level level
    let json ← orDefault r.boolean? Settings.defaultLogging.json json
    return ⟨level, json⟩
  | _ => none

def oracle? (r : Reading) (s : Setting) : Option OracleSettings := do
  match ← r.fields? ["capacity"] s with
  | [capacity] =>
    let capacity ← orDefault r.unsigned? Settings.defaultOracle.capacity capacity
    return ⟨capacity⟩
  | _ => none

/-- The settings that a table holds; other keys are left aside. -/
def settings? (r : Reading) (entries : List (String × Setting)) : Option Settings := do
  let logging ← orDefault r.logging? Settings.defaultLogging (List.lookup "logging" entries)
  let oracle ← orDefault r.oracle? Settings.defaultOracle (List.lookup "oracle" entries)
  let tiers ← orDefault r.tiers? [] (List.lookup "amm_configs" entries)
  return ⟨logging, oracle, tiers⟩

end Reading

end Setting

end ConstantProduct
