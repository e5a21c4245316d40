import ConstantProduct.Settings.Tree
import ConstantProduct.Toml.Document

namespace ConstantProduct.Settings

def parse? (text : String) : Option Settings := do
  let entries ← Toml.Document.read? text
  Setting.Reading.strict.settings? (Setting.ofTomlEntries entries)

def ofText (text : String) : Except Error Settings :=
  match parse? text with
  | none => .error .unparsed
  | some s =>
    match s.validate with
    | .error e => .error e
    | .ok () => .ok s

def ofTextEvents (text : String) : List Event :=
  match parse? text with
  | none => []
  | some s => s.validateEvents

def line (key : String) (value : List Char) : List Char :=
  key.toList ++ " = ".toList ++ value ++ ['\n']

def boolText (b : Bool) : List Char := (toString b).toList

def natText (n : Nat) : List Char := Nat.toDigits 10 n

/-- A line that sets a key to an integer, which must be below `2 ^ 63`. -/
def wordLine? (key : String) (n : UInt64) : Option (List Char) :=
  if Text.isInt64 n.toNat then some (line key (natText n.toNat)) else none

def tierText? (t : FeeTier) : Option (List Char) := do
  let rate0 ← wordLine? "trade_fee_rate_zero_to_one" t.tradeRates.zero
  let rate1 ← wordLine? "trade_fee_rate_one_to_zero" t.tradeRates.one
  let protocol ← wordLine? "protocol_fee_rate" t.protocolRate
  let fund ← wordLine? "fund_fee_rate" t.fundRate
  let fee ← wordLine? "create_pool_fee" t.creationFee
  return "\n[[amm_configs]]\n".toList ++ line "index" (natText t.index.toNat) ++ rate0 ++ rate1 ++
    protocol ++ fund ++ fee ++ line "disable_create_pool" (boolText t.creationDisabled)

def tiersText? : List FeeTier → Option (List Char)
  | [] => some []
  | t :: rest => do
    let first ← tierText? t
    let others ← tiersText? rest
    return first ++ others

/-- The document of the settings, with every field; none where an integer needs more than 63 bits.
-/
def write? (s : Settings) : Option (List Char) := do
  let capacity ← wordLine? "capacity" s.oracle.capacity
  let tiers ← tiersText? s.tiers
  let start := if s.tiers = [] then "amm_configs = []\n\n".toList else []
  return start ++ "[logging]\n".toList ++
    line "level" (Toml.Quoted.write s.logging.level.toList) ++
    line "json" (boolText s.logging.json) ++ "\n[oracle]\n".toList ++ capacity ++ tiers

def toText (s : Settings) : Except Error String :=
  match s.write? with
  | some text => .ok (String.ofList text)
  | none => .error .unwritable

end ConstantProduct.Settings
