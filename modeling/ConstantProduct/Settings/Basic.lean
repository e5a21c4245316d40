import ConstantProduct.Registry
import ConstantProduct.Text.Basic

namespace ConstantProduct

structure LogSettings where
  /-- Directives of the log filter. -/
  level : String
  /-- Log lines are JSON objects. -/
  json : Bool
  deriving DecidableEq, Repr

structure OracleSettings where
  /-- Observations that each pool keeps. -/
  capacity : UInt64
  deriving DecidableEq, Repr

structure Settings where
  logging : LogSettings
  oracle : OracleSettings
  tiers : List FeeTier
  deriving DecidableEq, Repr

namespace Settings

def defaultLogging : LogSettings := ⟨"info", false⟩

def defaultOracle : OracleSettings := ⟨Ring.defaultCapacity⟩

def default : Settings := ⟨defaultLogging, defaultOracle, []⟩

inductive Error where
  | unparsed
  | unwritable
  | pathNotExpanded
  | notBuilt (path : String)
  | notDecoded
  | blankLevel
  | noCapacity
  | duplicateTier (index : UInt16)
  | invalidTier (index : UInt16) (cause : ConstantProduct.Error)
  | tierNotRegistered (index : UInt16) (cause : Registry.Error)
  | badDirectives (level : String)
  | loggingInstalled
  /-- An index from the end of a list goes back beyond its start. -/
  | indexBeforeStart
  /-- An index is too far beyond the end of a list. -/
  | listTooLong
  deriving DecidableEq, Repr

def Error.message : Error → String
  | unparsed => "Failed to parse engine configuration"
  | unwritable => "Failed to serialize engine configuration"
  | pathNotExpanded => "Failed to expand config path"
  | notBuilt path => "Failed to build configuration from " ++ path
  | notDecoded => "Failed to deserialize engine configuration"
  | blankLevel => "logging.level must not be empty"
  | noCapacity => "oracle.capacity must be at least 1"
  | duplicateTier index => "duplicate amm_configs index " ++ toString index
  | invalidTier index _ => "Invalid amm_configs entry " ++ toString index
  | tierNotRegistered index _ => "Failed to register amm config " ++ toString index
  | badDirectives level => "Invalid logging.level directive " ++ Text.quoted level
  | loggingInstalled => "Failed to install tracing subscriber"
  | indexBeforeStart => "attempt to subtract with overflow"
  | listTooLong => "capacity overflow"

def Error.cause? : Error → Option String
  | invalidTier _ cause => some cause.message
  | tierNotRegistered _ cause => some cause.message
  | _ => none

def Error.report (e : Error) : String :=
  match e.cause? with
  | some cause => e.message ++ ": " ++ cause
  | none => e.message

/-- Refuses tiers with an index that came before, or not valid; the first such tier decides. -/
def validateTiers (seen : List UInt16) : List FeeTier → Except Error Unit
  | [] => .ok ()
  | t :: rest =>
    if t.index ∈ seen then .error (.duplicateTier t.index)
    else
      match t.validate with
      | .error e => .error (.invalidTier t.index e)
      | .ok () => validateTiers (t.index :: seen) rest

def validate (s : Settings) : Except Error Unit := do
  if Text.isBlank s.logging.level then throw .blankLevel
  if s.oracle.capacity = 0 then throw .noCapacity
  validateTiers [] s.tiers

def validateEvents (s : Settings) : List Event :=
  match s.validate with
  | .ok () => [.settingsValidated s.tiers.length]
  | .error _ => []

/-- Registers tiers in order, up to the first that is refused. -/
def registerAll (r : Registry) : List FeeTier → Except Error Registry × List Event
  | [] => (.ok r, [])
  | t :: rest =>
    let o := r.register t
    match o.answer with
    | .error e => (.error (.tierNotRegistered t.index e), o.events)
    | .ok () =>
      let (result, events) := registerAll o.next rest
      (result, o.events ++ events)

def buildRegistry (s : Settings) : Except Error Registry × List Event :=
  match registerAll (Registry.empty s.oracle.capacity) s.tiers with
  | (.error e, events) => (.error e, events)
  | (.ok r, events) =>
    (.ok r, events ++ [.registryReady s.tiers.length s.oracle.capacity])

def registry (s : Settings) : Except Error Registry := s.buildRegistry.1

end Settings

end ConstantProduct
