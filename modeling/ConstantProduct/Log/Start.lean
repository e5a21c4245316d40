import ConstantProduct.Log.Filter
import ConstantProduct.Settings.Environment

namespace ConstantProduct.Log

/-- The log of a process that has started it: its filter, and whether lines are JSON objects. -/
structure Sink where
  filter : Filter
  json : Bool
  deriving DecidableEq, Repr

def variableName : String := "RUST_LOG"

def target : String := "cpswap_config::logging"

/-- The filter that the environment or else the settings ask for. -/
def filter (settings : LogSettings) (env : Environment) : Except Settings.Error Filter :=
  match (List.lookup variableName env).bind Filter.ofText? with
  | some f => .ok f
  | none =>
    match Filter.ofText? settings.level with
    | some f => .ok f
    | none => .error (.badDirectives settings.level)

def verbosity : Level → Verbosity
  | .info => .info
  | .debug => .debug
  | .warn => .warn

def Filter.admits (f : Filter) (level : Level) (target : String) : Bool :=
  (Log.verbosity level).rank ≤ (f.verbosity target).rank

/-- Starts the log, unless it is started already; the events are those written to it. -/
def start (log : Option Sink) (settings : LogSettings) (env : Environment) :
    Outcome (Option Sink) (Except Settings.Error Unit) :=
  match filter settings env, log with
  | .error e, _ => ⟨.error e, log, []⟩
  | .ok _, some sink => ⟨.error .loggingInstalled, some sink, []⟩
  | .ok f, none =>
    let event := Event.loggingStarted settings.level settings.json
    ⟨.ok (), some ⟨f, settings.json⟩, if f.admits event.level target then [event] else []⟩

/-- The lines that an event takes: one as an object, and as text one more for each newline in it. -/
def Sink.lines (sink : Sink) (e : Event) : Nat :=
  if sink.json then 1
  else 1 + (e.fields.flatMap fun (_, value) => value.toList).count '\n'

end ConstantProduct.Log
