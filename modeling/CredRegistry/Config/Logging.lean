import CredRegistry.Config.Settings
import CredRegistry.Host.Environment
import CredRegistry.Log.Lines

/-!
# Starting to log

Logging is started once, with a filter and a format. The filter is the one of a
variable, if that spells one, and else the level that is set.
-/

namespace CredRegistry

/-- Why logging does not start. -/
inductive LoggingError where
  | invalidLevel (level : String) (fault : Log.FilterFault)
  | alreadyStarted
deriving Repr, DecidableEq

def LoggingError.message (e : LoggingError) : String :=
  let what := match e with
    | .invalidLevel level fault => s!"invalid log level '{level}': {fault.message}"
    | .alreadyStarted =>
        "attempted to set a logger after the logging system was already initialized"
  s!"Failed to initialize logging: {what}"

/-- Logging that has been started. -/
structure Logging where
  filter : Log.Filter
  format : Log.LineFormat
deriving Repr, DecidableEq

namespace LoggingSettings

def filterVariable : String := "RUST_LOG"

/-- The filter of the variable, if it spells one. -/
def variableFilter? (h : Host) : Option Log.Filter :=
  match h.variableText filterVariable with
  | .ok text => (Log.Filter.ofText text).toOption
  | .error _ => none

def filter (h : Host) (s : LoggingSettings) : Except LoggingError Log.Filter :=
  match variableFilter? h with
  | some f => .ok f
  | none =>
      match Log.Filter.ofText (s.level.map Char.toLower) with
      | .ok f => .ok f
      | .error fault => .error (.invalidLevel s.level fault)

def logTarget : String := "gitops_creds::telemetry"

/-- The record that logging has been started. -/
def startRecord (s : LoggingSettings) : Log.Record :=
  ⟨.debug, logTarget, s!"Logging initialized (level: {s.level}, json: {s.json})"⟩

def start (h : Host) (running : Option Logging) (s : LoggingSettings) :
    Except LoggingError Logging := do
  let filter ← s.filter h
  match running with
  | some _ => .error .alreadyStarted
  | none => .ok ⟨filter, if s.json then .json else .plain⟩

end LoggingSettings

end CredRegistry
