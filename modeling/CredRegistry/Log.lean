import CredRegistry.Json.Value

/-!
# Log events

What the library reports while it works: records, and the spans that records of
one piece of work stand in.
-/

namespace CredRegistry.Log

/-- How important a record is, least first. -/
inductive Level where
  | trace
  | debug
  | info
  | warn
  | error
deriving Repr, DecidableEq

namespace Level

def name : Level → String
  | .trace => "TRACE"
  | .debug => "DEBUG"
  | .info => "INFO"
  | .warn => "WARN"
  | .error => "ERROR"

/-- The place of a level, the most important first. -/
def rank : Level → Nat
  | .error => 1
  | .warn => 2
  | .info => 3
  | .debug => 4
  | .trace => 5

end Level

/-- One message, and the part of the library it comes from. -/
structure Record where
  level : Level
  target : String
  message : String
deriving Repr, DecidableEq

def Record.text (r : Record) : String := s!"{r.level.name} {r.target}: {r.message}"

/-- A piece of work that records stand in. -/
structure Span where
  level : Level
  target : String
  name : String
  fields : List (String × Json.Value)
deriving Repr

def fieldText : String × Json.Value → String
  | (name, .str s) => s!"{name}={s}"
  | (name, v) => s!"{name}={v.text}"

def Span.fieldsText (s : Span) : String := " ".intercalate (s.fields.map fieldText)

def Span.text (s : Span) : String :=
  s!"SPAN {s.level.name} {s.target}: {s.name} {s.fieldsText}"

/-- Something that is reported. -/
inductive Event where
  | record (r : Record)
  | opened (s : Span)
  /-- The innermost span ends. -/
  | closed
deriving Repr

/-- The wording of an event; the end of a span has none. -/
def Event.text? : Event → Option String
  | .record r => some r.text
  | .opened s => some s.text
  | .closed => none

/-- Computations that report what they do. -/
class MonadLog (m : Type → Type) where
  report : Event → m Unit

export MonadLog (report)

def note {m : Type → Type} [MonadLog m] (level : Level) (target message : String) : m Unit :=
  report (.record ⟨level, target, message⟩)

def within {m : Type → Type} {α : Type} [Monad m] [MonadLog m] (s : Span) (work : m α) : m α := do
  report (.opened s)
  let a ← work
  report .closed
  pure a

end CredRegistry.Log
