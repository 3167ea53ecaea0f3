import CredRegistry.Log.Filter

/-!
# Log lines

What is printed of the events that are reported: a line for each record that the
filter shows, as plain text or as a JSON object, with the spans it stands in. The
time that a line begins with is left to whoever prints it.
-/

namespace CredRegistry.Log

/-- How lines are written. -/
inductive LineFormat where
  | plain
  | json
deriving Repr, DecidableEq

/-- How a character of a message is shown: controls that a terminal could act on are
escaped. -/
def shownChar (c : Char) : List Char :=
  let n := c.toNat
  if n == 0x07 || n == 0x08 || n == 0x0C || n == 0x1B || n == 0x7F then
    let ds := Nat.toDigits 16 n
    ['\\', 'x'] ++ List.replicate (2 - ds.length) '0' ++ ds
  else if 0x80 ≤ n && n ≤ 0x9F then ['\\', 'u', '\x7b'] ++ Nat.toDigits 16 n ++ ['\x7d']
  else [c]

def levelText (level : Level) : String :=
  String.ofList (List.replicate (5 - level.name.length) ' ') ++ level.name

def Span.heading (s : Span) : String :=
  let fields := if s.fields.isEmpty then "" else "\x7b" ++ s.fieldsText ++ "\x7d"
  s.name ++ fields ++ ":"

/-- A plain line: the spans, the outermost first, and the message. -/
def plainLine (spans : List Span) (r : Record) : String :=
  let headings := String.join (spans.map Span.heading)
  let headings := if spans.isEmpty then "" else headings ++ " "
  let message := String.ofList (r.message.toList.flatMap shownChar)
  s!"{levelText r.level} {headings}{r.target}: {message}"

def Span.toJson (s : Span) : Json.Value := .object (s.fields ++ [("name", .str s.name)])

/-- A JSON line: the message, the innermost span, and all spans with the outermost
first. -/
def jsonLine (spans : List Span) (r : Record) : Json.Value :=
  let within := match spans.getLast? with
    | some s => [("span", s.toJson), ("spans", .array (spans.map Span.toJson))]
    | none => []
  .object ([("level", .str r.level.name),
    ("fields", .object [("message", .str r.message)]),
    ("target", .str r.target)] ++ within)

def line (format : LineFormat) (spans : List Span) (r : Record) : String :=
  match format with
  | .plain => plainLine spans r
  | .json => (jsonLine spans r).text

/-- The spans that are open and followed, the innermost first. -/
def followedSpans (opened : List (Option Span)) : List Span := opened.filterMap id

/-- What is printed of some events inside of some spans; a span that is not followed
is open all the same. -/
def linesFrom (f : Filter) (format : LineFormat) : List (Option Span) → List Event → List String
  | _, [] => []
  | opened, .record r :: events =>
      let spans := followedSpans opened
      if f.shows spans r then
        line format spans.reverse r :: linesFrom f format opened events
      else linesFrom f format opened events
  | opened, .opened s :: events =>
      let followed := if f.follows (followedSpans opened) s then some s else none
      linesFrom f format (followed :: opened) events
  | opened, .closed :: events => linesFrom f format opened.tail events

def lines (f : Filter) (format : LineFormat) (events : List Event) : List String :=
  linesFrom f format [] events

end CredRegistry.Log
