import CredRegistry.Decimal.Read
import CredRegistry.Decimal.Shortest
import CredRegistry.Log
import CredRegistry.Text.Pattern.Reading
import CredRegistry.Text.Utf8

/-!
# Log filters

A filter says which events are shown. It is a list of directives, each of which
lets through events up to some verbosity: of a part of the library, or inside of
spans with some name or some value of a field. Of the directives that fit an event,
the most specific one decides; inside of a span that a directive names, what that
directive lets through is shown as well.

`Filter.ofText` reads a filter and `Filter.text` writes it, the most specific
directives first.
-/

namespace CredRegistry.Log

open CredRegistry.Text CredRegistry.Decimal

/-! ## Verbosity -/

/-- How much is let through: nothing, or all that is at least as important as a
level. -/
inductive Verbosity where
  | off
  | upTo (level : Level)
deriving Repr, DecidableEq

namespace Verbosity

/-- The place of a verbosity, the least verbose first. -/
def rank : Verbosity → Nat
  | .off => 0
  | .upTo level => level.rank

def ofRank? : Nat → Option Verbosity
  | 0 => some .off
  | 1 => some (.upTo .error)
  | 2 => some (.upTo .warn)
  | 3 => some (.upTo .info)
  | 4 => some (.upTo .debug)
  | 5 => some (.upTo .trace)
  | _ => none

def name : Verbosity → String
  | .off => "off"
  | .upTo level => level.name.map Char.toLower

def all : List Verbosity :=
  [.off, .upTo .error, .upTo .warn, .upTo .info, .upTo .debug, .upTo .trace]

/-- The verbosity that a text spells, by its rank or its name in any case. -/
def ofText? (cs : List Char) : Option Verbosity :=
  let digits := match cs with
    | '+' :: cs => cs
    | cs => cs
  match (nat? 10 digits).bind ofRank? with
  | some v => some v
  | none => all.find? fun v => v.name == String.ofList (cs.map Char.toLower)

def admits (v : Verbosity) (level : Level) : Bool := level.rank ≤ v.rank

def max (v w : Verbosity) : Verbosity := if v.rank < w.rank then w else v

def maximum (vs : List Verbosity) : Verbosity := vs.foldl max .off

theorem ofRank?_rank (v : Verbosity) : ofRank? v.rank = some v := by
  cases v with
  | off => rfl
  | upTo level => cases level <;> rfl

end Verbosity

/-! ## Values of fields -/

/-- What the value of a field is compared with. -/
inductive FieldValue where
  | bool (b : Bool)
  | float (x : Binary64)
  | nan
  | natural (n : Nat)
  /-- An integer that is spelt with a minus sign. -/
  | integer (n : Int)
  | pattern (text : List Char) (p : Pattern)
deriving Repr, DecidableEq

namespace FieldValue

/-- The number that a text spells, or a name of one that is none. -/
def float? (cs : List Char) : Option Binary64 :=
  let (negative, name) := match cs with
    | '-' :: cs => (true, cs)
    | '+' :: cs => (false, cs)
    | cs => (false, cs)
  match String.ofList (name.map Char.toLower) with
  | "inf" => some (if negative then .negInfinity else .infinity)
  | "infinity" => some (if negative then .negInfinity else .infinity)
  | "nan" => some .nan
  | _ => Decimal.float? cs

/-- The integer that a text spells, if it has at most 64 bits. -/
def integer? : List Char → Option FieldValue
  | '-' :: cs =>
      (nat? 10 cs).bind fun n => if n ≤ 0x8000000000000000 then some (.integer (-(n : Int))) else none
  | cs =>
      let digits := match cs with
        | '+' :: cs => cs
        | cs => cs
      (nat? 10 digits).bind fun n => if n < 0x10000000000000000 then some (.natural n) else none

def number? (cs : List Char) : Option FieldValue :=
  (integer? cs).or ((float? cs).map fun x => if x.isNaN then .nan else .float x)

/-- The value that a text spells. What spells nothing else is a pattern. -/
def ofChars (cs : List Char) : Except Pattern.Fault FieldValue :=
  match String.ofList cs, number? cs with
  | "true", _ => .ok (.bool true)
  | "false", _ => .ok (.bool false)
  | _, some v => .ok v
  | _, none => (Pattern.ofChars cs).map (.pattern cs)

def text : FieldValue → String
  | .bool b => toString b
  | .float x =>
      if x.isFinite then signed x.isNegative x.shortest.positional else x.spelled
  | .nan => Binary64.nan.spelled
  | .natural n => toString n
  | .integer n => toString n
  | .pattern cs _ => String.ofList cs

/-- Is the value of a field the one it is compared with? -/
def holds (v : FieldValue) (given : Json.Value) : Bool :=
  match v, given with
  | .bool b, .bool b' => b == b'
  | .float x, .float y => x.sameNumber y
  | .nan, .float y => y.isNaN
  | .natural n, .int n' => (n : Int) == n'
  | .integer n, .int n' => n == n'
  | .pattern _ p, .str s => p.fits s.toList
  | _, _ => false

/-- The place of a kind of value among the others. -/
def kindRank : FieldValue → Nat
  | .bool _ => 0
  | .float _ => 1
  | .nan => 2
  | .natural _ => 3
  | .integer _ => 4
  | .pattern _ _ => 5

def order (v w : FieldValue) : Ordering :=
  (compare v.kindRank w.kindRank).then <|
    match v, w with
    | .bool b, .bool c => compare b c
    | .float x, .float y => x.order y
    | .natural m, .natural n => compare m n
    | .integer m, .integer n => compare m n
    | .pattern cs _, .pattern ds _ => compare (String.ofList cs) (String.ofList ds)
    | _, _ => .eq

end FieldValue

/-- A field that has to be there, and the value it has to have, if any. -/
structure FieldTest where
  name : String
  value : Option FieldValue
deriving Repr, DecidableEq

namespace FieldTest

/-- The test that a text spells: a name, and what stands between an equals sign
and the next one. -/
def ofChars (cs : List Char) : Except Pattern.Fault FieldTest :=
  let name := String.ofList (cs.takeWhile (· ≠ '='))
  match cs.dropWhile (· ≠ '=') with
  | [] => .ok ⟨name, none⟩
  | _ :: cs => (FieldValue.ofChars (cs.takeWhile (· ≠ '='))).map fun v => ⟨name, some v⟩

def text (t : FieldTest) : String :=
  match t.value with
  | none => t.name
  | some v => t.name ++ "=" ++ v.text

def passes (t : FieldTest) (fields : List (String × Json.Value)) : Bool :=
  match t.value, fields.lookup t.name with
  | _, none => false
  | none, some _ => true
  | some v, some given => v.holds given

/-- The order of tests: those with a value are the more specific. -/
def order (s t : FieldTest) : Ordering :=
  (compare s.value.isSome t.value.isSome).then <| (compare s.name t.name).then <|
    match s.value, t.value with
    | some v, some w => v.order w
    | _, _ => .eq

end FieldTest

/-! ## Directives -/

/-- What is let through of a part of the library or inside of some spans. -/
structure Directive where
  target : Option String
  span : Option String
  field : Option FieldTest
  verbosity : Verbosity
deriving Repr, DecidableEq

/-- Why a text is no filter. -/
inductive FilterFault where
  | malformed
  | unknownVerbosity
  | badField (fault : Pattern.Fault)
deriving Repr, DecidableEq

def FilterFault.message : FilterFault → String
  | .malformed => "invalid filter directive"
  | .unknownVerbosity =>
      "error parsing level filter: expected one of " ++
        ", ".intercalate (Verbosity.all.map fun v => s!"\"{v.name}\"") ++ ", or a number 0-5"
  | .badField fault => s!"invalid field filter: {fault.message}"

namespace Directive

/-- The directive that lets everything through. -/
def everything : Directive := ⟨none, none, none, .upTo .trace⟩

/-- The directive with the verbosity that a text spells; the empty text lets all
through. -/
def withVerbosity (d : Directive) (cs : List Char) : Except FilterFault Directive :=
  if cs.isEmpty then .ok { d with verbosity := .upTo .trace }
  else
    match Verbosity.ofText? cs with
    | some verbosity => .ok { d with verbosity }
    | none => .error .unknownVerbosity

/-- A directive that is a verbosity or the name of a part alone. -/
def bare (cs : List Char) : Directive :=
  match Verbosity.ofText? cs with
  | some verbosity => { everything with verbosity }
  | none => { everything with target := some (String.ofList cs) }

/-- What follows the brackets of a directive; `cs` stands at `start`. -/
def afterSpan (given : List Char) (d : Directive) (start : Nat) :
    List Char → Except FilterFault Directive
  | [] => .ok d
  | '=' :: _ => d.withVerbosity (dropBytes (start + 1) given)
  | _ :: _ => .error .malformed

/-- What follows the brace of a directive; `cs` stands at `start`. -/
def afterBrace (given : List Char) (d : Directive) (start : Nat) (cs : List Char) :
    Except FilterFault Directive :=
  let inside := cs.takeWhile (· ≠ '\x7d')
  let length := byteLength inside
  if inside.isEmpty then .error .malformed
  else
    match cs.drop inside.length with
    | [] => .error .malformed
    | _ :: rest =>
        match FieldTest.ofChars (takeBytes length (dropBytes start given)) with
        | .error fault => .error (.badField fault)
        | .ok t =>
            match rest with
            | ']' :: rest => afterSpan given { d with field := some t } (start + length + 2) rest
            | _ => .error .malformed

/-- What follows the bracket of a directive; `cs` stands at `start`. -/
def afterBracket (given : List Char) (d : Directive) (start : Nat) (cs : List Char) :
    Except FilterFault Directive :=
  let inside := cs.takeWhile fun c => c ≠ ']' && c ≠ '\x7b'
  let length := byteLength inside
  let span := String.ofList (takeBytes length (dropBytes start given))
  match cs.drop inside.length with
  | ']' :: rest => afterSpan given { d with span := some span } (start + length + 1) rest
  | '\x7b' :: rest =>
      let span := if span.isEmpty then none else some span
      afterBrace given { d with span } (start + length + 1) rest
  | _ => .error .malformed

/-- The characters a directive can begin with, other than a bracket. -/
def canBegin (c : Char) : Bool := c == '-' || c == ':' || c == '_' || isAlphanumeric c

/-- The directive that a text spells. Places are looked up in the text without the
blanks around it, and the parts are taken from the same places of the whole. Places
are counted in bytes. -/
def ofChars (given : List Char) : Except FilterFault Directive :=
  match trimRight (given.dropWhile isBlank) with
  | [] => .error .malformed
  | '[' :: cs => afterBracket given everything 1 cs
  | c :: cs =>
      if !canBegin c then .error .malformed
      else
        let name := (c :: cs).takeWhile fun c => c ≠ '=' && c ≠ '['
        let length := byteLength name
        let named := { everything with target := some (String.ofList (takeBytes length given)) }
        match (c :: cs).drop name.length with
        | '=' :: _ => named.withVerbosity (dropBytes (length + 1) given)
        | '[' :: rest => afterBracket given named (length + 1) rest
        | _ => .ok (bare given)

def text (d : Directive) : String :=
  let field := match d.field with
    | some t => "\x7b" ++ t.text ++ "\x7d"
    | none => ""
  let span := if d.span.isSome || d.field.isSome then "[" ++ d.span.getD "" ++ field ++ "]" else ""
  let scope := d.target.getD "" ++ span
  if d.target.isSome || d.span.isSome || d.field.isSome then s!"{scope}={d.verbosity.name}"
  else d.verbosity.name

def isDynamic (d : Directive) : Bool := d.span.isSome || d.field.isSome

def testsValue (d : Directive) : Bool :=
  match d.field with
  | some t => t.value.isSome
  | none => false

def isStatic (d : Directive) : Bool := d.span.isNone && !d.testsValue

/-- The order of things that may be missing: a missing one comes first. -/
def optionOrder {α : Type} (order : α → α → Ordering) : Option α → Option α → Ordering
  | none, none => .eq
  | none, some _ => .lt
  | some _, none => .gt
  | some a, some b => order a b

/-- The order of directives, the most specific last. -/
def order (d e : Directive) : Ordering :=
  let length (t : Option String) : Nat :=
    match t with
    | none => 0
    | some s => s.utf8ByteSize + 1
  (compare (length d.target) (length e.target)).then <|
    (compare d.span.isSome e.span.isSome).then <|
    (compare d.field.isSome e.field.isSome).then <|
    (optionOrder compare d.target e.target).then <|
    (optionOrder compare d.span e.span).then <|
    optionOrder FieldTest.order d.field e.field

/-- Does the part of the library lie in the target? -/
def coversTarget (d : Directive) (target : String) : Bool :=
  match d.target with
  | some t => target.startsWith t
  | none => true

/-- Does the directive name spans like this, whatever the values of their fields? -/
def names (d : Directive) (s : Span) : Bool :=
  d.coversTarget s.target && (d.span.isNone || d.span == some s.name) &&
    match d.field with
    | some t => (s.fields.lookup t.name).isSome
    | none => true

/-- Do the fields of the span pass the test as well? -/
def passes (d : Directive) (s : Span) : Bool :=
  match d.field with
  | some t => t.passes s.fields
  | none => true

end Directive

/-- Put a directive in its place, in the stead of one that is about the same. -/
def placeDirective (d : Directive) : List Directive → List Directive
  | [] => [d]
  | e :: es =>
      match d.order e with
      | .gt => d :: e :: es
      | .eq => d :: es
      | .lt => e :: placeDirective d es

/-- The directives with the most specific first. -/
def bySpecificity (ds : List Directive) : List Directive :=
  ds.foldl (fun placed d => placeDirective d placed) []

/-! ## Filters -/

/-- A filter: the directives about events wherever they occur, those about spans, and
how much is let through at most. -/
structure Filter where
  statics : List Directive
  dynamics : List Directive
  /-- Also of directives that others have come in the stead of. -/
  most : Verbosity
deriving Repr, DecidableEq

namespace Filter

def ofDirectives (ds : List Directive) : Filter :=
  ⟨bySpecificity (ds.filter (·.isStatic)), bySpecificity (ds.filter (·.isDynamic)),
    .maximum (ds.map (·.verbosity))⟩

/-- The filter that a text spells: directives with commas between them. Where nothing
stands between two commas, there is none. -/
def ofText (text : String) : Except FilterFault Filter := do
  let pieces := (text.splitOn ",").filter fun s => !s.isEmpty
  let ds ← pieces.mapM fun s => Directive.ofChars s.toList
  pure (ofDirectives ds)

def text (f : Filter) : String :=
  ",".intercalate ((f.statics ++ f.dynamics).map Directive.text)

/-- How much can be let through at most. Where values of fields matter, all spans
are followed. -/
def limit (f : Filter) : Verbosity :=
  if f.dynamics.any (·.testsValue) then .upTo .trace else f.most

/-- What a span lets through of the events in it, if the filter names the span. -/
def inside? (f : Filter) (s : Span) : Option Verbosity :=
  match f.dynamics.filter (·.names s) with
  | [] => none
  | ds => some (.maximum ((ds.filter (·.passes s)).map (·.verbosity)))

def admitsInside (f : Filter) (opened : List Span) (level : Level) : Bool :=
  opened.any fun s =>
    match f.inside? s with
    | some v => v.admits level
    | none => false

/-- Does the first of the directives that fit let an event through? -/
def firstAdmits (ds : List Directive) (level : Level) : Bool :=
  match ds.head? with
  | some d => d.verbosity.admits level
  | none => false

def recordFields : List String :=
  ["message", "log.target", "log.module_path", "log.file", "log.line"]

def fitsRecord (d : Directive) (r : Record) : Bool :=
  d.coversTarget r.target &&
    match d.field with
    | some t => recordFields.contains t.name
    | none => true

/-- Is a record shown, given the spans that are open and followed? -/
def shows (f : Filter) (opened : List Span) (r : Record) : Bool :=
  f.limit.admits r.level &&
    (f.admitsInside opened r.level || firstAdmits (f.statics.filter (fitsRecord · r)) r.level)

/-- Is a span followed, given the spans that are open and followed? -/
def follows (f : Filter) (opened : List Span) (s : Span) : Bool :=
  f.limit.admits s.level &&
    ((f.inside? s).isSome || f.admitsInside opened s.level ||
      firstAdmits (f.statics.filter (·.coversTarget s.target)) s.level)

end Filter

end CredRegistry.Log
