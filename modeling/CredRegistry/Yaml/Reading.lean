import CredRegistry.Yaml.Node
import CredRegistry.Yaml.Plain

/-!
# Reading data out of a document

The readers walk the tree of a document in order and report the first fault they
meet. Aliases are followed as they are met; `Reading` counts how often, since a
small document can stand for a huge one. Collections may be nested 128 deep.

`value` reads a node for what it stands for; `text` reads a scalar for its text
alone; `record` reads a mapping field by field.
-/

namespace CredRegistry.Yaml

/-- A computation that reads a document, given how many aliases have been
followed. -/
abbrev Reading := StateT Nat (Except Error)

namespace Reading

def refuse {α : Type} (e : Error) : Reading α := fun _ => .error e

/-- What could be made of data that was read, or its fault. -/
def settle {α : Type} : Except DataFault α → Reading α
  | .ok a => pure a
  | .error fault => refuse (.unplaced fault)

/-- Give the errors of `r` that have no place yet the place of a node. -/
def placing {α : Type} (path : Path) (mark : Mark) (r : Reading α) : Reading α := fun jumps =>
  match r jumps with
  | .ok a => .ok a
  | .error e => .error (e.placed path mark)

/-- The outcome of a reading that has followed no alias yet. -/
def outcome {α : Type} (r : Reading α) : Except Error α := (r 0).map (·.1)

end Reading

def depthLimit : Nat := 128

namespace Document

open Reading

/-- The error met where the events of the document break off. -/
def breakError (d : Document) : Error := d.fault.getD (.unplaced .endOfStream)

/-- Follow an alias. A document may follow a hundred aliases for each of its
events. -/
def follow (d : Document) (anchor : Nat) : Reading Node := fun jumps =>
  if d.size * 100 < jumps + 1 then .error (.unplaced .repetitionLimit)
  else match d.target? anchor with
    | some n => .ok (n, jumps + 1)
    | none => .error (.unplaced .unknownAnchor)

/-- The node itself, or the one it is an alias of. -/
def resolve (d : Document) : Node → Reading Node
  | .cut => refuse d.breakError
  | .alias _ anchor => do
      match ← d.follow anchor with
      | .cut => refuse d.breakError
      | n => pure n
  | n => pure n

/-- The way to the value at the key `k` of the mapping at `path`. -/
def valuePath (path : Path) (k : Node) : Path :=
  match k with
  | .scalar _ _ text _ => .field path text
  | _ => .unnamed path

/-- What a collection of this kind is met as. -/
def misfit (found : Found) (expected : String) : Error :=
  .unplaced (.invalidType found expected)

/-- The fault of meeting a scalar where `expected` is wanted. -/
def scalarMisfit (tag : Option TagText) (text : String) (plain : Bool) (expected : String) :
    Error :=
  match scalarFound tag text plain with
  | .ok found => misfit found expected
  | .error fault => .unplaced fault

/-- The value a scalar stands for, when any value will do. -/
def scalarValue (tag : Option TagText) (text : String) (plain : Bool) : Except Error Value :=
  if marksVariant tag then .error (.unplaced .unexpectedTag)
  else match scalarFound tag text plain with
    | .error fault => .error (.unplaced fault)
    | .ok .unit => .ok .null
    | .ok (.bool b) => .ok (.bool b)
    | .ok (.int n) => .ok (.int n)
    | .ok (.float x) => .ok (.float x)
    | .ok (.str s) => .ok (.str s)
    | .ok found => .error (misfit found "any value")

/-- Read a node as the value it stands for. Keys that stand twice are not looked
for yet. -/
def value (d : Document) (depth : Nat) (path : Path) (n : Node) : Reading Value := do
  match ← d.resolve n with
  | .scalar m tag text plain => placing path m (liftM (scalarValue tag text plain))
  | .sequence m tag items =>
      placing path m do
        if marksVariant tag then refuse (.unplaced .unexpectedTag)
        match depth with
        | 0 => refuse (.data .recursionLimit none (some m))
        | depth + 1 =>
            let vs ← items.zipIdx.mapM fun (n, i) => value d depth (.index path i) n
            pure (.seq vs)
  | .mapping m tag pairs =>
      placing path m do
        if marksVariant tag then refuse (.unplaced .unexpectedTag)
        match depth with
        | 0 => refuse (.data .recursionLimit none (some m))
        | depth + 1 =>
            let kvs ← pairs.mapM fun (k, v) => do
              let key ← value d depth path k
              let val ← value d depth (valuePath path k) v
              pure (key, val)
            pure (.map kvs)
  | _ => pure .null

def text (d : Document) (path : Path) (expected : String) (n : Node) : Reading String := do
  match ← d.resolve n with
  | .scalar _ _ text _ => pure text
  | .sequence m _ _ => refuse ((misfit .seq expected).placed path m)
  | .mapping m _ _ => refuse ((misfit .map expected).placed path m)
  | _ => refuse (.unplaced .endOfStream)

def optional {α : Type} (d : Document) (n : Node) (read : Node → Reading α) :
    Reading (Option α) := do
  match ← d.resolve n with
  | .scalar m tag text plain =>
      match scalarIsAbsent tag text plain with
      | .error fault => refuse (.unplaced fault)
      | .ok true => pure none
      | .ok false => some <$> read (.scalar m tag text plain)
  | .void _ => pure none
  | n => some <$> read n

/-- Read a sequence item by item. A plain scalar without text is a sequence without
items. -/
def items {α : Type} (d : Document) (depth : Nat) (path : Path) (expected : String) (n : Node)
    (read : Nat → Path → Node → Reading α) : Reading (List α) := do
  match ← d.resolve n with
  | .scalar m tag text plain =>
      if plain && text.isEmpty then pure []
      else refuse ((scalarMisfit tag text plain expected).placed path m)
  | .sequence m _ items =>
      placing path m do
        match depth with
        | 0 => refuse (.data .recursionLimit none (some m))
        | depth + 1 => items.zipIdx.mapM fun (n, i) => read depth (.index path i) n
  | .mapping m _ _ => refuse ((misfit .map expected).placed path m)
  | _ => pure []

/-- Read a mapping field by field: `field` takes in one field, given its name and
the way to its value, and `finish` looks over the whole. A plain scalar without
text is a mapping without fields. -/
def record {σ α : Type} (d : Document) (depth : Nat) (path : Path) (expected : String) (n : Node)
    (start : σ) (field : σ → String → Nat → Path → Node → Reading σ)
    (finish : σ → Except DataFault α) : Reading α := do
  match ← d.resolve n with
  | .scalar m tag text plain =>
      placing path m do
        if plain && text.isEmpty then settle (finish start)
        else refuse (scalarMisfit tag text plain expected)
  | .sequence m _ _ => refuse ((misfit .seq expected).placed path m)
  | .mapping m _ pairs =>
      placing path m do
        match depth with
        | 0 => refuse (.data .recursionLimit none (some m))
        | depth + 1 =>
            let s ← pairs.foldlM (fun s (k, v) => do
              let name ← d.text path "field identifier" k
              field s name depth (valuePath path k) v) start
            settle (finish s)
  | _ => settle (finish start)

/-- The whole of a document that was read with `r`: its text has to be well-formed
to its end, and no other document may follow. -/
def whole {α : Type} (d : Document) (r : Reading α) : Except Error α := do
  let a ← r.outcome
  match d.fault with
  | some e => .error e
  | none => if d.followed then .error (.unplaced .severalDocuments) else .ok a

end Document

end CredRegistry.Yaml
