import CredRegistry.Yaml.Error
import CredRegistry.Yaml.Event.Grammar

/-!
# YAML documents

A document as a tree of nodes, each with its position.

A text that is malformed further on still has a tree: where the events break off
stands the node `cut`, at the end of each collection that was open. A reader that
walks the tree in order meets every fault of shape in front of the break before
it meets `cut`, and then reports why the events broke off.

An alias is kept as the number of its anchor, so that an anchored node may
contain aliases of itself.
-/

namespace CredRegistry.Yaml

/-- A node of a document. -/
inductive Node where
  /-- The text is malformed from here on. -/
  | cut
  /-- The content of a stream without documents. -/
  | void (mark : Mark)
  | alias (mark : Mark) (anchor : Nat)
  | scalar (mark : Mark) (tag : Option TagText) (text : String) (plain : Bool)
  | sequence (mark : Mark) (tag : Option TagText) (items : List Node)
  | mapping (mark : Mark) (tag : Option TagText) (pairs : List (Node × Node))
deriving Repr, Inhabited

/-- An open collection: the entries so far, latest first, and the key that waits
for its value. -/
inductive OpenNode where
  | sequence (mark : Mark) (tag : Option TagText) (items : List Node)
  | mapping (mark : Mark) (tag : Option TagText) (pairs : List (Node × Node)) (key : Option Node)

namespace OpenNode

def add (n : Node) : OpenNode → OpenNode
  | .sequence m t items => .sequence m t (n :: items)
  | .mapping m t pairs none => .mapping m t pairs (some n)
  | .mapping m t pairs (some k) => .mapping m t ((k, n) :: pairs) none

def close : OpenNode → Node
  | .sequence m t items => .sequence m t items.reverse
  | .mapping m t pairs _ => .mapping m t pairs.reverse

/-- The collection as it is when the events break off inside the entry `n`. -/
def closeCut (n : Node) (o : OpenNode) : Node :=
  match o.add n with
  | .mapping m t pairs (some k) => .mapping m t ((k, .cut) :: pairs).reverse
  | o => o.close

end OpenNode

/-- A node that an alias can stand for. -/
structure Anchored where
  anchor : Nat
  /-- The number of events before the node. -/
  position : Nat
  node : Node

/-- A document that is being built from its events. -/
structure Builder where
  /-- The open collections, innermost first, each with its anchor and the number
  of events before it. -/
  opened : List (OpenNode × Option Nat × Nat)
  root : Option Node
  /-- The numbers of the anchors named so far. -/
  names : List (List Char × Nat)
  anchored : List Anchored
  count : Nat

namespace Builder

def start : Builder := ⟨[], none, [], [], 0⟩

/-- The number of the next anchor: how many different names there are. A name that
is used again takes its new number along without adding to the count. -/
def nextAnchor (b : Builder) : Nat := b.names.length

def name (b : Builder) (anchor : Option (List Char)) : Option Nat × Builder :=
  match anchor with
  | none => (none, b)
  | some a =>
      let id := b.nextAnchor
      (some id, { b with names := (a, id) :: b.names.filter (·.1 ≠ a) })

/-- Put a finished node into the innermost open collection. -/
def put (b : Builder) (n : Node) (anchor : Option Nat) (position : Nat) : Builder :=
  let b := match anchor with
    | some id => { b with anchored := ⟨id, position, n⟩ :: b.anchored }
    | none => b
  match b.opened with
  | [] => { b with root := some n }
  | (o, info) :: rest => { b with opened := (o.add n, info) :: rest }

def close (b : Builder) : Builder :=
  match b.opened with
  | [] => b
  | (o, anchor, position) :: rest => { b with opened := rest }.put o.close anchor position

/-- Take in one event. An alias of a name that was never given is refused. -/
def add (b : Builder) (e : MarkedEvent) : Except Error Builder :=
  let counted (b : Builder) : Builder := { b with count := b.count + 1 }
  match e.event with
  | .alias a =>
      match b.names.find? (·.1 == a) with
      | some (_, id) => .ok (counted (b.put (.alias e.mark id) none b.count))
      | none => .error (.data .unknownAnchor none (some e.mark))
  | .scalar p text plain =>
      let (id, b) := b.name p.anchor
      .ok (counted (b.put (.scalar e.mark p.tag (String.ofList text) plain) id b.count))
  | .sequenceStart p =>
      let (id, b) := b.name p.anchor
      .ok (counted { b with opened := (.sequence e.mark p.tag [], id, b.count) :: b.opened })
  | .mappingStart p =>
      let (id, b) := b.name p.anchor
      .ok (counted { b with opened := (.mapping e.mark p.tag [] none, id, b.count) :: b.opened })
  | .sequenceEnd => .ok (counted b.close)
  | .mappingEnd => .ok (counted b.close)
  | _ => .ok b

/-- Close everything that is open where the events break off. -/
def cutGo : List (OpenNode × Option Nat × Nat) → Node → List Anchored → Node × List Anchored
  | [], n, anchored => (n, anchored)
  | (o, anchor, position) :: rest, n, anchored =>
      let closed := o.closeCut n
      let anchored := match anchor with
        | some id => ⟨id, position, closed⟩ :: anchored
        | none => anchored
      cutGo rest closed anchored

end Builder

/-- A document, as far as its text is well-formed. -/
structure Document where
  root : Node
  /-- Why the events break off, if they do. -/
  fault : Option Error
  /-- The number of events. -/
  size : Nat
  /-- The nodes that aliases stand for. -/
  anchored : List Anchored
  /-- Does anything but the end of the stream follow? -/
  followed : Bool

namespace Document

/-- The node an alias stands for: the latest one with that anchor. -/
def target? (d : Document) (anchor : Nat) : Option Node :=
  let latest (best : Option Anchored) (a : Anchored) : Option Anchored :=
    if a.anchor ≠ anchor then best
    else match best with
      | none => some a
      | some b => if b.position < a.position then some a else some b
  (d.anchored.foldl latest none).map (·.node)

/-- The document when the events break off with `e` after what `b` has seen. -/
def broken (b : Builder) (e : Error) : Document :=
  match b.opened, b.root with
  | [], some n => ⟨n, some e, b.count, b.anchored, false⟩
  | opened, _ =>
      let (n, anchored) := Builder.cutGo opened .cut b.anchored
      ⟨n, some e, b.count, anchored, false⟩

/-- Does the stream end after the document the reader has just passed? -/
def streamEnds (g : Grammar) : Bool :=
  match g.step with
  | .ok (e, _) => e.event == .streamEnd
  | .error _ => false

/-- Read the first document of a stream, with at most `fuel` events. -/
def read : Nat → Grammar → Builder → Document
  | 0, _, b => broken b (.malformed .unexpectedToken)
  | fuel + 1, g, b =>
      match g.step with
      | .error f => broken b (.malformed f)
      | .ok (e, g) =>
          match e.event with
          | .streamEnd => ⟨.void e.mark, none, 1, [], false⟩
          | .documentEnd =>
              ⟨b.root.getD .cut, none, b.count, b.anchored, !streamEnds g⟩
          | _ =>
              match b.add e with
              | .ok b => read fuel g b
              | .error err => broken b err

def isReadable (c : Char) : Bool :=
  let n := c.toNat
  n == 0x09 || n == 0x0A || n == 0x0D || (0x20 ≤ n && n ≤ 0x7E) || n == 0x85
    || (0xA0 ≤ n && n ≤ 0xD7FF) || (0xE000 ≤ n && n ≤ 0xFFFD) || 0x10000 ≤ n

def blockSize : Nat := 16384

/-- The characters in front of the block in which the first unreadable character
stands, and whether there is such a character. A text is taken in by blocks; a
block is looked through before any of it is used. -/
def readablePart (cs : List Char) : List Char × Bool :=
  go cs [] [] blockSize
where
  /-- `done` are the characters of the blocks that are through, `block` those of
  the current one, both latest first; `room` bytes of it are left. -/
  go : List Char → List Char → List Char → Nat → List Char × Bool
    | [], done, block, _ => ((block ++ done).reverse, false)
    | c :: cs, done, block, room =>
        let width := c.utf8Size
        let (done, block, room) :=
          if room < width then (block ++ done, [], blockSize) else (done, block, room)
        if isReadable c then go cs done (c :: block) (room - width)
        else (done.reverse, true)

def ofString (text : String) : Document :=
  let (cs, cut) := readablePart text.toList
  let marked := MarkedText.ofList cs
  read (4 * cs.length + 8) (.ofText marked cut) .start

end Document

end CredRegistry.Yaml
