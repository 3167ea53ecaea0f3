import CredRegistry.Yaml.Event
import CredRegistry.Yaml.Token.Lexer

/-!
# From tokens to events

The grammar of YAML streams, read one event at a time.

`Place` says which rule of the grammar the reader is in; the rules it has still
to return to are kept on a list. Each `step` looks at the next token, says one
event, and moves on to the next place.
-/

namespace CredRegistry.Yaml

/-- A rule of the grammar the reader can be in. -/
inductive Place where
  | streamStart
  | firstDocument
  | document
  | documentContent
  | documentEnd
  | blockNode
  | blockSequenceFirst
  | blockSequence
  | indentlessSequence
  | blockMappingFirst
  | blockMappingKey
  | blockMappingValue
  | flowSequenceFirst
  | flowSequence
  | flowPairKey
  | flowPairValue
  | flowPairEnd
  | flowMappingFirst
  | flowMappingKey
  | flowMappingValue
  | flowMappingEmptyValue
  | done
deriving Repr, DecidableEq

/-- A reader between two events. -/
structure Grammar where
  lexer : Lexer
  place : Place
  /-- The places to return to, innermost first. -/
  back : List Place
  /-- What the handles of the current document stand for. -/
  handles : List (List Char × TagText)

namespace Grammar

def ofText (text : MarkedText) (cut : Bool) : Grammar :=
  ⟨.ofText text cut, .streamStart, [], []⟩

abbrev Step := Except SyntaxFault (MarkedEvent × Grammar)

/-- The next token, and the reader that has seen it. -/
def peek (g : Grammar) : Except SyntaxFault (Token × Grammar) := do
  let (t, lexer) ← g.lexer.peek
  .ok (t, { g with lexer })

def drop (g : Grammar) : Grammar := { g with lexer := g.lexer.drop }

/-- Say `event`, standing at `mark`, and move on to `place`. -/
def say (g : Grammar) (event : Event) (mark : Mark) (place : Place) : Step :=
  .ok (⟨event, mark⟩, { g with place })

/-- Say `event` and return to the rule that asked for this one. -/
def sayBack (g : Grammar) (event : Event) (mark : Mark) : Step :=
  .ok (⟨event, mark⟩, { g with place := g.back.headD .done, back := g.back.drop 1 })

/-- Come back to `place` after the next node. -/
def returnTo (g : Grammar) (place : Place) : Grammar :=
  { g with back := place :: g.back }

/-! ## Directives and documents -/

def defaultHandles : List (List Char × TagText) :=
  [("!".toList, .ofList "!".toList), ("!!".toList, .ofList "tag:yaml.org,2002:".toList)]

/-- The directives in front of a document, at most `fuel` of them. Each may stand
there once. -/
def readDirectives : Nat → Bool → Grammar → Except SyntaxFault Grammar
  | 0, _, g => .ok g
  | fuel + 1, versionSeen, g => do
      let (t, g) ← g.peek
      match t.kind with
      | .versionDirective major minor =>
          if versionSeen || major ≠ 1 || (minor ≠ 1 && minor ≠ 2) then .error .badDirectives
          else readDirectives fuel true g.drop
      | .tagDirective handle expansion =>
          if g.handles.any (·.1 == handle) then .error .badDirectives
          else
            let g' := { g.drop with handles := g.handles ++ [(handle, expansion)] }
            readDirectives fuel versionSeen g'
      | _ => .ok g

/-- The directives in front of a document, and the handles known without. -/
def directives (g : Grammar) : Except SyntaxFault Grammar := do
  let g ← readDirectives (g.lexer.rest.length + g.lexer.queue.length + 1) false g
  let known := g.handles
  .ok { g with handles := known ++ defaultHandles.filter fun d => !known.any (·.1 == d.1) }

def isDirective : Token.Kind → Bool
  | .versionDirective _ _ => true
  | .tagDirective _ _ => true
  | _ => false

/-- Pass over the end markers in front of a document, at most `fuel` of them. -/
def skipDocumentEnds : Nat → Grammar → Except SyntaxFault Grammar
  | 0, g => .ok g
  | fuel + 1, g => do
      let (t, g) ← g.peek
      if t.kind == .documentEnd then skipDocumentEnds fuel g.drop else .ok g

/-- The start of a document or the end of the stream. Only the first document may
do without a marker. -/
def documentStart (g : Grammar) (first : Bool) : Step := do
  let g ← if first then .ok g
    else skipDocumentEnds (g.lexer.rest.length + g.lexer.queue.length + 1) g
  let (t, g) ← g.peek
  if t.kind == .streamEnd then g.drop.say .streamEnd t.start .done
  else if first && !isDirective t.kind && t.kind ≠ .documentStart then
    let g ← g.directives
    (g.returnTo .documentEnd).say .documentStart t.start .blockNode
  else
    let g ← g.directives
    let (m, g) ← g.peek
    if m.kind ≠ .documentStart then .error .unexpectedToken
    else (g.drop.returnTo .documentEnd).say .documentStart t.start .documentContent

def documentEnd (g : Grammar) : Step := do
  let (t, g) ← g.peek
  let g := if t.kind == .documentEnd then g.drop else g
  { g with handles := [] }.say .documentEnd t.start .document

/-! ## Nodes -/

/-- The tag that a handle and a suffix spell. -/
def resolveTag (g : Grammar) (handle : List Char) (suffix : TagText) :
    Except SyntaxFault TagText :=
  if handle.isEmpty then .ok suffix.ended
  else match g.handles.find? (·.1 == handle) with
    | some (_, expansion) => .ok (expansion.ended.append suffix.ended)
    | none => .error .undefinedHandle

/-- The anchor and the tag in front of a node, in either order, and the position
of the node. -/
def properties (g : Grammar) : Except SyntaxFault (NodeProperties × Mark × Grammar) := do
  let (t, g) ← g.peek
  match t.kind with
  | .anchor name =>
      let g := g.drop
      let (u, g) ← g.peek
      match u.kind with
      | .tag handle suffix =>
          -- The token after the tag is read before the tag is looked up.
          let (_, g) ← g.drop.peek
          let tag ← g.resolveTag handle suffix
          .ok (⟨some name, some tag⟩, t.start, g)
      | _ => .ok (⟨some name, none⟩, t.start, g)
  | .tag handle suffix =>
      let g := g.drop
      let (u, g) ← g.peek
      match u.kind with
      | .anchor name =>
          let (_, g) ← g.drop.peek
          let tag ← g.resolveTag handle suffix
          .ok (⟨some name, some tag⟩, t.start, g)
      | _ =>
          let tag ← g.resolveTag handle suffix
          .ok (⟨none, some tag⟩, t.start, g)
  | _ => .ok (.none, t.start, g)

/-- A node. `block` allows block collections, `indentless` a sequence that is
indented no further than the key it belongs to. -/
def node (g : Grammar) (block indentless : Bool) : Step := do
  let (t, g) ← g.peek
  match t.kind with
  | .alias name => g.drop.sayBack (.alias name) t.start
  | _ =>
      let (p, m, g) ← g.properties
      let (t, g) ← g.peek
      match t.kind with
      | .scalar text plain => g.drop.sayBack (.scalar p text plain) m
      | .flowSequenceStart => g.say (.sequenceStart p) m .flowSequenceFirst
      | .flowMappingStart => g.say (.mappingStart p) m .flowMappingFirst
      | kind =>
          if indentless && kind == .blockEntry then
            g.say (.sequenceStart p) m .indentlessSequence
          else if block && kind == .blockSequenceStart then
            g.say (.sequenceStart p) m .blockSequenceFirst
          else if block && kind == .blockMappingStart then
            g.say (.mappingStart p) m .blockMappingFirst
          else if p.isSome then g.sayBack (.scalar p [] true) m
          else .error .unexpectedToken

/-- The content of a document after its marker. -/
def documentContent (g : Grammar) : Step := do
  let (t, g) ← g.peek
  if isDirective t.kind || t.kind == .documentStart || t.kind == .documentEnd
      || t.kind == .streamEnd then
    g.sayBack .empty t.start
  else g.node true false

/-! ## Block collections -/

/-- An entry of a block sequence, or its end. -/
def blockSequence (g : Grammar) : Step := do
  let (t, g) ← g.peek
  match t.kind with
  | .blockEntry =>
      let (u, g) ← g.drop.peek
      if u.kind == .blockEntry || u.kind == .blockEnd then
        g.say .empty t.stop .blockSequence
      else (g.returnTo .blockSequence).node true false
  | .blockEnd => g.drop.sayBack .sequenceEnd t.start
  | _ => .error .unexpectedToken

/-- Does the token start or end an entry of the mapping around it? -/
def isMappingBoundary (kind : Token.Kind) : Bool :=
  kind == .key || kind == .value || kind == .blockEnd

/-- An entry of a sequence indented no further than its key, or its end. -/
def indentlessSequence (g : Grammar) : Step := do
  let (t, g) ← g.peek
  match t.kind with
  | .blockEntry =>
      let (u, g) ← g.drop.peek
      if u.kind == .blockEntry || isMappingBoundary u.kind then
        g.say .empty t.stop .indentlessSequence
      else (g.returnTo .indentlessSequence).node true false
  | _ => g.sayBack .sequenceEnd t.start

def blockMappingKey (g : Grammar) : Step := do
  let (t, g) ← g.peek
  match t.kind with
  | .key =>
      let (u, g) ← g.drop.peek
      if isMappingBoundary u.kind then g.say .empty t.stop .blockMappingValue
      else (g.returnTo .blockMappingValue).node true true
  | .blockEnd => g.drop.sayBack .mappingEnd t.start
  | _ => .error .unexpectedToken

def blockMappingValue (g : Grammar) : Step := do
  let (t, g) ← g.peek
  match t.kind with
  | .value =>
      let (u, g) ← g.drop.peek
      if isMappingBoundary u.kind then g.say .empty t.stop .blockMappingKey
      else (g.returnTo .blockMappingKey).node true true
  | _ => g.say .empty t.start .blockMappingKey

/-! ## Flow collections -/

/-- Pass over the comma in front of an entry; the first entry has none. -/
def flowSeparator (g : Grammar) (first : Bool) (close : Token.Kind) :
    Except SyntaxFault (Token × Grammar) := do
  let (t, g) ← g.peek
  if first || t.kind == close then .ok (t, g)
  else if t.kind == .flowEntry then g.drop.peek
  else .error .unexpectedToken

/-- An entry of a flow sequence, or its end. An entry with a colon is a mapping of
one pair. -/
def flowSequence (g : Grammar) (first : Bool) : Step := do
  let (t, g) ← g.flowSeparator first .flowSequenceEnd
  match t.kind with
  | .flowSequenceEnd => g.drop.sayBack .sequenceEnd t.start
  | .key => g.drop.say (.mappingStart .none) t.start .flowPairKey
  | _ => (g.returnTo .flowSequence).node false false

/-- The key of a one-pair mapping. A missing key takes the token in its place
along. -/
def flowPairKey (g : Grammar) : Step := do
  let (t, g) ← g.peek
  if t.kind == .value || t.kind == .flowEntry || t.kind == .flowSequenceEnd then
    g.drop.say .empty t.stop .flowPairValue
  else (g.returnTo .flowPairValue).node false false

def flowPairValue (g : Grammar) : Step := do
  let (t, g) ← g.peek
  if t.kind == .value then
    let (u, g) ← g.drop.peek
    if u.kind == .flowEntry || u.kind == .flowSequenceEnd then
      g.say .empty u.start .flowPairEnd
    else (g.returnTo .flowPairEnd).node false false
  else g.say .empty t.start .flowPairEnd

def flowPairEnd (g : Grammar) : Step := do
  let (t, g) ← g.peek
  g.say .mappingEnd t.start .flowSequence

/-- A key of a flow mapping, or its end. A key without a question mark or a colon
has an empty value. -/
def flowMappingKey (g : Grammar) (first : Bool) : Step := do
  let (t, g) ← g.flowSeparator first .flowMappingEnd
  match t.kind with
  | .flowMappingEnd => g.drop.sayBack .mappingEnd t.start
  | .key =>
      let (u, g) ← g.drop.peek
      if u.kind == .value || u.kind == .flowEntry || u.kind == .flowMappingEnd then
        g.say .empty u.start .flowMappingValue
      else (g.returnTo .flowMappingValue).node false false
  | _ => (g.returnTo .flowMappingEmptyValue).node false false

def flowMappingValue (g : Grammar) : Step := do
  let (t, g) ← g.peek
  if t.kind == .value then
    let (u, g) ← g.drop.peek
    if u.kind == .flowEntry || u.kind == .flowMappingEnd then
      g.say .empty u.start .flowMappingKey
    else (g.returnTo .flowMappingKey).node false false
  else g.say .empty t.start .flowMappingKey

def flowMappingEmptyValue (g : Grammar) : Step := do
  let (t, g) ← g.peek
  g.say .empty t.start .flowMappingKey

/-- Take the token that opens the collection the reader is in. -/
def opening (g : Grammar) : Except SyntaxFault Grammar := do
  let (_, g) ← g.peek
  .ok g.drop

/-! ## One step -/

def step (g : Grammar) : Step := do
  match g.place with
  | .streamStart =>
      let (t, g) ← g.peek
      g.drop.say .streamStart t.start .firstDocument
  | .firstDocument => g.documentStart true
  | .document => g.documentStart false
  | .documentContent => g.documentContent
  | .documentEnd => g.documentEnd
  | .blockNode => g.node true false
  | .blockSequenceFirst => (← g.opening).blockSequence
  | .blockSequence => g.blockSequence
  | .indentlessSequence => g.indentlessSequence
  | .blockMappingFirst => (← g.opening).blockMappingKey
  | .blockMappingKey => g.blockMappingKey
  | .blockMappingValue => g.blockMappingValue
  | .flowSequenceFirst => (← g.opening).flowSequence true
  | .flowSequence => g.flowSequence false
  | .flowPairKey => g.flowPairKey
  | .flowPairValue => g.flowPairValue
  | .flowPairEnd => g.flowPairEnd
  | .flowMappingFirst => (← g.opening).flowMappingKey true
  | .flowMappingKey => g.flowMappingKey false
  | .flowMappingValue => g.flowMappingValue
  | .flowMappingEmptyValue => g.flowMappingEmptyValue
  | .done => .error .unexpectedToken

end Grammar

end CredRegistry.Yaml
