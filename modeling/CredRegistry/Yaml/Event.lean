import CredRegistry.Yaml.Token

/-!
# YAML events

The structure of a YAML stream, one event at a time: where documents,
collections and scalars start and end.
-/

namespace CredRegistry.Yaml

/-- What a node says of itself before its content. -/
structure NodeProperties where
  anchor : Option (List Char)
  tag : Option TagText
deriving Repr, DecidableEq

namespace NodeProperties

def none : NodeProperties := ⟨Option.none, Option.none⟩

def isSome (p : NodeProperties) : Bool := p.anchor.isSome || p.tag.isSome

end NodeProperties

/-- One step in the structure of a stream. -/
inductive Event where
  | streamStart
  | streamEnd
  | documentStart
  | documentEnd
  | alias (name : List Char)
  /-- `plain` is false for a scalar in quotes or in a block. -/
  | scalar (properties : NodeProperties) (text : List Char) (plain : Bool)
  | sequenceStart (properties : NodeProperties)
  | sequenceEnd
  | mappingStart (properties : NodeProperties)
  | mappingEnd
deriving Repr, DecidableEq

def Event.empty : Event := .scalar .none [] true

/-- An event and where it starts. -/
structure MarkedEvent where
  event : Event
  mark : Mark
deriving Repr, DecidableEq

end CredRegistry.Yaml
