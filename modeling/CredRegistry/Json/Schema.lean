import CredRegistry.Json.Error

/-!
# Schemas of JSON values

A schema says of which type a value is, and of an object which fields it may and
must have. A value fits a schema if the schema has no fault to find with it; all
faults are found, in the order of the fields.
-/

namespace CredRegistry.Json

/-- What a value may be. -/
inductive Schema where
  /-- A string of at least so many characters; one of the options, if there are any
  given. -/
  | string (options : Option (List String)) (least : Nat)
  | boolean
  /-- An object with these fields and no others; the required ones are there. -/
  | object (required : List String) (fields : List (String × Schema))

/-- What is wrong with a value. -/
inductive SchemaFault where
  | notOneOf (v : Value) (options : List String)
  | tooShort (s : String) (least : Nat)
  | wrongType (v : Value) (expected : String)
  | unexpectedFields (names : List String)
  | missingField (name : String)
deriving Repr

def SchemaFault.message : SchemaFault → String
  | .notOneOf v options => s!"{v.text} is not one of {(Value.array (options.map .str)).text}"
  | .tooShort s least =>
      let unit := if least == 1 then "character" else "characters"
      s!"{(Value.str s).text} is shorter than {least} {unit}"
  | .wrongType v expected => s!"{v.text} is not of type {(Value.str expected).text}"
  | .unexpectedFields names =>
      let listed := ", ".intercalate (names.map fun n => s!"'{n}'")
      let verb := if names.length == 1 then "was" else "were"
      s!"Additional properties are not allowed ({listed} {verb} unexpected)"
  | .missingField name => s!"{(Value.str name).text} is a required property"

namespace Schema

def optionFaults (v : Value) : Option (List String) → List SchemaFault
  | none => []
  | some options =>
      match v with
      | .str s => if options.contains s then [] else [.notOneOf v options]
      | _ => [.notOneOf v options]

/-- The faults of a value that has to be a string. -/
def stringFaults (options : Option (List String)) (least : Nat) (v : Value) :
    List SchemaFault :=
  optionFaults v options ++
    match v with
    | .str s => if s.length < least then [.tooShort s least] else []
    | v => [.wrongType v "string"]

def missingFaults (required : List String) (given : List (String × Value)) :
    List SchemaFault :=
  (required.filter fun name => (lookup name given).isNone).map .missingField

/-- Of the given fields, those that have no schema. -/
def unexpectedFaults (known : List String) (given : List (String × Value)) :
    List SchemaFault :=
  match (given.map (·.1)).filter fun name => !known.contains name with
  | [] => []
  | names => [.unexpectedFields names]

mutual

/-- What is wrong with a value: in an object first the fields one by one, then those
that are too many, then those that are missing. -/
def faults : Schema → Value → List SchemaFault
  | .string options least, v => stringFaults options least v
  | .boolean, v =>
      match v with
      | .bool _ => []
      | v => [.wrongType v "boolean"]
  | .object required fields, v =>
      match v with
      | .object given =>
          given.flatMap (fun (name, v) => fieldFaults fields name v)
            ++ unexpectedFaults (fields.map (·.1)) given ++ missingFaults required given
      | v => [.wrongType v "object"]

/-- What is wrong with the value of the field `name`. -/
def fieldFaults : List (String × Schema) → String → Value → List SchemaFault
  | [], _, _ => []
  | (known, schema) :: fields, name, v =>
      if known = name then schema.faults v else fieldFaults fields name v

end

end Schema

end CredRegistry.Json
