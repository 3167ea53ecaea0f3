import CredRegistry.Json.Reader

/-!
# Reading records out of JSON

A record is read from an object field by field, or from an array item by item. It
can be read straight from a text or from a value; the two meet faults in another
order, so a record says how it is read from any `Source`, and `textSource` and
`valueSource` are the two there are.
-/

namespace CredRegistry.Json

/-- A field of a record that is being built: its name, and how its value is taken
in. -/
structure Field (m : Type → Type) (σ : Type) where
  name : String
  take : σ → m σ

/-- What of a record was given: so many items of an array, or these fields of an
object. -/
inductive Given where
  | items (count : Nat)
  | fields (names : List String)

/-- The ways to read a value of each kind. -/
structure Source (m : Type → Type) where
  refuse : {α : Type} → Cause → m α
  string : m String
  /-- An integer between the two bounds, both included. -/
  integer : (low high : Int) → (expected : String) → m Int
  boolean : m Bool
  optional : {α : Type} → m α → m (Option α)
  /-- One of several names. -/
  variant : (names : List String) → m String
  /-- A record with this name, built up from a start and finished at the end. -/
  record : {σ α : Type} → (name : String) → List (Field m σ) → σ → (Given → σ → m α) → m α

/-- What an integer is refused for, if it is not between the bounds. -/
def outOfBounds? (low high : Int) (expected : String) (n : Int) : Option Cause :=
  if low ≤ n ∧ n ≤ high then none else some (.invalidValue (.int n) expected)

/-! ## From a text -/

namespace TextSource

open Reader

/-- Refuse the value at the front of the text, which begins with `c`. -/
def misfit {α : Type} (c : Char) (expected : String) : Reader α :=
  placing do
    match c with
    | 'n' => advance; word "ull".toList; refuse (.invalidType .null expected)
    | 't' => advance; word "rue".toList; refuse (.invalidType (.bool true) expected)
    | 'f' => advance; word "alse".toList; refuse (.invalidType (.bool false) expected)
    | '"' => do
        advance
        let s ← Reader.string
        refuse (.invalidType (.str s) expected)
    | '[' => refuse (.invalidType .seq expected)
    | '\x7b' => refuse (.invalidType .map expected)
    | c =>
        if c == '-' || c.isDigit then do
          if c == '-' then advance
          let n ← number (c == '-')
          refuse (.invalidType n.found expected)
        else failAhead .expectedValue

/-- The character that begins the next value. -/
def begin : Reader Char := do
  match ← peek? with
  | some c => pure c
  | none => failAhead .endInValue

def string (expected : String) : Reader String := do
  let c ← begin
  if c == '"' then do advance; Reader.string else misfit c expected

def integer (low high : Int) (expected : String) : Reader Int := do
  let c ← begin
  if c == '-' || c.isDigit then
    placing do
      if c == '-' then advance
      match ← number (c == '-') with
      | .int n =>
          match outOfBounds? low high expected n with
          | some cause => refuse cause
          | none => pure n
      | .float x => refuse (.invalidType (.float x) expected)
  else misfit c expected

def boolean : Reader Bool := do
  match ← begin with
  | 't' => advance; word "rue".toList; pure true
  | 'f' => advance; word "alse".toList; pure false
  | c => misfit c "a boolean"

def optional {α : Type} (r : Reader α) : Reader (Option α) := do
  match ← peek? with
  | some 'n' => advance; word "ull".toList; pure none
  | _ => some <$> r

def variantName (names : List String) : Reader String := do
  let s ← string "variant identifier"
  if names.contains s then pure s else placing (refuse (.unknownVariant s names))

def unit : Reader Unit := do
  match ← begin with
  | 'n' => advance; word "ull".toList
  | c => misfit c "unit"

/-- One of several names, by itself or as the only key of an object that holds
null. -/
def variant (names : List String) : Reader String := do
  match ← peek? with
  | some '"' => variantName names
  | some '\x7b' =>
      advance
      let s ← variantName names
      colon
      unit
      match ← peek? with
      | some '\x7d' => advance; pure s
      | some _ => failHere .expectedValue
      | none => failHere .endInObject
  | some _ => failAhead .expectedValue
  | none => failAhead .endInValue

/-- The fields of an object. Fields that the record does not have are passed
over. -/
def fields {σ : Type} (fs : List (Field Reader σ)) :
    Nat → Bool → List String → σ → Reader (σ × List String)
  | 0, _, _, _ => failAhead .expectedValue
  | fuel + 1, first, seen, s => do
      match ← nextKey first with
      | none => pure (s, seen)
      | some k =>
          match fs.find? (·.name == k) with
          | none =>
              colon
              skip
              fields fs fuel false seen s
          | some f =>
              if seen.contains k then refuse (.duplicateField k)
              else
                colon
                let s ← f.take s
                fields fs fuel false (k :: seen) s

/-- The fields of a record that are given in order; `count` have been. -/
def positional {σ : Type} : List (Field Reader σ) → Nat → σ → Reader (σ × Nat)
  | [], count, s => pure (s, count)
  | f :: fs, count, s => do
      if ← nextItem (count == 0) then
        let s ← f.take s
        positional fs (count + 1) s
      else pure (s, count)

def record {σ α : Type} (name : String) (fs : List (Field Reader σ)) (start : σ)
    (finish : Given → σ → Reader α) : Reader α := do
  match ← begin with
  | '[' => placing do
      advance
      before (do
        let (s, count) ← positional fs 0 start
        finish (.items count) s) endItems
  | '\x7b' => placing do
      advance
      before (do
        let (s, seen) ← fields fs ((← rest).length + 1) true [] start
        finish (.fields seen) s) endFields
  | c => misfit c name

/-! ### Objects without fixed fields -/

/-- The fields of an object that are taken in as they come, a second one with the
same name like the first. What `take` does not know is passed over. -/
def entries {σ : Type} (take : String → Option (σ → Reader σ)) : Nat → Bool → σ → Reader σ
  | 0, _, _ => failAhead .expectedValue
  | fuel + 1, first, s => do
      match ← nextKey first with
      | none => pure s
      | some k =>
          colon
          match take k with
          | none =>
              skip
              entries take fuel false s
          | some field =>
              let s ← field s
              entries take fuel false s

/-- An object whose fields are taken in as they come. -/
def object {σ : Type} (name : String) (take : String → Option (σ → Reader σ)) (start : σ) :
    Reader σ := do
  match ← begin with
  | '\x7b' => placing do
      advance
      before (do entries take ((← rest).length + 1) true start) endFields
  | c => misfit c name

def dict {α : Type} (r : Reader α) : Reader (Dict α) :=
  object "a map" (fun k => some fun d => do
    let v ← r
    pure (d.insert k v)) ∅

def items {α : Type} (r : Reader α) : Nat → Bool → Reader (List α)
  | 0, _ => failAhead .expectedValue
  | fuel + 1, first => do
      if ← nextItem first then
        let v ← r
        let vs ← items r fuel false
        pure (v :: vs)
      else pure []

def list {α : Type} (r : Reader α) : Reader (List α) := do
  match ← begin with
  | '[' => placing do
      advance
      before (do items r ((← rest).length + 1) true) endItems
  | c => misfit c "a sequence"

end TextSource

def textSource : Source Reader where
  refuse := Reader.refuse
  string := TextSource.string "a string"
  integer := TextSource.integer
  boolean := TextSource.boolean
  optional := TextSource.optional
  variant := TextSource.variant
  record := TextSource.record

/-! ## From a value -/

abbrev ValueReader := ReaderT Value (Except Cause)

namespace ValueSource

def misfit {α : Type} (v : Value) (expected : String) : Except Cause α :=
  .error (.invalidType v.found expected)

def string : ValueReader String
  | .str s => .ok s
  | v => misfit v "a string"

def integer (low high : Int) (expected : String) : ValueReader Int
  | .int n =>
      match outOfBounds? low high expected n with
      | some cause => .error cause
      | none => .ok n
  | v => misfit v expected

def boolean : ValueReader Bool
  | .bool b => .ok b
  | v => misfit v "a boolean"

def optional {α : Type} (r : ValueReader α) : ValueReader (Option α)
  | .null => .ok none
  | v => some <$> r v

/-- One of several names, by itself or as the only key of an object that holds
null. -/
def variant (names : List String) : ValueReader String
  | .str s => known s
  | .object [(s, v)] => do
      let s ← known s
      match v with
      | .null => .ok s
      | v => misfit v "unit"
  | .object _ => .error (.invalidValue .map "map with a single key")
  | v => misfit v "string or map"
where
  /-- A name that is one of them. -/
  known (s : String) : Except Cause String :=
    if names.contains s then .ok s else .error (.unknownVariant s names)

/-- The fields of an object. Fields that the record does not have are passed
over. -/
def fields {σ : Type} (fs : List (Field ValueReader σ)) :
    List (String × Value) → List String → σ → Except Cause (σ × List String)
  | [], seen, s => .ok (s, seen)
  | (k, v) :: rest, seen, s =>
      match fs.find? (·.name == k) with
      | none => fields fs rest seen s
      | some f =>
          if seen.contains k then .error (.duplicateField k)
          else do
            let s ← f.take s v
            fields fs rest (k :: seen) s

/-- The fields of a record that are given in order, and the items behind them. -/
def positional {σ : Type} : List (Field ValueReader σ) → List Value → σ →
    Except Cause (σ × List Value)
  | f :: fs, v :: vs, s => do
      let s ← f.take s v
      positional fs vs s
  | _, vs, s => .ok (s, vs)

def record {σ α : Type} (name : String) (fs : List (Field ValueReader σ)) (start : σ)
    (finish : Given → σ → ValueReader α) : ValueReader α
  | .object given => do
      let (s, seen) ← fields fs given [] start
      finish (.fields seen) s (.object given)
  | .array items => do
      let (s, more) ← positional fs items start
      let a ← finish (.items (items.length - more.length)) s (.array items)
      if more.isEmpty then .ok a
      else .error (.invalidLength items.length "fewer elements in array")
  | v => misfit v name

end ValueSource

def valueSource : Source ValueReader where
  refuse c _ := .error c
  string := ValueSource.string
  integer := ValueSource.integer
  boolean := ValueSource.boolean
  optional := ValueSource.optional
  variant := ValueSource.variant
  record := ValueSource.record

def fromValue {α : Type} (r : ValueReader α) (v : Value) : Except Error α :=
  match r v with
  | .ok a => .ok a
  | .error cause => .error ⟨cause, none⟩

end CredRegistry.Json
