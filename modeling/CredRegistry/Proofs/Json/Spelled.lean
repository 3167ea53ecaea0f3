import CredRegistry.Proofs.Json.Lookup
import CredRegistry.Proofs.Json.Reading

/-!
# Objects that name a field more than once

A text can spell an object in which a name comes several times. `Reader.spelled` takes down all
fields as they stand there, and `Value.settled` keeps the last of each name, at every level.
Reading a value is one after the other (`Value.ofText_eq`), so no name comes twice in what is read
(`Value.IsSettled`).
-/

namespace CredRegistry.Json

namespace Value

mutual

/-- The value with the last of several fields of one name, in key order. -/
def settled : Value → Value
  | .array items => .array (settledItems items)
  | .object fields => .ofFields (settledFields fields)
  | .null => .null
  | .bool b => .bool b
  | .int n => .int n
  | .float x => .float x
  | .str s => .str s

def settledItems : List Value → List Value
  | [] => []
  | v :: vs => v.settled :: settledItems vs

def settledFields : List (String × Value) → List (String × Value)
  | [] => []
  | (k, v) :: fields => (k, v.settled) :: settledFields fields

end

end Value

namespace Reader

/-- A number that begins with this character. -/
def numeral (c : Char) : Reader Value := do
  if c == '-' || c.isDigit then
    if c == '-' then advance
    match ← number (c == '-') with
    | .int n => pure (.int n)
    | .float x => pure (.float x)
  else failAhead .expectedValue

/-- A value that begins with this character; `array` and `object` read one that begins with an
opening bracket. -/
def valueBy (array object : Reader Value) : Option Char → Reader Value
  | none => failAhead .endInValue
  | some 'n' => do advance; word "ull".toList; pure .null
  | some 't' => do advance; word "rue".toList; pure (.bool true)
  | some 'f' => do advance; word "alse".toList; pure (.bool false)
  | some '"' => do advance; .str <$> string
  | some '[' => array
  | some '\x7b' => object
  | some c => numeral c

mutual

/-- A value with all the fields that its text spells, in their order. -/
def spelledWithin : Nat → Nat → Reader Value
  | 0, _ => failAhead .expectedValue
  | fuel + 1, depth => do
      valueBy
        (if depth ≤ 1 then failAhead .tooDeep
        else do
          advance
          .array <$> before (spelledItems fuel (depth - 1) true) endItems)
        (if depth ≤ 1 then failAhead .tooDeep
        else do
          advance
          .object <$> before (spelledFields fuel (depth - 1) true) endFields)
        (← peek?)

def spelledItems : Nat → Nat → Bool → Reader (List Value)
  | 0, _, _ => failAhead .expectedValue
  | fuel + 1, depth, first => do
      if ← nextItem first then
        let v ← spelledWithin fuel depth
        let vs ← spelledItems fuel depth false
        pure (v :: vs)
      else pure []

def spelledFields : Nat → Nat → Bool → Reader (List (String × Value))
  | 0, _, _ => failAhead .expectedValue
  | fuel + 1, depth, first => do
      match ← nextKey first with
      | some k =>
          colon
          let v ← spelledWithin fuel depth
          let fields ← spelledFields fuel depth false
          pure ((k, v) :: fields)
      | none => pure []

end

/-- The value that a text spells, as `Reader.value` reads it. -/
def spelled (depth : Nat) : Reader Value := do
  spelledWithin (2 * (← rest).length + 2) depth

/-! ## Settling what was spelled -/

variable {α β : Type}

theorem run_map (f : α → β) (r : Reader α) (cs : List Char) :
    (f <$> r).run.run cs = ((r.run.run cs).1.map f, (r.run.run cs).2) := by
  have hmap : f <$> r = r >>= fun a => pure (f a) := rfl
  rw [hmap, run_bind]
  rcases r.run.run cs with ⟨outcome, cs'⟩
  cases outcome <;> rfl

theorem map_before (f : α → β) (r : Reader α) (after : Reader Unit) :
    before (f <$> r) after = f <$> before r after := by
  funext cs
  change (before (f <$> r) after).run.run cs = (f <$> before r after).run.run cs
  simp only [before, run_bind, run_attempt, run_map]
  rcases r.run.run cs with ⟨outcome, cs'⟩
  rcases after.run.run cs' with ⟨ending, cs''⟩
  cases outcome <;> cases ending <;> rfl

theorem valueWithin_succ (fuel depth : Nat) :
    valueWithin (fuel + 1) depth = peek? >>= valueBy
      (if depth ≤ 1 then failAhead .tooDeep
      else do
        advance
        .array <$> before (itemsWithin fuel (depth - 1) true) endItems)
      (if depth ≤ 1 then failAhead .tooDeep
      else do
        advance
        .ofFields <$> before (fieldsWithin fuel (depth - 1) true) endFields) :=
  rfl

theorem map_numeral (c : Char) : Value.settled <$> numeral c = numeral c := by
  have hnumber (n : Number) : Value.settled <$> (match n with
      | .int n => pure (.int n)
      | .float x => pure (.float x) : Reader Value) = match n with
      | .int n => pure (.int n)
      | .float x => pure (.float x) := by
    cases n <;> rfl
  unfold numeral
  split
  · split <;> simp only [map_bind, hnumber]
  · rfl

theorem map_valueBy (array object : Reader Value) (c? : Option Char) :
    Value.settled <$> valueBy array object c?
      = valueBy (Value.settled <$> array) (Value.settled <$> object) c? := by
  fun_cases valueBy array object c?
  case case1 => rfl
  case case5 => simp only [valueBy, map_bind, Functor.map_map, Value.settled]
  case case6 => rfl
  case case7 => rfl
  case case8 => rw [map_numeral, valueBy] <;> assumption
  all_goals simp only [valueBy, map_bind, map_pure, Value.settled]

/-- Reading a value is settling what its text spells. -/
theorem within_eq (fuel : Nat) : ∀ depth,
    valueWithin fuel depth = Value.settled <$> spelledWithin fuel depth ∧ ∀ first,
      itemsWithin fuel depth first = Value.settledItems <$> spelledItems fuel depth first ∧
      fieldsWithin fuel depth first = Value.settledFields <$> spelledFields fuel depth first := by
  induction fuel with
  | zero =>
      intro depth
      exact ⟨rfl, fun _ => ⟨rfl, rfl⟩⟩
  | succ fuel ih =>
      intro depth
      obtain ⟨hvalue, hbehind⟩ := ih depth
      obtain ⟨hitems, hfields⟩ := (ih (depth - 1)).2 true
      refine ⟨?_, fun first => ⟨?_, ?_⟩⟩
      · rw [valueWithin_succ, spelledWithin, map_bind]
        refine bind_congr fun c? => ?_
        rw [map_valueBy, hitems, hfields, map_before, map_before]
        congr 1
        · split
          · rfl
          · simp only [map_bind, Functor.map_map, Value.settled]
        · split
          · rfl
          · simp only [map_bind, Functor.map_map, Value.settled]
      · rw [itemsWithin, spelledItems, map_bind]
        refine bind_congr fun more => ?_
        cases more with
        | false => rfl
        | true =>
            simp only [if_true, map_bind, map_pure, bind_map_left, hvalue, (hbehind false).1,
              Value.settledItems]
      · rw [fieldsWithin, spelledFields, map_bind]
        refine bind_congr fun k? => ?_
        cases k? with
        | none => rfl
        | some k =>
            simp only [map_bind, map_pure, bind_map_left, hvalue, (hbehind false).2,
              Value.settledFields]

theorem value_eq (depth : Nat) : value depth = Value.settled <$> spelled depth := by
  simp only [value, spelled, map_bind, (within_eq _ depth).1]

end Reader

/-! ## Whole texts -/

theorem read_map {α β : Type} (text : String) (f : α → β) (r : Reader α) :
    read text (f <$> r) = (read text r).map f := by
  unfold read
  simp only [Reader.run_bind, Reader.run_map]
  rcases r.run.run text.toList with ⟨outcome, rest⟩
  cases outcome with
  | error e => rfl
  | ok a =>
      simp only [Except.map]
      rcases Reader.peek?.run.run rest with ⟨ahead, rest⟩
      cases ahead with
      | error e => rfl
      | ok c? => cases c? <;> rfl

namespace Value

/-- The value that a text spells, with all the fields that its objects have there. -/
def ofSpelling (text : String) : Except Error Value :=
  read text (Reader.spelled Reader.depthLimit)

theorem ofText_eq (text : String) : ofText text = (ofSpelling text).map settled := by
  rw [ofText, Reader.value_eq, read_map]
  rfl

theorem exists_settled {text : String} {v : Value} (h : ofText text = .ok v) :
    ∃ w, ofSpelling text = .ok w ∧ v = w.settled := by
  rw [ofText_eq] at h
  cases hspelled : ofSpelling text with
  | error e =>
      rw [hspelled] at h
      cases h
  | ok w =>
      rw [hspelled] at h
      cases h
      exact ⟨w, rfl, rfl⟩

theorem settledFields_eq_map (fields : List (String × Value)) :
    settledFields fields = fields.map fun f => (f.1, f.2.settled) := by
  induction fields with
  | nil => rfl
  | cons f fields ih => rw [settledFields, ih, List.map_cons]

theorem lookup_settledFields (name : String) (fields : List (String × Value)) :
    lookup name (settledFields fields) = (lookup name fields).map settled := by
  induction fields with
  | nil => rfl
  | cons f fields ih =>
      rw [settledFields, lookup_cons, lookup_cons, ih]
      split <;> rfl

/-- The field that counts is the last one of its name. -/
theorem field?_settled (name : String) (fields : List (String × Value)) :
    (settled (.object fields)).field? name = (lookup name fields.reverse).map settled := by
  rw [settled, ofFields, field?, lookup_ofFields rfl, settledFields_eq_map, ← List.map_reverse,
    ← settledFields_eq_map, lookup_settledFields]

/-- Has the value only the last of several fields of one name? -/
def IsSettled (v : Value) : Prop := ∃ w : Value, v = w.settled

theorem isSettled_ofText {text : String} {v : Value} (h : ofText text = .ok v) : v.IsSettled := by
  obtain ⟨w, -, hv⟩ := exists_settled h
  exact ⟨w, hv⟩

/-- In an object that is settled no name comes twice, and its fields are settled as well. -/
theorem IsSettled.fields {given : List (String × Value)} (h : (object given).IsSettled) :
    (given.map (·.1)).Nodup ∧ ∀ f ∈ given, f.2.IsSettled := by
  obtain ⟨v, hv⟩ := h
  cases v with
  | object fields =>
      rw [settled] at hv
      refine ⟨nodup_ofFields hv.symm, fun f hf => ?_⟩
      cases hv
      have hmem := Dict.mem_of_mem_ofList hf
      rw [settledFields_eq_map] at hmem
      obtain ⟨g, -, rfl⟩ := List.mem_map.mp hmem
      exact ⟨g.2, rfl⟩
  | _ => cases hv

end Value

end CredRegistry.Json
