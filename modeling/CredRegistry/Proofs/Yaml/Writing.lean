import CredRegistry.Yaml.Writer
import CredRegistry.Text.Blank

/-!
# Which values can be written

Untagged values fail to be written for one reason only: a mapping of a single entry
whose key is itself a mapping of a single entry. `writeFault?_of_untagged` says so, for
a value of any depth.

`not_blank_of_write_seq` says that the text of a sequence is never blank, whatever the
items. A pen only ever adds to what it has written, so the dash in front of the first
item is still there at the end.
-/

namespace CredRegistry.Yaml

open CredRegistry.Text

namespace Value

/-! ## Values without tags -/

mutual

def isUntagged : Value → Bool
  | .seq items => itemsUntagged items
  | .map pairs => pairsUntagged pairs
  | .tagged _ _ => false
  | _ => true

def itemsUntagged : List Value → Bool
  | [] => true
  | v :: vs => isUntagged v && itemsUntagged vs

def pairsUntagged : List (Value × Value) → Bool
  | [] => true
  | (k, v) :: pairs => (isUntagged k && isUntagged v) && pairsUntagged pairs

end

theorem itemsUntagged_iff {vs : List Value} :
    itemsUntagged vs = true ↔ ∀ v ∈ vs, v.isUntagged = true := by
  induction vs with
  | nil => simp [itemsUntagged]
  | cons v vs ih => simp [itemsUntagged, ih]

theorem pairsUntagged_iff {pairs : List (Value × Value)} :
    pairsUntagged pairs = true ↔
      ∀ p ∈ pairs, p.1.isUntagged = true ∧ p.2.isUntagged = true := by
  induction pairs with
  | nil => simp [pairsUntagged]
  | cons p pairs ih =>
      obtain ⟨k, v⟩ := p
      simp [pairsUntagged, ih]

/-! ## Single entries under single entries -/

def isSingle : Value → Bool
  | .map [_] => true
  | _ => false

/-- Is the only key, if there is just one, a mapping of a single entry? -/
def singleUnderSingle : List (Value × Value) → Bool
  | [(k, _)] => k.isSingle
  | _ => false

mutual

/-- Does a mapping of a single entry stand somewhere in the value as the only key of a
mapping? -/
def nestsSingle : Value → Bool
  | .seq items => itemsNestSingle items
  | .map pairs => pairsNestSingle pairs || singleUnderSingle pairs
  | .tagged _ v => nestsSingle v
  | _ => false

def itemsNestSingle : List Value → Bool
  | [] => false
  | v :: vs => nestsSingle v || itemsNestSingle vs

def pairsNestSingle : List (Value × Value) → Bool
  | [] => false
  | (k, v) :: pairs => (nestsSingle k || nestsSingle v) || pairsNestSingle pairs

end

end Value

/-- The fault of a value that nests single entries, if `b` says that it does. -/
def singleFault? (b : Bool) : Option Error :=
  if b then some (.malformed .unexpectedToken) else none

theorem singleFault?_or (a b : Bool) :
    (singleFault? a).or (singleFault? b) = singleFault? (a || b) := by
  cases a <;> rfl

theorem isSinglet_of_untagged {v : Value} (h : v.isUntagged = true) :
    isSinglet v = v.isSingle := by
  cases v with
  | map pairs =>
      rcases pairs with _ | ⟨p, _ | ⟨q, pairs⟩⟩ <;> rfl
  | tagged t v => simp [Value.isUntagged] at h
  | _ => rfl

mutual

theorem writeFault?_of_untagged : ∀ {v : Value}, v.isUntagged = true →
    writeFault? false v = singleFault? v.nestsSingle
  | .null, _ => rfl
  | .bool _, _ => rfl
  | .int _, _ => rfl
  | .float _, _ => rfl
  | .str _, _ => rfl
  | .seq items, h => itemsFault?_of_untagged h
  | .map pairs, h => by
      have hpairs : pairsFault? pairs = singleFault? (Value.pairsNestSingle pairs) :=
        pairsFault?_of_untagged h
      rw [Value.nestsSingle, ← singleFault?_or, ← hpairs]
      -- Only a mapping of a single entry can have a fault of its own.
      rcases pairs with _ | ⟨⟨k, v⟩, _ | ⟨q, pairs⟩⟩
      · rfl
      · have hk : k.isUntagged = true := (Value.pairsUntagged_iff.mp h (k, v) (by simp)).1
        rw [writeFault?, isSinglet_of_untagged hk]
        rfl
      · rfl
  | .tagged _ _, h => by simp [Value.isUntagged] at h

theorem itemsFault?_of_untagged : ∀ {vs : List Value}, Value.itemsUntagged vs = true →
    itemsFault? vs = singleFault? (Value.itemsNestSingle vs)
  | [], _ => rfl
  | v :: vs, h => by
      obtain ⟨hv, hvs⟩ := Bool.and_eq_true_iff.mp h
      rw [itemsFault?, writeFault?_of_untagged hv, itemsFault?_of_untagged hvs, singleFault?_or]
      rfl

theorem pairsFault?_of_untagged : ∀ {pairs : List (Value × Value)},
    Value.pairsUntagged pairs = true →
      pairsFault? pairs = singleFault? (Value.pairsNestSingle pairs)
  | [], _ => rfl
  | (k, v) :: pairs, h => by
      obtain ⟨hkv, hpairs⟩ := Bool.and_eq_true_iff.mp h
      obtain ⟨hk, hv⟩ := Bool.and_eq_true_iff.mp hkv
      rw [pairsFault?, writeFault?_of_untagged hk, writeFault?_of_untagged hv,
        pairsFault?_of_untagged hpairs, singleFault?_or, singleFault?_or]
      rfl

end

/-- An untagged value is written unless it nests single entries, and then the fault is
always the same. -/
theorem write_of_untagged {v : Value} (h : v.isUntagged = true) :
    write v = if v.nestsSingle then .error (.malformed .unexpectedToken)
      else .ok ((writeValue ⟨none, false, false⟩ .start v).indentTo 0).text := by
  unfold write
  rw [writeFault?_of_untagged h]
  cases v.nestsSingle <;> rfl

/-! ## A pen keeps what it has written -/

namespace Pen

/-- Whatever was written stays there. -/
def Extends (p q : Pen) : Prop := p.written ⊆ q.written

theorem Extends.refl (p : Pen) : p.Extends p := List.Subset.refl _

theorem Extends.trans {p q r : Pen} (h : p.Extends q) (h' : q.Extends r) : p.Extends r :=
  List.Subset.trans h h'

theorem extends_put (p : Pen) (c : Char) : p.Extends (p.put c) := List.subset_cons_self ..

theorem extends_putBreak (p : Pen) (c : Char) : p.Extends (p.putBreak c) :=
  List.subset_cons_self ..

theorem extends_puts (cs : List Char) : ∀ (p : Pen), p.Extends (p.puts cs) := by
  induction cs with
  | nil => exact fun p => Extends.refl _
  | cons c cs ih => exact fun p => (extends_put p c).trans (ih (p.put c))

theorem extends_gap (p : Pen) : p.Extends p.gap := by
  unfold gap
  split
  · exact Extends.refl _
  · exact extends_put p ' '

theorem extends_indentTo (p : Pen) (n : Nat) : p.Extends (p.indentTo n) := by
  unfold indentTo
  split
  · exact (extends_putBreak p '\n').trans (extends_puts _ _)
  · exact extends_puts _ _

theorem extends_marker (p : Pen) (c : Char) : p.Extends (p.marker c) :=
  (extends_gap p).trans (extends_put _ c)

theorem extends_suffix (p : Pen) (cs : List Char) : p.Extends (p.suffix cs) :=
  extends_puts cs p

theorem extends_separate (p : Pen) (cs : List Char) : p.Extends (p.separate cs) :=
  (extends_gap p).trans (extends_puts cs _)

theorem extends_singleQuotedBody (indent : Nat) (cs : List Char) :
    ∀ (broken : Bool) (p : Pen),
      p.Extends (singleQuotedBody indent broken cs p) := by
  induction cs with
  | nil =>
      intro broken p
      unfold singleQuotedBody
      split
      · exact extends_indentTo p indent
      · exact Extends.refl _
  | cons c cs ih =>
      intro broken p
      unfold singleQuotedBody
      split
      · exact (extends_put p c).trans (ih ..)
      · split
        · exact (extends_putBreak p c).trans (ih true { p.putBreak c with inIndent := true })
        · have hbroken : p.Extends (if broken then p.indentTo indent else p) := by
            split
            · exact extends_indentTo p indent
            · exact Extends.refl _
          have hquote (q : Pen) : q.Extends (if c == '\'' then q.put c else q) := by
            split
            · exact extends_put q c
            · exact Extends.refl _
          refine Extends.trans ?_ (ih false _)
          exact hbroken.trans ((hquote _).trans (extends_put _ c))

theorem extends_literalBody (indent : Nat) (cs : List Char) :
    ∀ (broken : Bool) (p : Pen), p.Extends (literalBody indent broken cs p) := by
  induction cs with
  | nil => exact fun broken p => Extends.refl _
  | cons c cs ih =>
      intro broken p
      unfold literalBody
      split
      · exact (extends_putBreak p c).trans (ih true { p.putBreak c with inIndent := true })
      · have hbroken : p.Extends (if broken then p.indentTo indent else p) := by
          split
          · exact extends_indentTo p indent
          · exact Extends.refl _
        refine Extends.trans ?_ (ih false _)
        exact hbroken.trans (extends_put _ c)

theorem extends_scalar (p : Pen) (indent : Nat) (style : ScalarStyle) (cs : List Char) :
    p.Extends (p.scalar indent style cs) := by
  cases style with
  | plain =>
      have hgap : p.Extends (if cs.isEmpty then p else p.gap) := by
        split
        · exact Extends.refl _
        · exact extends_gap p
      exact hgap.trans (extends_puts cs _)
  | singleQuoted =>
      exact (extends_separate p _).trans
        ((extends_singleQuotedBody indent cs false _).trans (extends_suffix _ _))
  | doubleQuoted => exact (extends_separate p _).trans (extends_suffix _ _)
  | literal =>
      refine Extends.trans ?_ (extends_literalBody indent cs true _)
      exact (extends_separate p _).trans (extends_putBreak _ '\n')

end Pen

mutual

theorem extends_writeValue : ∀ (slot : Slot) (p : Pen) (v : Value),
    p.Extends (writeValue slot p v)
  | slot, p, .tagged t v =>
      (Pen.extends_separate p _).trans (extends_writeValue slot (p.separate (tagMarkup t)) v)
  | _, p, .seq [] => Pen.extends_separate p _
  | _, p, .map [] => Pen.extends_separate p _
  | _, p, .seq (v :: vs) => extends_writeItems _ p (v :: vs)
  | slot, p, .map (kv :: pairs) => extends_writePairs (deeper slot.outer) p (kv :: pairs)
  | _, p, .null => Pen.extends_scalar p ..
  | _, p, .bool _ => Pen.extends_scalar p ..
  | _, p, .int _ => Pen.extends_scalar p ..
  | _, p, .float _ => Pen.extends_scalar p ..
  | _, p, .str _ => Pen.extends_scalar p ..

theorem extends_writeItems : ∀ (column : Nat) (p : Pen) (vs : List Value),
    p.Extends (writeItems column p vs)
  | _, _, [] => Pen.Extends.refl _
  | column, p, v :: vs =>
      (Pen.extends_indentTo p column).trans <| (Pen.extends_marker _ '-').trans <|
        (extends_writeValue _ _ v).trans (extends_writeItems column _ vs)

theorem extends_writePairs : ∀ (column : Nat) (p : Pen) (pairs : List (Value × Value)),
    p.Extends (writePairs column p pairs)
  | _, _, [] => Pen.Extends.refl _
  | column, p, (k, v) :: pairs => by
      refine Pen.Extends.trans ?_ (extends_writePairs column _ pairs)
      refine Pen.Extends.trans ?_ (extends_writeValue _ _ v)
      refine (Pen.extends_indentTo p column).trans ?_
      split
      · exact (extends_writeValue _ _ k).trans (Pen.extends_suffix _ _)
      · exact (Pen.extends_marker _ '?').trans <| (extends_writeValue _ _ k).trans <|
          (Pen.extends_indentTo _ column).trans (Pen.extends_marker _ ':')

end

/-- The text of a sequence holds a dash or, if there are no items, a bracket. -/
theorem not_blank_of_write_seq {items : List Value} {text : String}
    (h : write (.seq items) = .ok text) : isBlankText text = false := by
  have hmark : ∃ c ∈ text.toList, isBlank c = false := by
    unfold write at h
    split at h
    · cases h
    · cases h
      simp only [Pen.text, String.toList_ofList, List.mem_reverse]
      cases items with
      | nil => exact ⟨'[', by decide, by decide⟩
      | cons v vs =>
          refine ⟨'-', Pen.extends_indentTo _ 0 ?_, by decide⟩
          refine extends_writeItems _ _ vs (extends_writeValue _ _ v ?_)
          exact List.mem_cons_self ..
  obtain ⟨c, hc, hb⟩ := hmark
  rw [isBlankText, Bool.eq_false_iff]
  intro hall
  rw [List.all_eq_true.mp hall c hc] at hb
  cases hb

end CredRegistry.Yaml
