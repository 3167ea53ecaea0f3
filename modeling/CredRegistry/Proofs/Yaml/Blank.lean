import CredRegistry.Proofs.Yaml.Untyped
import CredRegistry.Text.Blank

/-!
# Texts of white space

A text of nothing but white space may be no document, or a scalar: YAML knows fewer blanks than
Unicode. A collection it is never (`not_blank_of_view`), so whoever takes such a text for an empty
list passes nothing over.

The argument goes up the layers of the reader, one invariant for each: a lexer that has only blanks
before it makes no token but scalars and the ends of the stream (`Lexer.Idle`), a grammar on top of
it opens no collection (`Grammar.Idle`), and a builder that is given no collection holds none.
-/

namespace CredRegistry.Yaml

open CredRegistry.Text

theorem bind_eq_ok {ε α β : Type} {x : Except ε α} {f : α → Except ε β} {b : β} :
    (x >>= f) = .ok b ↔ ∃ a, x = .ok a ∧ f a = .ok b := by
  cases x <;> simp [bind, Except.bind]

/-! ## Glyphs -/

def AllBlank (gs : List Glyph) : Prop := ∀ g ∈ gs, isBlank g.char = true

theorem AllBlank.suffix {gs rest : List Glyph} (h : AllBlank gs) (hrest : rest <:+ gs) :
    AllBlank rest := fun g hg => h g (hrest.subset hg)

theorem allBlank_ofListAt (cs : List Char) (m : Mark) (h : ∀ c ∈ cs, isBlank c = true) :
    AllBlank (MarkedText.ofListAt cs m).glyphs := by
  have hcons {g : Glyph} {gs : List Glyph} (hg : isBlank g.char = true) (hgs : AllBlank gs) :
      AllBlank (g :: gs) := List.forall_mem_cons.mpr ⟨hg, hgs⟩
  fun_induction MarkedText.ofListAt cs m with
  | case1 => exact fun g hg => absurd hg List.not_mem_nil
  | case2 cs m t ih =>
      exact hcons rfl (ih fun c hc => h c (List.mem_cons_of_mem _ (List.mem_cons_of_mem _ hc)))
  | case3 c cs m _ _ t ih =>
      exact hcons (h c List.mem_cons_self) (ih fun c hc => h c (List.mem_cons_of_mem _ hc))
  | case4 c cs m _ _ _ t ih => exact hcons rfl (ih fun c hc => h c (List.mem_cons_of_mem _ hc))
  | case5 c cs m _ _ _ t ih =>
      exact hcons (h c List.mem_cons_self) (ih fun c hc => h c (List.mem_cons_of_mem _ hc))

/-- What is read of a text is part of it. -/
theorem mem_readablePart {c : Char} {cs : List Char} (h : c ∈ (Document.readablePart cs).1) :
    c ∈ cs := by
  have hgo : ∀ (cs done block : List Char) (room : Nat),
      c ∈ (Document.readablePart.go cs done block room).1 → c ∈ block ++ done ∨ c ∈ cs := by
    intro cs done block room h
    fun_induction Document.readablePart.go cs done block room with
    | case1 done block room => exact .inl (List.mem_reverse.mp h)
    | case2 c' cs done₁ block₁ room₁ width done block room hblock _ ih =>
        have hsame : block ++ done = block₁ ++ done₁ := by
          split at hblock <;> cases hblock <;> rfl
        have hc := ih h
        rw [List.cons_append, hsame, List.mem_cons] at hc
        rw [List.mem_cons]
        rcases hc with (hc | hc) | hc
        · exact .inr (.inl hc)
        · exact .inl hc
        · exact .inr (.inr hc)
    | case3 c' cs done₁ block₁ room₁ width done block room hblock _ =>
        have hsame : block ++ done = block₁ ++ done₁ := by
          split at hblock <;> cases hblock <;> rfl
        rw [← hsame]
        exact .inl (List.mem_append_right _ (List.mem_reverse.mp h))
  simpa using hgo cs [] [] _ h

/-! ## Tokens -/

theorem skipGaps_suffix (inFlow keyAllowed inComment : Bool) (gs : List Glyph) :
    (Lexer.skipGaps inFlow keyAllowed inComment gs).2 <:+ gs := by
  fun_induction Lexer.skipGaps inFlow keyAllowed inComment gs
  case case1 => exact List.suffix_rfl
  case case7 => exact List.suffix_rfl
  all_goals exact List.IsSuffix.trans ‹_› (List.suffix_cons ..)

theorem scanPlain_suffix {inFlow : Bool} {indent : Int} {gs rest : List Glyph}
    {acc text : List Char} {gap : Gap} {crossed : Bool}
    (h : scanPlain inFlow indent gs acc gap = .ok (text, crossed, rest)) : rest <:+ gs := by
  fun_induction scanPlain inFlow indent gs acc gap
  case case3 ih => exact (ih h).trans (List.suffix_cons ..)
  case case7 ih => exact (ih h).trans (List.suffix_cons ..)
  all_goals
    cases h
    try exact List.suffix_rfl

/-- The tokens that blanks make. -/
def Token.Kind.isIdle : Token.Kind → Bool
  | .streamStart | .streamEnd | .scalar .. => true
  | _ => false

theorem Token.Kind.isIdle_iff {kind : Token.Kind} : kind.isIdle = true ↔
    kind = .streamStart ∨ kind = .streamEnd ∨ ∃ text plain, kind = .scalar text plain := by
  cases kind <;> simp [isIdle]

namespace Lexer

/-- Nothing but blanks is ahead, and nothing came of those before. -/
structure Idle (l : Lexer) : Prop where
  rest : AllBlank l.rest
  outer : l.outer = []
  queue : ∀ t ∈ l.queue, t.kind.isIdle = true

theorem Idle.push {l : Lexer} (h : l.Idle) {kind : Token.Kind} (hkind : kind.isIdle = true)
    (start stop : Mark) : (l.push kind start stop).Idle where
  rest := h.rest
  outer := h.outer
  queue t ht := by
    rcases List.mem_append.mp ht with ht | ht
    · exact h.queue t ht
    · rw [List.mem_singleton.mp ht]
      exact hkind

theorem dropStale_eq {l l' : Lexer} (h : l.dropStale = .ok l') : ∃ keys, l' = { l with keys } := by
  obtain ⟨keys, -, h⟩ := bind_eq_ok.mp h
  exact ⟨keys, (Except.ok.inj h).symm⟩

theorem dropKey_eq {l l' : Lexer} (h : l.dropKey = .ok l') : ∃ keys, l' = { l with keys } := by
  unfold dropKey at h
  split at h
  · exact ⟨l.keys, (Except.ok.inj h).symm⟩
  · split at h
    · cases h
    · exact ⟨_, (Except.ok.inj h).symm⟩

theorem saveKey_eq {l l' : Lexer} (h : l.saveKey = .ok l') : ∃ keys, l' = { l with keys } := by
  unfold saveKey at h
  split at h
  · obtain ⟨l₁, h₁, h⟩ := bind_eq_ok.mp h
    obtain ⟨keys, rfl⟩ := dropKey_eq h₁
    exact ⟨_, (Except.ok.inj h).symm⟩
  · exact ⟨l.keys, (Except.ok.inj h).symm⟩

theorem checkCut_eq {l l' : Lexer} (h : l.checkCut = .ok l') : l' = l := by
  unfold checkCut at h
  split at h
  · cases h
  · exact (Except.ok.inj h).symm

theorem Idle.closeBlocks {l : Lexer} (h : l.Idle) (column : Int) (m : Mark) :
    l.closeBlocks column m = l := by
  unfold Lexer.closeBlocks
  rw [h.outer]
  split <;> rfl

theorem Idle.fetchEnd {l l' : Lexer} (h : l.Idle) (hl : l.fetchEnd = .ok l') : l'.Idle := by
  unfold Lexer.fetchEnd at hl
  simp only [h.closeBlocks] at hl
  obtain ⟨l₁, h₁, hl⟩ := bind_eq_ok.mp hl
  obtain ⟨keys, rfl⟩ := dropKey_eq h₁
  obtain rfl := Except.ok.inj hl
  exact Idle.push (l := { l with keys, keyAllowed := false }) ⟨h.rest, h.outer, h.queue⟩ rfl _ _

theorem Idle.fetchPlain {l l' : Lexer} (h : l.Idle) (hl : l.fetchPlain = .ok l') : l'.Idle := by
  unfold Lexer.fetchPlain at hl
  obtain ⟨l₁, h₁, hl⟩ := bind_eq_ok.mp hl
  obtain ⟨keys, rfl⟩ := saveKey_eq h₁
  obtain ⟨⟨text, crossed, rest⟩, hscan, hl⟩ := bind_eq_ok.mp hl
  obtain rfl := Except.ok.inj hl
  exact Idle.push (l := { l with keys, keyAllowed := crossed, rest })
    ⟨h.rest.suffix (scanPlain_suffix hscan), h.outer, h.queue⟩ rfl _ _

/-- Only a plain scalar can start with a blank. -/
theorem Idle.fetchHere {l l' : Lexer} (h : l.Idle) (hl : l.fetchHere = .ok l') : l'.Idle := by
  unfold Lexer.fetchHere at hl
  split at hl
  · exact h.fetchEnd hl
  next g rest hrest =>
    have hblank : isBlank g.char = true := h.rest g (hrest ▸ List.mem_cons_self)
    have hne : ∀ c, isBlank c = false → (g.char == c) = false := by
      intro c hc
      rw [beq_eq_false_iff_ne]
      rintro rfl
      rw [hblank] at hc
      cases hc
    have hmarker : ∀ c, isBlank c = false → markerAhead c (g :: rest) = false := by
      intro c hc
      unfold markerAhead
      split
      next heq =>
        cases heq
        simp [hne c hc]
      next => rfl
    rw [hrest] at hl
    simp only [hne '%' rfl, hmarker '-' rfl, hmarker '.' rfl, hne '[' rfl, hne '\x7b' rfl,
      hne ']' rfl, hne '\x7d' rfl, hne ',' rfl, hne '-' rfl, hne '?' rfl, hne ':' rfl,
      hne '*' rfl, hne '&' rfl, hne '!' rfl, hne '|' rfl, hne '>' rfl, hne '\'' rfl,
      hne '"' rfl, Bool.and_false, Bool.false_and, Bool.false_eq_true, if_false] at hl
    split at hl
    · exact h.fetchPlain hl
    · cases hl

theorem Idle.fetch {l l' : Lexer} (h : l.Idle) (hl : l.fetch = .ok l') : l'.Idle := by
  unfold Lexer.fetch at hl
  obtain ⟨l₁, h₁, hfetch⟩ := bind_eq_ok.mp hl
  obtain rfl := checkCut_eq h₁
  split at hfetch
  · obtain rfl := Except.ok.inj hfetch
    exact Idle.push (l := { l₁ with started := true }) ⟨h.rest, h.outer, h.queue⟩ rfl _ _
  · obtain ⟨l₂, h₂, hrest⟩ := bind_eq_ok.mp hfetch
    obtain rfl := checkCut_eq h₂
    obtain ⟨l₃, h₃, hhere⟩ := bind_eq_ok.mp hrest
    obtain ⟨keys, rfl⟩ := dropStale_eq h₃
    have hskipped : ({ l₁.skipToToken with keys } : Lexer).Idle :=
      ⟨h.rest.suffix (skipGaps_suffix ..), h.outer, h.queue⟩
    simp only [hskipped.closeBlocks] at hhere
    obtain ⟨l₄, h₄, hend⟩ := bind_eq_ok.mp hhere
    obtain rfl := checkCut_eq hend
    exact hskipped.fetchHere h₄

theorem Idle.settleGo {fuel : Nat} {l l' : Lexer} (h : l.Idle)
    (hl : Lexer.settleGo fuel l = .ok l') : l'.Idle := by
  induction fuel generalizing l with
  | zero =>
      obtain rfl := Except.ok.inj hl
      exact h
  | succ fuel ih =>
      rw [Lexer.settleGo] at hl
      obtain ⟨l₁, hidle, hl⟩ : ∃ l₁ : Lexer, l₁.Idle ∧
          (if l₁.headPending then l₁.fetch >>= Lexer.settleGo fuel else .ok l₁) = .ok l' := by
        split at hl
        · exact ⟨l, h, hl⟩
        · obtain ⟨l₁, h₁, hl⟩ := bind_eq_ok.mp hl
          obtain ⟨keys, rfl⟩ := dropStale_eq h₁
          exact ⟨{ l with keys }, ⟨h.rest, h.outer, h.queue⟩, hl⟩
      split at hl
      · obtain ⟨l₂, h₂, hl⟩ := bind_eq_ok.mp hl
        exact ih (hidle.fetch h₂) hl
      · obtain rfl := Except.ok.inj hl
        exact hidle

theorem Idle.peek {l l' : Lexer} {t : Token} (h : l.Idle) (hl : l.peek = .ok (t, l')) :
    l'.Idle ∧ t.kind.isIdle = true := by
  obtain ⟨l₁, h₁, hl⟩ := bind_eq_ok.mp hl
  have hidle := h.settleGo h₁
  split at hl
  next t' rest hqueue =>
    cases hl
    exact ⟨hidle, hidle.queue t (hqueue ▸ List.mem_cons_self)⟩
  next => cases hl

theorem Idle.drop {l : Lexer} (h : l.Idle) : l.drop.Idle :=
  ⟨h.rest, h.outer, fun t ht => h.queue t (List.mem_of_mem_drop ht)⟩

end Lexer

/-! ## Events -/

/-- The events that such tokens make. -/
def Event.isIdle : Event → Bool
  | .streamStart | .streamEnd | .documentStart | .documentEnd | .scalar .. => true
  | _ => false

/-- The places a stream of scalars leads to. -/
def Place.isIdle : Place → Bool
  | .streamStart | .firstDocument | .document | .documentEnd | .blockNode | .done => true
  | _ => false

namespace Grammar

/-- Nothing but blanks is ahead, and no collection is open. -/
structure Idle (g : Grammar) : Prop where
  lexer : g.lexer.Idle
  place : g.place.isIdle = true
  back : ∀ p ∈ g.back, p = .documentEnd

theorem Idle.peek {g g' : Grammar} {t : Token} (h : g.Idle) (hg : g.peek = .ok (t, g')) :
    g'.Idle ∧ t.kind.isIdle = true ∧ g'.place = g.place := by
  obtain ⟨⟨t', l⟩, hl, hg⟩ := bind_eq_ok.mp hg
  cases hg
  obtain ⟨hidle, ht⟩ := h.lexer.peek hl
  exact ⟨⟨hidle, h.place, h.back⟩, ht, rfl⟩

theorem Idle.drop {g : Grammar} (h : g.Idle) : g.drop.Idle := ⟨h.lexer.drop, h.place, h.back⟩

theorem Idle.say {g g' : Grammar} {e : MarkedEvent} {event : Event} {mark : Mark} {place : Place}
    (h : g.Idle) (hplace : place.isIdle = true) (hevent : event.isIdle = true)
    (hg : g.say event mark place = .ok (e, g')) : g'.Idle ∧ e.event.isIdle = true := by
  cases hg
  exact ⟨⟨h.lexer, hplace, h.back⟩, hevent⟩

theorem Idle.sayBack {g g' : Grammar} {e : MarkedEvent} {event : Event} {mark : Mark}
    (h : g.Idle) (hevent : event.isIdle = true) (hg : g.sayBack event mark = .ok (e, g')) :
    g'.Idle ∧ e.event.isIdle = true := by
  cases hg
  refine ⟨⟨h.lexer, ?_, fun p hp => h.back p (List.mem_of_mem_drop hp)⟩, hevent⟩
  cases hback : g.back with
  | nil => rfl
  | cons p ps =>
      rw [List.headD_cons, h.back p (hback ▸ List.mem_cons_self)]
      rfl

theorem Idle.returnTo {g : Grammar} (h : g.Idle) : (g.returnTo .documentEnd).Idle :=
  ⟨h.lexer, h.place, fun p hp => (List.mem_cons.mp hp).elim id (h.back p)⟩

theorem Idle.directives {g g' : Grammar} (h : g.Idle) (hg : g.directives = .ok g') :
    g'.Idle := by
  have hread {fuel : Nat} {seen : Bool} {g₁ : Grammar}
      (hg : readDirectives fuel seen g = .ok g₁) : g₁.Idle := by
    cases fuel with
    | zero =>
        obtain rfl := Except.ok.inj hg
        exact h
    | succ fuel =>
        rw [readDirectives] at hg
        obtain ⟨⟨t, g₂⟩, h₂, hg⟩ := bind_eq_ok.mp hg
        obtain ⟨hidle, ht, -⟩ := h.peek h₂
        obtain hk | hk | ⟨text, plain, hk⟩ := Token.Kind.isIdle_iff.mp ht
        all_goals
          simp only [hk] at hg
          obtain rfl := Except.ok.inj hg
          exact hidle
  obtain ⟨g₁, h₁, hg⟩ := bind_eq_ok.mp hg
  obtain rfl := Except.ok.inj hg
  exact ⟨(hread h₁).lexer, (hread h₁).place, (hread h₁).back⟩

theorem Idle.skipDocumentEnds {fuel : Nat} {g g' : Grammar} (h : g.Idle)
    (hg : skipDocumentEnds fuel g = .ok g') : g'.Idle := by
  cases fuel with
  | zero =>
      obtain rfl := Except.ok.inj hg
      exact h
  | succ fuel =>
      rw [Grammar.skipDocumentEnds] at hg
      obtain ⟨⟨t, g₁⟩, h₁, hg⟩ := bind_eq_ok.mp hg
      obtain ⟨hidle, ht, -⟩ := h.peek h₁
      obtain hk | hk | ⟨text, plain, hk⟩ := Token.Kind.isIdle_iff.mp ht
      all_goals
        simp only [hk] at hg
        obtain rfl := Except.ok.inj hg
        exact hidle

/-- A document starts without a marker, and only if it is the first. -/
theorem Idle.documentStart {g g' : Grammar} {e : MarkedEvent} {first : Bool} (h : g.Idle)
    (hg : g.documentStart first = .ok (e, g')) : g'.Idle ∧ e.event.isIdle = true := by
  unfold Grammar.documentStart at hg
  obtain ⟨g₁, hidle, hg⟩ : ∃ g₁ : Grammar, g₁.Idle ∧ (g₁.peek >>= fun p =>
      if p.1.kind == .streamEnd then p.2.drop.say .streamEnd p.1.start .done
      else if first && !isDirective p.1.kind && p.1.kind ≠ .documentStart then
        p.2.directives >>= fun g => (g.returnTo .documentEnd).say .documentStart p.1.start .blockNode
      else p.2.directives >>= fun g => g.peek >>= fun q =>
        if q.1.kind ≠ .documentStart then .error .unexpectedToken
        else (q.2.drop.returnTo .documentEnd).say .documentStart p.1.start .documentContent)
      = .ok (e, g') := by
    split at hg
    · exact ⟨g, h, hg⟩
    · obtain ⟨g₁, h₁, hg⟩ := bind_eq_ok.mp hg
      exact ⟨g₁, h.skipDocumentEnds h₁, hg⟩
  obtain ⟨⟨t, g₂⟩, h₂, hg⟩ := bind_eq_ok.mp hg
  obtain ⟨hidle₂, -, -⟩ := hidle.peek h₂
  split at hg
  · exact hidle₂.drop.say rfl rfl hg
  · split at hg
    · obtain ⟨g₃, h₃, hg⟩ := bind_eq_ok.mp hg
      exact (hidle₂.directives h₃).returnTo.say rfl rfl hg
    · obtain ⟨g₃, h₃, hg⟩ := bind_eq_ok.mp hg
      obtain ⟨⟨u, g₄⟩, h₄, hg⟩ := bind_eq_ok.mp hg
      obtain ⟨-, hu, -⟩ := (hidle₂.directives h₃).peek h₄
      obtain hk | hk | ⟨text, plain, hk⟩ := Token.Kind.isIdle_iff.mp hu
      all_goals
        simp only [hk] at hg
        cases hg

theorem Idle.documentEnd {g g' : Grammar} {e : MarkedEvent} (h : g.Idle)
    (hg : g.documentEnd = .ok (e, g')) : g'.Idle ∧ e.event.isIdle = true := by
  obtain ⟨⟨t, g₁⟩, h₁, hg⟩ := bind_eq_ok.mp hg
  have hidle : (if t.kind == .documentEnd then g₁.drop else g₁).Idle := by
    split
    · exact (h.peek h₁).1.drop
    · exact (h.peek h₁).1
  exact Idle.say (g := { (if t.kind == .documentEnd then g₁.drop else g₁) with handles := [] })
    ⟨hidle.lexer, hidle.place, hidle.back⟩ rfl rfl hg

theorem Idle.properties {g g' : Grammar} {p : NodeProperties} {m : Mark} (h : g.Idle)
    (hg : g.properties = .ok (p, m, g')) : g'.Idle ∧ p = .none := by
  obtain ⟨⟨t, g₁⟩, h₁, hg⟩ := bind_eq_ok.mp hg
  obtain ⟨hidle, ht, -⟩ := h.peek h₁
  obtain hk | hk | ⟨text, plain, hk⟩ := Token.Kind.isIdle_iff.mp ht
  all_goals
    simp only [hk] at hg
    cases hg
    exact ⟨hidle, rfl⟩

/-- A node with nothing in front of it can only be a scalar. -/
theorem Idle.node {g g' : Grammar} {e : MarkedEvent} (h : g.Idle)
    (hg : g.node true false = .ok (e, g')) : g'.Idle ∧ e.event.isIdle = true := by
  obtain ⟨⟨t, g₁⟩, h₁, hg⟩ := bind_eq_ok.mp hg
  obtain ⟨hidle₁, ht, -⟩ := h.peek h₁
  dsimp only at hg
  split at hg
  next name hk =>
    rw [hk] at ht
    cases ht
  next =>
    obtain ⟨⟨p, m, g₂⟩, h₂, hg⟩ := bind_eq_ok.mp hg
    obtain ⟨hidle₂, rfl⟩ := hidle₁.properties h₂
    obtain ⟨⟨u, g₃⟩, h₃, hg⟩ := bind_eq_ok.mp hg
    obtain ⟨hidle₃, hu, -⟩ := hidle₂.peek h₃
    obtain hk | hk | ⟨text, plain, hk⟩ := Token.Kind.isIdle_iff.mp hu <;> simp only [hk] at hg
    · cases hg
    · cases hg
    · exact hidle₃.drop.sayBack rfl hg

theorem Idle.step {g g' : Grammar} {e : MarkedEvent} (h : g.Idle) (hg : g.step = .ok (e, g')) :
    g'.Idle ∧ e.event.isIdle = true := by
  have hplace := h.place
  unfold Grammar.step at hg
  cases hp : g.place <;> rw [hp] at hg hplace <;> try cases hplace
  case streamStart =>
    obtain ⟨⟨t, g₁⟩, h₁, hg⟩ := bind_eq_ok.mp hg
    exact (h.peek h₁).1.drop.say rfl rfl hg
  case firstDocument => exact h.documentStart hg
  case document => exact h.documentStart hg
  case documentEnd => exact h.documentEnd hg
  case blockNode => exact h.node hg
  case done => cases hg

end Grammar

/-! ## Documents -/

/-- Is the node no collection and no alias? -/
def Node.isLeaf : Node → Bool
  | .cut | .void .. | .scalar .. => true
  | _ => false

/-- A builder without collections. -/
structure Builder.Idle (b : Builder) : Prop where
  opened : b.opened = []
  root : ∀ n ∈ b.root, n.isLeaf = true

theorem Builder.Idle.put {b : Builder} (h : b.Idle) {n : Node} (hn : n.isLeaf = true)
    (anchor : Option Nat) (position : Nat) : (b.put n anchor position).Idle := by
  unfold Builder.put
  have hroot : ∀ m ∈ some n, m.isLeaf = true := fun m hm => Option.some.inj hm ▸ hn
  cases anchor <;> simp only [h.opened] <;> exact ⟨rfl, hroot⟩

theorem Builder.Idle.name {b : Builder} (h : b.Idle) (anchor : Option (List Char)) :
    (b.name anchor).2.Idle := by
  cases anchor <;> exact ⟨h.opened, h.root⟩

theorem Builder.Idle.add {b b' : Builder} {e : MarkedEvent} (h : b.Idle)
    (he : e.event.isIdle = true) (hb : b.add e = .ok b') : b'.Idle := by
  unfold Builder.add at hb
  cases hevent : e.event <;> rw [hevent] at hb he <;> try cases he
  case scalar p text plain =>
    obtain rfl := Except.ok.inj hb
    have hput := (h.name p.anchor).put (n := .scalar e.mark p.tag (String.ofList text) plain) rfl
      (b.name p.anchor).1 (b.name p.anchor).2.count
    exact ⟨hput.opened, hput.root⟩
  all_goals
    obtain rfl := Except.ok.inj hb
    exact h

theorem isLeaf_broken {b : Builder} (h : b.Idle) (e : Error) :
    (Document.broken b e).root.isLeaf = true := by
  unfold Document.broken
  rw [h.opened]
  cases hroot : b.root with
  | none => rfl
  | some n => exact h.root n hroot

theorem isLeaf_read {fuel : Nat} {g : Grammar} {b : Builder} (hg : g.Idle) (hb : b.Idle) :
    (Document.read fuel g b).root.isLeaf = true := by
  induction fuel generalizing g b with
  | zero => exact isLeaf_broken hb _
  | succ fuel ih =>
      rw [Document.read]
      split
      next => exact isLeaf_broken hb _
      next e g' hstep =>
        obtain ⟨hidle, he⟩ := hg.step hstep
        split
        · rfl
        · cases hroot : b.root with
          | none => rfl
          | some n => exact hb.root n hroot
        · split
          next b' hadd => exact ih hidle (hb.add he hadd)
          next => exact isLeaf_broken hb _

theorem isLeaf_ofString {text : String} (h : isBlankText text = true) :
    (Document.ofString text).root.isLeaf = true := by
  have hblank : ∀ c ∈ (Document.readablePart text.toList).1, isBlank c = true :=
    fun c hc => List.all_eq_true.mp h c (mem_readablePart hc)
  refine isLeaf_read ⟨⟨allBlank_ofListAt _ _ hblank, rfl, ?_⟩, rfl, ?_⟩ ⟨rfl, ?_⟩
  · exact fun t ht => absurd ht List.not_mem_nil
  · exact fun p hp => absurd hp List.not_mem_nil
  · exact fun n hn => nomatch hn

/-- A text in which a list is seen holds more than white space. -/
theorem not_blank_of_view {text : String} {vs : List Value} (h : view text = .ok (.seq vs)) :
    isBlankText text = false := by
  obtain ⟨⟨j, hroot⟩, -⟩ := Document.whole_ok.mp h
  obtain ⟨m, tag, items, i, i', hnode, -⟩ :=
    Document.Shows.sequence (d := .ofString text) ⟨depthLimit, .root, 0, j, hroot⟩
  rw [Bool.eq_false_iff]
  intro hblank
  have hleaf := isLeaf_ofString hblank
  cases hn : (Document.ofString text).root <;> rw [hn] at hnode hleaf
  case cut => cases hnode
  case void => cases (Reading.pure_ok.mp hnode).1
  case scalar => cases (Reading.pure_ok.mp hnode).1
  all_goals cases hleaf

end CredRegistry.Yaml
