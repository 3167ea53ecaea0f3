import CredRegistry.Proofs.Secrecy.Coupled
import CredRegistry.Proofs.Service.Success

/-!
# What a token does to the list

Two lists are alike if they differ in nothing but the entries that were made for a host which had
none, and there in the name of the password reference (`Stock.EntriesAlike`). The `url`s are the
same, so a host is found in both lists or in neither, at the same place: `mergedText_alike`. And
what other writers do to two lists that are alike, as long as it does not depend on what they
find, makes such lists again (`Stock.DataAlike.rewrite`).

A `Stock` says what lists can be made of, and `Stock.Arises` which lists these are. Of the YAML
writer and reader it is assumed that they are read as they were written. A text that cannot be
decoded was put there by somebody else and is the same on both sides.
-/

namespace CredRegistry

open CredRegistry.RepoList
open CredRegistry.Yaml (ReadsBack)

/-! ## Dictionaries -/

theorem Dict.lookup_filter {α : Type} (k k' : String) (es : List (String × α)) :
    Dict.lookup k' (es.filter (·.1 ≠ k)) = if k = k' then none else Dict.lookup k' es := by
  induction es with
  | nil => simp [Dict.lookup]
  | cons e es ih =>
      obtain ⟨a, v⟩ := e
      rw [List.filter_cons]
      by_cases ha : a = k
      · subst ha
        simp only [ne_eq, not_true_eq_false, decide_false, Dict.lookup]
        rw [if_neg Bool.false_ne_true, ih]
        split <;> rfl
      · simp only [ne_eq, ha, not_false_eq_true, decide_true, if_true, Dict.lookup, ih]
        by_cases hk : k = k'
        · rw [if_pos hk, if_neg (fun h => ha (h.trans hk.symm)), if_pos hk]
        · rw [if_neg hk, if_neg hk]

/-- A look-up after a removal. -/
theorem Dict.get?_erase {α : Type} (d : Dict α) (k k' : String) :
    (d.erase k).get? k' = if k = k' then none else d.get? k' :=
  Dict.lookup_filter k k' d.entries

/-! ## Other writers -/

/-- One thing that another writer does to the data of a config map, whatever is in there. -/
inductive Edit where
  | remove (key : String)
  | put (key text : String)
  /-- Merge a credential into the list, unless there is no list that can be read. -/
  | merge (c : Credential) (secret : String)

/-- A list with a credential merged into it, written anew. -/
def remade (text : String) (c : Credential) (secret : String) : Except Yaml.Error String := do
  let entries ← decode text
  encode (merge entries c secret).1

def Edit.apply (d : Dict String) : Edit → Dict String
  | .remove key => d.erase key
  | .put key text => d.insert key text
  | .merge c secret =>
      match remade ((d.get? listKey).getD "") c secret with
      | .ok text => d.insert listKey text
      | .error _ => d

/-- What another writer makes of the config map it finds. -/
def rewrite (edits : List Edit) (map : ConfigMap) : ConfigMap :=
  { map with data := edits.foldl Edit.apply map.data }

/-! ## What lists are made of -/

/-- The texts that lists are read from, the configurations that are handed in, and what other
writers do. -/
structure Stock where
  texts : String → Prop
  requests : GitOpsConfig → Prop
  edits : Edit → Prop

namespace Stock

variable (K : Stock)

/-- A text that is there from the start, or that another writer puts there. Where there is no
text, an empty one is read. -/
def Known (text : String) : Prop := text = "" ∨ K.texts text ∨ K.edits (.put listKey text)

/-- The lists that can come about. -/
inductive Arises : List Entry → Prop where
  | read {text : String} {es : List Entry} (htext : K.Known text) (h : decode text = .ok es) :
      Arises es
  | appended {es : List Entry} {c : GitOpsConfig} (hes : Arises es) (hc : K.requests c)
      (hnew : indexOf? c.host es = none) : Arises (es ++ [c.entry])
  | merged {es : List Entry} {c : Credential} {secret : String} (hes : Arises es)
      (hedit : K.edits (.merge c secret)) : Arises (merge es c secret).1

/-- Two entries that were made for configurations which differ in their tokens alone. -/
def Appended (e e' : Entry) : Prop :=
  ∃ c token, K.requests c ∧ K.requests { c with token } ∧
    e = c.entry ∧ e' = { c with token : GitOpsConfig }.entry

/-- Two entries that differ, if at all, in the password reference of an appended entry. -/
structure EntriesAlike (e e' : Entry) : Prop where
  url : e.url = e'.url
  username : e.usernameSecret = e'.usernameSecret
  extra : e.extra = e'.extra
  password : e.passwordSecret = e'.passwordSecret ∨ K.Appended e e'

structure ListsAlike (es es' : List Entry) : Prop where
  entries : List.Forall₂ K.EntriesAlike es es'
  left : K.Arises es
  right : K.Arises es'

/-- Two texts of a list: one and the same, or of lists that are alike. -/
def TextsAlike (text text' : String) : Prop :=
  (text = text' ∧ K.Known text) ∨
    ∃ es es', decode text = .ok es ∧ decode text' = .ok es' ∧ K.ListsAlike es es'

/-- The data of two config maps that differ in the texts of their lists alone. -/
structure DataAlike (d d' : Dict String) : Prop where
  others : ∀ key, key ≠ listKey → d.get? key = d'.get? key
  list : Option.Rel K.TextsAlike (d.get? listKey) (d'.get? listKey)

structure MapsAlike (map map' : ConfigMap) : Prop where
  space : map.space = map'.space
  name : map.name = map'.name
  version : map.version = map'.version
  data : K.DataAlike map.data map'.data

variable {K} {e e' : Entry} {es es' : List Entry} {text text' : String}

/-! ## Entries -/

theorem EntriesAlike.refl (e : Entry) : K.EntriesAlike e e := ⟨rfl, rfl, rfl, .inl rfl⟩

theorem Appended.alike (h : K.Appended e e') : K.EntriesAlike e e' := by
  obtain ⟨c, token, hc, hc', rfl, rfl⟩ := id h
  exact ⟨rfl, rfl, rfl, .inr h⟩

theorem EntriesAlike.nestsSingle (h : K.EntriesAlike e e') : e.nestsSingle = e'.nestsSingle := by
  obtain ⟨hurl, husername, hextra, hpassword | ⟨c, token, -, -, rfl, rfl⟩⟩ := h
  · unfold Entry.nestsSingle
    rw [husername, hextra, hpassword]
  · rfl

/-- Repointed, both entries name the secret. -/
theorem EntriesAlike.repoint (h : K.EntriesAlike e e') (secret : String) :
    K.EntriesAlike (e.repoint secret) (e'.repoint secret) := by
  obtain ⟨hurl, husername, hextra, hpassword | ⟨c, token, -, -, rfl, rfl⟩⟩ := h
  · refine ⟨hurl, ?_, hextra, .inl ?_⟩
    · simp only [Entry.repoint, husername]
    · simp only [Entry.repoint, hpassword]
  · exact EntriesAlike.refl _

/-! ## Lists -/

theorem Arises.proper (h : K.Arises es) : ∀ e ∈ es, e.Proper := by
  induction h with
  | read _ hread => exact proper_of_decode hread
  | appended _ _ _ ih =>
      intro e he
      rcases List.mem_append.mp he with he | he
      · exact ih e he
      · rw [List.mem_singleton.mp he]
        exact ⟨fun r hr => by cases hr; exact SecretKeyRef.proper_to _ _,
          fun r hr => by cases hr; exact SecretKeyRef.proper_to _ _, Carried.nil entryNames⟩
  | merged _ _ ih => exact proper_merge ih

theorem indexOf?_alike (h : List.Forall₂ K.EntriesAlike es es') (url : String) :
    indexOf? url es = indexOf? url es' := by
  unfold indexOf?
  induction h with
  | nil => rfl
  | cons he _ ih => rw [List.findIdx?_cons, List.findIdx?_cons, ih, he.url]

theorem any_nestsSingle_alike (h : List.Forall₂ K.EntriesAlike es es') :
    es.any Entry.nestsSingle = es'.any Entry.nestsSingle := by
  induction h with
  | nil => rfl
  | cons he _ ih => rw [List.any_cons, List.any_cons, ih, he.nestsSingle]

theorem forall₂_modify {es es' : List Entry} (h : List.Forall₂ K.EntriesAlike es es')
    (secret : String) (i : Nat) : List.Forall₂ K.EntriesAlike
      (es.modify i (·.repoint secret)) (es'.modify i (·.repoint secret)) := by
  induction h generalizing i with
  | nil => cases i <;> exact .nil
  | cons he hes ih =>
      cases i with
      | zero => exact .cons (he.repoint secret) hes
      | succ i => exact .cons he (ih i)

/-- The same is merged into two lists by somebody else. -/
theorem ListsAlike.merge (h : K.ListsAlike es es') {c : Credential} {secret : String}
    (hedit : K.edits (.merge c secret)) :
    K.ListsAlike (merge es c secret).1 (merge es' c secret).1 := by
  refine ⟨?_, .merged h.left hedit, .merged h.right hedit⟩
  unfold RepoList.merge
  rw [indexOf?_alike h.entries]
  cases indexOf? c.host es' with
  | some i => exact forall₂_modify h.entries secret i
  | none => exact List.rel_append h.entries (.cons (.refl _) .nil)

theorem ListsAlike.append (h : K.ListsAlike es es') (he : K.Appended e e')
    (hnew : indexOf? e.url es = none) : K.ListsAlike (es ++ [e]) (es' ++ [e']) := by
  have hentries := List.rel_append h.entries (.cons he.alike .nil)
  obtain ⟨c, token, hc, hc', rfl, rfl⟩ := he
  have hnew' : indexOf? c.host es' = none := (indexOf?_alike h.entries _).symm.trans hnew
  exact ⟨hentries, .appended h.left hc hnew, .appended h.right hc' hnew'⟩

/-! ## Texts -/

theorem decode_alike (h : K.TextsAlike text text') :
    Both K.ListsAlike (decode text) (decode text') := by
  rcases h with ⟨rfl, htext⟩ | ⟨es, es', hes, hes', hlists⟩
  · cases hes : decode text with
    | error e => exact .error e
    | ok es =>
        have harises := Arises.read htext hes
        exact .ok ⟨List.forall₂_same.mpr fun e _ => EntriesAlike.refl e, harises, harises⟩
  · rw [hes, hes']
    exact .ok hlists

/-- Whether a list can be written is told by its extra fields. -/
theorem encode_both (hproper : ∀ e ∈ es, e.Proper) (hproper' : ∀ e ∈ es', e.Proper)
    (h : es.any Entry.nestsSingle = es'.any Entry.nestsSingle) :
    Both (fun text text' => encode es = .ok text ∧ encode es' = .ok text') (encode es)
      (encode es') := by
  rw [encode_of_proper hproper, encode_of_proper hproper', h]
  split
  · exact .error _
  · exact .ok ⟨rfl, rfl⟩

section

variable (hyaml : ∀ es, K.Arises es → ReadsBack (listValue es))

include hyaml

theorem encode_alike (h : K.ListsAlike es es') :
    Both K.TextsAlike (encode es) (encode es') := by
  refine (encode_both h.left.proper h.right.proper (any_nestsSingle_alike h.entries)).mono ?_
  rintro text text' ⟨htext, htext'⟩
  exact .inr ⟨es, es', decode_of_encode h.left.proper (hyaml es h.left) htext,
    decode_of_encode h.right.proper (hyaml es' h.right) htext', h⟩

/-! ## Data -/

variable {d d' : Dict String}

omit hyaml in
theorem DataAlike.listText (h : K.DataAlike d d') :
    K.TextsAlike ((d.get? listKey).getD "") ((d'.get? listKey).getD "") := by
  rcases rel_cases h.list with ⟨hnone, hnone'⟩ | ⟨text, text', htext, htext', htexts⟩
  · rw [hnone, hnone']
    exact .inl ⟨rfl, .inl rfl⟩
  · rw [htext, htext']
    exact htexts

omit hyaml in
theorem DataAlike.insert_list (h : K.DataAlike d d') (htexts : K.TextsAlike text text') :
    K.DataAlike (d.insert listKey text) (d'.insert listKey text') := by
  refine ⟨fun key hkey => ?_, ?_⟩
  · rw [Dict.get?_insert, Dict.get?_insert, if_neg hkey.symm, if_neg hkey.symm, h.others key hkey]
  · rw [Dict.get?_insert, Dict.get?_insert, if_pos rfl, if_pos rfl]
    exact .some htexts

theorem DataAlike.edit (h : K.DataAlike d d') {edit : Edit} (hedit : K.edits edit) :
    K.DataAlike (edit.apply d) (edit.apply d') := by
  cases edit with
  | remove key =>
      refine ⟨fun other hother => ?_, ?_⟩
      · simp only [Edit.apply, Dict.get?_erase, h.others other hother]
      · simp only [Edit.apply, Dict.get?_erase]
        split
        · exact .none
        · exact h.list
  | put key text =>
      refine ⟨fun other hother => ?_, ?_⟩
      · simp only [Edit.apply, Dict.get?_insert, h.others other hother]
      · simp only [Edit.apply, Dict.get?_insert]
        split
        · next hkey =>
            subst hkey
            exact .some (.inl ⟨rfl, .inr (.inr hedit)⟩)
        · exact h.list
  | merge c secret =>
      have htexts : Both K.TextsAlike (remade ((d.get? listKey).getD "") c secret)
          (remade ((d'.get? listKey).getD "") c secret) :=
        (decode_alike h.listText).bind fun _ _ hes => encode_alike hyaml (hes.merge hedit)
      rcases htexts.cases with ⟨e, hx, hy⟩ | ⟨text, text', hx, hy, htexts⟩
      · simp only [Edit.apply, hx, hy]
        exact h
      · simp only [Edit.apply, hx, hy]
        exact h.insert_list htexts

theorem MapsAlike.rewrite {map map' : ConfigMap} (h : K.MapsAlike map map') {edits : List Edit}
    (hedits : ∀ edit ∈ edits, K.edits edit) :
    K.MapsAlike (rewrite edits map) (rewrite edits map') := by
  refine ⟨h.space, h.name, h.version, ?_⟩
  simp only [CredRegistry.rewrite]
  have hdata := h.data
  revert hdata
  generalize map.data = d
  generalize map'.data = d'
  intro hdata
  induction edits generalizing d d' with
  | nil => exact hdata
  | cons edit edits ih =>
      refine ih (fun e he => hedits e (List.mem_cons_of_mem _ he)) _ _ ?_
      exact hdata.edit hyaml (hedits edit (List.mem_cons_self ..))

/-- A host has an entry in both lists or in neither, so either both are written or none is. -/
theorem mergedText_alike {map map' : ConfigMap} (h : K.MapsAlike map map') {c c' : Credential}
    (hc : K.Appended (.ofCredential c) (.ofCredential c')) (secret : String) :
    Both (Option.Rel K.TextsAlike) (mergedText map c secret) (mergedText map' c' secret) := by
  have hhost : c'.host = c.host := hc.alike.url.symm
  unfold mergedText
  refine (decode_alike h.data.listText).bind fun es es' hes => ?_
  have hindex : indexOf? c'.host es' = indexOf? c.host es := by
    rw [hhost, indexOf?_alike hes.entries]
  cases hfound : indexOf? c.host es with
  | some i =>
      -- What is repointed is encoded and then dropped, so all that counts is whether it fails.
      have hmerge : RepoList.merge es c secret = (es.modify i (·.repoint secret), .existing i) := by
        rw [RepoList.merge, hfound]
      have hmerge' : RepoList.merge es' c' secret
          = (es'.modify i (·.repoint secret), .existing i) := by
        rw [RepoList.merge, hindex, hfound]
      have hproper : ∀ e ∈ (RepoList.merge es c secret).1, e.Proper := proper_merge hes.left.proper
      have hproper' : ∀ e ∈ (RepoList.merge es' c' secret).1, e.Proper :=
        proper_merge hes.right.proper
      have hnests : (RepoList.merge es c secret).1.any Entry.nestsSingle
          = (RepoList.merge es' c' secret).1.any Entry.nestsSingle := by
        rw [any_nestsSingle_merge, any_nestsSingle_merge, any_nestsSingle_alike hes.entries]
      have hencode := encode_both hproper hproper' hnests
      rw [hmerge, hmerge'] at hencode ⊢
      exact hencode.bind fun _ _ _ => .ok .none
  | none =>
      have hmerge : RepoList.merge es c secret = (es ++ [.ofCredential c], .appended) := by
        rw [RepoList.merge, hfound]
      have hmerge' : RepoList.merge es' c' secret = (es' ++ [.ofCredential c'], .appended) := by
        rw [RepoList.merge, hindex, hfound]
      rw [hmerge, hmerge']
      exact (encode_alike hyaml (hes.append hc hfound)).bind fun _ _ ht => .ok (.some ht)

end

end Stock

end CredRegistry
