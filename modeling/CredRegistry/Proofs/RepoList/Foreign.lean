import CredRegistry.Proofs.RepoList.Again
import CredRegistry.Proofs.RepoList.Kept
import CredRegistry.Proofs.Yaml.Blank

/-!
# Fields of other writers

What becomes of the fields that others keep in the list, told from outside: both the text that is
found and the text that is written are seen as plain YAML, and their mappings are compared key by
key (`SameForeign`).

An entry carries such a field under the text of its key. So a mapping comes out as it was exactly
if all of its keys are strings (`Carries`): `1: a` comes out as `"1": a`, and next to a field
`"1": b` only the later of the two is left (`number_becomes_string`).
-/

namespace CredRegistry.RepoList

open CredRegistry.Yaml

/-! ## Mappings side by side -/

def IsString (key : Value) : Prop := ∃ s, key = .str s

/-- Is this none of the names? -/
def IsForeign (names : List String) (key : Value) : Prop := ∀ name ∈ names, key ≠ .str name

/-- Two mappings have the same fields, those with the names aside. -/
def SameForeign (names : List String) (old new : List (Value × Value)) : Prop :=
  ∀ kv, IsForeign names kv.1 → (kv ∈ old ↔ kv ∈ new)

/-- What becomes of a mapping: it comes out as it was exactly if its keys are strings, and no value
comes out that was not there before. -/
structure Carries (names : List String) (old new : List (Value × Value)) : Prop where
  same_iff : SameForeign names old new ↔ ∀ kv ∈ old, IsString kv.1
  sourced : ∀ kv ∈ new, IsForeign names kv.1 →
    IsString kv.1 ∧ ∃ key, (key, kv.2) ∈ old ∧ (key = kv.1 ∨ ¬ IsString key)

/-- What becomes of an entry and of the references in it. -/
structure EntryCarries (old new : List (Value × Value)) : Prop where
  fields : Carries entryNames old new
  refs : ∀ name ∈ ["usernameSecret", "passwordSecret"], ∀ ref, (.str name, .map ref) ∈ old →
    ∃ ref', (.str name, .map ref') ∈ new ∧ Carries refNames ref ref'

/-- If all keys are strings, the fields are the mapping. -/
theorem eq_of_named {kvs : List (Value × Value)} {fields : ExtraFields}
    (h : List.Forall₂ Named kvs fields) (hkeys : ∀ kv ∈ kvs, IsString kv.1) :
    kvs = fields.map fun f => (.str f.1, f.2) := by
  induction h with
  | nil => rfl
  | @cons kv f _ _ hf _ ih =>
      obtain ⟨hvalue, hname⟩ := hf
      obtain ⟨s, hs⟩ := hkeys kv List.mem_cons_self
      rw [List.map_cons, ← ih fun kv hkv => hkeys kv (List.mem_cons_of_mem _ hkv), hname s hs,
        hvalue, ← hs]

theorem named_of_field {kvs : List (Value × Value)} {fields : ExtraFields}
    (h : List.Forall₂ Named kvs fields) {f : String × Value} (hf : f ∈ fields) :
    ∃ kv ∈ kvs, Named kv f := by
  induction h with
  | nil => cases hf
  | cons hkv _ ih =>
      rcases List.mem_cons.mp hf with rfl | hf
      · exact ⟨_, List.mem_cons_self, hkv⟩
      · obtain ⟨kv, hmem, hkv⟩ := ih hf
        exact ⟨kv, List.mem_cons_of_mem _ hmem, hkv⟩

/-- Keys that are strings and pass for different are different. -/
theorem nodup_of_duplicateKey? {fields : ExtraFields}
    (h : (Value.map (fields.map fun f => (.str f.1, f.2))).duplicateKey? = none) :
    (fields.map (·.1)).Nodup := by
  have hpairs := (Value.duplicateInPairs?_eq_none.mp h).2
  rw [List.pairwise_map] at hpairs
  refine List.pairwise_map.mpr (hpairs.imp fun {f g} hne heq => ?_)
  rw [heq, Value.same_str.mpr rfl] at hne
  cases hne

section

variable {names : List String} {kvs managed : List (Value × Value)} {extra : Dict Value}

/-- A mapping is written of fields with names and of the extra fields that were kept. -/
theorem Kept.foreign {kv : Value × Value}
    (hmanaged : ∀ kv ∈ managed, ∃ name ∈ names, kv.1 = .str name)
    (hkv : kv ∈ managed ++ extraFields extra) (hforeign : IsForeign names kv.1) :
    kv ∈ extraFields extra := by
  rcases List.mem_append.mp hkv with hkv | hkv
  · obtain ⟨name, hname, heq⟩ := hmanaged kv hkv
    exact absurd heq (hforeign name hname)
  · exact hkv

theorem Kept.sourced (h : Kept names kvs extra) {kv : Value × Value}
    (hkv : kv ∈ extraFields extra) :
    IsString kv.1 ∧ ∃ key, (key, kv.2) ∈ kvs ∧ (key = kv.1 ∨ ¬ IsString key) := by
  obtain ⟨fields, hfields, rfl⟩ := h
  obtain ⟨f, hf, rfl⟩ := List.mem_map.mp hkv
  obtain ⟨hf, -⟩ := List.mem_filter.mp (Dict.mem_of_mem_ofList hf)
  obtain ⟨⟨key, v⟩, hmem, hvalue, hname⟩ := named_of_field hfields hf
  refine ⟨⟨f.1, rfl⟩, key, hvalue ▸ hmem, ?_⟩
  by_cases hkey : IsString key
  · obtain ⟨s, rfl⟩ := hkey
    exact .inl (congrArg _ (hname s rfl).symm)
  · exact .inr hkey

/-- A field of a mapping whose keys are strings is kept, unless it has one of the names. -/
theorem Kept.mem (h : Kept names kvs extra) (hkeys : (Value.map kvs).duplicateKey? = none)
    (hstrings : ∀ kv ∈ kvs, IsString kv.1) {kv : Value × Value} (hkv : kv ∈ kvs)
    (hforeign : IsForeign names kv.1) : kv ∈ extraFields extra := by
  obtain ⟨fields, hfields, rfl⟩ := h
  obtain rfl := eq_of_named hfields hstrings
  obtain ⟨f, hf, rfl⟩ := List.mem_map.mp hkv
  have hnodup : ((fields.filter fun f => f.1 ∉ names).map (·.1)).Nodup :=
    (nodup_of_duplicateKey? hkeys).sublist (List.filter_sublist.map _)
  refine List.mem_map.mpr ⟨f, Dict.mem_ofList hnodup (List.mem_filter.mpr ⟨hf, ?_⟩), rfl⟩
  exact decide_eq_true fun hname => hforeign f.1 hname rfl

theorem Kept.carries (h : Kept names kvs extra) (hkeys : (Value.map kvs).duplicateKey? = none)
    (hmanaged : ∀ kv ∈ managed, ∃ name ∈ names, kv.1 = .str name) :
    Carries names kvs (managed ++ extraFields extra) where
  sourced kv hkv hforeign := h.sourced (Kept.foreign hmanaged hkv hforeign)
  same_iff := by
    constructor
    · intro hsame kv hkv
      by_cases hforeign : IsForeign names kv.1
      · exact (h.sourced (Kept.foreign hmanaged ((hsame kv hforeign).mp hkv) hforeign)).1
      · simp only [IsForeign, not_forall, not_not] at hforeign
        obtain ⟨name, -, heq⟩ := hforeign
        exact ⟨name, heq⟩
    · intro hstrings kv hforeign
      constructor
      · intro hkv
        exact List.mem_append_right _ (h.mem hkeys hstrings hkv hforeign)
      · intro hkv
        obtain ⟨-, key, hmem, hkey⟩ := h.sourced (Kept.foreign hmanaged hkv hforeign)
        rcases hkey with rfl | hkey
        · exact hmem
        · exact absurd (hstrings _ hmem) hkey

end

/-! ## Entries

An entry is written as its managed fields with the extra fields behind them. -/

def SecretKeyRef.managed (r : SecretKeyRef) : List (Value × Value) :=
  textField "name" r.name ++ textField "key" r.key

def SecretKeyRef.fields (r : SecretKeyRef) : List (Value × Value) :=
  r.managed ++ extraFields r.extra

def Entry.managed (e : Entry) : List (Value × Value) :=
  textField "url" e.url ++ refField "usernameSecret" e.usernameSecret
    ++ refField "passwordSecret" e.passwordSecret

def Entry.fields (e : Entry) : List (Value × Value) := e.managed ++ extraFields e.extra

theorem eq_of_mem_textField {name s : String} {kv : Value × Value} (h : kv ∈ textField name s) :
    kv = (.str name, .str s) := by
  unfold textField at h
  split at h
  · cases h
  · exact List.mem_singleton.mp h

theorem eq_of_mem_refField {name : String} {ref : Option SecretKeyRef} {kv : Value × Value}
    (h : kv ∈ refField name ref) : ∃ r, ref = some r ∧ kv = (.str name, .map r.fields) := by
  cases ref with
  | none => cases h
  | some r => exact ⟨r, rfl, List.mem_singleton.mp h⟩

theorem SecretKeyRef.key_of_managed {r : SecretKeyRef} {kv : Value × Value}
    (h : kv ∈ r.managed) : ∃ name ∈ refNames, kv.1 = .str name := by
  rcases List.mem_append.mp h with h | h
  · exact ⟨"name", by decide, congrArg Prod.fst (eq_of_mem_textField h)⟩
  · exact ⟨"key", by decide, congrArg Prod.fst (eq_of_mem_textField h)⟩

theorem Entry.key_of_managed {e : Entry} {kv : Value × Value} (h : kv ∈ e.managed) :
    ∃ name ∈ entryNames, kv.1 = .str name := by
  simp only [managed, List.mem_append] at h
  rcases h with (h | h) | h
  · exact ⟨"url", by decide, congrArg Prod.fst (eq_of_mem_textField h)⟩
  · obtain ⟨r, -, rfl⟩ := eq_of_mem_refField h
    exact ⟨"usernameSecret", by decide, rfl⟩
  · obtain ⟨r, -, rfl⟩ := eq_of_mem_refField h
    exact ⟨"passwordSecret", by decide, rfl⟩

theorem Entry.Keeps.carries {kvs : List (Value × Value)} {e : Entry} (h : e.Keeps kvs)
    (hkeys : (Value.map kvs).duplicateKey? = none) : EntryCarries kvs e.fields where
  fields := h.extra.carries hkeys fun _ => Entry.key_of_managed
  refs name hname ref href := by
    have hrefKeys : (Value.map ref).duplicateKey? = none :=
      ((Value.duplicateInPairs?_eq_none.mp hkeys).1 _ href).2.1
    have hcarries {r : SecretKeyRef} (hkept : Kept refNames ref r.extra) :
        Carries refNames ref r.fields :=
      hkept.carries hrefKeys fun _ => SecretKeyRef.key_of_managed
    simp only [List.mem_cons, List.not_mem_nil, or_false] at hname
    rcases hname with rfl | rfl
    · obtain ⟨r, hr, hkept⟩ := h.username ref href
      refine ⟨r.fields, ?_, hcarries hkept⟩
      simp [Entry.fields, Entry.managed, hr, refField, SecretKeyRef.toValue, SecretKeyRef.fields,
        SecretKeyRef.managed]
    · obtain ⟨r, hr, hkept⟩ := h.password ref href
      refine ⟨r.fields, ?_, hcarries hkept⟩
      simp [Entry.fields, Entry.managed, hr, refField, SecretKeyRef.toValue, SecretKeyRef.fields,
        SecretKeyRef.managed]

/-! ## What is written is seen

No key of an entry stands twice, so that its mapping is seen in the text that is written. -/

/-- A mapping of managed fields and of carried ones holds no key twice. -/
theorem duplicateKey?_fields {names : List String} {managed : List (Value × Value)}
    {extra : Dict Value} (hnames : ∀ kv ∈ managed, ∃ name ∈ names, kv.1 = .str name)
    (hvalues : ∀ kv ∈ managed, kv.2.duplicateKey? = none)
    (hmanaged : managed.Pairwise fun a b => a.1 ≠ b.1) (hextra : Carried names extra.entries) :
    (Value.map (managed ++ extraFields extra)).duplicateKey? = none := by
  have hextraFields : ∀ kv ∈ extraFields extra, ∃ name, name ∉ names ∧ kv.1 = .str name ∧
      kv.2.duplicateKey? = none := by
    intro kv hkv
    obtain ⟨f, hf, rfl⟩ := List.mem_map.mp hkv
    exact ⟨f.1, (hextra f hf).1, rfl, (hextra f hf).2.1⟩
  have hparts : ∀ kv ∈ managed ++ extraFields extra,
      IsString kv.1 ∧ kv.2.duplicateKey? = none := by
    intro kv hkv
    rcases List.mem_append.mp hkv with hkv | hkv
    · obtain ⟨name, -, heq⟩ := hnames kv hkv
      exact ⟨⟨name, heq⟩, hvalues kv hkv⟩
    · obtain ⟨name, -, heq, hvalue⟩ := hextraFields kv hkv
      exact ⟨⟨name, heq⟩, hvalue⟩
  have hdistinct : (managed ++ extraFields extra).Pairwise fun a b => a.1 ≠ b.1 := by
    refine List.pairwise_append.mpr ⟨hmanaged, ?_, fun a ha b hb heq => ?_⟩
    · refine List.pairwise_map.mpr (extra.ascending.imp fun {a b} hlt heq => ?_)
      rw [Value.str.injEq] at heq
      exact String.lt_irrefl _ (heq ▸ hlt)
    · obtain ⟨name, hname, ha⟩ := hnames a ha
      obtain ⟨other, hother, hb, -⟩ := hextraFields b hb
      rw [ha, hb, Value.str.injEq] at heq
      exact hother (heq ▸ hname)
  refine Value.duplicateInPairs?_eq_none.mpr ⟨fun kv hkv => ?_, ?_⟩
  · obtain ⟨⟨s, hs⟩, hvalue⟩ := hparts kv hkv
    exact ⟨hs ▸ rfl, hvalue, fun k hk => absurd hk List.not_mem_nil⟩
  · refine hdistinct.imp_of_mem fun {a b} _ hb hne => ?_
    obtain ⟨⟨s, hs⟩, -⟩ := hparts b hb
    rw [hs] at hne ⊢
    exact Bool.eq_false_iff.mpr fun hsame => hne (Value.same_str.mp hsame)

theorem SecretKeyRef.duplicateKey?_fields {r : SecretKeyRef} (h : r.Proper) :
    (Value.map r.fields).duplicateKey? = none := by
  refine RepoList.duplicateKey?_fields (fun _ => key_of_managed) (fun kv hkv => ?_) ?_ h
  · rcases List.mem_append.mp hkv with hkv | hkv <;> rw [eq_of_mem_textField hkv] <;> rfl
  · unfold managed textField
    split <;> split <;> simp

theorem Entry.duplicateKey?_fields {e : Entry} (h : e.Proper) :
    (Value.map e.fields).duplicateKey? = none := by
  refine RepoList.duplicateKey?_fields (fun _ => key_of_managed) (fun kv hkv => ?_) ?_ h.extra
  · simp only [managed, List.mem_append] at hkv
    rcases hkv with (hkv | hkv) | hkv
    · rw [eq_of_mem_textField hkv]
      rfl
    · obtain ⟨r, hr, rfl⟩ := eq_of_mem_refField hkv
      exact SecretKeyRef.duplicateKey?_fields (h.username r hr)
    · obtain ⟨r, hr, rfl⟩ := eq_of_mem_refField hkv
      exact SecretKeyRef.duplicateKey?_fields (h.password r hr)
  · unfold managed textField
    cases e.usernameSecret <;> cases e.passwordSecret <;> split <;> simp [refField]

theorem parse_of_encode {es : List Entry} {text : String} (hes : ∀ e ∈ es, e.Proper)
    (hyaml : ReadsBack (listValue es)) (h : encode es = .ok text) :
    parse text = .ok (.seq ((es.map Entry.fields).map .map)) := by
  have hlist : listValue es = .seq ((es.map Entry.fields).map .map) := by
    rw [List.map_map]
    rfl
  rw [← hlist]
  refine parse_of_read (hyaml text h) ?_
  refine Value.duplicateInItems?_eq_none.mpr fun v hv => ?_
  obtain ⟨e, he, rfl⟩ := List.mem_map.mp hv
  exact Entry.duplicateKey?_fields (hes e he)

/-! ## Texts -/

/-- The text of a list with one more entry, beside the text that the list was read from. -/
theorem carries_of_texts {old new : String} {es : List Entry} {entry : Entry}
    {vs : List (List (Value × Value))} (hread : decode old = .ok es) (hentry : entry.Proper)
    (hyaml : ReadsBack (listValue (es ++ [entry]))) (hwrite : encode (es ++ [entry]) = .ok new)
    (hold : parse old = .ok (.seq (vs.map .map))) :
    ∃ ws w, parse new = .ok (.seq ((ws ++ [w]).map .map)) ∧ List.Forall₂ EntryCarries vs ws := by
  obtain ⟨hview, hkeys⟩ := parse_ok.mp hold
  have hproper : ∀ e ∈ es ++ [entry], e.Proper := by
    intro e he
    rcases List.mem_append.mp he with he | he
    · exact proper_of_decode hread e he
    · rwa [List.mem_singleton.mp he]
  refine ⟨es.map Entry.fields, entry.fields, ?_, ?_⟩
  · rw [parse_of_encode hproper hyaml hwrite, List.map_append]
    rfl
  · have hkeeps := keeps_of_decode (not_blank_of_view hview) hread hview
    have hmaps := Value.duplicateInItems?_eq_none.mp hkeys
    have hmap : ∀ kvs ∈ vs, (Value.map kvs).duplicateKey? = none :=
      fun kvs hkvs => hmaps _ (List.mem_map_of_mem hkvs)
    refine List.forall₂_map_right_iff.mpr (((List.forall₂_and_left _ _).mpr ⟨hmap, hkeeps⟩).imp ?_)
    rintro kvs e ⟨hmap, he⟩
    exact he.carries hmap

/-- Whatever else is done to the cluster, once a call to reconcile has written the list, the text
that it found and the text that it left, both seen as plain YAML, go together mapping by mapping
with one more mapping at the end. Each mapping, and each reference in it that is a mapping, holds
the same fields of other writers exactly if all of its keys are strings; what it holds of them
otherwise has strings for keys, and values that were there. -/
theorem foreign_fields_carried {m : Memory} (hm : m.Reachable) (r : Call) (space name : String)
    (events : List (Session.Event Unit)) (attempts : Nat)
    (hdone : ((atOnce (fun _ => r) space name m).run events).tasks ()
      = .done (.ok ⟨attempts, true⟩))
    (hyaml : Rereadable r space name
      (exchanges ((atOnce (fun _ => r) space name m).run events))) :
    ∃ before x old new es,
      exchanges ((atOnce (fun _ => r) space name m).run events) = before ++ [x] ∧
      x.before.configMap? space name = some old ∧ x.after.configMap? space name = some new ∧
      decode (listText old) = .ok es ∧ (∀ e ∈ es, e.url ≠ r.host) ∧
      ∀ vs, parse (listText old) = .ok (.seq (vs.map .map)) →
        ∃ ws w, parse (listText new) = .ok (.seq ((ws ++ [w]).map .map)) ∧
          List.Forall₂ EntryCarries vs ws := by
  obtain ⟨stages, h⟩ := contended_run hm.sound events
  obtain ⟨-, before, x, hxs, -, haccepted, hreplaced⟩ := h.ended hdone
  have hlast : ∀ old es, x.before.configMap? space name = some old →
      decode (listText old) = .ok es → ReadsBack (listValue (es ++ [r.entry])) :=
    hyaml x (hxs ▸ List.mem_append_right _ (List.mem_singleton_self x)) haccepted
  obtain ⟨old, es, new, hold, hes, hhost, hnew, hwrite, -⟩ := hreplaced.stored hlast
  refine ⟨before, x, old, new, es, hxs, hold, hnew, hes, hhost, fun vs hvs => ?_⟩
  exact carries_of_texts hes (Entry.proper_ofCredential r.credential) (hlast old es hold hes)
    hwrite hvs

/-- A list with fields of others in its entry and in a reference, one of them an alias. -/
def sharedText : String :=
  "- url: x\n  usernameSecret:\n    name: n\n    optional: true\n  tags: &t [1, ~]\n  more: *t\n"

/-- The mapping in that list. -/
def sharedFields : List (Value × Value) :=
  [(.str "url", .str "x"),
    (.str "usernameSecret", .map [(.str "name", .str "n"), (.str "optional", .bool true)]),
    (.str "tags", .seq [.int 1, .null]), (.str "more", .seq [.int 1, .null])]

/-- The entry in that list. -/
def sharedEntry : Entry :=
  { url := "x"
    usernameSecret := some ⟨"n", "", (∅ : Dict Value).insert "optional" (.bool true)⟩
    passwordSecret := none
    extra := ((∅ : Dict Value).insert "tags" (.seq [.int 1, .null])).insert "more"
      (.seq [.int 1, .null]) }

/-- A map with this text for its list. -/
def mapOf (text : String) : ConfigMap :=
  ⟨"ns", "cm", none, (∅ : Dict String).insert listKey text⟩

/-- A call that finds that list writes it with the same foreign fields. -/
theorem shared_fields_carried :
    ∃ (x : Exchange) (new : ConfigMap) (fields added ref : List (Value × Value)),
      x.after.configMap? "ns" "cm" = some new ∧
      parse (listText new) = .ok (.seq [.map fields, .map added]) ∧
      SameForeign entryNames sharedFields fields ∧ (.str "usernameSecret", .map ref) ∈ fields ∧
      SameForeign refNames [(.str "name", .str "n"), (.str "optional", .bool true)] ref := by
  let m : Memory := ((Memory.new "c").storeConfigMap (mapOf sharedText)).2
  let call : Call := ⟨2, guest, "s"⟩
  let events : List (Session.Event Unit) := [.turn (), .turn (), .turn (), .turn ()]
  have hok : (match ((atOnce (fun _ => call) "ns" "cm" m).run events).tasks () with
      | .done (.ok o) => o.written
      | _ => false) = true := by decide +kernel
  have hfound : ∀ x ∈ exchanges ((atOnce (fun _ => call) "ns" "cm" m).run events),
      (x.before.configMap? "ns" "cm").map listText = some sharedText := by decide +kernel
  have hdecode : decode sharedText = .ok [sharedEntry] := by decide +kernel
  have hparse : parse sharedText = .ok (.seq [.map sharedFields]) := by decide +kernel
  have hback : ReadsBack (listValue ([sharedEntry] ++ [call.entry])) := by decide +kernel
  split at hok
  case h_1 o hdone =>
    obtain ⟨attempts, rfl⟩ : ∃ attempts, o = ⟨attempts, true⟩ := by
      obtain ⟨attempts, written⟩ := o
      exact ⟨attempts, congrArg _ hok⟩
    obtain ⟨before, x, old, new, es, hxs, hold, hnew, -, -, hlists⟩ := foreign_fields_carried
      ⟨"c", [.store (mapOf sharedText)], rfl⟩ call "ns" "cm" events attempts hdone
      fun x hx _ old es hold hes => by
        have htext := hfound x hx
        rw [hold] at htext
        rw [Option.some.inj htext, hdecode] at hes
        cases hes
        exact hback
    have htext := hfound x (hxs ▸ List.mem_append_right _ (List.mem_singleton_self x))
    rw [hold] at htext
    rw [Option.some.inj htext] at hlists
    obtain ⟨ws, added, hparsed, hcarries⟩ := hlists [sharedFields] hparse
    cases hcarries with
    | @cons _ fields _ _ hcarries hnil =>
        cases hnil
        have hstrings : ∀ kv ∈ sharedFields, IsString kv.1 := by
          simp [sharedFields, IsString]
        obtain ⟨ref, href, hrefs⟩ :=
          hcarries.refs "usernameSecret" (by decide) _ (List.mem_cons_of_mem _ List.mem_cons_self)
        refine ⟨x, new, fields, added, ref, hnew, hparsed, hcarries.fields.same_iff.mpr hstrings,
          href, hrefs.same_iff.mpr ?_⟩
        simp [IsString]
  case h_2 => cases hok

/-- The entry of the guest as it is written. -/
def guestText : String :=
  "- url: n\n  usernameSecret:\n    name: 'true'\n    key: username\n"
    ++ "  passwordSecret:\n    name: '1e3'\n    key: password\n"

/-- A key that is a number is written as a string, so the mapping has another field than before. -/
theorem number_becomes_string :
    let old : List (Value × Value) := [(.str "url", .str "x"), (.int 1, .str "a")]
    let new : List (Value × Value) := [(.str "url", .str "x"), (.str "1", .str "a")]
    let text := "- url: x\n  '1': a\n" ++ guestText
    parse "- url: x\n  1: a\n" = .ok (.seq [.map old]) ∧
      mergedText (mapOf "- url: x\n  1: a\n") guest "s" = .ok (some text) ∧
      parse text = .ok (.seq [.map new, .map (Entry.ofCredential guest).fields]) ∧
      ¬ SameForeign entryNames old new := by
  intro old new text
  refine ⟨by decide +kernel, by decide +kernel, by decide +kernel, fun hsame => ?_⟩
  have hforeign : IsForeign entryNames (.int 1) := fun name _ h => nomatch h
  have hmem : (Value.int 1, Value.str "a") ∈ new := (hsame _ hforeign).mp (by decide)
  exact absurd hmem (by decide)

example : mergedText (mapOf "- url: x\n  1: a\n  '1': b\n") guest "s"
    = .ok (some ("- url: x\n  '1': b\n" ++ guestText)) := by decide +kernel

end CredRegistry.RepoList
