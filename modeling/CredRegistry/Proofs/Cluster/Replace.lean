import CredRegistry.Proofs.Cluster.Shelf
import Mathlib.Control.Monad.Basic
import Mathlib.Tactic.SplitIfs

/-!
# Updates of config maps are conditional

An update reads the object once more before it replaces it, and takes what it is not to change
from there. It is the version of the caller's read that it sends, so a write between that read
and the replacement is found out, whichever of the two gaps it falls into: the stored version is
then one that was not given yet when the caller read (`Fresh.nil_of_version`).
-/

namespace CredRegistry.ApiServer

open CredRegistry.Json CredRegistry.Manifest

theorem Fault.toError_cases (kind : ObjectKind) (space name : String) (fault : Fault) :
    fault.toError kind space name = .notFound kind space name ∨
      fault.toError kind space name = .conflict kind space name ∨
        ∃ text, fault.toError kind space name = .api text := by
  unfold Fault.toError
  split
  · split_ifs
    · exact .inl rfl
    · exact .inr (.inl rfl)
    · exact .inr (.inr ⟨_, rfl⟩)
  · exact .inr (.inr ⟨_, rfl⟩)

variable {β : Type} {lossy : Prop} {space name : String} {p p' p'' : Shelf} {deeds : List Deed}

/-! ## Reads -/

/-- What a read comes to. -/
inductive Found (lossy : Prop) (space name : String) (p : Shelf) :
    Except Fault ConfigMapManifest → Prop where
  | shown {m q} (hq : getRequest .configMap space name = .ok q)
      (ho : p.object = some m.toJson) : Found lossy space name p (.ok m)
  | missing {fault} (ho : p.object = none)
      (h : fault.toError .configMap space name = .notFound .configMap space name) :
      Found lossy space name p (.error fault)
  | failed {fault} (h : lossy ∨ ∃ fault, getRequest .configMap space name = .error fault) :
      Found lossy space name p (.error fault)

theorem Runs.of_get {f : Except Fault ConfigMapManifest → Http.Task β} {b : β}
    (h : Runs lossy (pathOf space name)
      (send ConfigMapManifest.ofText (getRequest .configMap space name) >>= f) p deeds b p'') :
    ∃ earlier later x, deeds = earlier ++ later ∧ Fresh p earlier ∧
      Found lossy space name (p.afterAll earlier) x ∧
      Runs lossy (pathOf space name) (f x) (p.afterAll earlier) later b p'' := by
  cases hq : getRequest .configMap space name with
  | error fault =>
      rw [hq] at h
      exact ⟨[], deeds, .error (.request fault), rfl, trivial, .failed (.inr ⟨fault, hq⟩), h⟩
  | ok q =>
      have hget := isRequest_get hq
      rw [hq] at h
      obtain ⟨earlier, later, answer, p', rfl, hfresh, hmeets, hnext⟩ := h.of_send
      refine ⟨earlier, later, outcome ConfigMapManifest.ofText answer, rfl, hfresh, ?_⟩
      cases hmeets with
      | answered _ hanswer =>
          cases hanswer with
          | found _ ho hr =>
              obtain ⟨m, hm, rfl⟩ := outcome_of_shows hr
              rw [hm] at hnext ⊢
              exact ⟨.shown hq ho, hnext⟩
          | missing ho hr =>
              rw [outcome_of_refuses hr] at hnext ⊢
              exact ⟨.missing ho (if_pos hr.2), hnext⟩
          | replaced hmethod => cases hget.method.symm.trans hmethod
          | outdated hmethod => cases hget.method.symm.trans hmethod
      | failed hlossy hfails =>
          obtain ⟨fault, hfault⟩ := outcome_of_fails ConfigMapManifest.ofText hfails
          rw [hfault] at hnext ⊢
          exact ⟨.failed (.inl hlossy), hnext⟩
      | elsewhere hpath => exact absurd hget.path hpath

/-- Work that reads an object which the server shows. -/
theorem Runs.resume_get {f : Except Fault ConfigMapManifest → Http.Task β} {b : β}
    {q : Http.Request} {m : ConfigMapManifest} (earlier later : List Deed) (r : Http.Reply)
    (hq : getRequest .configMap space name = .ok q) (hfresh : Fresh p earlier)
    (ho : (p.afterAll earlier).object = some m.toJson) (hr : r.isFailure = false)
    (hm : ConfigMapManifest.ofText r.body = .ok m)
    (h : Runs lossy (pathOf space name) (f (.ok m)) (p.afterAll earlier) later b p'') :
    Runs lossy (pathOf space name)
      (send ConfigMapManifest.ofText (getRequest .configMap space name) >>= f) p
      (earlier ++ later) b p'' := by
  have hget := isRequest_get hq
  have houtcome : outcome ConfigMapManifest.ofText (.ok r) = .ok m := by
    rw [outcome, received, if_neg (Bool.not_eq_true _ ▸ hr), hm]
  rw [hq]
  refine .resume earlier later (.ok r) hfresh
    (.answered hget.path (.found hget.method ho ⟨hr, m, hm, rfl⟩)) ?_
  rwa [houtcome]

/-! ## Replacements -/

/-- What a replacement comes to, and what becomes of the object. -/
inductive Replaced (lossy : Prop) (space name : String) (p : Shelf) (manifest : Value) :
    Except Fault ConfigMapManifest → Shelf → Prop where
  | stored {m m' o version} (hm : m.toJson = manifest) (ho : p.object = some o)
      (hversion : versionIn manifest = versionIn o) (hfresh : version ∉ p.given)
      (hm' : m'.toJson = (withVersion m version).toJson) :
      Replaced lossy space name p manifest (.ok m') (p.store m version)
  | missing {fault} (ho : p.object = none)
      (h : fault.toError .configMap space name = .notFound .configMap space name) :
      Replaced lossy space name p manifest (.error fault) p
  | outdated {o fault} (ho : p.object = some o) (hversion : versionIn manifest ≠ versionIn o)
      (h : fault.toError .configMap space name = .conflict .configMap space name) :
      Replaced lossy space name p manifest (.error fault) p
  | failed {fault}
      (h : lossy ∨ ∃ fault, replaceRequest .configMap space name manifest = .error fault) :
      Replaced lossy space name p manifest (.error fault) p

theorem Runs.of_replace {manifest : Value} {f : Except Fault ConfigMapManifest → Http.Task β}
    {b : β} (h : Runs lossy (pathOf space name)
      (send ConfigMapManifest.ofText (replaceRequest .configMap space name manifest) >>= f)
      p deeds b p'') :
    ∃ earlier later x p', deeds = earlier ++ later ∧ Fresh p earlier ∧
      Replaced lossy space name (p.afterAll earlier) manifest x p' ∧
      Runs lossy (pathOf space name) (f x) p' later b p'' := by
  cases hq : replaceRequest .configMap space name manifest with
  | error fault =>
      rw [hq] at h
      exact ⟨[], deeds, .error (.request fault), p, rfl, trivial, .failed (.inr ⟨fault, hq⟩), h⟩
  | ok q =>
      have hput := isRequest_replace hq
      rw [hq] at h
      obtain ⟨earlier, later, answer, p', rfl, hfresh, hmeets, hnext⟩ := h.of_send
      refine ⟨earlier, later, outcome ConfigMapManifest.ofText answer, p', rfl, hfresh, ?_⟩
      cases hmeets with
      | answered _ hanswer =>
          cases hanswer with
          | found hmethod => cases hput.method.symm.trans hmethod
          | missing ho hr =>
              rw [outcome_of_refuses hr] at hnext ⊢
              exact ⟨.missing ho (if_pos hr.2), hnext⟩
          | replaced _ hbody ho hversion hfresh hr =>
              obtain rfl := Option.some.inj (hput.body.symm.trans hbody)
              obtain ⟨m', hm', hshown⟩ := outcome_of_shows hr
              rw [hm'] at hnext ⊢
              exact ⟨.stored rfl ho hversion hfresh hshown, hnext⟩
          | outdated _ hbody ho hversion hr =>
              obtain rfl := Option.some.inj (hput.body.symm.trans hbody)
              rw [outcome_of_refuses hr] at hnext ⊢
              refine ⟨.outdated ho hversion ?_, hnext⟩
              rw [Fault.toError, hr.2]
              rfl
      | failed hlossy hfails =>
          obtain ⟨fault, hfault⟩ := outcome_of_fails ConfigMapManifest.ofText hfails
          rw [hfault] at hnext ⊢
          exact ⟨.failed (.inl hlossy), hnext⟩
      | elsewhere hpath => exact absurd hput.path hpath

/-! ## Versions -/

/-- The version that a reader sees is one that was given out. -/
theorem Shelf.version_given {m : ConfigMapManifest} (ho : p.object = some m.toJson) :
    ∃ version ∈ p.given, m.metadata.version = some version := by
  obtain ⟨m', hm', version, hgiven, hversion⟩ := p.known _ ho
  refine ⟨version, hgiven, version_of_versionIn ?_⟩
  rw [← hm', versionIn_toJson, hversion]
  rfl

/-- If the version that a reader has seen is still the stored one, nobody has written. -/
theorem Fresh.nil_of_version {m : ConfigMapManifest} {o : Value} (hfresh : Fresh p deeds)
    (hm : p.object = some m.toJson) (ho : (p.afterAll deeds).object = some o)
    (hversion : m.metadata.version.map .str = versionIn o) : deeds = [] := by
  by_contra hdeeds
  obtain ⟨version, hgiven, hseen⟩ := p.version_given hm
  obtain ⟨version', hstored, hnew⟩ := hfresh.version_not_given hdeeds o ho
  rw [hseen, hstored] at hversion
  cases hversion
  exact hnew hgiven

/-- An object that is another one but for its data and its version. -/
structure Revises (o : Value) (data : Dict String) (version : String) (o' : Value) : Prop where
  data : o'.field? "data" = some (dictJson .str data)
  version : versionIn o' = some (.str version)
  metadata : ∀ field ≠ "resourceVersion", (o'.field? "metadata").bind (·.field? field)
    = (o.field? "metadata").bind (·.field? field)
  rest : ∀ field, field ≠ "data" → field ≠ "metadata" → o'.field? field = o.field? field

theorem revises_withVersion {m m' : ConfigMapManifest} {c : ConfigMap} (version : String)
    (h : m'.toJson = (revised m c).toJson) :
    Revises m.toJson c.data version (withVersion m' version).toJson where
  data := calc
    (withVersion m' version).toJson.field? "data"
    _ = m'.data.map (dictJson .str) := ConfigMapManifest.field?_data _
    _ = m'.toJson.field? "data" := m'.field?_data.symm
    _ = (revised m c).toJson.field? "data" := by rw [h]
    _ = some (dictJson .str c.data) := ConfigMapManifest.field?_data _
  version := versionIn_withVersion m' version
  metadata field hfield := by
    have hmetadata : m'.metadata.toJson = (revised m c).metadata.toJson := Option.some.inj <| by
      rw [← ConfigMapManifest.field?_metadata, h, ConfigMapManifest.field?_metadata]
    simp only [ConfigMapManifest.field?_metadata, Option.bind_some]
    calc (withVersion m' version).metadata.toJson.field? field
      _ = m'.metadata.toJson.field? field := Metadata.field?_setVersion _ _ hfield
      _ = (revised m c).metadata.toJson.field? field := by rw [hmetadata]
      _ = m.metadata.toJson.field? field := Metadata.field?_setVersion _ _ hfield
  rest field hdata hmetadata := by
    have hversion : (withVersion m' version).toJson.field? field = m'.toJson.field? field := by
      refine ConfigMapManifest.field?_congr ?_ ?_ hdata hmetadata <;> rfl
    have hrevised : (revised m c).toJson.field? field = m.toJson.field? field := by
      refine ConfigMapManifest.field?_congr ?_ ?_ hdata hmetadata <;> rfl
    rw [hversion, h, hrevised]

theorem configMapOf_of_revises {m : ConfigMapManifest} {o : Value} {data : Dict String}
    {version : String} (h : Revises o data version m.toJson) :
    configMapOf space name m = ⟨space, name, some version, data⟩ := by
  have hdata : m.data.map (dictJson .str) = some (dictJson .str data) :=
    m.field?_data.symm.trans h.data
  obtain ⟨data', hdata', heq⟩ := Option.map_eq_some_iff.mp hdata
  rw [configMapOf, version_of_versionIn h.version, hdata', dictJson_str_inj heq]
  rfl

/-! ## Updates -/

theorem Runs.of_getConfigMap {c : ConfigMap}
    (h : Runs lossy (pathOf space name) (getConfigMap space name) p deeds (.ok c) p') :
    ∃ m q, getRequest .configMap space name = .ok q ∧ p'.object = some m.toJson ∧
      c = configMapOf space name m := by
  obtain ⟨earlier, later, x, rfl, -, hfound, hnext⟩ := Runs.of_get h
  cases hfound with
  | @shown m q hq ho =>
      obtain ⟨-, hc, rfl⟩ := hnext.of_done
      exact ⟨m, q, hq, ho, Except.ok.inj hc⟩
  | missing => cases hnext.of_done.2.1
  | failed => cases hnext.of_done.2.1

/-- The course of an update: it comes to nothing with its read, or with its replacement, or the
replacement is stored. -/
inductive Updates (lossy : Prop) (c : ConfigMap) (p : Shelf) (deeds : List Deed) :
    Except ClusterError ConfigMap → Shelf → Prop where
  | unread {fault} (h : Found lossy c.space c.name (p.afterAll deeds) (.error fault)) :
      Updates lossy c p deeds (.error (fault.toError .configMap c.space c.name))
        (p.afterAll deeds)
  | refused {earlier later m fault p'} (hdeeds : deeds = earlier ++ later)
      (ho : (p.afterAll earlier).object = some m.toJson)
      (h : Replaced lossy c.space c.name (p.afterAll deeds) (revised m c).toJson
        (.error fault) p') :
      Updates lossy c p deeds (.error (fault.toError .configMap c.space c.name)) p'
  | stored {earlier later m m' p'} (hdeeds : deeds = earlier ++ later)
      (ho : (p.afterAll earlier).object = some m.toJson)
      (h : Replaced lossy c.space c.name (p.afterAll deeds) (revised m c).toJson (.ok m') p') :
      Updates lossy c p deeds (.ok (configMapOf c.space c.name m')) p'

theorem Runs.of_updateConfigMap {c : ConfigMap} {result : Except ClusterError ConfigMap}
    (h : Runs lossy (pathOf c.space c.name) (updateConfigMap c) p deeds result p') :
    Fresh p deeds ∧ Updates lossy c p deeds result p' := by
  obtain ⟨earlier, later, x, rfl, hfresh, hfound, hnext⟩ := Runs.of_get h
  cases x with
  | error fault =>
      obtain ⟨rfl, rfl, rfl⟩ := hnext.of_done
      rw [List.append_nil]
      exact ⟨hfresh, .unread hfound⟩
  | ok m =>
      obtain ⟨earlier', later', y, p'', rfl, hfresh', hreplaced, hnext⟩ := Runs.of_replace hnext
      rw [← Shelf.afterAll_append] at hreplaced
      cases hfound with
      | shown _ ho =>
          cases y with
          | error fault =>
              obtain ⟨rfl, rfl, rfl⟩ := hnext.of_done
              rw [List.append_nil]
              exact ⟨hfresh.append hfresh', .refused rfl ho hreplaced⟩
          | ok m' =>
              obtain ⟨rfl, rfl, rfl⟩ := hnext.of_done
              rw [List.append_nil]
              exact ⟨hfresh.append hfresh', .stored rfl ho hreplaced⟩

/-- An update that has gone through. Nobody has written since the caller's read, and the object
is what the caller has read but for its data and its version, which the caller gets. -/
structure Updated (p : Shelf) (deeds : List Deed) (space name : String) (data : Dict String)
    (p' : Shelf) (c : ConfigMap) : Prop where
  alone : deeds = []
  stored : ∃ o o' version, p.object = some o ∧ p'.object = some o' ∧ version ∉ p.given ∧
    p'.given = version :: p.given ∧ Revises o data version o' ∧
    c = ⟨space, name, some version, data⟩

/-- An update that was refused. The object is what others have left. Unless a request has come
to nothing, others have removed it, or have written it since the caller's read. -/
structure Declined (lossy : Prop) (p : Shelf) (deeds : List Deed) (space name : String)
    (p' : Shelf) (e : ClusterError) : Prop where
  kept : p' = p.afterAll deeds
  kinds : e = .notFound .configMap space name ∨ e = .conflict .configMap space name ∨
    ∃ text, e = .api text
  reason : ¬lossy → (pathText space name ++ "?").utf8ByteSize ≤ Http.targetBound →
    deeds ≠ [] ∧ (p'.object = none ∧ e = .notFound .configMap space name ∨
      p'.object ≠ none ∧ e = .conflict .configMap space name)

section

variable {m current : ConfigMapManifest} {data : Dict String} {q : Http.Request}

theorem updated_of_stored {earlier later : List Deed} {m' : ConfigMapManifest}
    (ho : p.object = some m.toJson) (hfresh : Fresh p (earlier ++ later))
    (hcurrent : (p.afterAll earlier).object = some current.toJson)
    (h : Replaced lossy space name (p.afterAll (earlier ++ later))
      (revised current { configMapOf space name m with data }).toJson (.ok m') p') :
    Updated p (earlier ++ later) space name data p' (configMapOf space name m') := by
  obtain @⟨m₀, _, o, version, hm₀, hstored, hversion, hnew, hm'⟩ := h
  rw [versionIn_toJson] at hversion
  -- the version that was sent is that of the caller's read, whatever the second read has shown
  have halone := hfresh.nil_of_version ho hstored hversion
  obtain ⟨rfl, rfl⟩ := List.append_eq_nil_iff.mp halone
  have hrevises := revises_withVersion version hm₀
  refine ⟨halone, _, _, version, hcurrent, rfl, hnew, rfl, hrevises, ?_⟩
  exact configMapOf_of_revises (hm' ▸ hrevises)

theorem declined_of_unread {fault : Fault} (hq : getRequest .configMap space name = .ok q)
    (ho : p.object = some m.toJson)
    (h : Found lossy space name (p.afterAll deeds) (.error fault)) :
    Declined lossy p deeds space name (p.afterAll deeds)
      (fault.toError .configMap space name) := by
  refine ⟨rfl, fault.toError_cases .configMap space name, fun hlossy _ => ?_⟩
  cases h with
  | missing hmissing herror =>
      refine ⟨?_, .inl ⟨hmissing, herror⟩⟩
      rintro rfl
      cases ho.symm.trans hmissing
  | failed h =>
      rcases h with h | ⟨fault, hfault⟩
      · exact absurd h hlossy
      · cases hq.symm.trans hfault

theorem declined_of_refused {fault : Fault}
    (hq : getRequest .configMap space name = .ok q) (ho : p.object = some m.toJson)
    (h : Replaced lossy space name (p.afterAll deeds)
      (revised current { configMapOf space name m with data }).toJson (.error fault) p') :
    Declined lossy p deeds space name p' (fault.toError .configMap space name) := by
  have hkept : p' = p.afterAll deeds := by cases h <;> rfl
  refine ⟨hkept, fault.toError_cases .configMap space name, fun hlossy hsize => ?_⟩
  subst hkept
  cases h with
  | missing hmissing herror =>
      refine ⟨?_, .inl ⟨hmissing, herror⟩⟩
      rintro rfl
      cases ho.symm.trans hmissing
  | outdated ho' hversion herror =>
      refine ⟨?_, .inr ⟨ho' ▸ nofun, herror⟩⟩
      rintro rfl
      obtain rfl := Option.some.inj (ho.symm.trans ho')
      rw [versionIn_toJson, versionIn_toJson] at hversion
      exact hversion rfl
  | failed h =>
      rcases h with h | ⟨fault, hfault⟩
      · exact absurd h hlossy
      · obtain ⟨q', hq'⟩ := replaceRequest_of_get hq hsize _
        cases hq'.symm.trans hfault

end

/-- A caller reads a config map, changes its data, and updates it, while others write it, remove
it and create it again. -/
theorem update_is_conditional {before since : List Deed} {c : ConfigMap} {data : Dict String}
    {result : Except ClusterError ConfigMap}
    (hread : Runs lossy (pathOf space name) (getConfigMap space name) p before (.ok c) p')
    (hupdate : Runs lossy (pathOf space name) (updateConfigMap { c with data }) p' since
      result p'') :
    Fresh p' since ∧
      match result with
      | .ok c' => Updated p' since space name data p'' c'
      | .error e => Declined lossy p' since space name p'' e := by
  obtain ⟨m, q, hq, ho, rfl⟩ := hread.of_getConfigMap
  obtain ⟨hfresh, hupdates⟩ :=
    @Runs.of_updateConfigMap lossy p' p'' since { configMapOf space name m with data } _ hupdate
  refine ⟨hfresh, ?_⟩
  cases hupdates with
  | unread h => exact declined_of_unread hq ho h
  | refused _ _ h => exact declined_of_refused hq ho h
  | stored hdeeds hcurrent h =>
      subst hdeeds
      exact updated_of_stored ho hfresh hcurrent h

/-! ## A config map with labels -/

/-- A config map that has more to it than its data. -/
def labeled (version repos : String) : ConfigMapManifest where
  binaryData := some (Dict.ofList [("key", [0, 1])])
  data := some (Dict.ofList [("repos", repos)])
  metadata := { labels := some (Dict.ofList [("team", "ops")]), version := some version }

def labeledShelf : Shelf where
  object := some (labeled "7" "a").toJson
  given := ["7"]
  known _ h := ⟨labeled "7" "a", Option.some.inj h, "7", List.mem_singleton_self _, rfl⟩

def readText : String :=
  "\x7b\"metadata\":\x7b\"labels\":\x7b\"team\":\"ops\"\x7d,\"resourceVersion\":\"7\"\x7d,"
    ++ "\"data\":\x7b\"repos\":\"a\"\x7d,\"binaryData\":\x7b\"key\":\"AAE=\"\x7d\x7d"

def storedText : String :=
  "\x7b\"metadata\":\x7b\"labels\":\x7b\"team\":\"ops\"\x7d,\"resourceVersion\":\"8\"\x7d,"
    ++ "\"data\":\x7b\"repos\":\"b\"\x7d,\"binaryData\":\x7b\"key\":\"AAE=\"\x7d\x7d"

theorem ofText_readText : ConfigMapManifest.ofText readText = .ok (labeled "7" "a") := by
  decide +kernel

theorem ofText_storedText : ConfigMapManifest.ofText storedText = .ok (labeled "8" "b") := by
  decide +kernel

theorem getRequest_labeled : getRequest .configMap "apps" "repos"
    = .ok ⟨.get, "/api/v1/namespaces/apps/configmaps/repos", none⟩ := by rfl

theorem replaceRequest_labeled (manifest : Value) :
    replaceRequest .configMap "apps" "repos" manifest
      = .ok ⟨.put, "/api/v1/namespaces/apps/configmaps/repos?", some manifest⟩ := by rfl

/-- The change that the caller makes. -/
def labeledChange : ConfigMap :=
  { configMapOf "apps" "repos" (labeled "7" "a") with data := Dict.ofList [("repos", "b")] }

theorem runs_read : Runs False (pathOf "apps" "repos") (getConfigMap "apps" "repos") labeledShelf
    [] (.ok (configMapOf "apps" "repos" (labeled "7" "a"))) labeledShelf := by
  rw [getConfigMap]
  exact .resume_get [] [] ⟨200, readText⟩ getRequest_labeled trivial rfl rfl ofText_readText
    (.done _ _)

theorem runs_update : Runs False (pathOf "apps" "repos") (updateConfigMap labeledChange)
    labeledShelf [] (.ok (configMapOf "apps" "repos" (labeled "8" "b")))
    (labeledShelf.store (labeled "7" "b") "8") := by
  rw [updateConfigMap]
  refine .resume_get [] [] ⟨200, readText⟩ getRequest_labeled trivial rfl rfl ofText_readText ?_
  have hq := replaceRequest_labeled (revised (labeled "7" "a") labeledChange).toJson
  dsimp only [labeledChange, configMapOf] at hq ⊢
  rw [hq]
  refine .resume [] [] (.ok ⟨200, storedText⟩) trivial (.answered (isRequest_replace hq).path
    (.replaced rfl rfl rfl rfl (by decide) ⟨rfl, labeled "8" "b", ofText_storedText, rfl⟩)) ?_
  rw [outcome, received, if_neg (by decide), ofText_storedText]
  exact .done _ _

/-- Somebody else makes the same change between the two reads. -/
theorem runs_conflict : Runs False (pathOf "apps" "repos") (updateConfigMap labeledChange)
    labeledShelf [.write (labeled "7" "b") "8"] (.error (.conflict .configMap "apps" "repos"))
    (labeledShelf.store (labeled "7" "b") "8") := by
  rw [updateConfigMap]
  refine .resume_get (m := labeled "8" "b") [.write (labeled "7" "b") "8"] [] ⟨200, storedText⟩
    getRequest_labeled ⟨by decide, trivial⟩ rfl rfl ofText_storedText ?_
  have hq := replaceRequest_labeled (revised (labeled "8" "b") labeledChange).toJson
  dsimp only [labeledChange, configMapOf] at hq ⊢
  rw [hq]
  have hrefuses : Refuses ⟨409, ""⟩ 409 := ⟨rfl, rfl⟩
  refine .resume [] [] (.ok ⟨409, ""⟩) trivial (.answered (isRequest_replace hq).path
    (.outdated rfl rfl rfl ?_ hrefuses)) ?_
  · rw [versionIn_toJson, versionIn_withVersion]
    exact fun h => absurd (Value.str.inj (Option.some.inj h)) (by decide)
  · rw [outcome_of_refuses hrefuses]
    exact .done _ _

theorem labeled_updates :
    Updated labeledShelf [] "apps" "repos" (Dict.ofList [("repos", "b")])
        (labeledShelf.store (labeled "7" "b") "8") (configMapOf "apps" "repos" (labeled "8" "b")) ∧
      Declined False labeledShelf [.write (labeled "7" "b") "8"] "apps" "repos"
        (labeledShelf.store (labeled "7" "b") "8") (.conflict .configMap "apps" "repos") :=
  ⟨(update_is_conditional runs_read runs_update).2,
    (update_is_conditional runs_read runs_conflict).2⟩

end CredRegistry.ApiServer
