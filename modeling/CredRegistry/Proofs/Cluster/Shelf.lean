import CredRegistry.Proofs.Cluster.Manifest
import CredRegistry.Proofs.Cluster.Target

/-!
# An API server that is shared with others

Such a server keeps a config map on a `Shelf`, together with the versions it has given out.
`Answers` says what may be relied on: an object is replaced only by one that carries its
version, and every write gets a version that was never given before. `Runs` carries work out
against the server while others write or remove the object between the requests.

A write by others is found out by the version: what is stored after it has a version that was
not given before (`Fresh.version_not_given`).
-/

namespace CredRegistry.ApiServer

open CredRegistry.Json CredRegistry.Manifest

/-! ## Objects on a shelf -/

/-- The version in the JSON of an object. -/
def versionIn (o : Value) : Option Value :=
  (o.field? "metadata").bind (·.field? "resourceVersion")

theorem versionIn_toJson (m : ConfigMapManifest) :
    versionIn m.toJson = m.metadata.version.map .str := by
  simp only [versionIn, ConfigMapManifest.field?_metadata, Option.bind_some,
    Metadata.field?_version]

theorem version_of_versionIn {m : ConfigMapManifest} {version : String}
    (h : versionIn m.toJson = some (.str version)) : m.metadata.version = some version := by
  rw [versionIn_toJson] at h
  obtain ⟨version', hversion, heq⟩ := Option.map_eq_some_iff.mp h
  rw [hversion, Value.str.inj heq]

def withVersion (m : ConfigMapManifest) (version : String) : ConfigMapManifest :=
  { m with metadata := { m.metadata with version := some version } }

theorem versionIn_withVersion (m : ConfigMapManifest) (version : String) :
    versionIn (withVersion m version).toJson = some (.str version) :=
  versionIn_toJson (withVersion m version)

/-- What is kept under the name of a config map, and the versions that were given out. -/
structure Shelf where
  object : Option Value
  given : List String
  known : ∀ o, object = some o → ∃ m : ConfigMapManifest, m.toJson = o ∧
    ∃ v ∈ given, m.metadata.version = some v

namespace Shelf

/-- The object that is stored gets a version. -/
def store (p : Shelf) (m : ConfigMapManifest) (version : String) : Shelf where
  object := some (withVersion m version).toJson
  given := version :: p.given
  known _ ho := ⟨withVersion m version, Option.some.inj ho, version, List.mem_cons_self, rfl⟩

def remove (p : Shelf) : Shelf where
  object := none
  given := p.given
  known := nofun

end Shelf

/-- What others do to the object. -/
inductive Deed where
  | write (m : ConfigMapManifest) (version : String)
  | remove

namespace Shelf

def after (p : Shelf) : Deed → Shelf
  | .write m version => p.store m version
  | .remove => p.remove

def afterAll (p : Shelf) (deeds : List Deed) : Shelf := deeds.foldl after p

theorem afterAll_append (p : Shelf) (deeds later : List Deed) :
    p.afterAll (deeds ++ later) = (p.afterAll deeds).afterAll later :=
  List.foldl_append

end Shelf

/-- Does every write get a version that was not given before? -/
def Fresh (p : Shelf) : List Deed → Prop
  | [] => True
  | .write m version :: deeds => version ∉ p.given ∧ Fresh (p.store m version) deeds
  | .remove :: deeds => Fresh p.remove deeds

theorem Fresh.append {p : Shelf} {deeds later : List Deed} (h : Fresh p deeds)
    (h' : Fresh (p.afterAll deeds) later) : Fresh p (deeds ++ later) := by
  induction deeds generalizing p with
  | nil => exact h'
  | cons d deeds ih =>
      cases d with
      | write m version => exact ⟨h.1, ih h.2 h'⟩
      | remove => exact @ih p.remove h h'

/-- What others have stored has a version that was not given before. -/
theorem Fresh.version_not_given {deeds : List Deed} : ∀ {p : Shelf}, Fresh p deeds →
    deeds ≠ [] → ∀ o, (p.afterAll deeds).object = some o →
      ∃ v, versionIn o = some (.str v) ∧ v ∉ p.given := by
  induction deeds with
  | nil => exact fun _ h => absurd rfl h
  | cons d deeds ih =>
      intro p hfresh _ o ho
      by_cases hdeeds : deeds = []
      · subst hdeeds
        cases d with
        | write m version =>
            obtain rfl : (withVersion m version).toJson = o := Option.some.inj ho
            exact ⟨version, versionIn_withVersion m version, hfresh.1⟩
        | remove => cases ho
      · cases d with
        | write m version =>
            obtain ⟨v, hv, hgiven⟩ := ih hfresh.2 hdeeds o ho
            exact ⟨v, hv, fun hmem => hgiven (List.mem_cons_of_mem _ hmem)⟩
        | remove => exact @ih p.remove hfresh hdeeds o ho

/-! ## Answers -/

/-- Does a reply show an object? -/
def Shows (r : Http.Reply) (o : Value) : Prop :=
  r.isFailure = false ∧ ∃ m, ConfigMapManifest.ofText r.body = .ok m ∧ m.toJson = o

/-- Does a reply refuse a request for the reason that a code stands for? -/
def Refuses (r : Http.Reply) (code : Nat) : Prop :=
  r.isFailure = true ∧ (Refusal.ofReply r).code = code

/-- How a server answers the requests for an object, and what becomes of the object. -/
inductive Answers (p : Shelf) (q : Http.Request) : Except String Http.Reply → Shelf → Prop where
  | found {o r} (hmethod : q.method = .get) (ho : p.object = some o) (hr : Shows r o) :
      Answers p q (.ok r) p
  | missing {r} (ho : p.object = none) (hr : Refuses r 404) : Answers p q (.ok r) p
  | replaced {o m version r} (hmethod : q.method = .put) (hbody : q.body = some m.toJson)
      (ho : p.object = some o) (hversion : versionIn m.toJson = versionIn o)
      (hfresh : version ∉ p.given) (hr : Shows r (withVersion m version).toJson) :
      Answers p q (.ok r) (p.store m version)
  | outdated {o o' r} (hmethod : q.method = .put) (hbody : q.body = some o')
      (ho : p.object = some o) (hversion : versionIn o' ≠ versionIn o) (hr : Refuses r 409) :
      Answers p q (.ok r) p

/-- An answer to a request that has come to nothing. -/
inductive Fails : Except String Http.Reply → Prop where
  | transport {text} : Fails (.error text)
  | refused {r} (hr : r.isFailure = true) : Fails (.ok r)

/-- What becomes of a request, and of the object under a path. Requests that are sent elsewhere
are answered in any way. If the way to the server is lossy, any request may come to nothing. -/
inductive Meets (lossy : Prop) (path : String) (p : Shelf) (q : Http.Request) :
    Except String Http.Reply → Shelf → Prop where
  | answered {answer p'} (hpath : Http.pathOf q.target = path) (h : Answers p q answer p') :
      Meets lossy path p q answer p'
  | failed {answer} (hlossy : lossy) (h : Fails answer) : Meets lossy path p q answer p
  | elsewhere {answer} (hpath : Http.pathOf q.target ≠ path) : Meets lossy path p q answer p

/-! ## Runs -/

/-- Work is carried out while others do something in front of its requests. -/
inductive Runs {α : Type} (lossy : Prop) (path : String) :
    Http.Task α → Shelf → List Deed → α → Shelf → Prop where
  | done (a p) : Runs lossy path (.done a) p [] a p
  | report {e next p deeds a p'} (h : Runs lossy path next p deeds a p') :
      Runs lossy path (.report e next) p deeds a p'
  | ask {q next p earlier answer p' later a p''} (hfresh : Fresh p earlier)
      (hmeets : Meets lossy path (p.afterAll earlier) q answer p')
      (h : Runs lossy path (next answer) p' later a p'') :
      Runs lossy path (.ask q next) p (earlier ++ later) a p''

section

variable {α β : Type} {lossy : Prop} {path : String} {p p' p'' : Shelf} {deeds : List Deed}

theorem Runs.of_done {a b : α} (h : Runs lossy path (.done a) p deeds b p') :
    deeds = [] ∧ b = a ∧ p' = p := by
  cases h
  exact ⟨rfl, rfl, rfl⟩

/-- What an answer comes to. -/
def outcome (read : String → Except Json.Error α) : Except String Http.Reply → Except Fault α
  | .error text => .error (.transport text)
  | .ok reply => received read reply

theorem outcome_of_fails (read : String → Except Json.Error α)
    {answer : Except String Http.Reply} (h : Fails answer) :
    ∃ fault, outcome read answer = .error fault := by
  cases h with
  | transport => exact ⟨_, rfl⟩
  | refused hr => exact ⟨_, by rw [outcome, received, if_pos hr]⟩

theorem outcome_of_refuses {read : String → Except Json.Error α} {r : Http.Reply} {code : Nat}
    (h : Refuses r code) : outcome read (.ok r) = .error (.refused (Refusal.ofReply r)) := by
  rw [outcome, received, if_pos h.1]

theorem outcome_of_shows {r : Http.Reply} {o : Value} (h : Shows r o) :
    ∃ m : ConfigMapManifest, outcome ConfigMapManifest.ofText (.ok r) = .ok m ∧ m.toJson = o := by
  obtain ⟨hr, m, hm, ho⟩ := h
  refine ⟨m, ?_, ho⟩
  rw [outcome, received, if_neg (Bool.not_eq_true _ ▸ hr), hm]

/-- Work that sends a request and goes on with what it comes to. -/
theorem Runs.of_send {read : String → Except Json.Error α} {q : Http.Request}
    {f : Except Fault α → Http.Task β} {b : β}
    (h : Runs lossy path (send read (.ok q) >>= f) p deeds b p'') :
    ∃ earlier later answer p', deeds = earlier ++ later ∧ Fresh p earlier ∧
      Meets lossy path (p.afterAll earlier) q answer p' ∧
      Runs lossy path (f (outcome read answer)) p' later b p'' := by
  cases h with
  | @ask _ _ _ earlier answer p' later _ _ hfresh hmeets h =>
      refine ⟨earlier, later, answer, p', rfl, hfresh, hmeets, ?_⟩
      cases answer <;> exact h

theorem Runs.resume {read : String → Except Json.Error α} {q : Http.Request}
    {f : Except Fault α → Http.Task β} {b : β} (earlier later : List Deed)
    (answer : Except String Http.Reply) (hfresh : Fresh p earlier)
    (hmeets : Meets lossy path (p.afterAll earlier) q answer p')
    (h : Runs lossy path (f (outcome read answer)) p' later b p'') :
    Runs lossy path (send read (.ok q) >>= f) p (earlier ++ later) b p'' := by
  refine .ask hfresh hmeets ?_
  cases answer <;> exact h

end

end CredRegistry.ApiServer
