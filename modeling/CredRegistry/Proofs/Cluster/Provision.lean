import CredRegistry.Cluster.Provision
import CredRegistry.Proofs.Cluster.Secrets
import CredRegistry.Proofs.Cluster.Session

/-!
# Callers that make sure of secrets at once

Making sure of a secret is a read and, if the secret is missing, a creation. Any number of callers
do so on one cluster, and whatever happens between the read of one and its creation, even that a
read reports a secret as missing that is there, nobody overwrites a secret.

`Course` says how far a caller has come and with which exchanges, one case for each place it can
be at. Of the cluster, `Provisioned` says where its secrets come from: each was there at the start
or was created, as a whole, by one of the callers, and no two of them created the same one. Both
are kept by every step (`Provisioned.next`).
-/

namespace CredRegistry

namespace Provision

/-- What a caller asks for: a secret, and what it is to hold if there is none yet. -/
structure Request where
  space : String
  name : String
  username : String
  token : String

namespace Request

variable (r : Request)

def key : ObjectKey := (r.space, r.name)

def ref : SecretRef := ⟨r.space, r.name⟩

/-- The secret that is created for the request. -/
def secret : Secret := .holding r.space r.name r.username r.token

def task : ClusterTask (Except ClusterError SecretRef) :=
  ClusterTask.ensureSecret r.space r.name r.username r.token

def read : ClusterCall := .getSecret r.space r.name

def creation : ClusterCall := .createSecret r.space r.name r.username r.token

/-- What is left to do once the creation has been answered. -/
def finish : Except ClusterError Secret → ClusterTask (Except ClusterError SecretRef)
  | .ok s => pure (.ok ⟨s.space, s.name⟩)
  | .error e => do
      Log.note .error ClusterTask.provisionTarget
        s!"Failed to create secret {r.space}/{r.name}: {e.message}"
      pure (.error e)

/-- What is left to do once the read has been answered. -/
def afterRead : Except ClusterError Secret → ClusterTask (Except ClusterError SecretRef)
  | .ok s => do
      Log.note .debug ClusterTask.provisionTarget s!"Secret {r.space}/{r.name} already exists"
      pure (.ok ⟨s.space, s.name⟩)
  | .error e =>
      if e.isNotFound then do
        Log.note .info ClusterTask.provisionTarget s!"Creating secret {r.space}/{r.name}"
        ClusterTask.createSecret r.space r.name r.username r.token >>= r.finish
      else do
        Log.note .error ClusterTask.provisionTarget
          s!"Failed to read secret {r.space}/{r.name}: {e.message}"
        pure (.error e)

theorem quiet_task : r.task.quiet = .ask r.read r.afterRead := by
  refine congrArg (Dialogue.ask r.read) (funext fun answer => ?_)
  cases answer with
  | ok s => rfl
  | error e =>
      have hfinish : (fun answer => match answer with
          | .ok s => pure (.ok ⟨s.space, s.name⟩)
          | .error e => do
              Log.note .error ClusterTask.provisionTarget
                s!"Failed to create secret {r.space}/{r.name}: {e.message}"
              pure (.error e)) = r.finish := by
        funext answer
        cases answer <;> rfl
      rw [afterRead, ← hfinish]
      rfl

end Request

/-! ## The course of one caller -/

/-- How far a caller has come on a cluster `m`: the exchanges it has had, and the work that is
left. -/
inductive Course (r : Request) (m : Memory) :
    List Exchange → ClusterTask (Except ClusterError SecretRef) → Prop where
  | fresh {d} (hd : d.quiet = r.task.quiet) : Course r m [] d
  | found {m₁ s d} (hread : (m₁.getSecret r.space r.name).1 = .ok s)
      (hs : m.secret? r.space r.name = some s) (hd : d.quiet = .done (.ok r.ref)) :
      Course r m [⟨r.read, m₁⟩] d
  | unread {m₁ e d} (hread : (m₁.getSecret r.space r.name).1 = .error e)
      (he : e.isNotFound = false) (hd : d.quiet = .done (.error e)) :
      Course r m [⟨r.read, m₁⟩] d
  | missing {m₁ e d} (hread : (m₁.getSecret r.space r.name).1 = .error e)
      (he : e.isNotFound = true) (hd : d.quiet = .ask r.creation r.finish) :
      Course r m [⟨r.read, m₁⟩] d
  | created {m₁ m₂ e s d} (hread : (m₁.getSecret r.space r.name).1 = .error e)
      (he : e.isNotFound = true) (hs : m.secret? r.space r.name = some s)
      (hd : d.quiet = .done (.ok r.ref)) : Course r m [⟨r.read, m₁⟩, ⟨r.creation, m₂⟩] d
  | refused {m₁ m₂ e e' d} (hread : (m₁.getSecret r.space r.name).1 = .error e)
      (he : e.isNotFound = true) (hd : d.quiet = .done (.error e')) :
      Course r m [⟨r.read, m₁⟩, ⟨r.creation, m₂⟩] d

section

variable {r : Request} {m m' : Memory} {xs : List Exchange}
  {d d' : ClusterTask (Except ClusterError SecretRef)}

theorem Course.keeps (h : Course r m xs d) (hm : m.Keeps m') : Course r m' xs d := by
  cases h with
  | fresh hd => exact .fresh hd
  | found hread hs hd => exact .found hread (hm _ _ hs) hd
  | unread hread he hd => exact .unread hread he hd
  | missing hread he hd => exact .missing hread he hd
  | created hread he hs hd => exact .created hread he (hm _ _ hs) hd
  | refused hread he hd => exact .refused hread he hd

/-- Reports do not matter. -/
theorem Course.congr (h : Course r m xs d) (hd' : d'.quiet = d.quiet) : Course r m xs d' := by
  cases h with
  | fresh hd => exact .fresh (hd'.trans hd)
  | found hread hs hd => exact .found hread hs (hd'.trans hd)
  | unread hread he hd => exact .unread hread he (hd'.trans hd)
  | missing hread he hd => exact .missing hread he (hd'.trans hd)
  | created hread he hs hd => exact .created hread he hs (hd'.trans hd)
  | refused hread he hd => exact .refused hread he (hd'.trans hd)

/-- A caller that asks: it reads if it has not asked before, and creates after a read that has
found nothing. -/
theorem Course.asks {q : ClusterCall} {go : q.Answer → ClusterTask (Except ClusterError SecretRef)}
    (h : Course r m xs (.ask q go)) :
    (xs = [] ∧ q = r.read) ∨
      ∃ m₁ e, xs = [⟨r.read, m₁⟩] ∧ q = r.creation ∧
        (m₁.getSecret r.space r.name).1 = .error e ∧ e.isNotFound = true := by
  cases h with
  | fresh hd =>
      cases hd
      exact .inl ⟨rfl, rfl⟩
  | missing hread he hd =>
      cases hd
      exact .inr ⟨_, _, rfl, rfl, hread, he⟩
  | found hread hs hd => cases hd
  | unread hread he hd => cases hd
  | created hread he hs hd => cases hd
  | refused hread he hd => cases hd

/-- Whoever was found is the secret that was asked for. -/
theorem ref_of_secret? {s : Secret} (hm : m.SecretsFiled)
    (hs : m.secret? r.space r.name = some s) : (⟨s.space, s.name⟩ : SecretRef) = r.ref := by
  obtain ⟨hspace, hname⟩ := Prod.mk.inj (hm _ s hs)
  rw [Request.ref, hspace, hname]

theorem Course.of_read (hm : m.SecretsFiled) :
    Course r (m.answer r.read).2 [⟨r.read, m⟩] (r.afterRead (m.getSecret r.space r.name).1) := by
  have hkeeps := m.keeps_answer r.read
  cases hread : (m.getSecret r.space r.name).1 with
  | ok s =>
      obtain ⟨s', hs', hanswer⟩ : ∃ s', m.secret? r.space r.name = some s' ∧
          (m.getSecret r.space r.name).1 = .ok s' := by
        rcases m.getSecret_cases r.space r.name with ⟨e, -, he⟩ | ⟨-, he⟩ | hfound
        · rw [hread] at he
          cases he
        · rw [hread] at he
          cases he
        · exact hfound
      rw [hread] at hanswer
      cases hanswer
      exact .found hread (hkeeps _ _ hs') (by rw [← ref_of_secret? hm hs']; rfl)
  | error e =>
      cases he : e.isNotFound with
      | false => exact .unread hread he (by simp only [Request.afterRead, he]; rfl)
      | true => exact .missing hread he (by simp only [Request.afterRead, he]; rfl)

theorem Course.of_creation {m₁ : Memory} {e : ClusterError}
    (hread : (m₁.getSecret r.space r.name).1 = .error e) (he : e.isNotFound = true) :
    Course r (m.answer r.creation).2 [⟨r.read, m₁⟩, ⟨r.creation, m⟩]
      (r.finish (m.createSecret r.space r.name r.username r.token).1) := by
  rcases m.createSecret_cases r.space r.name r.username r.token with
    ⟨-, e', -, hanswer, -⟩ | ⟨-, hanswer, hsecrets⟩
  · rw [hanswer]
    exact .refused hread he rfl
  · rw [hanswer]
    refine .created hread he (s := r.secret) ?_ rfl
    change (m.createSecret ..).2.secrets.find? r.key = some r.secret
    rw [hsecrets]
    exact (Objects.find?_put ..).trans (if_pos rfl)

/-- What is asked is answered by the cluster as it is, and the caller goes on from there. -/
theorem Course.ask {q : ClusterCall} {go : q.Answer → ClusterTask (Except ClusterError SecretRef)}
    (h : Course r m xs (.ask q go)) (hm : m.SecretsFiled) :
    Course r (m.answer q).2 (xs ++ [⟨q, m⟩]) (go (m.answer q).1) := by
  cases h with
  | fresh hd =>
      rw [Request.quiet_task] at hd
      cases hd
      exact .of_read hm
  | missing hread he hd =>
      cases hd
      exact .of_creation hread he
  | found hread hs hd => cases hd
  | unread hread he hd => cases hd
  | created hread he hs hd => cases hd
  | refused hread he hd => cases hd

end

/-! ## Many callers -/

/-- What happens while secrets are made sure of: a caller has its turn, or it is arranged that the
next read of a secret fails. -/
inductive Step (ι : Type) where
  | turn (i : ι)
  | fault (e : ClusterError)

variable {ι : Type}

def Step.event : Step ι → Session.Event ι
  | .turn i => .turn i
  | .fault e => .deed (.failSecretRead e)

/-- Callers that are all about to begin. -/
def atOnce (requests : ι → Request) (m : Memory) :
    Session ι (Except ClusterError SecretRef) :=
  { memory := m
    tasks := fun i => (requests i).task
    log := [] }

/-- The session after some steps, from a cluster `m` on. -/
def after [DecidableEq ι] (requests : ι → Request) (m : Memory) (steps : List (Step ι)) :
    Session ι (Except ClusterError SecretRef) :=
  (atOnce requests m).run (steps.map Step.event)

end Provision

/-- Was a secret created? -/
def Exchange.isCreation (x : Exchange) : Bool :=
  match x.call with
  | .createSecret space name username token =>
      (x.before.createSecret space name username token).1.isOk
  | _ => false

namespace Provision

variable {ι : Type}

/-- The exchanges of one caller. -/
def exchangesOf [DecidableEq ι] (i : ι) (log : List (ι × Exchange)) : List Exchange :=
  (log.filter (·.1 = i)).map (·.2)

/-- The callers that have created a secret, in order. -/
def creators (log : List (ι × Exchange)) : List ι := (log.filter (·.2.isCreation)).map (·.1)

/-- The callers and the secrets of a cluster that was `m` when they began. -/
structure Provisioned [DecidableEq ι] (requests : ι → Request) (m : Memory)
    (s : Session ι (Except ClusterError SecretRef)) : Prop where
  filed : s.memory.SecretsFiled
  course : ∀ i, Course (requests i) s.memory (exchangesOf i s.log) (s.tasks i)
  secrets : ∀ k v, s.memory.secrets.find? k = some v ↔
    m.secrets.find? k = some v ∨
      ∃ i ∈ creators s.log, (requests i).key = k ∧ (requests i).secret = v
  fresh : ∀ i ∈ creators s.log, m.secrets.find? (requests i).key = none
  once : ((creators s.log).map fun i => (requests i).key).Nodup

section

variable [DecidableEq ι] {requests : ι → Request} {m : Memory}
  {s : Session ι (Except ClusterError SecretRef)}

theorem exchangesOf_self (i : ι) (log : List (ι × Exchange)) (x : Exchange) :
    exchangesOf i (log ++ [(i, x)]) = exchangesOf i log ++ [x] := by
  simp [exchangesOf]

theorem exchangesOf_of_ne {i j : ι} (h : j ≠ i) (log : List (ι × Exchange)) (x : Exchange) :
    exchangesOf j (log ++ [(i, x)]) = exchangesOf j log := by
  simp [exchangesOf, h.symm]

omit [DecidableEq ι] in
theorem creators_append (i : ι) (log : List (ι × Exchange)) (x : Exchange) :
    creators (log ++ [(i, x)]) = creators log ++ if x.isCreation then [i] else [] := by
  cases hx : x.isCreation <;> simp [creators, hx]

theorem provisioned_atOnce (requests : ι → Request) (hm : m.SecretsFiled) :
    Provisioned requests m (atOnce requests m) where
  filed := hm
  course i := .fresh rfl
  secrets k v := by simp [atOnce, creators]
  fresh i hi := absurd hi List.not_mem_nil
  once := List.nodup_nil

/-- What a call of a caller does to the secrets: nothing, or it creates the one that was asked
for, which was not there. -/
theorem Course.creates {r : Request} {m : Memory} {xs : List Exchange} {q : ClusterCall}
    {go : q.Answer → ClusterTask (Except ClusterError SecretRef)}
    (h : Course r m xs (.ask q go)) :
    ((⟨q, m⟩ : Exchange).isCreation = false ∧ (m.answer q).2.secrets = m.secrets) ∨
      ((⟨q, m⟩ : Exchange).isCreation = true ∧ m.secrets.find? r.key = none ∧
        (m.answer q).2.secrets = m.secrets.put r.key r.secret) := by
  rcases h.asks with ⟨-, rfl⟩ | ⟨m₁, e, -, rfl, -, -⟩
  · exact .inl ⟨rfl, m.secrets_answer (q := r.read) not_false⟩
  · rcases m.createSecret_cases r.space r.name r.username r.token with
      ⟨-, e', -, hanswer, hsecrets⟩ | ⟨hnone, hanswer, hsecrets⟩
    · refine .inl ⟨?_, hsecrets⟩
      simp only [Exchange.isCreation, Request.creation, hanswer]
      rfl
    · refine .inr ⟨?_, hnone, hsecrets⟩
      simp only [Exchange.isCreation, Request.creation, hanswer]
      rfl

/-- A call that creates nothing. -/
theorem Provisioned.idle (h : Provisioned requests m s)
    {s' : Session ι (Except ClusterError SecretRef)} {i : ι} {x : Exchange}
    (hfiled : s'.memory.SecretsFiled)
    (hcourse : ∀ j, Course (requests j) s'.memory (exchangesOf j s'.log) (s'.tasks j))
    (hlog : s'.log = s.log ++ [(i, x)]) (hx : x.isCreation = false)
    (hsecrets : s'.memory.secrets = s.memory.secrets) : Provisioned requests m s' := by
  have hcreators : creators s'.log = creators s.log := by
    rw [hlog, creators_append, hx]
    exact List.append_nil _
  refine ⟨hfiled, hcourse, ?_, ?_, ?_⟩
  · rw [hcreators, hsecrets]
    exact h.secrets
  · rw [hcreators]
    exact h.fresh
  · rw [hcreators]
    exact h.once

/-- A secret that is missing was missing at the start, and nobody has created it. -/
theorem Provisioned.missing (h : Provisioned requests m s) {k : ObjectKey}
    (hnone : s.memory.secrets.find? k = none) :
    m.secrets.find? k = none ∧ ∀ j ∈ creators s.log, (requests j).key ≠ k := by
  constructor
  · refine Option.eq_none_iff_forall_ne_some.mpr fun v hv => ?_
    exact absurd (hnone.symm.trans ((h.secrets k v).mpr (.inl hv))) nofun
  · intro j hj heq
    have hthere := (h.secrets k _).mpr (.inr ⟨j, hj, heq, rfl⟩)
    exact absurd (hnone.symm.trans hthere) nofun

/-- A call that creates a secret: nobody has created it before, for then it would be there. -/
theorem Provisioned.creation (h : Provisioned requests m s)
    {s' : Session ι (Except ClusterError SecretRef)} {i : ι} {x : Exchange}
    (hfiled : s'.memory.SecretsFiled)
    (hcourse : ∀ j, Course (requests j) s'.memory (exchangesOf j s'.log) (s'.tasks j))
    (hlog : s'.log = s.log ++ [(i, x)]) (hx : x.isCreation = true)
    (hnone : s.memory.secrets.find? (requests i).key = none)
    (hsecrets : s'.memory.secrets = s.memory.secrets.put (requests i).key (requests i).secret) :
    Provisioned requests m s' := by
  have hcreators : creators s'.log = creators s.log ++ [i] := by
    rw [hlog, creators_append, hx]
    rfl
  obtain ⟨hbefore, hothers⟩ := h.missing hnone
  refine ⟨hfiled, hcourse, fun k v => ?_, ?_, ?_⟩
  · rw [hsecrets, Objects.find?_put, hcreators]
    by_cases hk : k = (requests i).key
    · subst hk
      rw [if_pos rfl, hbefore]
      constructor
      · rintro ⟨rfl⟩
        exact .inr ⟨i, List.mem_append_right _ (List.mem_singleton_self i), rfl, rfl⟩
      · rintro (hv | ⟨j, hj, hkey, rfl⟩)
        · cases hv
        · rcases List.mem_append.mp hj with hj | hj
          · exact absurd hkey (hothers j hj)
          · rw [List.mem_singleton.mp hj]
    · rw [if_neg hk, h.secrets]
      refine or_congr_right (exists_congr fun j => ?_)
      rw [List.mem_append, List.mem_singleton]
      constructor
      · rintro ⟨hj, hkey⟩
        exact ⟨.inl hj, hkey⟩
      · rintro ⟨hj | rfl, hkey⟩
        · exact ⟨hj, hkey⟩
        · exact absurd hkey.1.symm hk
  · rw [hcreators]
    intro j hj
    rcases List.mem_append.mp hj with hj | hj
    · exact h.fresh j hj
    · rw [List.mem_singleton.mp hj]
      exact hbefore
  · rw [hcreators, List.map_append, List.nodup_append]
    refine ⟨h.once, by simp, fun a ha b hb => ?_⟩
    obtain ⟨j, hj, rfl⟩ := List.mem_map.mp ha
    rw [List.map_singleton, List.mem_singleton] at hb
    exact hb ▸ hothers j hj

theorem Provisioned.turn (h : Provisioned requests m s) (i : ι) :
    Provisioned requests m (s.next (.turn i)) := by
  have hi := h.course i
  cases htask : s.tasks i with
  | done o =>
      have hnext : s.next (.turn i) = s := by simp only [Session.next, htask]
      rwa [hnext]
  | report e d =>
      have hnext : s.next (.turn i) = { s with tasks := Function.update s.tasks i d } := by
        simp only [Session.next, htask]
      rw [hnext]
      refine { h with course := fun j => ?_ }
      dsimp only
      by_cases hj : j = i
      · subst hj
        rw [Function.update_self]
        exact hi.congr (by rw [htask]; rfl)
      · rw [Function.update_of_ne hj]
        exact h.course j
  | ask q go =>
      have hnext : s.next (.turn i) = ⟨(s.memory.answer q).2,
          Function.update s.tasks i (go (s.memory.answer q).1),
          s.log ++ [(i, ⟨q, s.memory⟩)]⟩ := by
        simp only [Session.next, htask]
      rw [htask] at hi
      have hfiled := h.filed.answer q
      have hcourse : ∀ j, Course (requests j) (s.memory.answer q).2
          (exchangesOf j (s.log ++ [(i, ⟨q, s.memory⟩)]))
          (Function.update s.tasks i (go (s.memory.answer q).1) j) := by
        intro j
        by_cases hj : j = i
        · subst hj
          rw [Function.update_self, exchangesOf_self]
          exact hi.ask h.filed
        · rw [Function.update_of_ne hj, exchangesOf_of_ne hj]
          exact (h.course j).keeps (s.memory.keeps_answer q)
      rw [hnext]
      rcases hi.creates with ⟨hx, hsecrets⟩ | ⟨hx, hnone, hsecrets⟩
      · exact h.idle hfiled hcourse rfl hx hsecrets
      · exact h.creation hfiled hcourse rfl hx hnone hsecrets

theorem Provisioned.next (h : Provisioned requests m s) (e : Step ι) :
    Provisioned requests m (s.next e.event) := by
  cases e with
  | turn i => exact h.turn i
  | fault e =>
      have hsecrets := s.memory.secrets_perform (d := .failSecretRead e) not_false
      exact { h with
        filed := h.filed.of_secrets hsecrets
        course := fun i => (h.course i).keeps (.of_secrets hsecrets) }

theorem provisioned_after (requests : ι → Request) (hm : m.SecretsFiled) (steps : List (Step ι)) :
    Provisioned requests m (after requests m steps) := by
  refine Session.run_keeps (P := Provisioned requests m) (fun s e he h => ?_)
    (provisioned_atOnce requests hm)
  obtain ⟨step, -, rfl⟩ := List.mem_map.mp he
  exact h.next step

theorem keeps_next (s : Session ι (Except ClusterError SecretRef)) (e : Step ι) :
    s.memory.Keeps (s.next e.event).memory := by
  cases e with
  | turn i =>
      simp only [Step.event, Session.next]
      cases s.tasks i with
      | done o => exact .refl _
      | report e d => exact .refl _
      | ask q go => exact s.memory.keeps_answer q
  | fault e => exact .of_secrets rfl

theorem keeps_run (steps : List (Step ι)) :
    ∀ s : Session ι (Except ClusterError SecretRef),
      s.memory.Keeps (s.run (steps.map Step.event)).memory := by
  induction steps with
  | nil => exact fun s => .refl _
  | cons e steps ih => exact fun s => (keeps_next s e).trans (ih _)

theorem keeps_after {earlier later steps : List (Step ι)} (h : steps = earlier ++ later) :
    (after requests m earlier).memory.Keeps (after requests m steps).memory := by
  have hrun : after requests m steps
      = (after requests m earlier).run (later.map Step.event) := by
    rw [h, after, List.map_append, Session.run_append]
    rfl
  rw [hrun]
  exact keeps_run later _

theorem Course.of_done {r : Request} {m : Memory} {xs : List Exchange} {ref : SecretRef}
    (h : Course r m xs (.done (.ok ref))) :
    ref = r.ref ∧ ∃ s, m.secret? r.space r.name = some s := by
  cases h with
  | found hread hs hd =>
      cases hd
      exact ⟨rfl, _, hs⟩
  | created hread he hs hd =>
      cases hd
      exact ⟨rfl, _, hs⟩
  | fresh hd =>
      rw [Request.quiet_task] at hd
      cases hd
  | unread hread he hd => cases hd
  | missing hread he hd => cases hd
  | refused hread he hd => cases hd

theorem Course.of_unread {r : Request} {m m₁ : Memory} {xs : List Exchange}
    {d : ClusterTask (Except ClusterError SecretRef)} {e : ClusterError} (h : Course r m xs d)
    (hx : ⟨r.read, m₁⟩ ∈ xs) (hread : (m₁.getSecret r.space r.name).1 = .error e)
    (he : e.isNotFound = false) : xs = [⟨r.read, m₁⟩] ∧ d.quiet = .done (.error e) := by
  -- a caller that went on after its read has read that the secret is missing
  have hmissing {m₂ : Memory} {e' : ClusterError} (hsame : m₁ = m₂)
      (hread' : (m₂.getSecret r.space r.name).1 = .error e') (he' : e'.isNotFound = true) :
      False := by
    subst hsame
    rw [hread] at hread'
    cases hread'
    rw [he] at he'
    cases he'
  cases h with
  | fresh hd => cases hx
  | found hread' hs hd =>
      cases List.mem_singleton.mp hx
      rw [hread] at hread'
      cases hread'
  | unread hread' he' hd =>
      cases List.mem_singleton.mp hx
      rw [hread] at hread'
      cases hread'
      exact ⟨rfl, hd⟩
  | missing hread' he' hd =>
      have heq := congrArg Exchange.before (List.mem_singleton.mp hx)
      exact (hmissing heq hread' he').elim
  | created hread' he' hs hd =>
      rcases List.mem_cons.mp hx with heq | hx
      · exact (hmissing (congrArg Exchange.before heq) hread' he').elim
      · cases congrArg Exchange.call (List.mem_singleton.mp hx)
  | refused hread' he' hd =>
      rcases List.mem_cons.mp hx with heq | hx
      · exact (hmissing (congrArg Exchange.before heq) hread' he').elim
      · cases congrArg Exchange.call (List.mem_singleton.mp hx)

/-- However callers interleave that make sure of secrets, and whatever reads are made to fail:

* no call changes a secret that is there, so it is there for good;
* no two callers create the same secret, and none creates one that was there at the start;
* what is there is what was there at the start, or the whole secret of one caller that created it;
* a caller that succeeds gets the secret that it asked for, which is there from then on;
* a caller whose read failed, but not because the secret is missing, asks nothing more and fails
  with that error. -/
theorem secrets_written_once (hm : m.Reachable) (requests : ι → Request) (steps : List (Step ι)) :
    let s := after requests m steps
    (∀ x ∈ s.log, x.2.before.Keeps x.2.after) ∧
    (∀ earlier later, steps = earlier ++ later →
      (after requests m earlier).memory.Keeps s.memory) ∧
    ((creators s.log).map fun i => (requests i).key).Nodup ∧
    (∀ i ∈ creators s.log, m.secrets.find? (requests i).key = none) ∧
    (∀ k v, s.memory.secrets.find? k = some v ↔ m.secrets.find? k = some v ∨
      ∃ i ∈ creators s.log, (requests i).key = k ∧ (requests i).secret = v) ∧
    (∀ earlier later i ref, steps = earlier ++ later →
      (after requests m earlier).tasks i = .done (.ok ref) →
      ref = ⟨(requests i).space, (requests i).name⟩ ∧
        ∃ v, s.memory.secret? ref.space ref.name = some v) ∧
    (∀ i m₁ e, (i, ⟨(requests i).read, m₁⟩) ∈ s.log →
      (m₁.getSecret (requests i).space (requests i).name).1 = .error e → e.isNotFound = false →
      exchangesOf i s.log = [⟨(requests i).read, m₁⟩] ∧ (s.tasks i).quiet = .done (.error e)) := by
  intro s
  have h : Provisioned requests m s := provisioned_after requests hm.secretsFiled steps
  refine ⟨fun x _ => x.2.before.keeps_answer x.2.call, fun earlier later => keeps_after, h.once,
    h.fresh, h.secrets, ?_, ?_⟩
  · intro earlier later i ref hsteps hdone
    have hi := (provisioned_after requests hm.secretsFiled earlier).course i
    rw [hdone] at hi
    obtain ⟨rfl, v, hv⟩ := hi.of_done
    exact ⟨rfl, v, keeps_after hsteps _ _ hv⟩
  · intro i m₁ e hx
    have hmem : ⟨(requests i).read, m₁⟩ ∈ exchangesOf i s.log :=
      List.mem_map.mpr ⟨_, List.mem_filter.mpr ⟨hx, decide_eq_true rfl⟩, rfl⟩
    exact (h.course i).of_unread hmem

end

/-- Two callers for one secret, with credentials of their own. -/
def rivals (first : Bool) : Request :=
  ⟨"ns", "s", if first then "ann" else "bob", if first then "t1" else "t2"⟩

/-- Both find the secret missing, and then both create it: the one that comes first has created
it, and the other fails. -/
theorem rivals_create_one_secret :
    let s := after rivals (Memory.new "c") [.turn true, .turn false, .turn false, .turn true,
      .turn true, .turn false, .turn false]
    s.tasks true = .done (.ok ⟨"ns", "s"⟩) ∧
      s.tasks false = .done (.error (.api "secret ns/s already exists")) ∧
      s.memory.secret? "ns" "s" = some (rivals true).secret ∧
      ((creators s.log).map fun i => (rivals i).key).Nodup := by
  intro s
  obtain ⟨-, -, honce, -, hsecrets, -⟩ := secrets_written_once (m := Memory.new "c")
    ⟨"c", [], rfl⟩ rivals [.turn true, .turn false, .turn false, .turn true, .turn true,
      .turn false, .turn false]
  have hcreators : creators s.log = [true] := rfl
  refine ⟨rfl, rfl, (hsecrets ("ns", "s") _).mpr (.inr ⟨true, ?_, rfl, rfl⟩), honce⟩
  rw [hcreators]
  exact List.mem_singleton_self true

end Provision

end CredRegistry
