import CredRegistry.Proofs.Service.Aftermath

/-!
# A service in front of any cluster

On a `World` it is the cluster in memory that answers. What a service does to its database is the
same whatever the cluster answers, so a `Site` has a cluster of any make: a `Responder` answers
each call out of a state of its own. What is reported is kept in `events`.

Bringing a credential to the cluster leaves the database alone (`keepsDatabase_publish`), so what
becomes of the database is told by the request and the store: `database_create` and
`database_update`.
-/

namespace CredRegistry

open CredRegistry.Cipher CredRegistry.RepoList

/-- A cluster of any make: what it answers to a call, and what it is afterwards. -/
abbrev Responder (σ : Type) := (q : ClusterCall) → StateM σ q.Answer

/-- Carry out a task for the cluster. What it reports is passed over. -/
def Responder.carry {σ α : Type} (respond : Responder σ) (cluster : σ) (task : ClusterTask α) :
    α × σ :=
  task.run respond (fun _ => pure ()) cluster

theorem Responder.carry_bind {σ α β : Type} (respond : Responder σ) (cluster : σ)
    (task : ClusterTask α) (f : α → ClusterTask β) :
    respond.carry cluster (task >>= f) =
      respond.carry (respond.carry cluster task).2 (f (respond.carry cluster task).1) := by
  simp only [carry, Dialogue.run_bind]
  rfl

theorem Responder.carry_keeps {σ α : Type} {respond : Responder σ} {P : σ → Prop}
    (hanswer : ∀ q c, P c → P (respond q c).2) (task : ClusterTask α) {cluster : σ}
    (h : P cluster) : P (respond.carry cluster task).2 := by
  induction task generalizing cluster with
  | done a => exact h
  | report e next ih => exact ih h
  | ask q next ih => exact ih _ (hanswer q cluster h)

/-- What a service works on, and what it has reported. -/
structure Site (σ : Type) where
  database : Database
  cluster : σ
  events : List Log.Event

namespace Site

variable {σ α β : Type}

/-- Answer the calls of a service: with the time and the nonce at hand, from the database, and
from the cluster. -/
def serve (respond : Responder σ) (now : Timestamp) (nonce : Nonce) :
    (q : ServiceCall) → StateM (Site σ) q.Answer
  | .now => pure now
  | .store c => fun w =>
      let (answer, database) := Database.serve nonce c w.database
      (answer, { w with database })
  | .cluster q => fun w =>
      let (answer, cluster) := respond q w.cluster
      (answer, { w with cluster })

def note (e : Log.Event) : StateM (Site σ) Unit :=
  modify fun w => { w with events := w.events ++ [e] }

/-- Carry out work of a service. -/
def perform (w : Site σ) (respond : Responder σ) (now : Timestamp) (nonce : Nonce)
    (work : ServiceTask α) : α × Site σ :=
  work.run (serve respond now nonce) note w

variable (w : Site σ) (respond : Responder σ) (now : Timestamp) (nonce : Nonce)

@[simp] theorem perform_pure (a : α) : w.perform respond now nonce (pure a) = (a, w) := rfl

@[simp] theorem perform_now : w.perform respond now nonce ServiceTask.now = (now, w) := rfl

@[simp] theorem perform_report (e : Log.Event) :
    w.perform respond now nonce (Log.report e) = ((), { w with events := w.events ++ [e] }) := rfl

theorem perform_bind (work : ServiceTask α) (f : α → ServiceTask β) :
    w.perform respond now nonce (work >>= f) = (w.perform respond now nonce work).2.perform respond
      now nonce (f (w.perform respond now nonce work).1) := by
  simp only [perform, Dialogue.run_bind]
  rfl

theorem perform_ofStore (task : StoreTask α) :
    ∃ events, w.perform respond now nonce (ServiceTask.ofStore task)
      = ((w.database.perform nonce task).1,
        ⟨(w.database.perform nonce task).2, w.cluster, events⟩) := by
  induction task generalizing w with
  | done a => exact ⟨w.events, rfl⟩
  | report e next ih => exact ih { w with events := w.events ++ [e] }
  | ask q next ih => exact ih _ { w with database := (Database.serve nonce q w.database).2 }

theorem perform_ofCluster (task : ClusterTask α) :
    ∃ events, w.perform respond now nonce (ServiceTask.ofCluster task)
      = ((respond.carry w.cluster task).1,
        ⟨w.database, (respond.carry w.cluster task).2, events⟩) := by
  induction task generalizing w with
  | done a => exact ⟨w.events, rfl⟩
  | report e next ih => exact ih { w with events := w.events ++ [e] }
  | ask q next ih => exact ih _ { w with cluster := (respond q w.cluster).2 }

/-! ## Work that leaves the database alone -/

/-- Does this work ask nothing of the database that changes it? -/
def KeepsDatabase (respond : Responder σ) (now : Timestamp) (nonce : Nonce)
    (work : ServiceTask α) : Prop :=
  ∀ w : Site σ, (w.perform respond now nonce work).2.database = w.database

section

variable {respond : Responder σ} {now : Timestamp} {nonce : Nonce}

theorem keepsDatabase_pure (a : α) : KeepsDatabase respond now nonce (pure a) := fun _ => rfl

theorem keepsDatabase_note (level : Log.Level) (target message : String) :
    KeepsDatabase respond now nonce (Log.note level target message) := fun _ => rfl

theorem KeepsDatabase.bind {work : ServiceTask α} {f : α → ServiceTask β}
    (h : KeepsDatabase respond now nonce work) (hf : ∀ a, KeepsDatabase respond now nonce (f a)) :
    KeepsDatabase respond now nonce (work >>= f) := by
  intro w
  rw [perform_bind, hf, h]

theorem keepsDatabase_ofCluster (task : ClusterTask α) :
    KeepsDatabase respond now nonce (ServiceTask.ofCluster task) := by
  intro w
  obtain ⟨events, h⟩ := w.perform_ofCluster respond now nonce task
  rw [h]

theorem KeepsDatabase.within {work : ServiceTask α} (h : KeepsDatabase respond now nonce work)
    (span : Log.Span) : KeepsDatabase respond now nonce (Log.within span work) :=
  .bind (fun _ => rfl) fun _ => h.bind fun a => .bind (fun _ => rfl) fun _ => keepsDatabase_pure a

theorem keepsDatabase_publish (s : Service) (c : Credential) :
    KeepsDatabase respond now nonce (s.publish c) := by
  refine .bind (keepsDatabase_ofCluster _) fun connected => ?_
  cases connected with
  | error e => exact .bind (keepsDatabase_note _ _ _) fun _ => keepsDatabase_pure _
  | ok _ =>
      refine .bind (keepsDatabase_ofCluster _) fun provided => ?_
      cases provided with
      | error e => exact keepsDatabase_pure _
      | ok secret =>
          refine .bind (keepsDatabase_ofCluster _) fun reconciled => ?_
          cases reconciled <;>
            exact .bind (keepsDatabase_note _ _ _) fun _ => keepsDatabase_pure _

end

/-! ## What requests do to the database -/

variable (s : Service) (c : GitOpsConfig) (user : Int)

/-- A complete configuration is stored, whatever comes of it on the cluster. -/
theorem database_create {p : Provider} (hp : Service.validate c = .ok p) :
    (w.perform respond now nonce (s.create c user)).2.database
      = (w.database.perform nonce (s.store.create (Service.drafted c p user now))).2 := by
  obtain ⟨events, hstored⟩ := w.perform_ofStore respond now nonce
    (s.store.create (Service.drafted c p user now))
  simp only [Service.drafted] at hstored ⊢
  simp only [Service.create, hp, perform_bind, perform_now, hstored]
  cases (w.database.perform nonce (s.store.create _)).1 with
  | error e => rfl
  | ok stored =>
      refine KeepsDatabase.bind (keepsDatabase_note _ _ _) (fun _ => ?_) _
      refine ((keepsDatabase_publish s stored).within _).bind fun published => ?_
      cases published <;> exact keepsDatabase_pure _

theorem database_create_of_refused {e : CredentialError} (he : Service.validate c = .error e) :
    (w.perform respond now nonce (s.create c user)).2.database = w.database := by
  simp only [Service.create, he, perform_pure]

/-- A complete configuration with the id of a stored credential overwrites that one. -/
theorem database_update {id : Int} {p : Provider} {found : Option Credential}
    (hid : c.id = some id) (hp : Service.validate c = .ok p)
    (hfound : (w.database.perform nonce (s.store.getById id)).1 = .ok found) :
    (w.perform respond now nonce (s.update c user)).2.database =
      found.elim w.database fun stored => (w.database.perform nonce
        (s.store.update (Service.redrafted c p stored user now))).2 := by
  have hread : ∃ events, w.perform respond now nonce (ServiceTask.ofStore (s.store.getById id))
      = (.ok found, ⟨w.database, w.cluster, events⟩) := by
    obtain ⟨events, h⟩ := w.perform_ofStore respond now nonce (s.store.getById id)
    rw [hfound, Database.perform_getById_snd] at h
    exact ⟨events, h⟩
  obtain ⟨events, hread⟩ := hread
  simp only [Service.update, hid, hp, perform_bind, hread]
  cases found with
  | none => rfl
  | some stored =>
      let here : Site σ := ⟨w.database, w.cluster, events⟩
      obtain ⟨events', hstored⟩ := here.perform_ofStore respond now nonce
        (s.store.update (Service.redrafted c p stored user now))
      simp only [here, Service.redrafted] at hstored
      simp only [Option.elim_some, perform_bind, perform_now, Service.redrafted, hstored]
      cases (w.database.perform nonce (s.store.update _)).1 with
      | error e => rfl
      | ok _ =>
          refine KeepsDatabase.bind (keepsDatabase_note _ _ _) (fun _ => ?_) _
          refine ((keepsDatabase_publish s _).within _).bind fun published => ?_
          cases published <;> exact keepsDatabase_pure _

theorem database_update_of_refused
    (h : c.id = none ∨ ∃ e, Service.validate c = .error e) :
    (w.perform respond now nonce (s.update c user)).2.database = w.database := by
  unfold Service.update
  rcases h with hid | ⟨e, he⟩
  · rw [hid]
    rfl
  · cases c.id with
    | none => rfl
    | some id =>
        simp only [he]
        rfl

/-! ## What success takes -/

/-- The three steps that bring a credential to the cluster succeed, one after the other. -/
def Brings (respond : Responder σ) (s : Service) (c : Credential) (before after : σ) : Prop :=
  ∃ connected provided ref r,
    respond.carry before (ClusterTask.connect s.target.cluster) = (.ok (), connected) ∧
    respond.carry connected (ClusterTask.ensureSecret s.target.space gitOpsSecretName c.username
      c.token) = (.ok ref, provided) ∧
    respond.carry provided (reconcile s.policy s.target.space s.target.configMap c ref.name)
      = (.ok r, after)

theorem publish_ok {c : Credential} {r : Reconciled}
    (h : (w.perform respond now nonce (s.publish c)).1 = .ok r) :
    Brings respond s c w.cluster (w.perform respond now nonce (s.publish c)).2.cluster := by
  obtain ⟨events, hconnect⟩ := w.perform_ofCluster respond now nonce
    (ClusterTask.connect s.target.cluster)
  simp only [Service.publish, perform_bind, hconnect] at h ⊢
  generalize hconnected : respond.carry w.cluster (ClusterTask.connect s.target.cluster) = v
    at h ⊢
  obtain ⟨_ | _, connected⟩ := v
  · cases h
  obtain ⟨events', hsecret⟩ := Site.perform_ofCluster ⟨w.database, connected, events⟩ respond now
    nonce (ClusterTask.ensureSecret s.target.space gitOpsSecretName c.username c.token)
  simp only [perform_bind, hsecret] at h ⊢
  generalize hprovided : respond.carry connected (ClusterTask.ensureSecret s.target.space
    gitOpsSecretName c.username c.token) = v at h ⊢
  obtain ⟨_ | ref, provided⟩ := v
  · cases h
  obtain ⟨events'', hlist⟩ := Site.perform_ofCluster ⟨w.database, provided, events'⟩ respond now
    nonce (reconcile s.policy s.target.space s.target.configMap c ref.name)
  simp only [perform_bind, hlist] at h ⊢
  generalize hreconciled : respond.carry provided (reconcile s.policy s.target.space
    s.target.configMap c ref.name) = v at h ⊢
  obtain ⟨_ | r', after⟩ := v
  · cases h
  · exact ⟨connected, provided, ref, r', hconnected, hprovided, hreconciled⟩

/-- How a request ends once its row is written. -/
theorem announce_ok {c : Credential} {message : String} {answer a : β}
    (h : (w.perform respond now nonce (do
      Log.note .info Service.logTarget message
      match ← Log.within (Service.clusterSpan c) (s.publish c) with
      | .error e => pure (.error e)
      | .ok _ => pure (.ok answer) : ServiceTask (Except CredentialError β))).1 = .ok a) :
    a = answer ∧ Brings respond s c w.cluster (w.perform respond now nonce (do
      Log.note .info Service.logTarget message
      match ← Log.within (Service.clusterSpan c) (s.publish c) with
      | .error e => pure (.error e)
      | .ok _ => pure (.ok answer) : ServiceTask (Except CredentialError β))).2.cluster := by
  simp only [Log.note, Log.within, perform_bind, perform_report, perform_pure] at h ⊢
  generalize hhere : Site.mk w.database w.cluster (w.events ++ [_] ++ [_]) = here at h ⊢
  have hcluster : w.cluster = here.cluster := by rw [← hhere]
  have hbrings (r : Reconciled) : (here.perform respond now nonce (s.publish c)).1 = .ok r → _ :=
    here.publish_ok respond now nonce s
  rw [hcluster]
  generalize here.perform respond now nonce (s.publish c) = v at h hbrings ⊢
  obtain ⟨_ | r, w'⟩ := v
  · cases h
  · cases h
    exact ⟨rfl, hbrings r rfl⟩

variable {c user}

/-- A create succeeds only if the configuration is stored and then brought to the cluster. -/
theorem create_ok {d : GitOpsConfig}
    (h : (w.perform respond now nonce (s.create c user)).1 = .ok d) :
    ∃ p stored, Service.validate c = .ok p ∧
      (w.database.perform nonce (s.store.create (Service.drafted c p user now))).1 = .ok stored ∧
      d = { c with id := some stored.id } ∧
      Brings respond s stored w.cluster
        (w.perform respond now nonce (s.create c user)).2.cluster := by
  unfold Service.create at h ⊢
  cases hp : Service.validate c with
  | error e =>
      simp only [hp] at h
      cases h
  | ok p =>
      obtain ⟨events, hstored⟩ := w.perform_ofStore respond now nonce
        (s.store.create (Service.drafted c p user now))
      simp only [Service.drafted] at hstored ⊢
      simp only [hp, perform_bind, perform_now, hstored] at h ⊢
      generalize hcreate : w.database.perform nonce (s.store.create _) = v at h ⊢
      obtain ⟨_ | stored, database⟩ := v
      · cases h
      · exact ⟨p, stored, rfl, by rw [hcreate], announce_ok _ respond now nonce s h⟩

/-- An update succeeds only if the configuration overwrites a stored credential and is then
brought to the cluster. -/
theorem update_ok (h : (w.perform respond now nonce (s.update c user)).1 = .ok ()) :
    ∃ id p stored, c.id = some id ∧ Service.validate c = .ok p ∧
      (w.database.perform nonce (s.store.getById id)).1 = .ok (some stored) ∧
      Brings respond s (Service.redrafted c p stored user now) w.cluster
        (w.perform respond now nonce (s.update c user)).2.cluster := by
  unfold Service.update at h ⊢
  cases hid : c.id with
  | none =>
      simp only [hid] at h
      cases h
  | some id =>
      cases hp : Service.validate c with
      | error e =>
          simp only [hid, hp] at h
          cases h
      | ok p =>
          obtain ⟨events, hread⟩ := w.perform_ofStore respond now nonce (s.store.getById id)
          simp only [hid, hp, perform_bind, hread] at h ⊢
          generalize hfound : w.database.perform nonce (s.store.getById id) = v at h ⊢
          obtain ⟨_ | _ | stored, database⟩ := v
          · cases h
          · cases h
          obtain ⟨events', hstored⟩ := Site.perform_ofStore ⟨database, w.cluster, events⟩ respond
            now nonce (s.store.update (Service.redrafted c p stored user now))
          simp only [Service.redrafted] at hstored ⊢
          simp only [perform_bind, perform_now, hstored] at h ⊢
          generalize database.perform nonce (s.store.update _) = v at h ⊢
          obtain ⟨_ | _, database'⟩ := v
          · cases h
          · exact ⟨id, p, stored, rfl, rfl, by rw [hfound],
              (announce_ok _ respond now nonce s h).2⟩

end Site

end CredRegistry
