import CredRegistry.Proofs.RepoList.Faults
import CredRegistry.Proofs.Store.Lookups
import CredRegistry.Service
import Mathlib.Data.List.Nodup

/-!
# What a failed request leaves behind

A request writes one row and then brings the credential to the cluster in three steps: it
connects, makes sure of the secret, and reconciles the list. `Refused` says when a request ends
before it has written anything. After that the row stays as it was written, whatever becomes of
the three steps, and `Published` says what does: which calls are made and in what order, which
of them an error comes from (`Fault`), and that no failed request has changed a config map.

A request is carried out on a `World`, which keeps the exchanges with its cluster. The steps are
tasks for the cluster alone, so what they come to is shown of `Memory.carry` and then taken over
(`World.perform_ofCluster`).
-/

namespace CredRegistry

open CredRegistry.Cipher CredRegistry.RepoList CredRegistry.Text

/-! ## Work on a store and a cluster -/

/-- What a service works on, and what was asked of its cluster so far. -/
structure World where
  database : Database
  cluster : Memory
  log : List Exchange

namespace World

variable {α β : Type}

/-- Answer the calls of a service: with the time and the nonce at hand, from the database, and
from the cluster. -/
def serve (now : Timestamp) (nonce : Nonce) : (q : ServiceCall) → StateM World q.Answer
  | .now => pure now
  | .store c => fun w =>
      let (answer, database) := Database.serve nonce c w.database
      (answer, { w with database })
  | .cluster q => fun w =>
      let (answer, cluster) := w.cluster.answer q
      (answer, { w with cluster, log := w.log ++ [⟨q, w.cluster⟩] })

/-- Carry out work of a service. What it reports is passed over. -/
def perform (w : World) (now : Timestamp) (nonce : Nonce) (work : ServiceTask α) : α × World :=
  work.run (serve now nonce) (fun _ => pure ()) w

variable (w : World) (now : Timestamp) (nonce : Nonce)

@[simp] theorem perform_pure (a : α) : w.perform now nonce (pure a) = (a, w) := rfl

@[simp] theorem perform_note (level : Log.Level) (target message : String) :
    w.perform now nonce (Log.note level target message) = ((), w) := rfl

@[simp] theorem perform_now : w.perform now nonce ServiceTask.now = (now, w) := rfl

theorem perform_bind (work : ServiceTask α) (f : α → ServiceTask β) :
    w.perform now nonce (work >>= f) = (w.perform now nonce work).2.perform now nonce
      (f (w.perform now nonce work).1) := by
  simp only [perform, Dialogue.run_bind]
  rfl

theorem perform_within (span : Log.Span) (work : ServiceTask α) :
    w.perform now nonce (Log.within span work) = w.perform now nonce work := by
  have hreport (w : World) (e : Log.Event) : w.perform now nonce (Log.report e) = ((), w) := rfl
  simp only [Log.within, perform_bind, hreport, perform_pure]

theorem perform_ofStore (task : StoreTask α) :
    w.perform now nonce (ServiceTask.ofStore task) =
      let (a, database) := w.database.perform nonce task
      (a, { w with database }) := by
  induction task generalizing w with
  | done a => rfl
  | report e next ih => exact ih w
  | ask q next ih => exact ih _ _

theorem perform_ofCluster (task : ClusterTask α) :
    w.perform now nonce (ServiceTask.ofCluster task) =
      let v := w.cluster.carry task
      (v.result, { w with cluster := v.cluster, log := w.log ++ v.calls }) := by
  induction task generalizing w with
  | done a => simp only [Memory.carry, List.append_nil]; rfl
  | report e next ih => exact ih w
  | ask q next ih =>
      refine (ih _ _).trans ?_
      simp only [Memory.carry, List.append_assoc, List.singleton_append]
      rfl

end World

/-! ## Bringing a credential to the cluster -/

namespace Service

section

variable (s : Service) (c : Credential)

/-- The calls that keep a stored credential from the cluster, after what was asked before, with
the error that comes from each and its kind. -/
inductive Fault (before : List Exchange) : Exchange → CredentialError → ErrorKind → Prop where
  | connection {m e} (h : m.connect s.target.cluster = .error e) :
      Fault before ⟨.connect s.target.cluster, m⟩ (.cluster e) .infra
  | secret {x e} (h : SecretFault x e) : Fault before x (.cluster e) .infra
  | configMap {x e secret} (h : ListFault s.policy.maxAttempts s.target.space s.target.configMap
      c secret before x (.cluster e)) : Fault before x (.reconcile (.cluster e)) .infra
  | text {x e secret} (h : ListFault s.policy.maxAttempts s.target.space s.target.configMap
      c secret before x (.malformed s.target.space s.target.configMap e)) :
      Fault before x (.reconcile (.malformed s.target.space s.target.configMap e)) .serialization
  | spent {x secret} (h : ListFault s.policy.maxAttempts s.target.space s.target.configMap
      c secret before x
      (.conflictExhausted s.target.space s.target.configMap s.policy.maxAttempts)) :
      Fault before x (.reconcile
        (.conflictExhausted s.target.space s.target.configMap s.policy.maxAttempts))
        .conflictExhausted

/-- What is asked of the cluster for a stored credential, and what comes of it. -/
structure Published {α : Type} (m m' : Memory) (calls : List Exchange)
    (result : Except CredentialError α) : Prop where
  leads : Leads m calls m'
  /-- The secret comes after the connection, and the config map after the secret. -/
  ordered : ∃ secretCalls listCalls,
    calls = ⟨.connect s.target.cluster, m⟩ :: (secretCalls ++ listCalls) ∧
    (∀ x ∈ secretCalls,
      IsSecretCall s.target.space gitOpsSecretName c.username c.token x.call) ∧
    (∀ x ∈ listCalls, IsListCall s.target.space s.target.configMap x.call) ∧
    (secretCalls ≠ [] → m.connect s.target.cluster = .ok ()) ∧
    (listCalls ≠ [] → ∃ x ∈ secretCalls, x.fault? = none)
  failed : ∀ e, result = .error e →
    ∃ earlier x, calls = earlier ++ [x] ∧ s.Fault c earlier x e e.kind
  untouched : ∀ e, result = .error e → Untouched m calls m'
  done : ∀ a, result = .ok a → ∃ earlier x secret, calls = earlier ++ [x] ∧
    ListDone s.target.space s.target.configMap c secret x

end

variable {s : Service} {c : Credential}

/-- Any policy allows what the budget of some call does. -/
theorem reconcile_eq_task (p : RetryPolicy) (space name : String) (c : Credential)
    (secret : String) :
    reconcile p space name c secret = Call.task ⟨p.maxAttempts, c, secret⟩ space name := by
  obtain ⟨n, hn⟩ := p
  have hpolicy : (⟨n, hn⟩ : RetryPolicy) = .fixed n := by
    simp only [RetryPolicy.fixed, RetryPolicy.mk.injEq]
    omega
  exact congrArg (fun p => reconcile p space name c secret) hpolicy

theorem listed_reconcile (p : RetryPolicy) (space name : String) (c : Credential)
    (secret : String) {before : List Exchange} (hbefore : before.filter Exchange.isConflict = [])
    (m : Memory) : Listed p.maxAttempts space name c secret before
      (m.carry (reconcile p space name c secret)) := by
  let r : Call := ⟨p.maxAttempts, c, secret⟩
  have hlimit : r.limit = p.maxAttempts := Nat.max_eq_left p.positive
  have hcount : (before.filter Exchange.isConflict).length + 1 = 1 := by rw [hbefore]; rfl
  have hleft : 1 + (r.limit - 1) = r.limit := Nat.add_sub_cancel' (Nat.le_max_right ..)
  have h := listed_attempts r space name (r.limit - 1) 1 before m hcount hleft
  rw [reconcile_eq_task]
  exact Eq.subst (motive := fun n => Listed n space name c secret before
    (m.carry (r.task space name))) hlimit h

section

variable {α β : Type} {m m' : Memory} {calls : List Exchange}

theorem Published.error {e : CredentialError}
    (h : s.Published c m m' calls (.error e : Except CredentialError α)) :
    s.Published c m m' calls (.error e : Except CredentialError β) where
  leads := h.leads
  ordered := h.ordered
  failed e' he := h.failed e' (by cases he; rfl)
  untouched e' he := h.untouched e' (by cases he; rfl)
  done := nofun

theorem Published.ok {a : α} (h : s.Published c m m' calls (.ok a)) (b : β) :
    s.Published c m m' calls (.ok b) where
  leads := h.leads
  ordered := h.ordered
  failed := nofun
  untouched := nofun
  done _ _ := h.done a rfl

end

theorem Fault.of_list {before : List Exchange} {x : Exchange} {e : ReconcileError}
    {secret : String} (h : ListFault s.policy.maxAttempts s.target.space s.target.configMap c
      secret before x e) :
    s.Fault c before x (.reconcile e) (CredentialError.reconcile e).kind := by
  have hfault := h
  cases h with
  | read => exact .configMap hfault
  | text => exact .text hfault
  | write => exact .configMap hfault
  | spent => exact .spent hfault

/-- Of calls that make sure of a secret none updates a config map. -/
theorem isAccepted_of_secretCall {space name username token : String} {x : Exchange}
    (h : IsSecretCall space name username token x.call) :
    x.isAccepted = false ∧ x.isConflict = false := by
  obtain ⟨q, m⟩ := x
  rcases h with rfl | rfl <;> exact ⟨rfl, rfl⟩

section

variable {m : Memory} {v : Completed (Except ClusterError SecretRef)}

theorem published_of_connection {α : Type} {e : ClusterError}
    (h : m.connect s.target.cluster = .error e) :
    s.Published c m m [⟨.connect s.target.cluster, m⟩]
      (.error (.cluster e) : Except CredentialError α) where
  leads := ⟨rfl, rfl⟩
  ordered := ⟨[], [], rfl, nofun, nofun, nofun, nofun⟩
  failed := by
    rintro e' ⟨rfl⟩
    exact ⟨[], _, rfl, .connection h⟩
  untouched _ _ := by
    have hleads : Leads m [⟨.connect s.target.cluster, m⟩] m := ⟨rfl, rfl⟩
    refine hleads.untouched fun x hx => ?_
    rw [List.mem_singleton.mp hx]
    rfl
  done := nofun

theorem published_of_secret {α : Type} {e : ClusterError}
    (hconnected : m.connect s.target.cluster = .ok ()) (hleads : Leads m v.calls v.cluster)
    (h : Provided s.target.space gitOpsSecretName c.username c.token v)
    (he : v.result = .error e) :
    s.Published c m v.cluster (⟨.connect s.target.cluster, m⟩ :: v.calls)
      (.error (.cluster e) : Except CredentialError α) where
  leads := ⟨rfl, hleads⟩
  ordered := ⟨v.calls, [], by rw [List.append_nil], h.calls, nofun, fun _ => hconnected, nofun⟩
  failed := by
    rintro e' ⟨rfl⟩
    obtain ⟨earlier, x, hcalls, hfault⟩ := h.failed e he
    exact ⟨⟨.connect s.target.cluster, m⟩ :: earlier, x, by rw [hcalls]; rfl, .secret hfault⟩
  untouched _ _ := by
    have hall : Leads m (⟨.connect s.target.cluster, m⟩ :: v.calls) v.cluster := ⟨rfl, hleads⟩
    refine hall.untouched fun x hx => ?_
    rcases List.mem_cons.mp hx with rfl | hx
    · rfl
    · exact (isAccepted_of_secretCall (h.calls x hx)).1
  done := nofun

theorem published_of_list {α : Type} {ref : SecretRef} {u : Completed Outcome}
    {result : Except CredentialError α}
    (hconnected : m.connect s.target.cluster = .ok ()) (hleads : Leads m v.calls v.cluster)
    (h : Provided s.target.space gitOpsSecretName c.username c.token v)
    (hgiven : v.result = .ok ref) (hlater : Leads v.cluster u.calls u.cluster)
    (hlist : Listed s.policy.maxAttempts s.target.space s.target.configMap c ref.name
      (⟨.connect s.target.cluster, m⟩ :: v.calls) u)
    (herror : ∀ e, result = .error e → ∃ e', u.result = .error e' ∧ e = .reconcile e')
    (hok : ∀ a, result = .ok a → ∃ r, u.result = .ok r) :
    s.Published c m u.cluster (⟨.connect s.target.cluster, m⟩ :: (v.calls ++ u.calls)) result where
  leads := ⟨rfl, hleads.append hlater⟩
  ordered := ⟨v.calls, u.calls, rfl, h.calls, hlist.calls, fun _ => hconnected,
    fun _ => h.given ref hgiven⟩
  failed e he := by
    obtain ⟨e', he', rfl⟩ := herror e he
    obtain ⟨-, earlier, x, hcalls, hfault⟩ := hlist.failed e' he'
    refine ⟨⟨.connect s.target.cluster, m⟩ :: v.calls ++ earlier, x, ?_, .of_list hfault⟩
    simp only [hcalls, List.cons_append, List.append_assoc]
  untouched e he := by
    obtain ⟨e', he', rfl⟩ := herror e he
    have hall : Leads m (⟨.connect s.target.cluster, m⟩ :: (v.calls ++ u.calls)) u.cluster :=
      ⟨rfl, hleads.append hlater⟩
    refine hall.untouched fun x hx => ?_
    rcases List.mem_cons.mp hx with rfl | hx
    · rfl
    · rcases List.mem_append.mp hx with hx | hx
      · exact (isAccepted_of_secretCall (h.calls x hx)).1
      · exact (hlist.failed e' he').1 x hx
  done a ha := by
    obtain ⟨r, hr⟩ := hok a ha
    obtain ⟨earlier, x, hcalls, hdone⟩ := hlist.done r hr
    refine ⟨⟨.connect s.target.cluster, m⟩ :: v.calls ++ earlier, x, ref.name, ?_, hdone⟩
    simp only [hcalls, List.cons_append, List.append_assoc]

end

theorem published (w : World) (now : Timestamp) (nonce : Nonce) :
    ∃ result m' calls, w.perform now nonce (s.publish c)
        = (result, { w with cluster := m', log := w.log ++ calls }) ∧
      s.Published c w.cluster m' calls result := by
  simp only [publish, World.perform_bind, World.perform_ofCluster, Memory.carry_connect]
  cases hconnected : w.cluster.connect s.target.cluster with
  | error e =>
      simp only [World.perform_bind, World.perform_note, World.perform_pure]
      exact ⟨_, _, _, rfl, published_of_connection hconnected⟩
  | ok u =>
      have hprovided := provided_ensureSecret w.cluster s.target.space gitOpsSecretName c.username
        c.token
      have hleads := Memory.leads_carry w.cluster
        (ClusterTask.ensureSecret s.target.space gitOpsSecretName c.username c.token)
      simp only [World.perform_bind, World.perform_ofCluster]
      generalize w.cluster.carry (ClusterTask.ensureSecret s.target.space gitOpsSecretName
        c.username c.token) = v at hprovided hleads ⊢
      cases hgiven : v.result with
      | error e =>
          simp only [World.perform_pure]
          refine ⟨_, _, ⟨.connect s.target.cluster, w.cluster⟩ :: v.calls, ?_,
            published_of_secret hconnected hleads hprovided hgiven⟩
          rw [List.append_assoc]
          rfl
      | ok ref =>
          have hnone : (⟨.connect s.target.cluster, w.cluster⟩ :: v.calls).filter
              Exchange.isConflict = [] := by
            refine List.filter_eq_nil_iff.mpr fun x hx => ?_
            rcases List.mem_cons.mp hx with rfl | hx
            · exact Bool.false_ne_true
            · rw [(isAccepted_of_secretCall (hprovided.calls x hx)).2]
              exact Bool.false_ne_true
          have hlist := listed_reconcile s.policy s.target.space s.target.configMap c ref.name
            hnone v.cluster
          have hlater := Memory.leads_carry v.cluster
            (reconcile s.policy s.target.space s.target.configMap c ref.name)
          simp only [World.perform_bind, World.perform_ofCluster]
          generalize v.cluster.carry (reconcile s.policy s.target.space s.target.configMap c
            ref.name) = u at hlist hlater ⊢
          have hcalls : w.log ++ [⟨.connect s.target.cluster, w.cluster⟩] ++ v.calls ++ u.calls
              = w.log ++ ⟨.connect s.target.cluster, w.cluster⟩ :: (v.calls ++ u.calls) := by
            simp only [List.append_assoc, List.cons_append, List.nil_append]
          cases hresult : u.result with
          | error e =>
              simp only [World.perform_bind, World.perform_note, World.perform_pure, hcalls]
              refine ⟨.error (.reconcile e), _, _, rfl,
                published_of_list hconnected hleads hprovided hgiven hlater hlist ?_ nofun⟩
              rintro e' ⟨rfl⟩
              exact ⟨e, hresult, rfl⟩
          | ok r =>
              simp only [World.perform_bind, World.perform_note, World.perform_pure, hcalls]
              exact ⟨.ok r, _, _, rfl, published_of_list hconnected hleads hprovided hgiven hlater
                hlist nofun fun _ _ => ⟨r, hresult⟩⟩

/-! ## Requests -/

/-- What keeps a configuration from being stored at all. -/
inductive Incomplete (c : GitOpsConfig) : CredentialError → Prop where
  | provider (h : c.provider = none) : Incomplete c (.validation "provider is required")
  | host (h : isBlankText c.host = true) : Incomplete c (.validation "host must not be empty")

/-- Why a new configuration is not stored: it is incomplete, or no id is left. -/
inductive CreateRefused (t : Table) (c : GitOpsConfig) : CredentialError → Prop where
  | incomplete {e} (h : Incomplete c e) : CreateRefused t c e
  | full (h : Cell.integerBounds.2 < t.greatestId + 1) :
      CreateRefused t c (.store (.database (.statement .full)))

/-- The credential in a row, as a store reads it. -/
def credentialIn (s : Service) (r : Int × CellRow) : Except StoreError Credential :=
  match Database.readRow r with
  | .error e => .error (.database e)
  | .ok row => s.store.ofRow row

/-- Why a configuration does not overwrite a stored one: it is incomplete, has no id, or there
is no readable row with that id. -/
inductive UpdateRefused (s : Service) (t : Table) (c : GitOpsConfig) : CredentialError → Prop where
  | id (h : c.id = none) : UpdateRefused s t c (.validation "id is required for update")
  | incomplete {e} (h : Incomplete c e) : UpdateRefused s t c e
  | unknown {id} (h : c.id = some id) (hrows : ∀ r ∈ t.rows, r.1 ≠ id) :
      UpdateRefused s t c (.notFound s!"id {id}")
  | unreadable {r e} (hr : r ∈ t.rows) (h : c.id = some r.1) (he : s.credentialIn r = .error e) :
      UpdateRefused s t c (.store e)

/-- The credential that is stored for a new configuration. -/
def drafted (c : GitOpsConfig) (p : Provider) (user : Int) (now : Timestamp) : Credential :=
  fill c p ⟨0, p, "", "", "", "", false, .created user now⟩

/-- The credential that overwrites a stored one. -/
def redrafted (c : GitOpsConfig) (p : Provider) (stored : Credential) (user : Int)
    (now : Timestamp) : Credential :=
  fill c p { stored with audit := stored.audit.touch user now }

theorem incomplete_of_validate {c : GitOpsConfig} {e : CredentialError}
    (h : validate c = .error e) : Incomplete c e := by
  unfold validate at h
  cases hp : c.provider with
  | none =>
      simp only [hp] at h
      cases h
      exact .provider hp
  | some p =>
      simp only [hp] at h
      by_cases hhost : isBlankText c.host = true
      · rw [if_pos hhost] at h
        cases h
        exact .host hhost
      · rw [if_neg hhost] at h
        cases h

theorem complete_of_validate {c : GitOpsConfig} {p : Provider} (h : validate c = .ok p) :
    c.provider = some p ∧ ∀ e, ¬Incomplete c e := by
  unfold validate at h
  cases hp : c.provider with
  | none =>
      simp only [hp] at h
      cases h
  | some p' =>
      simp only [hp] at h
      by_cases hhost : isBlankText c.host = true
      · rw [if_pos hhost] at h
        cases h
      · rw [if_neg hhost] at h
        cases h
        refine ⟨rfl, fun e he => ?_⟩
        cases he with
        | provider hnone => exact absurd (hp.symm.trans hnone) nofun
        | host hblank => exact hhost hblank

theorem not_updateRefused {s : Service} {t : Table} {c : GitOpsConfig} {row : Int × CellRow}
    {stored : Credential} (hids : t.Keyed) (hmem : row ∈ t.rows) (hid : c.id = some row.1)
    (hstored : s.credentialIn row = .ok stored) (hcomplete : ∀ e, ¬Incomplete c e)
    (e : CredentialError) : ¬UpdateRefused s t c e := by
  intro he
  cases he with
  | id hnone => exact absurd (hid.symm.trans hnone) nofun
  | incomplete h => exact hcomplete e h
  | unknown hother hnone =>
      cases hid.symm.trans hother
      exact hnone row hmem rfl
  | unreadable hr hother herror =>
      -- two rows with one id are the same row, and that one is readable
      have hsame := List.inj_on_of_nodup_map hids hmem hr
        (Option.some.inj (hid.symm.trans hother))
      rw [← hsame, hstored] at herror
      cases herror

/-! ### The row of a configuration -/

theorem alter_of_row {t : Table} {earlier later : List (Int × CellRow)} {row : Int × CellRow}
    (h : t.rows = earlier ++ row :: later) (hids : t.Keyed)
    (f : CellRow → CellRow) :
    (t.alter row.1 f).2 = { t with rows := earlier ++ (row.1, f row.2) :: later } := by
  rw [Table.Keyed, h, List.map_append, List.map_cons, List.nodup_append,
    List.nodup_cons] at hids
  obtain ⟨-, ⟨hlater, -⟩, hearlier⟩ := hids
  have hkeep (rows : List (Int × CellRow)) (hrows : row.1 ∉ rows.map (·.1)) :
      rows.map (fun r => if r.1 = row.1 then (r.1, f r.2) else r) = rows :=
    congrArg Table.rows (Table.alter_of_not_mem (t := ⟨rows, t.lastId⟩) f hrows)
  have hnot : row.1 ∉ earlier.map (·.1) := fun hmem =>
    hearlier _ hmem _ (List.mem_cons_self ..) rfl
  simp only [Table.alter, h, List.map_append, List.map_cons, if_pos, hkeep _ hlater,
    hkeep _ hnot]

theorem credentialIn_eq (s : Service) (row : Int × CellRow) :
    s.credentialIn row = s.store.readRow row := by
  unfold credentialIn Store.readRow
  cases Database.readRow row <;> rfl

theorem id_of_credentialIn {s : Service} {row : Int × CellRow} {stored : Credential}
    (h : s.credentialIn row = .ok stored) : stored.id = row.1 :=
  Store.id_of_readRow ((s.credentialIn_eq row).symm.trans h)

section

variable (s : Service) (now : Timestamp) (nonce : Nonce) (c : GitOpsConfig) (user : Int)
  (w : World) {t : Table}

theorem perform_getById (ht : w.database.table = .present t) (id : Int) :
    w.database.perform nonce (s.store.getById id) =
      ((t.rows.find? (·.1 = id)).elim (.ok none) fun row => some <$> s.credentialIn row,
        w.database) := by
  simp only [Database.perform_getById, Database.answer, ht]
  cases t.rows.find? (·.1 = id) with
  | none => rfl
  | some row =>
      simp only [Database.readRow?, Option.elim_some, credentialIn]
      cases Database.readRow row <;> rfl

theorem perform_overwrite (ht : w.database.table = .present t)
    (hids : t.Keyed) {earlier later : List (Int × CellRow)}
    {row : Int × CellRow} (hrows : t.rows = earlier ++ row :: later) {changed : Credential}
    (hid : changed.id = row.1) :
    w.database.perform nonce (s.store.update changed) = (.ok (),
      { w.database with table := .present { t with rows := earlier ++
        (row.1, row.2.overwrite (s.store.written nonce changed)) :: later } }) := by
  have hwritten : (s.store.written nonce changed).id = row.1 := by
    unfold Store.written
    split <;> exact hid
  simp only [Database.perform_update, Database.answer, ht, hwritten,
    alter_of_row hrows hids]

/-- A create is refused, or leaves one more row, whatever becomes of it on the cluster. -/
theorem perform_create (ht : w.database.table = .present t) :
    (∃ e, CreateRefused t c e ∧ w.perform now nonce (s.create c user) = (.error e, w)) ∨
    (∀ e, ¬CreateRefused t c e) ∧ ∃ p result m' calls, c.provider = some p ∧
      w.perform now nonce (s.create c user) = (result,
        ⟨{ w.database with table := .present ⟨t.rows ++ [(t.greatestId + 1,
            .ofRow (s.store.written nonce (drafted c p user now)))], t.greatestId + 1⟩ },
          m', w.log ++ calls⟩) ∧
      s.Published { drafted c p user now with id := t.greatestId + 1 } w.cluster m' calls
        result := by
  simp only [create]
  cases hvalid : validate c with
  | error e => exact .inl ⟨e, .incomplete (incomplete_of_validate hvalid), rfl⟩
  | ok p =>
      obtain ⟨hp, hcomplete⟩ := complete_of_validate hvalid
      simp only [World.perform_bind, World.perform_now, World.perform_ofStore,
        Database.perform_create, Database.answer, ht, Table.insert]
      by_cases hfull : Cell.integerBounds.2 < t.greatestId + 1
      · left
        refine ⟨_, .full hfull, ?_⟩
        simp only [if_pos hfull]
        rfl
      · right
        refine ⟨fun e he => ?_, p, ?_⟩
        · cases he with
          | incomplete h => exact hcomplete e h
          | full h => exact hfull h
        · obtain ⟨result, m', calls, hpublish, hpublished⟩ :=
            published (s := s) (c := { drafted c p user now with id := t.greatestId + 1 })
              { w with database := { w.database with table := .present ⟨t.rows ++
                [(t.greatestId + 1, .ofRow (s.store.written nonce (drafted c p user now)))],
                t.greatestId + 1⟩ } } now nonce
          simp only [drafted] at hpublish
          simp only [if_neg hfull, World.perform_bind, World.perform_note, World.perform_within,
            hpublish]
          cases result with
          | error e => exact ⟨.error e, m', calls, hp, rfl, hpublished.error⟩
          | ok r => exact ⟨.ok _, m', calls, hp, rfl, hpublished.ok _⟩

/-- An update is refused, or overwrites one row, whatever becomes of it on the cluster. -/
theorem perform_update (ht : w.database.table = .present t) (hids : t.Keyed) :
    (∃ e, UpdateRefused s t c e ∧ w.perform now nonce (s.update c user) = (.error e, w)) ∨
    (∀ e, ¬UpdateRefused s t c e) ∧ ∃ p earlier row later stored result m' calls,
      c.provider = some p ∧ t.rows = earlier ++ row :: later ∧ c.id = some row.1 ∧
      s.credentialIn row = .ok stored ∧
      w.perform now nonce (s.update c user) = (result,
        ⟨{ w.database with table := .present { t with rows := earlier ++ (row.1,
            row.2.overwrite (s.store.written nonce (redrafted c p stored user now))) :: later } },
          m', w.log ++ calls⟩) ∧
      s.Published (redrafted c p stored user now) w.cluster m' calls result := by
  simp only [update]
  cases hid : c.id with
  | none => exact .inl ⟨_, .id hid, rfl⟩
  | some id =>
      dsimp only
      cases hvalid : validate c with
      | error e => exact .inl ⟨e, .incomplete (incomplete_of_validate hvalid), rfl⟩
      | ok p =>
          obtain ⟨hp, hcomplete⟩ := complete_of_validate hvalid
          simp only [World.perform_bind, World.perform_ofStore, s.perform_getById nonce w ht]
          cases hrow : t.rows.find? (·.1 = id) with
          | none =>
              refine .inl ⟨_, .unknown hid fun r hr hrid => ?_, rfl⟩
              exact List.find?_eq_none.mp hrow r hr (decide_eq_true hrid)
          | some row =>
              obtain ⟨hrid, earlier, later, hrows, -⟩ := List.find?_eq_some_iff_append.mp hrow
              obtain rfl : row.1 = id := of_decide_eq_true hrid
              have hmem : row ∈ t.rows := hrows ▸ List.mem_append_right _ List.mem_cons_self
              cases hstored : s.credentialIn row with
              | error e =>
                  refine .inl ⟨_, .unreadable hmem hid hstored, ?_⟩
                  simp only [Option.elim_some, hstored]
                  rfl
              | ok stored =>
                  have hchanged : (redrafted c p stored user now).id = row.1 :=
                    (rfl : _ = stored.id).trans (id_of_credentialIn hstored)
                  obtain ⟨result, m', calls, hpublish, hpublished⟩ :=
                    published (s := s) (c := redrafted c p stored user now)
                      { w with database := { w.database with table := .present { t with
                        rows := earlier ++ (row.1, row.2.overwrite (s.store.written nonce
                          (redrafted c p stored user now))) :: later } } } now nonce
                  refine .inr ⟨not_updateRefused hids hmem hid hstored hcomplete, p, earlier, row,
                    later, stored, ?_⟩
                  have hlookup : (some row).elim (.ok none) (fun r => some <$> s.credentialIn r)
                      = .ok (some stored) := by
                    simp only [Option.elim_some, hstored]
                    rfl
                  have hwrite := s.perform_overwrite nonce w ht hids hrows hchanged
                  simp only [redrafted] at hpublish hwrite
                  simp only [hlookup, World.perform_bind, World.perform_now,
                    World.perform_ofStore, hwrite, World.perform_note, World.perform_within,
                    hpublish]
                  cases result with
                  | error e =>
                      exact ⟨.error e, m', calls, hp, hrows, trivial, hstored, rfl,
                        hpublished.error⟩
                  | ok r =>
                      exact ⟨.ok _, m', calls, hp, hrows, trivial, hstored, rfl, hpublished.ok _⟩

end

/-! ### Some requests -/

def plain : Service := ⟨⟨none⟩, .standard, .fixed 3⟩

def config : GitOpsConfig := { GitOpsConfig.empty with provider := some .github, host := "h" }

def noon : Timestamp := ⟨17000, 43200, 0⟩

theorem proper_noon : noon.Proper := ⟨by decide, by decide, by decide, by decide⟩

def zeros : Nonce := Vector.replicate 12 0

/-- The sample credential under an id, and a cluster without a config map. -/
def bare (id : Int) : World where
  database := ⟨some [1], .present ⟨[(id, .ofRow (plain.store.written zeros Archive.sample))], 1⟩⟩
  cluster := Memory.new "default_cluster"
  log := []

end Service

end CredRegistry
