import CredRegistry.Proofs.Service.Reads
import CredRegistry.Proofs.Store.Lookups

/-!
# What a request writes

A request to store a configuration reads the row that it overwrites before it asks the time and
writes. `Errand.cells` are the cells of a row, column by column, that a request has written. The
work of a request is followed through its tree of calls, whatever is answered: it writes cells of
this kind only, whatever it has read, and it writes once at most (`Errand.keeps_task`).
-/

namespace CredRegistry

open CredRegistry.Cipher CredRegistry.RepoList

/-! ## Dialogues that keep to some calls -/

namespace Dialogue

variable {Q : Type} {A : Q → Type} {α β : Type}

/-- As long as the answers are fair, the dialogue asks only calls of a kind, which cost no more
than is allowed, and what it comes to is good. -/
inductive Confined (fair : (q : Q) → A q → Prop) (mild : Q → Prop) (cost : Q → Nat)
    (good : α → Prop) : Nat → Dialogue Q A α → Prop where
  | done {n a} (h : good a) : Confined fair mild cost good n (.done a)
  | report {n e d} (h : Confined fair mild cost good n d) :
      Confined fair mild cost good n (.report e d)
  | ask {n q go} (hq : mild q) (hn : cost q ≤ n)
      (h : ∀ a, fair q a → Confined fair mild cost good (n - cost q) (go a)) :
      Confined fair mild cost good n (.ask q go)

section

variable {fair : (q : Q) → A q → Prop} {mild : Q → Prop} {cost : Q → Nat} {good : α → Prop}
  {good' : β → Prop} {k n : Nat}

theorem Confined.mono {d : Dialogue Q A α} (h : Confined fair mild cost good k d) :
    ∀ {n}, k ≤ n → Confined fair mild cost good n d := by
  induction h with
  | done h => exact fun _ => .done h
  | report _ ih => exact fun hn => .report (ih hn)
  | ask hq hk _ ih =>
      intro n hn
      exact .ask hq (by omega) fun a ha => ih a ha (by omega)

theorem Confined.bind {d : Dialogue Q A α} {f : α → Dialogue Q A β}
    (h : Confined fair mild cost good k d) (hk : k ≤ n)
    (hf : ∀ a, good a → Confined fair mild cost good' (n - k) (f a)) :
    Confined fair mild cost good' n (d >>= f) := by
  induction h generalizing n with
  | done ha => exact (hf _ ha).mono (Nat.sub_le ..)
  | report _ ih => exact .report (ih hk hf)
  | @ask k q go hq hcost _ ih =>
      refine .ask hq (by omega) fun a ha => ih a ha (by omega) fun b hb => ?_
      rw [show n - cost q - (k - cost q) = n - k by omega]
      exact hf b hb

/-- What asks nothing that costs anything may come first. -/
theorem Confined.then {d : Dialogue Q A α} {f : α → Dialogue Q A β}
    (h : Confined fair mild cost good 0 d)
    (hf : ∀ a, good a → Confined fair mild cost good' n (f a)) :
    Confined fair mild cost good' n (d >>= f) :=
  h.bind (Nat.zero_le n) hf

theorem Confined.of_report {e : Log.Event} {d : Dialogue Q A α}
    (h : Confined fair mild cost good n (.report e d)) : Confined fair mild cost good n d := by
  cases h with
  | report hd => exact hd

theorem Confined.of_ask {q : Q} {go : A q → Dialogue Q A α}
    (h : Confined fair mild cost good n (.ask q go)) :
    mild q ∧ cost q ≤ n ∧ ∀ a, fair q a → Confined fair mild cost good (n - cost q) (go a) := by
  cases h with
  | ask hq hn hgo => exact ⟨hq, hn, hgo⟩

end

end Dialogue

/-! ## Requests -/

/-- A request to store a configuration, who hands it in, and to which service. -/
structure Errand where
  service : Service
  submission : Submission
  user : Int

namespace Errand

def config (x : Errand) : GitOpsConfig :=
  match x.submission with
  | .create c => c
  | .update c => c

/-- The work of a request. What it comes to is passed over. -/
def task (x : Errand) : ServiceTask Unit :=
  match x.submission with
  | .create c => do
      let _ ← x.service.create c x.user
      pure ()
  | .update c => do
      let _ ← x.service.update c x.user
      pure ()

/-- The cells of a row that a request has written, column by column. All of them are its own but
those of the creation. -/
def cells (x : Errand) (p : Provider) (nonce : Nonce) (now : Timestamp)
    (createdBy createdOn : Cell) : CellRow where
  provider := .text p.name
  username := .text x.config.username
  token := .text (match x.service.store.key with
    | none => x.config.token
    | some key => key.encrypt nonce x.config.token)
  tokenEncrypted := .integer (if x.service.store.key.isSome then 1 else 0)
  orgOrGroupId := .text (match p with
    | .gitlab => x.config.gitLabGroupId
    | .github => x.config.gitHubOrgId
    | .azureDevops => x.config.gitHubOrgId)
  host := .text x.config.host
  active := .integer (if x.config.active then 1 else 0)
  createdBy := createdBy
  createdOn := createdOn
  updatedBy := .integer x.user
  updatedOn := .text now.text

/-- This is a row that the request may insert, at a time that it was told. -/
def Creates (x : Errand) (told : Timestamp → Prop) (r : Row) : Prop :=
  ∃ c p nonce now, x.submission = .create c ∧ c.provider = some p ∧ told now ∧
    CellRow.ofRow r = x.cells p nonce now (.integer x.user) (.text now.text)

/-- This is a row that the request may overwrite another with, the one with its id, whatever is
there. -/
def Updates (x : Errand) (told : Timestamp → Prop) (r : Row) : Prop :=
  ∃ c p nonce now, x.submission = .update c ∧ c.id = some r.id ∧ c.provider = some p ∧ told now ∧
    ∀ old : CellRow, old.overwrite r = x.cells p nonce now old.createdBy old.createdOn

/-- The calls that a request may make. -/
def MayAsk (x : Errand) (told : Timestamp → Prop) : ServiceCall → Prop
  | .store (.database (.insert r)) => x.Creates told r
  | .store (.database (.update r)) => x.Updates told r
  | _ => True

/-- How often a call writes. -/
def writes : ServiceCall → Nat
  | .store (.database (.insert _)) => 1
  | .store (.database (.update _)) => 1
  | _ => 0

/-- A row that is found by its id has it, and the time is one that is told. -/
def Fair (told : Timestamp → Prop) : (q : ServiceCall) → q.Answer → Prop
  | .store (.database (.findById id)), found => ∀ r, found = .ok (some r) → r.id = id
  | .now, now => told now
  | _, _ => True

/-- Work that asks nothing but what the request may, and writes so often at most. -/
abbrev Keeps (x : Errand) (told : Timestamp → Prop) {α : Type} (good : α → Prop) (n : Nat)
    (work : ServiceTask α) : Prop :=
  work.Confined (Fair told) (x.MayAsk told) writes good n

section

variable {x : Errand} {told : Timestamp → Prop} {α β : Type}

theorem keeps_pure {good : α → Prop} {n : Nat} {a : α} (h : good a) :
    x.Keeps told good n (pure a : ServiceTask α) := .done h

theorem keeps_now : x.Keeps told told 0 ServiceTask.now :=
  .ask trivial (Nat.zero_le _) fun _ hnow => .done hnow

theorem keeps_ofCluster (task : ClusterTask α) :
    x.Keeps told (fun _ => True) 0 (ServiceTask.ofCluster task) := by
  induction task with
  | done a => exact .done trivial
  | report e next ih => exact .report ih
  | ask q next ih => exact .ask trivial (Nat.zero_le _) fun a _ => ih a

theorem keeps_report (e : Log.Event) : x.Keeps told (fun _ => True) 0 (Log.report e) :=
  .report (.done trivial)

theorem keeps_note (level : Log.Level) (target message : String) :
    x.Keeps told (fun _ => True) 0 (Log.note level target message) := keeps_report _

theorem keeps_within {work : ServiceTask α} (span : Log.Span)
    (h : x.Keeps told (fun _ => True) 0 work) :
    x.Keeps told (fun _ => True) 0 (Log.within span work) :=
  (keeps_report _).then fun _ _ => h.then fun _ _ =>
    (keeps_report _).then fun _ _ => keeps_pure trivial

/-- Bringing a credential to the cluster asks nothing of the database. -/
theorem keeps_publish (s : Service) (c : Credential) :
    x.Keeps told (fun _ => True) 0 (s.publish c) := by
  refine (keeps_ofCluster _).then fun connected _ => ?_
  cases connected with
  | error e => exact (keeps_note ..).then fun _ _ => keeps_pure trivial
  | ok _ =>
      refine (keeps_ofCluster _).then fun provided _ => ?_
      cases provided with
      | error e => exact keeps_pure trivial
      | ok secret =>
          refine (keeps_ofCluster _).then fun reconciled _ => ?_
          cases reconciled <;> exact (keeps_note ..).then fun _ _ => keeps_pure trivial

/-- How a request ends once its row is written. -/
theorem keeps_announce (s : Service) (c : Credential) (message : String) (answer : α) :
    x.Keeps told (fun _ => True) 0 (do
      Log.note .info Service.logTarget message
      match ← Log.within (Service.clusterSpan c) (s.publish c) with
      | .error e => pure (.error e)
      | .ok _ => pure (.ok answer) : ServiceTask (Except CredentialError α)) := by
  refine (keeps_note ..).then fun _ _ => ?_
  refine (keeps_within _ (keeps_publish ..)).then fun published _ => ?_
  cases published with
  | error e => exact keeps_pure trivial
  | ok _ => exact keeps_pure trivial

/-! ### Work on the store -/

/-- The same of work on the store. -/
abbrev KeepsStore (x : Errand) (told : Timestamp → Prop) (good : α → Prop) (n : Nat)
    (work : StoreTask α) : Prop :=
  work.Confined (fun q => Fair told (.store q)) (fun q => x.MayAsk told (.store q))
    (fun q => writes (.store q)) good n

theorem keeps_ofStore {work : StoreTask α} {good : α → Prop} {n : Nat}
    (h : x.KeepsStore told good n work) : x.Keeps told good n (ServiceTask.ofStore work) := by
  induction h with
  | done ha => exact .done ha
  | report _ ih => exact .report ih
  | ask hq hn _ ih => exact .ask hq hn ih

theorem keepsStore_toRow (s : Store) (c : Credential) :
    x.KeepsStore told (fun r => ∃ nonce, r = s.written nonce c) 0 (s.toRow c) := by
  obtain ⟨_ | key⟩ := s
  · exact .done ⟨default, rfl⟩
  · exact .ask trivial (Nat.zero_le _) fun nonce _ => .done ⟨nonce, rfl⟩

theorem keepsStore_create {s : Store} {c : Credential}
    (h : ∀ nonce, x.Creates told (s.written nonce c)) :
    x.KeepsStore told (fun _ => True) 1 (s.create c) := by
  refine (keepsStore_toRow s c).then fun r hr => ?_
  obtain ⟨nonce, rfl⟩ := hr
  refine .ask (h nonce) (Nat.le_refl 1) fun answer _ => ?_
  cases answer with
  | error e => exact .done trivial
  | ok id => exact .report (.done trivial)

theorem keepsStore_update {s : Store} {c : Credential}
    (h : ∀ nonce, x.Updates told (s.written nonce c)) :
    x.KeepsStore told (fun _ => True) 1 (s.update c) := by
  refine (keepsStore_toRow s c).then fun r hr => ?_
  obtain ⟨nonce, rfl⟩ := hr
  refine .ask (h nonce) (Nat.le_refl 1) fun answer _ => ?_
  rcases answer with _ | _ | count
  · exact .done trivial
  · exact .report (.done trivial)
  · exact .done trivial

/-- What is found by its id has it. -/
theorem keepsStore_getById (s : Store) (id : Int) :
    x.KeepsStore told (fun found => ∀ c, found = .ok (some c) → c.id = id) 0 (s.getById id) := by
  refine .ask trivial (Nat.zero_le _) fun answer hfair => ?_
  rcases answer with _ | _ | r
  · exact .done nofun
  · exact .done nofun
  · refine .done fun c hc => ?_
    have hid : r.id = id := hfair r rfl
    change some <$> s.ofRow r = .ok (some c) at hc
    cases hof : s.ofRow r with
    | error e =>
        rw [hof] at hc
        cases hc
    | ok c' =>
        rw [hof] at hc
        cases hc
        exact (Store.id_of_ofRow hof).trans hid

/-! ### The two requests -/

theorem provider_of_validate {c : GitOpsConfig} {p : Provider} (h : Service.validate c = .ok p) :
    c.provider = some p := by
  unfold Service.validate at h
  cases hp : c.provider with
  | none =>
      rw [hp] at h
      cases h
  | some p' =>
      simp only [hp] at h
      split at h
      · cases h
      · cases h
        rfl

/-- What is written for a request has its cells. -/
theorem ofRow_written {p : Provider} {base : Credential} {now : Timestamp}
    (hby : base.audit.updatedBy = x.user) (hon : base.audit.updatedOn = now) (nonce : Nonce) :
    CellRow.ofRow (x.service.store.written nonce (Service.fill x.config p base))
      = x.cells p nonce now (.integer base.audit.createdBy) (.text base.audit.createdOn.text) := by
  obtain ⟨⟨⟨_ | key⟩, target, policy⟩, submission, user⟩ := x
  · subst hon hby
    cases p <;> rfl
  · subst hon hby
    cases p <;> rfl

/-- Whatever is overwritten, nothing stays of it but its creation. -/
theorem overwrite_written {p : Provider} {base : Credential} {now : Timestamp}
    (hby : base.audit.updatedBy = x.user) (hon : base.audit.updatedOn = now) (nonce : Nonce)
    (old : CellRow) :
    old.overwrite (x.service.store.written nonce (Service.fill x.config p base))
      = x.cells p nonce now old.createdBy old.createdOn := by
  rw [CellRow.overwrite, ofRow_written hby hon]
  rfl

theorem keeps_create (s : Service) (c : GitOpsConfig) (user : Int) :
    Keeps ⟨s, .create c, user⟩ told (fun _ => True) 1 (s.create c user) := by
  rw [Service.create]
  cases hp : Service.validate c with
  | error e => exact keeps_pure trivial
  | ok p =>
      refine keeps_now.then fun now hnow => ?_
      refine (keeps_ofStore (keepsStore_create fun nonce => ?_)).bind (Nat.le_refl 1) ?_
      · exact ⟨c, p, nonce, now, rfl, provider_of_validate hp, hnow,
          ofRow_written (x := ⟨s, .create c, user⟩) (by rfl) (by rfl) nonce⟩
      · intro stored _
        cases stored with
        | error e => exact keeps_pure trivial
        | ok stored => exact keeps_announce ..

theorem keeps_update (s : Service) (c : GitOpsConfig) (user : Int) :
    Keeps ⟨s, .update c, user⟩ told (fun _ => True) 1 (s.update c user) := by
  rw [Service.update]
  cases hid : c.id with
  | none => exact keeps_pure trivial
  | some id =>
      cases hp : Service.validate c with
      | error e => exact keeps_pure trivial
      | ok p =>
          refine (keeps_ofStore (keepsStore_getById ..)).then fun found hfound => ?_
          rcases found with _ | _ | stored
          · exact keeps_pure trivial
          · exact keeps_pure trivial
          refine keeps_now.then fun now hnow => ?_
          refine (keeps_ofStore (keepsStore_update fun nonce => ?_)).bind (Nat.le_refl 1) ?_
          · refine ⟨c, p, nonce, now, rfl, ?_, provider_of_validate hp, hnow,
              overwrite_written (x := ⟨s, .update c, user⟩) (by rfl) (by rfl) nonce⟩
            rw [hid, ← hfound stored rfl]
            obtain ⟨⟨_ | key⟩, target, policy⟩ := s <;> rfl
          · intro updated _
            cases updated with
            | error e => exact keeps_pure trivial
            | ok _ => exact keeps_announce ..

theorem keeps_task (x : Errand) : x.Keeps told (fun _ => True) 1 x.task := by
  obtain ⟨s, c | c, user⟩ := x
  · exact (keeps_create s c user).bind (Nat.le_refl 1) fun _ _ => keeps_pure trivial
  · exact (keeps_update s c user).bind (Nat.le_refl 1) fun _ _ => keeps_pure trivial

end

end Errand

end CredRegistry
