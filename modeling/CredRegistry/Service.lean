import CredRegistry.Cluster.Provision
import CredRegistry.Credential.GitOpsConfig
import CredRegistry.RepoList.Reconcile
import CredRegistry.Store.Basic

/-!
# The credential service

A configuration that is handed in is stored, then the secret of the credentials is
provided, and then the list in the config map is reconciled. These are no
transaction: what has been stored stays stored when a later step fails.
-/

namespace CredRegistry

open CredRegistry.Text CredRegistry.RepoList

/-- The name of the secret that holds a user name and a token. -/
def gitOpsSecretName : String := "devtron-gitops-secret"

/-! ## Errors -/

/-- Why the service fails. -/
inductive CredentialError where
  | validation (text : String)
  | notFound (text : String)
  | store (error : StoreError)
  | cluster (error : ClusterError)
  | reconcile (error : ReconcileError)
deriving Repr

/-- What callers make of an error. -/
inductive ErrorKind where
  | validation
  | notFound
  | infra
  | serialization
  | conflictExhausted
deriving Repr, DecidableEq

def ErrorKind.name : ErrorKind → String
  | .validation => "Validation"
  | .notFound => "NotFound"
  | .infra => "Infra"
  | .serialization => "Serialization"
  | .conflictExhausted => "ConflictExhausted"

namespace CredentialError

def message : CredentialError → String
  | .validation text => s!"Validation error: {text}"
  | .notFound text => s!"GitOps config not found: {text}"
  | .store e => s!"Store error: {e.message}"
  | .cluster e => s!"Cluster error: {e.message}"
  | .reconcile e => s!"Reconcile error: {e.message}"

def kind : CredentialError → ErrorKind
  | .validation _ => .validation
  | .notFound _ => .notFound
  | .store _ => .infra
  | .cluster _ => .infra
  | .reconcile (.malformed ..) => .serialization
  | .reconcile (.conflictExhausted ..) => .conflictExhausted
  | .reconcile (.cluster _) => .infra

end CredentialError

/-! ## Calls -/

/-- What the service asks for: the time, something of the store, or something of the
cluster. -/
inductive ServiceCall where
  | now
  | store (c : StoreCall)
  | cluster (c : ClusterCall)
deriving Repr

abbrev ServiceCall.Answer : ServiceCall → Type
  | .now => Timestamp
  | .store c => c.Answer
  | .cluster c => c.Answer

abbrev ServiceTask := Dialogue ServiceCall ServiceCall.Answer

namespace ServiceTask

def now : ServiceTask Timestamp := Dialogue.call ServiceCall.now

def ofStore {α : Type} (t : StoreTask α) : ServiceTask α :=
  t.relay fun c => Dialogue.call (ServiceCall.store c)

def ofCluster {α : Type} (t : ClusterTask α) : ServiceTask α :=
  t.relay fun c => Dialogue.call (ServiceCall.cluster c)

end ServiceTask

open ServiceTask

/-! ## The service -/

/-- The config map that holds the list. -/
structure Target where
  cluster : String
  space : String
  configMap : String
deriving Repr, DecidableEq

namespace Target

def standard : Target := ⟨"default_cluster", "devtroncd", "argocd-cm"⟩

def summary (t : Target) : String :=
  recordText "MirrorTarget"
    [("cluster_name", quoted t.cluster), ("namespace", quoted t.space),
      ("config_map_name", quoted t.configMap)]

end Target

/-- A service: its view of the store, where it keeps the list, and how often it tries
to. -/
structure Service where
  store : Store
  target : Target
  policy : RetryPolicy

namespace Service

def logTarget : String := "gitops_creds::service"

/-- The provider of a configuration that can be stored. -/
def validate (c : GitOpsConfig) : Except CredentialError Provider :=
  match c.provider with
  | none => .error (.validation "provider is required")
  | some p =>
      if isBlankText c.host then .error (.validation "host must not be empty") else .ok p

/-- The span in which a credential is brought to the cluster. -/
def clusterSpan (c : Credential) : Log.Span :=
  ⟨.info, logTarget, "gitops.mirror", [("config_id", .int c.id), ("host", .str c.host)]⟩

/-- Bring a stored credential to the cluster: connect, make sure of the secret, and
reconcile the list. -/
def publish (s : Service) (c : Credential) :
    ServiceTask (Except CredentialError Reconciled) := do
  let t := s.target
  match ← ofCluster (ClusterTask.connect t.cluster) with
  | .error e =>
      Log.note .error logTarget s!"Cannot connect to cluster {t.cluster}: {e.message}"
      pure (.error (.cluster e))
  | .ok () =>
      match ← ofCluster (ClusterTask.ensureSecret t.space gitOpsSecretName c.username c.token) with
      | .error e => pure (.error (.cluster e))
      | .ok secret =>
          match ← ofCluster (reconcile s.policy t.space t.configMap c secret.name) with
          | .error e =>
              Log.note .error logTarget
                s!"Failed to mirror GitOps config {c.id} into {t.space}/{t.configMap}: {e.message}"
              pure (.error (.reconcile e))
          | .ok r =>
              Log.note .debug logTarget
                s!"Mirrored GitOps config {c.id} in {r.attempts} attempt(s), written: {r.written}"
              pure (.ok r)

/-- What a configuration says about a credential. -/
def fill (c : GitOpsConfig) (p : Provider) (base : Credential) : Credential :=
  { base with
    provider := p
    username := c.username
    token := c.token
    orgOrGroupId := c.orgOrGroupId p
    host := c.host
    active := c.active }

/-- Store a new configuration and bring it to the cluster; it comes back with its
id. -/
def create (s : Service) (c : GitOpsConfig) (user : Int) :
    ServiceTask (Except CredentialError GitOpsConfig) := do
  match validate c with
  | .error e => pure (.error e)
  | .ok p =>
      let now ← now
      let blank : Credential := ⟨0, p, "", "", "", "", false, .created user now⟩
      match ← ofStore (s.store.create (fill c p blank)) with
      | .error e => pure (.error (.store e))
      | .ok stored =>
          Log.note .info logTarget
            s!"Created {stored.provider.name} GitOps config {stored.id} for {stored.host}"
          match ← Log.within (clusterSpan stored) (s.publish stored) with
          | .error e => pure (.error e)
          | .ok _ => pure (.ok { c with id := some stored.id })

/-- Overwrite a configuration and bring it to the cluster again. -/
def update (s : Service) (c : GitOpsConfig) (user : Int) :
    ServiceTask (Except CredentialError Unit) := do
  match c.id with
  | none => pure (.error (.validation "id is required for update"))
  | some id =>
      match validate c with
      | .error e => pure (.error e)
      | .ok p =>
          match ← ofStore (s.store.getById id) with
          | .error e => pure (.error (.store e))
          | .ok none => pure (.error (.notFound s!"id {id}"))
          | .ok (some stored) =>
              let now ← now
              let changed := fill c p { stored with audit := stored.audit.touch user now }
              match ← ofStore (s.store.update changed) with
              | .error e => pure (.error (.store e))
              | .ok () =>
                  Log.note .info logTarget
                    s!"Updated GitOps config {changed.id} for {changed.host}"
                  match ← Log.within (clusterSpan changed) (s.publish changed) with
                  | .error e => pure (.error e)
                  | .ok _ => pure (.ok ())

/-- The configuration of a credential that was looked up by `what`. -/
def found (what : String) :
    Except StoreError (Option Credential) → Except CredentialError GitOpsConfig
  | .error e => .error (.store e)
  | .ok none => .error (.notFound what)
  | .ok (some c) => .ok (.ofCredential c)

def getById (s : Service) (id : Int) : ServiceTask (Except CredentialError GitOpsConfig) := do
  pure (found s!"id {id}" (← ofStore (s.store.getById id)))

/-- All configurations in the order of their ids. -/
def getAll (s : Service) : ServiceTask (Except CredentialError (List GitOpsConfig)) := do
  match ← ofStore s.store.getAll with
  | .error e => pure (.error (.store e))
  | .ok cs => pure (.ok (cs.map .ofCredential))

/-- The configuration of a provider with the lowest id. -/
def getByProvider (s : Service) (p : Provider) :
    ServiceTask (Except CredentialError GitOpsConfig) := do
  pure (found s!"provider {p.name}" (← ofStore (s.store.getByProvider p)))

end Service

end CredRegistry
