import CredRegistry.Cluster.Manifest
import CredRegistry.Http

/-!
# The API server of a cluster

How calls to a cluster become requests to its API server. A config map is updated by
fetching its manifest, putting in the data and the version that the caller read,
and sending it back; whatever else the manifest holds stays as it is, and the server
refuses it if the version is not the stored one any more.
-/

namespace CredRegistry.ApiServer

open CredRegistry.Text CredRegistry.Manifest

/-! ## Errors -/

/-- What a server says of a request that has failed. -/
structure Refusal where
  status : String
  text : String
  reason : String
  code : Nat
deriving Repr, DecidableEq

namespace Refusal

def fields {m : Type → Type} [Monad m] (source : Json.Source m) : List (Json.Field m Refusal) :=
  [ ⟨"status", fun r => do
      let status ← source.string
      pure { r with status }⟩,
    ⟨"message", fun r => do
      let text ← source.string
      pure { r with text }⟩,
    ⟨"reason", fun r => do
      let reason ← source.string
      pure { r with reason }⟩,
    ⟨"code", fun r => do
      let code ← source.integer 0 65535 "u16"
      pure { r with code := code.toNat }⟩ ]

def ofSource {m : Type → Type} [Monad m] (source : Json.Source m) : m Refusal :=
  source.record "struct ErrorResponse" (fields source) ⟨"", "", "", 0⟩ fun given r =>
    match given with
    | .items n =>
        if n < 4 then
          source.refuse (.invalidLength (if n = 0 then 0 else 3) "struct ErrorResponse with 4 elements")
        else pure r
    | .fields seen =>
        if !seen.contains "status" then source.refuse (.missingField "status")
        else if !seen.contains "code" then source.refuse (.missingField "code")
        else pure r

/-- The refusal that a reply stands for. If it does not say, its status does. -/
def ofReply (r : Http.Reply) : Refusal :=
  match Json.read r.body (ofSource Json.textSource) with
  | .ok refusal => refusal
  | .error _ =>
      ⟨Http.statusText r.status, quoted r.body, "Failed to parse error data", r.status⟩

def summary (r : Refusal) : String :=
  recordText "ErrorResponse"
    [("status", quoted r.status), ("message", quoted r.text), ("reason", quoted r.reason),
      ("code", toString r.code)]

end Refusal

/-- Why a request cannot be made. -/
inductive RequestFault where
  | emptyName
  | target (fault : Http.TargetFault)
deriving Repr, DecidableEq

/-- Why a request comes to nothing. -/
inductive Fault where
  | request (fault : RequestFault)
  | transport (text : String)
  | refused (refusal : Refusal)
  | unreadable (error : Json.Error)
deriving Repr, DecidableEq

def Fault.message : Fault → String
  | .request .emptyName =>
      "Failed to build request: failed to validate request: A non-empty name is required"
  | .request (.target fault) =>
      s!"Failed to build request: failed to build request: {fault.message}"
  | .transport text => s!"ServiceError: {text}"
  | .refused r => s!"ApiError: {r.text}: {r.reason} ({r.summary})"
  | .unreadable e => s!"Error deserializing response: {e.message}"

/-- What a fault of a request about an object means to callers. -/
def Fault.toError (kind : ObjectKind) (space name : String) (fault : Fault) : ClusterError :=
  match fault with
  | .refused r =>
      if r.code = 404 then .notFound kind space name
      else if r.code = 409 then .conflict kind space name
      else .api fault.message
  | _ => .api fault.message

/-! ## Requests -/

def collectionPath (kind : ObjectKind) (space : String) : String :=
  let plural := match kind with
    | .secret => "secrets"
    | .configMap => "configmaps"
  s!"/api/{apiVersion}/namespaces/{space}/{plural}"

def objectPath (kind : ObjectKind) (space name : String) : Except RequestFault String :=
  if name.isEmpty then .error .emptyName else .ok (collectionPath kind space ++ "/" ++ name)

/-- A request with a path that has to be a target. -/
def request (method : Http.Method) (path : String) (body : Option Json.Value) :
    Except RequestFault Http.Request :=
  match Http.target path with
  | .ok target => .ok ⟨method, target, body⟩
  | .error fault => .error (.target fault)

def getRequest (kind : ObjectKind) (space name : String) : Except RequestFault Http.Request := do
  request .get (← objectPath kind space name) none

def createRequest (kind : ObjectKind) (space : String) (manifest : Json.Value) :
    Except RequestFault Http.Request :=
  request .post (collectionPath kind space ++ "?") (some manifest)

def replaceRequest (kind : ObjectKind) (space name : String) (manifest : Json.Value) :
    Except RequestFault Http.Request := do
  request .put ((← objectPath kind space name) ++ "?") (some manifest)

def received {α : Type} (read : String → Except Json.Error α) (reply : Http.Reply) :
    Except Fault α :=
  if reply.isFailure then .error (.refused (.ofReply reply))
  else
    match read reply.body with
    | .ok a => .ok a
    | .error e => .error (.unreadable e)

def send {α : Type} (read : String → Except Json.Error α) :
    Except RequestFault Http.Request → Http.Task (Except Fault α)
  | .error fault => pure (.error (.request fault))
  | .ok r => do
      match ← Http.exchange r with
      | .error text => pure (.error (.transport text))
      | .ok reply => pure (received read reply)

/-! ## Calls -/

/-- What callers get to see of the manifest of a secret. Bytes that are no text are
shown as well as can be, and strings that are given as such come on top. -/
def secretOf (space name : String) (m : SecretManifest) : Secret :=
  let data := Dict.ofList ((m.data.getD ∅).entries.map fun (k, bs) => (k, lossy bs))
  let data := (m.stringData.getD ∅).entries.foldl (fun d (k, s) => d.insert k s) data
  ⟨m.metadata.space.getD space, m.metadata.name.getD name, data⟩

/-- What callers get to see of the manifest of a config map. -/
def configMapOf (space name : String) (m : ConfigMapManifest) : ConfigMap :=
  ⟨space, name, m.metadata.version, m.data.getD ∅⟩

/-- The manifest of a secret that is to be created. -/
def newSecret (space name username token : String) : SecretManifest :=
  { metadata := { name := some name, space := some space }
    type := some "Opaque"
    stringData := some (Dict.ofList [("username", username), ("password", token)]) }

/-- A manifest with the data of a config map, and with the version it was read
with. -/
def revised (m : ConfigMapManifest) (c : ConfigMap) : ConfigMapManifest :=
  { m with metadata := { m.metadata with version := c.version }, data := some c.data }

def logTarget : String := "gitops_creds::cluster::kube_api"

def connect (cluster : String) : Http.Task (Except ClusterError Unit) := do
  Log.note .debug logTarget s!"Using in-process kube client for cluster {cluster}"
  pure (.ok ())

def getSecret (space name : String) : Http.Task (Except ClusterError Secret) := do
  match ← send SecretManifest.ofText (getRequest .secret space name) with
  | .ok m => pure (.ok (secretOf space name m))
  | .error fault => pure (.error (fault.toError .secret space name))

def createSecret (space name username token : String) :
    Http.Task (Except ClusterError Secret) := do
  let manifest := (newSecret space name username token).toJson
  match ← send SecretManifest.ofText (createRequest .secret space manifest) with
  | .ok m => pure (.ok (secretOf space name m))
  | .error fault => pure (.error (fault.toError .secret space name))

def getConfigMap (space name : String) : Http.Task (Except ClusterError ConfigMap) := do
  match ← send ConfigMapManifest.ofText (getRequest .configMap space name) with
  | .ok m => pure (.ok (configMapOf space name m))
  | .error fault => pure (.error (fault.toError .configMap space name))

def updateConfigMap (c : ConfigMap) : Http.Task (Except ClusterError ConfigMap) := do
  match ← send ConfigMapManifest.ofText (getRequest .configMap c.space c.name) with
  | .error fault => pure (.error (fault.toError .configMap c.space c.name))
  | .ok m =>
      let manifest := (revised m c).toJson
      match ← send ConfigMapManifest.ofText
          (replaceRequest .configMap c.space c.name manifest) with
      | .ok m => pure (.ok (configMapOf c.space c.name m))
      | .error fault => pure (.error (fault.toError .configMap c.space c.name))

def answer : (c : ClusterCall) → Http.Task c.Answer
  | .connect cluster => connect cluster
  | .getSecret space name => getSecret space name
  | .createSecret space name username token => createSecret space name username token
  | .getConfigMap space name => getConfigMap space name
  | .updateConfigMap c => updateConfigMap c

end CredRegistry.ApiServer
