import CredRegistry.Cluster.Basic
import CredRegistry.Cluster.Moment
import CredRegistry.Json.Source
import CredRegistry.Text.Base64

/-!
# Manifests

Secrets and config maps as a cluster keeps them, with everything that is known of
them, and their JSON. What a manifest says more than that is passed over when it is
read. A field that is null is a field that is not there.
-/

namespace CredRegistry.Manifest

open CredRegistry.Text CredRegistry.Json CredRegistry.Json.TextSource

/-! ## Fields -/

def text : Reader String := textSource.string

def integer : Reader Int := textSource.integer (-0x8000000000000000) 0x7FFFFFFFFFFFFFFF "i64"

def moment : Reader Timestamp := do
  let s ← text
  match Timestamp.ofLooseText? s with
  | some t => pure t
  | none => textSource.refuse (.invalidValue (.str s) "RFC 3339 timestamp")

def bytes : Reader (List UInt8) := do
  match ← textSource.optional text with
  | none => pure []
  | some s =>
      match Base64.decode s with
      | some bs => pure bs
      | none => textSource.refuse (.invalidValue (.str s) "a base64-encoded string")

/-- A string that has to be the one expected. -/
def exactly {σ : Type} (expected : String) (s : σ) : Reader σ := do
  let given ← text
  if given = expected then pure s
  else textSource.refuse (.invalidValue (.str given) expected)

/-- A field of a JSON object, if it is there. -/
def optionalField {α : Type} (name : String) (toJson : α → Value) :
    Option α → List (String × Value)
  | some a => [(name, toJson a)]
  | none => []

def dictJson {α : Type} (toJson : α → Value) (d : Dict α) : Value :=
  .object (d.entries.map fun (k, a) => (k, toJson a))

def bytesJson (bs : List UInt8) : Value := .str (Base64.encode bs)

def momentJson (t : Timestamp) : Value := .str t.wholeText

/-! ## Metadata -/

/-- The object that an object belongs to. -/
structure Owner where
  apiVersion : String := ""
  blockDeletion : Option Bool := none
  controller : Option Bool := none
  kind : String := ""
  name : String := ""
  uid : String := ""
deriving Repr, DecidableEq

namespace Owner

def take : String → Option (Owner → Reader Owner)
  | "apiVersion" => some fun o => do
      let apiVersion ← textSource.optional text
      pure { o with apiVersion := apiVersion.getD "" }
  | "blockOwnerDeletion" => some fun o => do
      let blockDeletion ← textSource.optional textSource.boolean
      pure { o with blockDeletion }
  | "controller" => some fun o => do
      let controller ← textSource.optional textSource.boolean
      pure { o with controller }
  | "kind" => some fun o => do
      let kind ← textSource.optional text
      pure { o with kind := kind.getD "" }
  | "name" => some fun o => do
      let name ← textSource.optional text
      pure { o with name := name.getD "" }
  | "uid" => some fun o => do
      let uid ← textSource.optional text
      pure { o with uid := uid.getD "" }
  | _ => none

def read : Reader Owner := object "OwnerReference" take {}

def toJson (o : Owner) : Value :=
  .object ([("apiVersion", .str o.apiVersion)]
    ++ optionalField "blockOwnerDeletion" .bool o.blockDeletion
    ++ optionalField "controller" .bool o.controller
    ++ [("kind", .str o.kind), ("name", .str o.name), ("uid", .str o.uid)])

end Owner

/-- Which fields of an object somebody manages. -/
structure ManagedFields where
  apiVersion : Option String := none
  fieldsType : Option String := none
  fields : Option Value := none
  manager : Option String := none
  operation : Option String := none
  subresource : Option String := none
  time : Option Timestamp := none
deriving Repr, DecidableEq

namespace ManagedFields

/-- How deep the fields may be nested, where they stand in a manifest. -/
def fieldsDepth : Nat := Reader.depthLimit - 4

def take : String → Option (ManagedFields → Reader ManagedFields)
  | "apiVersion" => some fun f => do
      let apiVersion ← textSource.optional text
      pure { f with apiVersion }
  | "fieldsType" => some fun f => do
      let fieldsType ← textSource.optional text
      pure { f with fieldsType }
  | "fieldsV1" => some fun f => do
      let fields ← textSource.optional (Reader.value fieldsDepth)
      pure { f with fields }
  | "manager" => some fun f => do
      let manager ← textSource.optional text
      pure { f with manager }
  | "operation" => some fun f => do
      let operation ← textSource.optional text
      pure { f with operation }
  | "subresource" => some fun f => do
      let subresource ← textSource.optional text
      pure { f with subresource }
  | "time" => some fun f => do
      let time ← textSource.optional moment
      pure { f with time }
  | _ => none

def read : Reader ManagedFields := object "ManagedFieldsEntry" take {}

def toJson (f : ManagedFields) : Value :=
  .object (optionalField "apiVersion" .str f.apiVersion
    ++ optionalField "fieldsType" .str f.fieldsType
    ++ optionalField "fieldsV1" id f.fields
    ++ optionalField "manager" .str f.manager
    ++ optionalField "operation" .str f.operation
    ++ optionalField "subresource" .str f.subresource
    ++ optionalField "time" momentJson f.time)

end ManagedFields

/-- What is known of any object. -/
structure Metadata where
  annotations : Option (Dict String) := none
  created : Option Timestamp := none
  deletionGrace : Option Int := none
  deleted : Option Timestamp := none
  finalizers : Option (List String) := none
  generateName : Option String := none
  generation : Option Int := none
  labels : Option (Dict String) := none
  managed : Option (List ManagedFields) := none
  name : Option String := none
  space : Option String := none
  owners : Option (List Owner) := none
  version : Option String := none
  selfLink : Option String := none
  uid : Option String := none
deriving Repr, DecidableEq

namespace Metadata

def take : String → Option (Metadata → Reader Metadata)
  | "annotations" => some fun m => do
      let annotations ← textSource.optional (dict text)
      pure { m with annotations }
  | "creationTimestamp" => some fun m => do
      let created ← textSource.optional moment
      pure { m with created }
  | "deletionGracePeriodSeconds" => some fun m => do
      let deletionGrace ← textSource.optional integer
      pure { m with deletionGrace }
  | "deletionTimestamp" => some fun m => do
      let deleted ← textSource.optional moment
      pure { m with deleted }
  | "finalizers" => some fun m => do
      let finalizers ← textSource.optional (list text)
      pure { m with finalizers }
  | "generateName" => some fun m => do
      let generateName ← textSource.optional text
      pure { m with generateName }
  | "generation" => some fun m => do
      let generation ← textSource.optional integer
      pure { m with generation }
  | "labels" => some fun m => do
      let labels ← textSource.optional (dict text)
      pure { m with labels }
  | "managedFields" => some fun m => do
      let managed ← textSource.optional (list ManagedFields.read)
      pure { m with managed }
  | "name" => some fun m => do
      let name ← textSource.optional text
      pure { m with name }
  | "namespace" => some fun m => do
      let space ← textSource.optional text
      pure { m with space }
  | "ownerReferences" => some fun m => do
      let owners ← textSource.optional (list Owner.read)
      pure { m with owners }
  | "resourceVersion" => some fun m => do
      let version ← textSource.optional text
      pure { m with version }
  | "selfLink" => some fun m => do
      let selfLink ← textSource.optional text
      pure { m with selfLink }
  | "uid" => some fun m => do
      let uid ← textSource.optional text
      pure { m with uid }
  | _ => none

def read : Reader Metadata := object "ObjectMeta" take {}

def toJson (m : Metadata) : Value :=
  .object (optionalField "annotations" (dictJson .str) m.annotations
    ++ optionalField "creationTimestamp" momentJson m.created
    ++ optionalField "deletionGracePeriodSeconds" .int m.deletionGrace
    ++ optionalField "deletionTimestamp" momentJson m.deleted
    ++ optionalField "finalizers" (fun fs => .array (fs.map .str)) m.finalizers
    ++ optionalField "generateName" .str m.generateName
    ++ optionalField "generation" .int m.generation
    ++ optionalField "labels" (dictJson .str) m.labels
    ++ optionalField "managedFields" (fun fs => .array (fs.map ManagedFields.toJson)) m.managed
    ++ optionalField "name" .str m.name
    ++ optionalField "namespace" .str m.space
    ++ optionalField "ownerReferences" (fun os => .array (os.map Owner.toJson)) m.owners
    ++ optionalField "resourceVersion" .str m.version
    ++ optionalField "selfLink" .str m.selfLink
    ++ optionalField "uid" .str m.uid)

end Metadata

/-- The version of the API that the objects belong to. -/
def apiVersion : String := "v1"

/-- The fields that say what a manifest is of. -/
def header (kind : ObjectKind) : List (String × Value) :=
  [("apiVersion", .str apiVersion), ("kind", .str kind.name)]

/-! ## Config maps -/

/-- The manifest of a config map. -/
structure ConfigMapManifest where
  binaryData : Option (Dict (List UInt8)) := none
  data : Option (Dict String) := none
  immutable : Option Bool := none
  metadata : Metadata := {}
deriving Repr, DecidableEq

namespace ConfigMapManifest

def take : String → Option (ConfigMapManifest → Reader ConfigMapManifest)
  | "apiVersion" => some (exactly apiVersion)
  | "kind" => some (exactly ObjectKind.configMap.name)
  | "binaryData" => some fun c => do
      let binaryData ← textSource.optional (dict bytes)
      pure { c with binaryData }
  | "data" => some fun c => do
      let data ← textSource.optional (dict text)
      pure { c with data }
  | "immutable" => some fun c => do
      let immutable ← textSource.optional textSource.boolean
      pure { c with immutable }
  | "metadata" => some fun c => do
      let metadata ← textSource.optional Metadata.read
      pure { c with metadata := metadata.getD {} }
  | _ => none

def ofText (s : String) : Except Json.Error ConfigMapManifest :=
  Json.read s (object "ConfigMap" take {})

def toJson (c : ConfigMapManifest) : Value :=
  .object (header .configMap
    ++ optionalField "binaryData" (dictJson bytesJson) c.binaryData
    ++ optionalField "data" (dictJson .str) c.data
    ++ optionalField "immutable" .bool c.immutable
    ++ [("metadata", c.metadata.toJson)])

end ConfigMapManifest

/-! ## Secrets -/

/-- The manifest of a secret. -/
structure SecretManifest where
  data : Option (Dict (List UInt8)) := none
  immutable : Option Bool := none
  metadata : Metadata := {}
  stringData : Option (Dict String) := none
  type : Option String := none
deriving Repr, DecidableEq

namespace SecretManifest

def take : String → Option (SecretManifest → Reader SecretManifest)
  | "apiVersion" => some (exactly apiVersion)
  | "kind" => some (exactly ObjectKind.secret.name)
  | "data" => some fun s => do
      let data ← textSource.optional (dict bytes)
      pure { s with data }
  | "immutable" => some fun s => do
      let immutable ← textSource.optional textSource.boolean
      pure { s with immutable }
  | "metadata" => some fun s => do
      let metadata ← textSource.optional Metadata.read
      pure { s with metadata := metadata.getD {} }
  | "stringData" => some fun s => do
      let stringData ← textSource.optional (dict text)
      pure { s with stringData }
  | "type" => some fun s => do
      let type ← textSource.optional text
      pure { s with type }
  | _ => none

def ofText (s : String) : Except Json.Error SecretManifest :=
  Json.read s (object "Secret" take {})

def toJson (s : SecretManifest) : Value :=
  .object (header .secret
    ++ optionalField "data" (dictJson bytesJson) s.data
    ++ optionalField "immutable" .bool s.immutable
    ++ [("metadata", s.metadata.toJson)]
    ++ optionalField "stringData" (dictJson .str) s.stringData
    ++ optionalField "type" .str s.type)

end SecretManifest

end CredRegistry.Manifest
