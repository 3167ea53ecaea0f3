import CredRegistry.Dialogue
import CredRegistry.Dict
import CredRegistry.Text.Quoted

/-!
# Talking to a cluster

The objects of a cluster that this library reads and writes, the calls it makes,
and how they fail. Work against a cluster is a `ClusterTask`; it does not depend on
which cluster answers.
-/

namespace CredRegistry

open CredRegistry.Text

/-- The kinds of objects in use. -/
inductive ObjectKind where
  | secret
  | configMap
deriving Repr, DecidableEq

def ObjectKind.name : ObjectKind → String
  | .secret => "Secret"
  | .configMap => "ConfigMap"

/-- Why a call failed. -/
inductive ClusterError where
  | notFound (kind : ObjectKind) (space name : String)
  /-- The write carried a version that is no longer the stored one. -/
  | conflict (kind : ObjectKind) (space name : String)
  | unknownCluster (name : String)
  | api (text : String)
deriving Repr, DecidableEq

namespace ClusterError

def message : ClusterError → String
  | .notFound kind space name => s!"{kind.name} {space}/{name} not found"
  | .conflict kind space name =>
      s!"{kind.name} {space}/{name} was modified concurrently (stale resource version)"
  | .unknownCluster name => s!"Unknown cluster: {name}"
  | .api text => s!"Cluster API request failed: {text}"

def isNotFound : ClusterError → Bool
  | .notFound .. => true
  | _ => false

/-- Was the write refused because of its version? -/
def isConflict : ClusterError → Bool
  | .conflict .. => true
  | _ => false

end ClusterError

/-- A config map. An update has to carry the version that is stored. -/
structure ConfigMap where
  space : String
  name : String
  version : Option String
  data : Dict String
deriving Repr, DecidableEq, Inhabited

/-- A secret. -/
structure Secret where
  space : String
  name : String
  data : Dict String
deriving Repr, DecidableEq, Inhabited

/-- A secret in a message: its keys are shown, what they hold is not. -/
def Secret.summary (s : Secret) : String :=
  let keys := ", ".intercalate (s.data.keys.map quoted)
  recordText "Secret"
    [("namespace", quoted s.space), ("name", quoted s.name), ("keys", s!"[{keys}]")]

/-! ## Calls -/

/-- The calls that are made to a cluster. -/
inductive ClusterCall where
  | connect (cluster : String)
  | getSecret (space name : String)
  | createSecret (space name username token : String)
  | getConfigMap (space name : String)
  | updateConfigMap (configMap : ConfigMap)
deriving Repr

abbrev ClusterCall.Answer : ClusterCall → Type
  | .connect _ => Except ClusterError Unit
  | .getSecret .. => Except ClusterError Secret
  | .createSecret .. => Except ClusterError Secret
  | .getConfigMap .. => Except ClusterError ConfigMap
  | .updateConfigMap _ => Except ClusterError ConfigMap

abbrev ClusterTask := Dialogue ClusterCall ClusterCall.Answer

namespace ClusterTask

def connect (cluster : String) : ClusterTask (Except ClusterError Unit) :=
  Dialogue.call (ClusterCall.connect cluster)

def getSecret (space name : String) : ClusterTask (Except ClusterError Secret) :=
  Dialogue.call (ClusterCall.getSecret space name)

/-- Create a secret that holds a user name and a token. -/
def createSecret (space name username token : String) :
    ClusterTask (Except ClusterError Secret) :=
  Dialogue.call (ClusterCall.createSecret space name username token)

def getConfigMap (space name : String) : ClusterTask (Except ClusterError ConfigMap) :=
  Dialogue.call (ClusterCall.getConfigMap space name)

/-- Replace a config map, provided that its version is still the stored one. -/
def updateConfigMap (configMap : ConfigMap) : ClusterTask (Except ClusterError ConfigMap) :=
  Dialogue.call (ClusterCall.updateConfigMap configMap)

end ClusterTask

end CredRegistry
