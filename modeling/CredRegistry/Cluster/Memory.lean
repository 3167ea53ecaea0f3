import CredRegistry.Cluster.Basic

/-!
# A cluster in memory

A cluster that keeps its objects itself. Every write of a config map takes a new
version from one counter, and an update with another version than the stored one
is refused. Calls are counted, and faults can be arranged: updates that are
refused, another writer that gets in first, a read of a secret that fails.

`Memory.answer` answers a call; what is stored can be looked at without a call.
-/

namespace CredRegistry

abbrev ObjectKey := String × String

abbrev Objects (α : Type) := List (ObjectKey × α)

namespace Objects

variable {α : Type}

def find? (os : Objects α) (k : ObjectKey) : Option α := os.lookup k

/-- Put an object in place of the one with its name. -/
def put (os : Objects α) (k : ObjectKey) (a : α) : Objects α :=
  (k, a) :: os.filter (·.1 ≠ k)

theorem find?_put (os : Objects α) (k k' : ObjectKey) (a : α) :
    (os.put k a).find? k' = if k' = k then some a else os.find? k' := by
  unfold put find?
  by_cases h : k' = k
  · subst h; simp
  · have hb : (k' == k) = false := by simpa using h
    rw [List.lookup_cons, hb, if_neg h]
    simp only []
    induction os with
    | nil => rfl
    | cons o os ih =>
        obtain ⟨j, b⟩ := o
        by_cases hj : j = k
        · subst hj
          simpa [List.lookup_cons, hb] using ih
        · by_cases hj' : k' = j
          · subst hj'; simp [hj]
          · have hb' : (k' == j) = false := by simpa using hj'
            simpa [hj, List.lookup_cons, hb'] using ih

end Objects

/-- How often each call has been made. -/
structure CallCounts where
  getSecret : Nat
  createSecret : Nat
  getConfigMap : Nat
  updateConfigMap : Nat
deriving Repr, DecidableEq

/-- Another writer: what it makes of the map it finds, in front of how many
updates. -/
structure Interloper where
  remaining : Nat
  write : ConfigMap → ConfigMap

/-- A cluster in memory. -/
structure Memory where
  /-- The name it can be reached under. -/
  name : String
  secrets : Objects Secret
  configMaps : Objects ConfigMap
  lastVersion : Nat
  /-- How many updates will be refused. -/
  conflicts : Nat
  interloper : Option Interloper
  /-- What the next read of a secret will fail with. -/
  secretFault : Option ClusterError
  counts : CallCounts

namespace Memory

def new (name : String) : Memory :=
  { name, secrets := [], configMaps := [], lastVersion := 0, conflicts := 0, interloper := none,
    secretFault := none, counts := ⟨0, 0, 0, 0⟩ }

def versionText (n : Nat) : String := toString n

/-! ## What is stored -/

def configMap? (m : Memory) (space name : String) : Option ConfigMap :=
  m.configMaps.find? (space, name)

def secret? (m : Memory) (space name : String) : Option Secret := m.secrets.find? (space, name)

def storeConfigMap (m : Memory) (c : ConfigMap) : ConfigMap × Memory :=
  let version := m.lastVersion + 1
  let c := { c with version := some (versionText version) }
  (c, { m with lastVersion := version, configMaps := m.configMaps.put (c.space, c.name) c })

def storeSecret (m : Memory) (s : Secret) : Memory :=
  { m with secrets := m.secrets.put (s.space, s.name) s }

/-! ## Faults -/

def refuseUpdates (m : Memory) (count : Nat) : Memory := { m with conflicts := count }

/-- Let another writer in before each of the next `count` updates. -/
def interleave (m : Memory) (count : Nat) (write : ConfigMap → ConfigMap) : Memory :=
  { m with interloper := some ⟨count, write⟩ }

def failSecretRead (m : Memory) (e : ClusterError) : Memory := { m with secretFault := some e }

/-! ## Calls -/

def getSecret (m : Memory) (space name : String) : Except ClusterError Secret × Memory :=
  let m := { m with counts := { m.counts with getSecret := m.counts.getSecret + 1 } }
  match m.secretFault with
  | some e => (.error e, { m with secretFault := none })
  | none =>
      match m.secret? space name with
      | some s => (.ok s, m)
      | none => (.error (.notFound .secret space name), m)

def createSecret (m : Memory) (space name username token : String) :
    Except ClusterError Secret × Memory :=
  let m := { m with counts := { m.counts with createSecret := m.counts.createSecret + 1 } }
  match m.secret? space name with
  | some _ => (.error (.api s!"secret {space}/{name} already exists"), m)
  | none =>
      let data := Dict.ofList [("username", username), ("password", token)]
      let s : Secret := { space, name, data }
      (.ok s, m.storeSecret s)

def getConfigMap (m : Memory) (space name : String) : Except ClusterError ConfigMap × Memory :=
  let m := { m with counts := { m.counts with getConfigMap := m.counts.getConfigMap + 1 } }
  match m.configMap? space name with
  | some c => (.ok c, m)
  | none => (.error (.notFound .configMap space name), m)

/-- Let the other writer at the map with a name, if there is one. A version is used
up even if there is no such map. -/
def letIn (m : Memory) (space name : String) : Memory :=
  match m.interloper with
  | none => m
  | some i =>
      let version := m.lastVersion + 1
      let configMaps := match m.configMap? space name with
        | some c =>
            m.configMaps.put (space, name) { i.write c with version := some (versionText version) }
        | none => m.configMaps
      let interloper := if 1 < i.remaining then some { i with remaining := i.remaining - 1 } else none
      { m with lastVersion := version, configMaps, interloper }

/-- Replace the map if the version is the stored one. -/
def replaceConfigMap (m : Memory) (c : ConfigMap) : Except ClusterError ConfigMap × Memory :=
  match m.configMap? c.space c.name with
  | none => (.error (.notFound .configMap c.space c.name), m)
  | some stored =>
      if stored.version ≠ c.version then (.error (.conflict .configMap c.space c.name), m)
      else
        let (c, m) := m.storeConfigMap c
        (.ok c, m)

/-- Answer a call to update a config map. A refusal that was arranged comes first,
then the other writer gets in, and then the version is looked at. -/
def updateConfigMap (m : Memory) (c : ConfigMap) : Except ClusterError ConfigMap × Memory :=
  let m := { m with counts := { m.counts with updateConfigMap := m.counts.updateConfigMap + 1 } }
  if 0 < m.conflicts then
    (.error (.conflict .configMap c.space c.name), { m with conflicts := m.conflicts - 1 })
  else (m.letIn c.space c.name).replaceConfigMap c

def connect (m : Memory) (cluster : String) : Except ClusterError Unit :=
  if cluster = m.name then .ok () else .error (.unknownCluster cluster)

def answer (m : Memory) : (c : ClusterCall) → c.Answer × Memory
  | .connect cluster => (m.connect cluster, m)
  | .getSecret space name => m.getSecret space name
  | .createSecret space name username token => m.createSecret space name username token
  | .getConfigMap space name => m.getConfigMap space name
  | .updateConfigMap c => m.updateConfigMap c

end Memory

end CredRegistry
