import CredRegistry.Cluster.Basic
import CredRegistry.RepoList.Decode
import CredRegistry.RepoList.Encode
import CredRegistry.RepoList.Merge
import CredRegistry.Retry

/-!
# Reconciling the list in a config map

The config map is shared with other writers. Each attempt reads it anew, merges the
credential into the list and writes the map back under the version that was read. A
write that is refused because of its version is repeated from the read.

A host that already has an entry is left as it is stored: nothing is written.
-/

namespace CredRegistry.RepoList

/-- Why the list was not reconciled. -/
inductive ReconcileError where
  | malformed (space name : String) (error : Yaml.Error)
  | conflictExhausted (space name : String) (attempts : Nat)
  | cluster (error : ClusterError)
deriving Repr, DecidableEq

namespace ReconcileError

def message : ReconcileError → String
  | .malformed space name e =>
      s!"Malformed repository credentials in config map {space}/{name}: {e.message}"
  | .conflictExhausted space name attempts =>
      s!"Config map {space}/{name} kept changing underneath us, "
        ++ s!"gave up after {attempts} attempts"
  | .cluster e => e.message

def isRetryable : ReconcileError → Bool
  | .cluster e => e.isConflict
  | _ => false

end ReconcileError

/-- What reconciling came to. -/
structure Reconciled where
  attempts : Nat
  /-- False if the host already had an entry. -/
  written : Bool
deriving Repr, DecidableEq

/-- How often a write is attempted unless told otherwise. -/
def defaultPolicy : RetryPolicy := .fixed 3

def logTarget : String := "gitops_creds::gitops::reconciler"

def listText (c : ConfigMap) : String := (c.data.get? listKey).getD ""

/-- The list of a config map with a credential merged into it: the new text if there
is a new entry. -/
def mergedText (c : ConfigMap) (credential : Credential) (secret : String) :
    Except Yaml.Error (Option String) := do
  let entries ← decode (listText c)
  let (entries, outcome) := merge entries credential secret
  let text ← encode entries
  match outcome with
  | .existing _ => .ok none
  | .appended => .ok (some text)

/-- One attempt: says whether the map was written. -/
def mergeOnce (policy : RetryPolicy) (space name : String) (credential : Credential)
    (secret : String) (attempt : Nat) : ClusterTask (Except ReconcileError Bool) := do
  Log.note .debug logTarget <|
    s!"Reconciling {credential.host} into config map {space}/{name} "
      ++ s!"(attempt {attempt}/{policy.maxAttempts})"
  match ← ClusterTask.getConfigMap space name with
  | .error e => pure (.error (.cluster e))
  | .ok c =>
      match mergedText c credential secret with
      | .error e => pure (.error (.malformed space name e))
      | .ok none =>
          Log.note .debug logTarget
            s!"Config map {space}/{name} already has an entry for {credential.host}"
          pure (.ok false)
      | .ok (some text) =>
          match ← ClusterTask.updateConfigMap { c with data := c.data.insert listKey text } with
          | .error e => pure (.error (.cluster e))
          | .ok _ =>
              Log.note .info logTarget <|
                s!"Added repository credentials for {credential.host} "
                  ++ s!"to config map {space}/{name}"
              pure (.ok true)

/-- Bring a credential into the list of a config map. -/
def reconcile (policy : RetryPolicy) (space name : String) (credential : Credential)
    (secret : String) : ClusterTask (Except ReconcileError Reconciled) := do
  let outcome ← policy.run (mergeOnce policy space name credential secret)
    ReconcileError.isRetryable ReconcileError.message
  match outcome with
  | .ok s => pure (.ok ⟨s.attempts, s.value⟩)
  | .error (.exhausted attempts _) =>
      Log.note .error logTarget
        s!"Giving up on config map {space}/{name} after {attempts} conflicting attempts"
      pure (.error (.conflictExhausted space name attempts))
  | .error (.aborted _ e) => pure (.error e)

end CredRegistry.RepoList
