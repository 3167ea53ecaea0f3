import CredRegistry.Cluster.Basic

/-!
# Providing the secret of the credentials

The secret that the entries of the list refer to is created once, from the first
credential that needs it. A secret that exists is never changed.
-/

namespace CredRegistry

/-- The name of an object that is known to exist. -/
structure SecretRef where
  space : String
  name : String
deriving Repr, DecidableEq

namespace ClusterTask

def provisionTarget : String := "gitops_creds::cluster::secret"

/-- Make sure that there is a secret: read it, and create it if it is missing. Any
other fault of the read is passed on. -/
def ensureSecret (space name username token : String) :
    ClusterTask (Except ClusterError SecretRef) := do
  match ← getSecret space name with
  | .ok s =>
      Log.note .debug provisionTarget s!"Secret {space}/{name} already exists"
      pure (.ok ⟨s.space, s.name⟩)
  | .error e =>
      if e.isNotFound then
        Log.note .info provisionTarget s!"Creating secret {space}/{name}"
        match ← createSecret space name username token with
        | .ok s => pure (.ok ⟨s.space, s.name⟩)
        | .error e =>
            Log.note .error provisionTarget
              s!"Failed to create secret {space}/{name}: {e.message}"
            pure (.error e)
      else
        Log.note .error provisionTarget s!"Failed to read secret {space}/{name}: {e.message}"
        pure (.error e)

end ClusterTask

end CredRegistry
