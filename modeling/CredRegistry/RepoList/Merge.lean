import CredRegistry.Credential.Record
import CredRegistry.RepoList.Entry

/-!
# Merging a credential into the list

The list is keyed by URL. The first entry with the host of a credential is pointed
at the secret that was provided; a host without an entry gets a new one at the end,
whose references are named by the raw user name and token of the credential, as the
readers of the list expect.
-/

namespace CredRegistry.RepoList

/-- Point a reference at a key of a secret; what else it holds stays. -/
def repoint (ref : Option SecretKeyRef) (name key : String) : Option SecretKeyRef :=
  match ref with
  | some r => some { r with name, key }
  | none => some (.to name key)

/-- Point both references of an entry at a secret. -/
def Entry.repoint (e : Entry) (secret : String) : Entry :=
  { e with
    usernameSecret := RepoList.repoint e.usernameSecret secret usernameKey
    passwordSecret := RepoList.repoint e.passwordSecret secret passwordKey }

def Entry.ofCredential (c : Credential) : Entry :=
  { url := c.host
    usernameSecret := some (.to c.username usernameKey)
    passwordSecret := some (.to c.token passwordKey)
    extra := ∅ }

/-- What became of the list. -/
inductive MergeOutcome where
  | existing (index : Nat)
  | appended
deriving Repr, DecidableEq

def indexOf? (url : String) (entries : List Entry) : Option Nat :=
  entries.findIdx? (·.url == url)

def merge (entries : List Entry) (c : Credential) (secret : String) :
    List Entry × MergeOutcome :=
  match indexOf? c.host entries with
  | some i => (entries.modify i (·.repoint secret), .existing i)
  | none => (entries ++ [.ofCredential c], .appended)

end CredRegistry.RepoList
