import CredRegistry.Dict
import CredRegistry.Yaml.Value

/-!
# Entries of the repository-credentials list

Which secrets hold the user name and the password for the repositories under a
URL. Other programs keep fields of their own in the entries and in the
references; those are the `extra` fields, which this library carries along
untouched.
-/

namespace CredRegistry.RepoList

open CredRegistry.Yaml (Value)

/-- The key of the config map under which the list is kept. -/
def listKey : String := "repository.credentials"

/-- The key of a secret that holds the user name. -/
def usernameKey : String := "username"

/-- The key of a secret that holds the password. -/
def passwordKey : String := "password"

/-- A reference to one key of a secret. -/
structure SecretKeyRef where
  name : String
  key : String
  extra : Dict Value
deriving Repr, DecidableEq, Inhabited

def SecretKeyRef.to (name key : String) : SecretKeyRef := ⟨name, key, ∅⟩

/-- An entry of the list. -/
structure Entry where
  url : String
  usernameSecret : Option SecretKeyRef
  passwordSecret : Option SecretKeyRef
  extra : Dict Value
deriving Repr, DecidableEq, Inhabited

/-! ## Sameness -/

/-- Do two sets of extra fields hold the same values at the same names? -/
def sameExtra (a b : Dict Value) : Bool :=
  go a.entries b.entries
where
  /-- The comparison entry by entry. -/
  go : List (String × Value) → List (String × Value) → Bool
    | [], [] => true
    | (k, v) :: as, (k', v') :: bs => k == k' && v.same v' && go as bs
    | _, _ => false

def SecretKeyRef.same (a b : SecretKeyRef) : Bool :=
  a.name == b.name && a.key == b.key && sameExtra a.extra b.extra

/-- Are two references that may be absent the same? -/
def sameRef : Option SecretKeyRef → Option SecretKeyRef → Bool
  | none, none => true
  | some a, some b => a.same b
  | _, _ => false

def Entry.same (a b : Entry) : Bool :=
  a.url == b.url && sameRef a.usernameSecret b.usernameSecret
    && sameRef a.passwordSecret b.passwordSecret && sameExtra a.extra b.extra

def sameEntries : List Entry → List Entry → Bool
  | [], [] => true
  | a :: as, b :: bs => a.same b && sameEntries as bs
  | _, _ => false

end CredRegistry.RepoList
