import CredRegistry.RepoList.Entry
import CredRegistry.Yaml.Writer

/-!
# Writing the repository-credentials list

An entry is written as a mapping: the fields this library manages first, as far
as they hold anything, then the extra fields in key order.
-/

namespace CredRegistry.RepoList

open CredRegistry.Yaml (Value)

def textField (name value : String) : List (Value × Value) :=
  if value.isEmpty then [] else [(.str name, .str value)]

def extraFields (extra : Dict Value) : List (Value × Value) :=
  extra.entries.map fun (k, v) => (.str k, v)

def SecretKeyRef.toValue (r : SecretKeyRef) : Value :=
  .map (textField "name" r.name ++ textField "key" r.key ++ extraFields r.extra)

def refField (name : String) : Option SecretKeyRef → List (Value × Value)
  | none => []
  | some r => [(.str name, r.toValue)]

def Entry.toValue (e : Entry) : Value :=
  .map (textField "url" e.url ++ refField "usernameSecret" e.usernameSecret
    ++ refField "passwordSecret" e.passwordSecret ++ extraFields e.extra)

def encode (entries : List Entry) : Except Yaml.Error String :=
  Yaml.write (.seq (entries.map Entry.toValue))

end CredRegistry.RepoList
