import CredRegistry.RepoList.Entry
import CredRegistry.Text.Blank
import CredRegistry.Yaml.Reading

/-!
# Reading the repository-credentials list

The list is a YAML sequence of mappings. A blank text and `null` are the empty
list. The fields this library manages may each stand once in an entry; of the
others the last one of a name counts.
-/

namespace CredRegistry.RepoList

open CredRegistry.Yaml

/-- The extra fields met so far, in reading order. -/
abbrev ExtraFields := List (String × Value)

/-- The extra fields as a dictionary. No mapping in them may hold a key twice. -/
def extraOf (fields : ExtraFields) : Except DataFault (Dict Value) :=
  match fields.findSome? fun f => f.2.duplicateKey? with
  | some key => .error (.duplicateKey key)
  | none => .ok (Dict.ofList fields)

def once {α : Type} (name : String) (current : Option α) (read : Reading α) :
    Reading (Option α) :=
  match current with
  | some _ => Reading.refuse (.unplaced (.duplicateField name))
  | none => some <$> read

/-- A reference that is being read. -/
structure RefDraft where
  name : Option String
  key : Option String
  extra : ExtraFields

def RefDraft.field (d : Document) (r : RefDraft) (name : String) (depth : Nat) (path : Path)
    (n : Node) : Reading RefDraft :=
  match name with
  | "name" => do
      let value ← once name r.name (d.text path "a string" n)
      pure { r with name := value }
  | "key" => do
      let value ← once name r.key (d.text path "a string" n)
      pure { r with key := value }
  | _ => do
      let value ← d.value depth path n
      pure { r with extra := r.extra ++ [(name, value)] }

def RefDraft.finish (r : RefDraft) : Except DataFault SecretKeyRef := do
  let extra ← extraOf r.extra
  .ok ⟨r.name.getD "", r.key.getD "", extra⟩

def readRef (d : Document) (depth : Nat) (path : Path) (n : Node) : Reading SecretKeyRef :=
  d.record depth path "struct SecretKeyRef" n ⟨none, none, []⟩ (RefDraft.field d) RefDraft.finish

/-- An entry that is being read. A reference that was written as absent counts as
read. -/
structure EntryDraft where
  url : Option String
  usernameSecret : Option (Option SecretKeyRef)
  passwordSecret : Option (Option SecretKeyRef)
  extra : ExtraFields

def EntryDraft.field (d : Document) (e : EntryDraft) (name : String) (depth : Nat) (path : Path)
    (n : Node) : Reading EntryDraft :=
  match name with
  | "url" => do
      let value ← once name e.url (d.text path "a string" n)
      pure { e with url := value }
  | "usernameSecret" => do
      let value ← once name e.usernameSecret (d.optional n (readRef d depth path))
      pure { e with usernameSecret := value }
  | "passwordSecret" => do
      let value ← once name e.passwordSecret (d.optional n (readRef d depth path))
      pure { e with passwordSecret := value }
  | _ => do
      let value ← d.value depth path n
      pure { e with extra := e.extra ++ [(name, value)] }

def EntryDraft.finish (e : EntryDraft) : Except DataFault Entry := do
  let extra ← extraOf e.extra
  .ok ⟨e.url.getD "", e.usernameSecret.join, e.passwordSecret.join, extra⟩

def readEntry (d : Document) (depth : Nat) (path : Path) (n : Node) : Reading Entry :=
  d.record depth path "struct RepositoryCredentialEntry" n ⟨none, none, none, []⟩
    (EntryDraft.field d) EntryDraft.finish

/-- Read the entries of a document; none are written as null. -/
def readEntries (d : Document) : Reading (List Entry) := do
  let entries ← d.optional d.root fun n =>
    d.items depthLimit .root "a sequence" n (readEntry d)
  pure (entries.getD [])

def decode (text : String) : Except Yaml.Error (List Entry) :=
  if Text.isBlankText text then .ok []
  else
    let d := Document.ofString text
    d.whole (readEntries d)

end CredRegistry.RepoList
