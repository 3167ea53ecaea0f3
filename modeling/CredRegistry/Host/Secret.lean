import CredRegistry.Cipher.TokenKey

/-!
# Where secrets come from

A secret can be given as a value, in a file, or in a variable. The first of these
that is given decides; what is given empty is not given.
-/

namespace CredRegistry.Host

open CredRegistry.Text

/-- The sources a secret can have. -/
structure SecretSources where
  direct : Option String
  file : Option String
  variableName : Option String
deriving Repr, DecidableEq

def given (source : Option String) : Option String := source.filter fun s => !s.isEmpty

/-- The secret of a file. Blanks around it are taken off. -/
def secretOfFile (h : Host) (path : String) : Except SecretError String :=
  let path := h.expandHome path
  match h.files.readText path with
  | .ok content => .ok (trim content)
  | .error e => .error (.unreadableFile path e)

/-- The secret of a variable. Blanks around it are taken off. -/
def secretOfVariable (h : Host) (name : String) : Except SecretError String :=
  match h.variableText name with
  | .ok value => .ok (trim value)
  | .error .unset => .error (.variableUnset name)
  | .error .notText => .error (.variableNotText name)

def resolveSecret (h : Host) (sources : SecretSources) : Except SecretError String :=
  match given sources.direct, given sources.file, given sources.variableName with
  | some value, _, _ => .ok value
  | none, some path, _ => h.secretOfFile path
  | none, none, some name => h.secretOfVariable name
  | none, none, none => .error .noSource

/-- The same, where it is no error that there is no source, or that the variable is
not set. -/
def resolveSecret? (h : Host) (sources : SecretSources) : Except SecretError (Option String) :=
  match h.resolveSecret sources with
  | .ok value => .ok (some value)
  | .error .noSource => .ok none
  | .error (.variableUnset _) => .ok none
  | .error e => .error e

end CredRegistry.Host
