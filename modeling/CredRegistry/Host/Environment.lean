import CredRegistry.Host.Files

/-!
# The surroundings of a program

The variables it was started with, the home directory of its user, and its files.
A variable holds bytes, which need not be a text.
-/

namespace CredRegistry

open CredRegistry.Text

/-- What a program can see. -/
structure Host where
  «variables» : List (String × List UInt8)
  files : FileSystem
  /-- The home directory of the account, for want of a variable that says so. -/
  accountHome : Option String

/-- Why a variable has no text. -/
inductive VariableFault where
  | unset
  | notText
deriving Repr, DecidableEq

namespace Host

def variableText (h : Host) (name : String) : Except VariableFault String :=
  match h.variables.lookup name with
  | none => .error .unset
  | some bs =>
      match fromUtf8 bs with
      | .ok s => .ok s
      | .error _ => .error .notText

def home? (h : Host) : Option String :=
  match h.variables.lookup "HOME" with
  | some (b :: bs) => some (lossy (b :: bs))
  | _ => h.accountHome

/-- A path with the home directory in place of a leading tilde that stands alone. -/
def expandHome (h : Host) (path : String) : String :=
  match path.toList, h.home? with
  | ['~'], some home => home
  | '~' :: '/' :: cs, some home => home ++ String.ofList ('/' :: cs)
  | _, _ => path

end Host

end CredRegistry
