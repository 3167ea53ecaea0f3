import CredRegistry.Json.Source
import CredRegistry.Text.UpperCase

/-!
# Providers of git hosting

A provider has one name. The name is read in any case, from JSON only as it is.
-/

namespace CredRegistry

open CredRegistry.Text

/-- Who hosts the repositories. -/
inductive Provider where
  | github
  | gitlab
  | azureDevops
deriving Repr, DecidableEq

namespace Provider

def all : List Provider := [.github, .gitlab, .azureDevops]

def name : Provider → String
  | .github => "GITHUB"
  | .gitlab => "GITLAB"
  | .azureDevops => "AZURE_DEVOPS"

def label : Provider → String
  | .github => "Github"
  | .gitlab => "Gitlab"
  | .azureDevops => "AzureDevops"

def ofName? (s : String) : Option Provider := all.find? (·.name == s)

def ofText? (s : String) : Option Provider := (asciiUpper? s).bind ofName?

def unknownMessage (s : String) : String := s!"Unknown git provider: {s}"

def toJson (p : Provider) : Json.Value := .str p.name

def ofSource {m : Type → Type} [Monad m] (source : Json.Source m) : m Provider := do
  let s ← source.variant (all.map name)
  match ofName? s with
  | some p => pure p
  | none => source.refuse (.unknownVariant s (all.map name))

theorem ofName?_name (p : Provider) : ofName? p.name = some p := by cases p <;> decide

end Provider

end CredRegistry
