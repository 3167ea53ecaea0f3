import CredRegistry.Credential.Record

/-!
# GitOps configurations

A credential as callers hand it in and get it back. The user name and the token are
accepted and never written out again.

`ofSource` reads a configuration from JSON and `toJson` writes it.
-/

namespace CredRegistry

open CredRegistry.Text

/-- A credential at the boundary of the library. -/
structure GitOpsConfig where
  id : Option Int
  provider : Option Provider
  username : String
  token : String
  gitLabGroupId : String
  gitHubOrgId : String
  host : String
  active : Bool
deriving Repr, DecidableEq

namespace GitOpsConfig

/-- The configuration in which nothing is given. -/
def empty : GitOpsConfig := ⟨none, none, "", "", "", "", "", false⟩

/-- The id of the group or organisation that counts for a provider. -/
def orgOrGroupId (c : GitOpsConfig) : Provider → String
  | .gitlab => c.gitLabGroupId
  | .github => c.gitHubOrgId
  | .azureDevops => c.gitHubOrgId

def ofCredential (r : Credential) : GitOpsConfig :=
  { empty with
    id := some r.id
    provider := some r.provider
    gitLabGroupId := if r.provider = .gitlab then r.orgOrGroupId else ""
    gitHubOrgId := if r.provider = .gitlab then "" else r.orgOrGroupId
    host := r.host
    active := r.active }

/-- A configuration in a message. The token is not shown. -/
def summary (c : GitOpsConfig) : String :=
  recordText "GitOpsConfigDto"
    [("id", optionText toString c.id), ("provider", optionText Provider.label c.provider),
      ("username", quoted c.username), ("token", quoted redacted),
      ("git_lab_group_id", quoted c.gitLabGroupId), ("git_hub_org_id", quoted c.gitHubOrgId),
      ("host", quoted c.host), ("active", toString c.active)]

/-! ## JSON -/

def toJson (c : GitOpsConfig) : Json.Value :=
  let id := match c.id with
    | some n => [("id", .int n)]
    | none => []
  let provider := match c.provider with
    | some p => p.toJson
    | none => .null
  .object (id ++ [("provider", provider), ("gitLabGroupId", .str c.gitLabGroupId),
    ("gitHubOrgId", .str c.gitHubOrgId), ("host", .str c.host), ("active", .bool c.active)])

def fields {m : Type → Type} [Monad m] (source : Json.Source m) :
    List (Json.Field m GitOpsConfig) :=
  [ ⟨"id", fun c => do
      let id ← source.optional (source.integer (-0x8000000000000000) 0x7FFFFFFFFFFFFFFF "i64")
      pure { c with id }⟩,
    ⟨"provider", fun c => do
      let provider ← source.optional (Provider.ofSource source)
      pure { c with provider }⟩,
    ⟨"username", fun c => do
      let username ← source.string
      pure { c with username }⟩,
    ⟨"token", fun c => do
      let token ← source.string
      pure { c with token }⟩,
    ⟨"gitLabGroupId", fun c => do
      let gitLabGroupId ← source.string
      pure { c with gitLabGroupId }⟩,
    ⟨"gitHubOrgId", fun c => do
      let gitHubOrgId ← source.string
      pure { c with gitHubOrgId }⟩,
    ⟨"host", fun c => do
      let host ← source.string
      pure { c with host }⟩,
    ⟨"active", fun c => do
      let active ← source.boolean
      pure { c with active }⟩ ]

/-- Read a configuration from JSON. Every field of an object may be missing; an array
has to reach as far as the provider. -/
def ofSource {m : Type → Type} [Monad m] (source : Json.Source m) : m GitOpsConfig :=
  source.record "struct GitOpsConfigDto" (fields source) empty fun given c =>
    match given with
    | .items n =>
        if n < 2 then
          source.refuse (.invalidLength 1 "struct GitOpsConfigDto with 8 elements")
        else pure c
    | .fields _ => pure c

/-- The configuration that a JSON text holds. -/
def ofText (text : String) : Except Json.Error GitOpsConfig :=
  Json.read text (ofSource Json.textSource)

/-- The configuration that a JSON value holds. -/
def ofValue (v : Json.Value) : Except Json.Error GitOpsConfig :=
  Json.fromValue (ofSource Json.valueSource) v

end GitOpsConfig

end CredRegistry
