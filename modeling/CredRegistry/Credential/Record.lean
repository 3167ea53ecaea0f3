import CredRegistry.Credential.Provider
import CredRegistry.Credential.Timestamp
import CredRegistry.Text.Quoted

/-!
# Credential records

What is kept about a credential, with the trail of who touched it and when.
-/

namespace CredRegistry

open CredRegistry.Text

/-- Who touched a record, and when. -/
structure Audit where
  createdBy : Int
  createdOn : Timestamp
  updatedBy : Int
  updatedOn : Timestamp
deriving Repr, DecidableEq

namespace Audit

/-- The trail of a record that `user` creates at `now`. -/
def created (user : Int) (now : Timestamp) : Audit := ⟨user, now, user, now⟩

/-- The trail after an update by `user` at `now`. -/
def touch (a : Audit) (user : Int) (now : Timestamp) : Audit :=
  { a with updatedBy := user, updatedOn := now }

def summary (a : Audit) : String :=
  recordText "AuditLog"
    [("created_by", toString a.createdBy), ("created_on", a.createdOn.shortText),
      ("updated_by", toString a.updatedBy), ("updated_on", a.updatedOn.shortText)]

end Audit

def redacted : String := "[REDACTED]"

/-- A credential. A record that is not stored yet has the id zero. -/
structure Credential where
  id : Int
  provider : Provider
  username : String
  token : String
  orgOrGroupId : String
  host : String
  active : Bool
  audit : Audit
deriving Repr, DecidableEq

/-- A credential in a message. The token is not shown. -/
def Credential.summary (c : Credential) : String :=
  recordText "CredentialRecord"
    [("id", toString c.id), ("provider", c.provider.label), ("username", quoted c.username),
      ("token", s!"SecretBox<str>({redacted})"), ("org_or_group_id", quoted c.orgOrGroupId),
      ("host", quoted c.host), ("active", toString c.active), ("audit", c.audit.summary)]

end CredRegistry
