import CredRegistry.Cipher.TokenKey
import CredRegistry.Credential.Record
import CredRegistry.Database.Basic
import CredRegistry.Dialogue

/-!
# The store of credentials

Credentials in the rows of a database. With a key, tokens are sealed before they are
written; without one they are written as they are. A row says whether its token is
sealed, so a store can read what was written without a key by any other.
-/

namespace CredRegistry

open CredRegistry.Cipher

/-- Why the store fails. -/
inductive StoreError where
  | database (error : DatabaseError)
  | secret (error : SecretError)
  /-- The row with an id makes no sense. -/
  | corrupt (id : Int) (reason : String)
deriving Repr, DecidableEq

def StoreError.message : StoreError → String
  | .database e => s!"Database error: {e.message}"
  | .secret e => s!"Token encryption error: {e.message}"
  | .corrupt id reason => s!"Stored record {id} is unreadable: {reason}"

/-- What the store asks for: a nonce, or something of the database. -/
inductive StoreCall where
  | nonce
  | database (c : DatabaseCall)
deriving Repr

abbrev StoreCall.Answer : StoreCall → Type
  | .nonce => Nonce
  | .database c => c.Answer

abbrev StoreTask := Dialogue StoreCall StoreCall.Answer

/-- A way to look at the database: with a key or without. -/
structure Store where
  key : Option TokenKey
deriving Repr, DecidableEq

namespace Store

def logTarget : String := "gitops_creds::store"

def seals (s : Store) : Bool := s.key.isSome

/-! ## Rows -/

/-- The row of a credential whose token is written as `token`. -/
def rowOf (c : Credential) (token : String) (tokenEncrypted : Bool) : Row :=
  { id := c.id
    provider := c.provider.name
    username := c.username
    token
    tokenEncrypted
    orgOrGroupId := c.orgOrGroupId
    host := c.host
    active := c.active
    createdBy := c.audit.createdBy
    createdOn := c.audit.createdOn.text
    updatedBy := c.audit.updatedBy
    updatedOn := c.audit.updatedOn.text }

def toRow (s : Store) (c : Credential) : StoreTask Row :=
  match s.key with
  | none => pure (rowOf c c.token false)
  | some key => do
      let nonce ← Dialogue.call StoreCall.nonce
      pure (rowOf c (key.encrypt nonce c.token) true)

/-- The moment in a column of the row with an id. -/
def timestampOf (id : Int) (text : String) : Except StoreError Timestamp :=
  match Timestamp.ofText text with
  | .ok t => .ok t
  | .error fault => .error (.corrupt id s!"invalid timestamp '{text}': {fault.message}")

def tokenOf (s : Store) (r : Row) : Except StoreError String :=
  if r.tokenEncrypted then
    match s.key with
    | none => .error (.corrupt r.id "token is encrypted but no token key is configured")
    | some key =>
        match key.decrypt r.token with
        | .ok token => .ok token
        | .error e => .error (.secret e)
  else .ok r.token

def ofRow (s : Store) (r : Row) : Except StoreError Credential := do
  match Provider.ofText? r.provider with
  | none => .error (.corrupt r.id (Provider.unknownMessage r.provider))
  | some provider =>
      let token ← s.tokenOf r
      let createdOn ← timestampOf r.id r.createdOn
      let updatedOn ← timestampOf r.id r.updatedOn
      .ok { id := r.id, provider, username := r.username, token
            orgOrGroupId := r.orgOrGroupId, host := r.host, active := r.active
            audit := ⟨r.createdBy, createdOn, r.updatedBy, updatedOn⟩ }

/-- The credential of a row that may be missing. -/
def ofRow? (s : Store) : Option Row → Except StoreError (Option Credential)
  | none => .ok none
  | some r => some <$> s.ofRow r

/-! ## Operations -/

/-- Store a new credential; it comes back with its id. -/
def create (s : Store) (c : Credential) : StoreTask (Except StoreError Credential) := do
  let row ← s.toRow c
  match ← Dialogue.call (StoreCall.database (.insert row)) with
  | .error e => pure (.error (.database e))
  | .ok id =>
      Log.note .debug logTarget s!"Stored {c.provider.name} credential {id} for {c.host}"
      pure (.ok { c with id })

/-- Overwrite the credential with the same id. -/
def update (s : Store) (c : Credential) : StoreTask (Except StoreError Unit) := do
  let row ← s.toRow c
  match ← Dialogue.call (StoreCall.database (.update row)) with
  | .error e => pure (.error (.database e))
  | .ok count =>
      if count == 0 then
        Log.note .warn logTarget s!"Update of credential {c.id} matched no rows"
      pure (.ok ())

def getById (s : Store) (id : Int) : StoreTask (Except StoreError (Option Credential)) := do
  match ← Dialogue.call (StoreCall.database (.findById id)) with
  | .error e => pure (.error (.database e))
  | .ok row => pure (s.ofRow? row)

/-- All credentials in the order of their ids. -/
def getAll (s : Store) : StoreTask (Except StoreError (List Credential)) := do
  match ← Dialogue.call (StoreCall.database .findAll) with
  | .error e => pure (.error (.database e))
  | .ok rows => pure (rows.mapM s.ofRow)

/-- The credential of a provider with the lowest id. -/
def getByProvider (s : Store) (p : Provider) :
    StoreTask (Except StoreError (Option Credential)) := do
  match ← Dialogue.call (StoreCall.database (.findByProvider p.name)) with
  | .error e => pure (.error (.database e))
  | .ok row => pure (s.ofRow? row)

end Store

end CredRegistry
