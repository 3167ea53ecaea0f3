import CredRegistry.Proofs.Cipher.TokenKey
import CredRegistry.Proofs.Credential.Timestamp
import CredRegistry.Store.Basic

/-!
# Rows are read as they were written

A store writes a credential as a row, `Store.written`, and the database keeps the cells of that
row. `ofRow_written` says who gets the credential back from it: every store if it was written
without a key, and otherwise each store with the key it was written with. A store without a key
is told that the row is unreadable (`ofRow_written_of_keyless`) and never sees the sealed token.

The parts of a row have round trips of their own: the provider's name, the sealed token
(`TokenKey.decrypt_encrypt`) and the two moments (`Timestamp.ofText_text`). An update writes all
columns but those of the creation, which `overwrite_written` turns into a credential again.
-/

namespace CredRegistry

open CredRegistry.Text CredRegistry.Cipher

/-! ## Parts of a row -/

theorem Provider.ofText?_name (p : Provider) : Provider.ofText? p.name = some p := by
  have hupper : asciiUpper? p.name = some p.name := by cases p <;> decide
  rw [Provider.ofText?, hupper]
  exact Provider.ofName?_name p

/-- A credential that fits into a row: the users are small and the moments are proper. -/
structure Credential.Proper (c : Credential) : Prop where
  createdBy : CellRow.IsSmall c.audit.createdBy
  createdOn : c.audit.createdOn.Proper
  updatedBy : CellRow.IsSmall c.audit.updatedBy
  updatedOn : c.audit.updatedOn.Proper

/-- A credential with the creation of another. -/
def Credential.withCreationOf (c old : Credential) : Credential :=
  { c with audit := { c.audit with
      createdBy := old.audit.createdBy, createdOn := old.audit.createdOn } }

namespace Store

/-! ## Whole rows -/

/-- The row that is written for a credential; the nonce is used if the store has a key. -/
def written (s : Store) (nonce : Nonce) (c : Credential) : Row :=
  match s.key with
  | none => rowOf c c.token false
  | some key => rowOf c (key.encrypt nonce c.token) true

theorem read_written (s : Store) (nonce : Nonce) {c : Credential} (h : c.Proper) :
    (CellRow.ofRow (s.written nonce c)).read c.id = .ok (s.written nonce c) := by
  obtain ⟨_ | key⟩ := s
  · exact CellRow.read_ofRow (r := rowOf c c.token false) h.createdBy h.updatedBy
  · exact CellRow.read_ofRow (r := rowOf c (key.encrypt nonce c.token) true) h.createdBy
      h.updatedBy

theorem ofRow_rowOf {s : Store} {c : Credential} {token : String} {sealed : Bool} (h : c.Proper)
    (htoken : s.tokenOf (rowOf c token sealed) = .ok c.token) :
    s.ofRow (rowOf c token sealed) = .ok c := by
  have hcreated : timestampOf c.id c.audit.createdOn.text = .ok c.audit.createdOn := by
    rw [timestampOf, Timestamp.ofText_text h.createdOn]
  have hupdated : timestampOf c.id c.audit.updatedOn.text = .ok c.audit.updatedOn := by
    rw [timestampOf, Timestamp.ofText_text h.updatedOn]
  rw [ofRow]
  simp only [htoken]
  simp only [rowOf, Provider.ofText?_name, hcreated, hupdated]
  rfl

/-- What was written without a key is read by every store, and what was written with one by
every store that has it. -/
theorem ofRow_written {s w : Store} (nonce : Nonce) {c : Credential} (h : c.Proper)
    (hkey : w.key = none ∨ s.key = w.key) : s.ofRow (w.written nonce c) = .ok c := by
  obtain ⟨_ | key⟩ := w
  · exact ofRow_rowOf h rfl
  · have hs : s.key = some key := hkey.resolve_left nofun
    refine ofRow_rowOf h ?_
    simp only [tokenOf, rowOf, if_true, hs, TokenKey.decrypt_encrypt]

theorem ofRow_written_of_keyless {s w : Store} (nonce : Nonce) (c : Credential)
    (hs : s.key = none) (hw : w.key ≠ none) :
    s.ofRow (w.written nonce c)
      = .error (.corrupt c.id "token is encrypted but no token key is configured") := by
  obtain ⟨_ | key⟩ := w
  · exact absurd rfl hw
  · rw [ofRow]
    simp only [written, rowOf, Provider.ofText?_name, tokenOf, if_true, hs]
    rfl

theorem overwrite_written (s w : Store) (nonce nonce' : Nonce) (c old : Credential) :
    (CellRow.ofRow (w.written nonce old)).overwrite (s.written nonce' c)
      = CellRow.ofRow (s.written nonce' (c.withCreationOf old)) := by
  obtain ⟨_ | _⟩ := s <;> obtain ⟨_ | _⟩ := w <;>
    simp only [written, CellRow.overwrite, CellRow.ofRow, rowOf, Credential.withCreationOf]

/-! ## Rows that somebody else has written -/

theorem id_of_read {cells : CellRow} {id : Int} {r : Row} (h : cells.read id = .ok r) :
    r.id = id := by
  simp only [CellRow.read, bind, Except.bind] at h
  repeat (split at h; · cases h)
  cases h
  rfl

theorem id_of_ofRow {s : Store} {r : Row} {c : Credential} (h : s.ofRow r = .ok c) :
    c.id = r.id := by
  simp only [ofRow, bind, Except.bind] at h
  split at h
  · cases h
  · repeat (split at h; · cases h)
    cases h
    rfl

/-- The cells of an overwritten row are read as they were written, and its creation as before. -/
theorem read_overwrite {cells : CellRow} {id : Int} {old r : Row} (h : cells.read id = .ok old)
    (hid : r.id = id) (hupdated : CellRow.IsSmall r.updatedBy) :
    (cells.overwrite r).read id
      = .ok { r with createdBy := old.createdBy, createdOn := old.createdOn } := by
  have hcreated : cells.createdBy.readSmall 8 "created_by" = .ok old.createdBy ∧
      cells.createdOn.readText 9 "created_on" = .ok old.createdOn := by
    simp only [CellRow.read, bind, Except.bind] at h
    repeat (split at h; · cases h)
    cases h
    exact ⟨by assumption, by assumption⟩
  subst hid
  simp only [CellRow.read, CellRow.overwrite, CellRow.ofRow, CellRow.readBool_ofBool,
    CellRow.readSmall_integer _ _ hupdated, hcreated]
  rfl

theorem timestampOf_ok {id id' : Int} {text : String} {t : Timestamp}
    (h : timestampOf id text = .ok t) : timestampOf id' text = .ok t := by
  unfold timestampOf at h ⊢
  cases htext : Timestamp.ofText text with
  | ok t' =>
      rw [htext] at h
      exact h
  | error fault =>
      rw [htext] at h
      cases h

/-- Where a credential could be read, what overwrites it can be read, with its creation. -/
theorem ofRow_overwritten {s : Store} {old : Row} {stored c : Credential}
    (h : s.ofRow old = .ok stored) (nonce : Nonce) (hupdated : c.audit.updatedOn.Proper) :
    s.ofRow { s.written nonce c with createdBy := old.createdBy, createdOn := old.createdOn }
      = .ok (c.withCreationOf stored) := by
  have hcreated : stored.audit.createdBy = old.createdBy ∧
      timestampOf old.id old.createdOn = .ok stored.audit.createdOn := by
    simp only [ofRow, bind, Except.bind] at h
    split at h
    · cases h
    · repeat (split at h; · cases h)
      cases h
      exact ⟨rfl, by assumption⟩
  obtain ⟨hby, hon⟩ := hcreated
  have hon' : timestampOf c.id old.createdOn = .ok stored.audit.createdOn := timestampOf_ok hon
  have hupdatedOn : timestampOf c.id c.audit.updatedOn.text = .ok c.audit.updatedOn := by
    rw [timestampOf, Timestamp.ofText_text hupdated]
  have htoken : s.tokenOf { s.written nonce c with
      createdBy := old.createdBy, createdOn := old.createdOn } = .ok c.token := by
    obtain ⟨_ | key⟩ := s
    · rfl
    · simp only [tokenOf, written, rowOf, if_true, TokenKey.decrypt_encrypt]
  rw [ofRow]
  simp only [htoken]
  obtain ⟨_ | key⟩ := s <;>
    simp only [written, rowOf, Provider.ofText?_name, hon', hupdatedOn, ← hby] <;> rfl

end Store

end CredRegistry
