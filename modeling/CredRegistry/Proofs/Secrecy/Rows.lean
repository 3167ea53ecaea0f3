import CredRegistry.Proofs.Secrecy.Coupled
import CredRegistry.Proofs.Store.Listing

/-!
# What a token does to its row

Two databases are alike if they differ in nothing but tokens and moments: the rows have the same
ids, the other columns hold the same, and a token or a moment that differs is one that can be
read (`CellRow.Alike`). So whatever a store asks of two such databases fails on both, with the
same error, or on neither.

A store that writes two credentials which differ in their tokens and moments keeps the databases
alike (`coupled_create`, `coupled_update`), and what it reads from them differs in tokens and
moments again (`coupled_getById`, `coupled_getAll`, `coupled_getByProvider`). Which nonces the
tokens were sealed with does not matter.
-/

namespace CredRegistry

open CredRegistry.Cipher

/-! ## Columns -/

/-- A text that is read as a moment. -/
def Dated (text : String) : Prop := ∃ t, Timestamp.ofText text = .ok t

/-- A text that a store can open where it finds a token of its own making. -/
def Store.Opens (s : Store) (text : String) : Prop :=
  ∀ key, s.key = some key → ∃ token, key.decrypt text = .ok token

/-- Two cells hold texts, both with a property. -/
def AreTexts (P : String → Prop) (c c' : Cell) : Prop :=
  ∃ t t', c = .text t ∧ c' = .text t' ∧ P t ∧ P t'

theorem readText_alike {P : String → Prop} {c c' : Cell} (h : c = c' ∨ AreTexts P c c')
    (index : Nat) (column : String) : Both (fun t t' => t = t' ∨ P t ∧ P t')
      (c.readText index column) (c'.readText index column) := by
  rcases h with rfl | ⟨t, t', rfl, rfl, ht⟩
  · exact .refl (fun _ => .inl rfl) _
  · exact .ok (.inr ht)

/-! ## Rows -/

/-- Two stored rows that differ in the token and in the moments alone, and there in nothing that
could keep one of them from being read. -/
structure CellRow.Alike (s : Store) (c c' : CellRow) : Prop where
  rest : c' = { c with token := c'.token, createdOn := c'.createdOn, updatedOn := c'.updatedOn }
  token : c.token = c'.token ∨
    c.tokenEncrypted = .ofBool s.seals ∧ AreTexts s.Opens c.token c'.token
  createdOn : c.createdOn = c'.createdOn ∨ AreTexts Dated c.createdOn c'.createdOn
  updatedOn : c.updatedOn = c'.updatedOn ∨ AreTexts Dated c.updatedOn c'.updatedOn

/-- Two rows that an update can put over rows which are alike; it leaves the creation as it
is. -/
structure Row.Akin (s : Store) (r r' : Row) : Prop where
  rest : r' = { r with token := r'.token, createdOn := r'.createdOn, updatedOn := r'.updatedOn }
  token : r.token = r'.token ∨ r.tokenEncrypted = s.seals ∧ s.Opens r.token ∧ s.Opens r'.token
  updatedOn : r.updatedOn = r'.updatedOn ∨ Dated r.updatedOn ∧ Dated r'.updatedOn

/-- Two rows that differ like `CellRow.Alike`. -/
structure Row.Alike (s : Store) (r r' : Row) : Prop extends Row.Akin s r r' where
  createdOn : r.createdOn = r'.createdOn ∨ Dated r.createdOn ∧ Dated r'.createdOn

/-- Two credentials that differ in their tokens and moments alone. -/
def Credential.Alike (c c' : Credential) : Prop :=
  ∃ token createdOn updatedOn, c' = { c with
    token, audit := { c.audit with createdOn, updatedOn } }

namespace CellRow

variable {s : Store} {c c' : CellRow}

theorem Alike.refl (s : Store) (c : CellRow) : c.Alike s c := ⟨rfl, .inl rfl, .inl rfl, .inl rfl⟩

theorem Alike.read (h : c.Alike s c') (id : Int) : Both (Row.Alike s) (c.read id) (c'.read id) := by
  obtain ⟨hrest, htoken, hcreatedOn, hupdatedOn⟩ := h
  obtain ⟨provider, username, token, sealed, group, host, active, createdBy, createdOn, updatedBy,
    updatedOn⟩ := c
  obtain ⟨_, _, token', _, _, _, _, _, createdOn', _, updatedOn'⟩ := c'
  cases hrest
  -- Two tokens that differ are of this store's own making, which the next column says.
  have htoken' : Both (fun t t' => t = t' ∨ sealed = .ofBool s.seals ∧ s.Opens t ∧ s.Opens t')
      (token.readText 3 "token") (token'.readText 3 "token") := by
    rcases htoken with hsame | ⟨hsealed, htexts⟩
    · exact (readText_alike (P := fun _ => False) (.inl hsame) _ _).mono
        fun t t' ht => ht.imp_right fun h => h.1.elim
    · exact (readText_alike (.inr htexts) _ _).mono
        fun t t' ht => ht.imp_right fun h => ⟨hsealed, h⟩
  unfold CellRow.read
  refine .step fun _ _ => .step fun _ _ => htoken'.bind fun t t' ht => .step fun flag hflag => ?_
  refine .step fun _ _ => .step fun _ _ => .step fun _ _ => .step fun _ _ => ?_
  refine (readText_alike hcreatedOn _ _).bind fun created created' hcreated => ?_
  refine .step fun _ _ => (readText_alike hupdatedOn _ _).bind fun updated updated' hupdated => ?_
  refine .ok ⟨⟨rfl, ht.imp_right fun ⟨hsealed, hopens⟩ => ⟨?_, hopens⟩, hupdated⟩, hcreated⟩
  rw [hsealed, readBool_ofBool] at hflag
  cases hflag
  rfl

theorem alike_ofRow {r r' : Row} (h : r.Alike s r') : (ofRow r).Alike s (ofRow r') := by
  obtain ⟨⟨hrest, htoken, hupdatedOn⟩, hcreatedOn⟩ := h
  refine ⟨?_, ?_, ?_, ?_⟩
  · rw [hrest]
    rfl
  · refine htoken.imp (congrArg Cell.text) fun ⟨hsealed, ht⟩ => ?_
    exact ⟨congrArg Cell.ofBool hsealed, _, _, rfl, rfl, ht⟩
  · exact hcreatedOn.imp (congrArg Cell.text) fun ht => ⟨_, _, rfl, rfl, ht⟩
  · exact hupdatedOn.imp (congrArg Cell.text) fun ht => ⟨_, _, rfl, rfl, ht⟩

theorem Alike.overwrite (h : c.Alike s c') {r r' : Row} (hr : r.Akin s r') :
    (c.overwrite r).Alike s (c'.overwrite r') := by
  obtain ⟨hrest, htoken, hupdatedOn⟩ := hr
  refine ⟨?_, ?_, h.createdOn, ?_⟩
  · rw [hrest, h.rest]
    rfl
  · refine htoken.imp (congrArg Cell.text) fun ⟨hsealed, ht⟩ => ?_
    exact ⟨congrArg Cell.ofBool hsealed, _, _, rfl, rfl, ht⟩
  · exact hupdatedOn.imp (congrArg Cell.text) fun ht => ⟨_, _, rfl, rfl, ht⟩

theorem Alike.provider (h : c.Alike s c') : c'.provider = c.provider := by
  rw [h.rest]

end CellRow

namespace Store

variable {s : Store} {r r' : Row} {c c' : Credential}

theorem timestampOf_alike {t t' : String} (h : t = t' ∨ Dated t ∧ Dated t') (id : Int) :
    Both (fun _ _ => True) (timestampOf id t) (timestampOf id t') := by
  rcases h with rfl | ⟨⟨u, hu⟩, ⟨u', hu'⟩⟩
  · exact .refl (fun _ => trivial) _
  · rw [timestampOf, timestampOf, hu, hu']
    exact .ok trivial

theorem tokenOf_alike (h : r.Akin s r') :
    Both (fun _ _ => True) (s.tokenOf r) (s.tokenOf r') := by
  obtain ⟨hrest, htoken, -⟩ := h
  have hsealed : r'.tokenEncrypted = r.tokenEncrypted := by rw [hrest]
  have hid : r'.id = r.id := by rw [hrest]
  unfold tokenOf
  rw [hsealed, hid]
  rcases htoken with hsame | ⟨hown, hopens, hopens'⟩
  · rw [hsame]
    exact .refl (fun _ => trivial) _
  · cases hkey : s.key with
    | none =>
        rw [hown, seals, hkey]
        exact .ok trivial
    | some key =>
        obtain ⟨token, htoken⟩ := hopens key hkey
        obtain ⟨token', htoken'⟩ := hopens' key hkey
        rw [hown, seals, hkey]
        simp only [htoken, htoken']
        exact .ok trivial

theorem ofRow_alike (h : r.Alike s r') : Both Credential.Alike (s.ofRow r) (s.ofRow r') := by
  have htoken := tokenOf_alike h.toAkin
  obtain ⟨⟨hrest, -, hupdatedOn⟩, hcreatedOn⟩ := h
  obtain ⟨id, provider, username, token, sealed, group, host, active, createdBy, createdOn,
    updatedBy, updatedOn⟩ := r
  obtain ⟨_, _, _, token', _, _, _, _, _, createdOn', _, updatedOn'⟩ := r'
  cases hrest
  unfold ofRow
  cases Provider.ofText? provider with
  | none => exact .error _
  | some p =>
      refine htoken.bind fun t t' _ => ?_
      refine (timestampOf_alike hcreatedOn id).bind fun u u' _ => ?_
      exact (timestampOf_alike hupdatedOn id).bind fun v v' _ => .ok ⟨t', u', v', rfl⟩

theorem ofRow?_alike {o o' : Option Row} (h : Option.Rel (Row.Alike s) o o') :
    Both (Option.Rel Credential.Alike) (s.ofRow? o) (s.ofRow? o') := by
  cases h with
  | none => exact .ok .none
  | some hr => exact (ofRow_alike hr).map fun _ _ => .some

/-- Two moments that are one and the same, or both fit into a row. -/
def StampsAlike (t t' : Timestamp) : Prop := t = t' ∨ t.Proper ∧ t'.Proper

theorem dated_alike {t t' : Timestamp} (h : StampsAlike t t') :
    t.text = t'.text ∨ Dated t.text ∧ Dated t'.text :=
  h.imp (congrArg Timestamp.text) fun ⟨ht, ht'⟩ =>
    ⟨⟨t, Timestamp.ofText_text ht⟩, ⟨t', Timestamp.ofText_text ht'⟩⟩

theorem akin_written (nonce nonce' : Nonce) (h : c.Alike c')
    (hupdatedOn : StampsAlike c.audit.updatedOn c'.audit.updatedOn) :
    (s.written nonce c).Akin s (s.written nonce' c') := by
  obtain ⟨token, createdOn, updatedOn, rfl⟩ := h
  have hdated := dated_alike hupdatedOn
  obtain ⟨_ | key⟩ := s
  · exact ⟨rfl, .inr ⟨rfl, nofun, nofun⟩, hdated⟩
  · have hopens (nonce : Nonce) (token : String) :
        Store.Opens ⟨some key⟩ (key.encrypt nonce token) := by
      rintro _ ⟨rfl⟩
      exact ⟨token, TokenKey.decrypt_encrypt key nonce token⟩
    exact ⟨rfl, .inr ⟨rfl, hopens nonce _, hopens nonce' _⟩, hdated⟩

theorem alike_written (nonce nonce' : Nonce) (h : c.Alike c')
    (hcreatedOn : StampsAlike c.audit.createdOn c'.audit.createdOn)
    (hupdatedOn : StampsAlike c.audit.updatedOn c'.audit.updatedOn) :
    (s.written nonce c).Alike s (s.written nonce' c') := by
  refine ⟨akin_written nonce nonce' h hupdatedOn, ?_⟩
  obtain ⟨_ | key⟩ := s <;> exact dated_alike hcreatedOn

end Store

/-! ## Databases -/

/-- Two tables with the same ids and with rows that are alike. -/
structure Table.Alike (s : Store) (t t' : Table) : Prop where
  rows : List.Forall₂ (fun r r' => r.1 = r'.1 ∧ r.2.Alike s r'.2) t.rows t'.rows
  lastId : t.lastId = t'.lastId

inductive TableState.Alike (s : Store) : TableState → TableState → Prop where
  | absent : Alike s .absent .absent
  | foreign : Alike s .foreign .foreign
  | present {t t' : Table} (h : t.Alike s t') : Alike s (.present t) (.present t')

/-- Two databases that differ in tokens and moments alone. -/
structure Database.Alike (s : Store) (db db' : Database) : Prop where
  versions : db.versions = db'.versions
  table : db.table.Alike s db'.table

theorem Database.readRow_alike {s : Store} {r r' : Int × CellRow} (hid : r.1 = r'.1)
    (hcells : r.2.Alike s r'.2) :
    Both (Row.Alike s) (Database.readRow r) (Database.readRow r') := by
  have hread := hcells.read r.1
  unfold Database.readRow
  rw [← hid]
  rcases hread.cases with ⟨e, hrow, hrow'⟩ | ⟨row, row', hrow, hrow', halike⟩
  · rw [hrow, hrow']
    exact .error _
  · rw [hrow, hrow']
    exact .ok halike

namespace Table

variable {s : Store} {t t' : Table}

theorem Alike.refl (s : Store) (t : Table) : t.Alike s t :=
  ⟨List.forall₂_same.mpr fun r _ => ⟨rfl, CellRow.Alike.refl s r.2⟩, rfl⟩

theorem Alike.greatestId (h : t.Alike s t') : t.greatestId = t'.greatestId := by
  unfold Table.greatestId
  rw [h.lastId]
  generalize t'.lastId = n
  have hrows := h.rows
  revert hrows
  generalize t.rows = rows
  generalize t'.rows = rows'
  intro hrows
  induction hrows generalizing n with
  | nil => rfl
  | cons hr _ ih => rw [List.foldl_cons, List.foldl_cons, hr.1, ih]

theorem Alike.insert (h : t.Alike s t') {r r' : Row} (hr : r.Alike s r') :
    Both (fun p p' => p.1 = p'.1 ∧ p.2.Alike s p'.2) (t.insert r) (t'.insert r') := by
  unfold Table.insert
  rw [h.greatestId]
  simp only
  split
  · exact .error _
  · refine .ok ⟨rfl, ⟨List.rel_append h.rows ?_, rfl⟩⟩
    exact .cons ⟨rfl, CellRow.alike_ofRow hr⟩ .nil

theorem Alike.alter (h : t.Alike s t') (id : Int) {f f' : CellRow → CellRow}
    (hf : ∀ c c' : CellRow, c.Alike s c' → (f c).Alike s (f' c')) :
    (t.alter id f).1 = (t'.alter id f').1 ∧ (t.alter id f).2.Alike s (t'.alter id f').2 := by
  obtain ⟨rows, lastId⟩ := t
  obtain ⟨rows', lastId'⟩ := t'
  obtain ⟨hrows, rfl⟩ := h
  unfold Table.alter
  simp only at hrows ⊢
  induction hrows with
  | nil => exact ⟨rfl, .nil, rfl⟩
  | @cons r r' rows rows' hr _ ih =>
      obtain ⟨hcount, hrest, -⟩ := ih
      obtain ⟨hid, hcells⟩ := hr
      simp only [List.filter_cons, List.map_cons, ← hid]
      by_cases hr : r.1 = id
      · simp only [hr, if_true, decide_true, List.length_cons, hcount, true_and]
        exact ⟨.cons ⟨rfl, hf _ _ hcells⟩ hrest, rfl⟩
      · simp only [hr, if_false, decide_false]
        exact ⟨hcount, .cons ⟨hid, hcells⟩ hrest, rfl⟩

theorem Alike.find? (h : t.Alike s t') {p : Int × CellRow → Bool}
    (hp : ∀ r r' : Int × CellRow, r.1 = r'.1 ∧ r.2.Alike s r'.2 → p r = p r') :
    Both (Option.Rel (Row.Alike s)) (Database.readRow? (t.rows.find? p))
      (Database.readRow? (t'.rows.find? p)) := by
  rcases find?_of_forall₂ hp h.rows with ⟨hnone, hnone'⟩ | ⟨r, r', hr, hr', hid, hcells⟩
  · rw [hnone, hnone']
    exact .ok .none
  · rw [hr, hr']
    exact (Database.readRow_alike hid hcells).map fun _ _ => .some

end Table

namespace Database

variable {s : Store} {db db' : Database}

theorem Alike.refl (s : Store) (db : Database) : db.Alike s db := by
  obtain ⟨versions, _ | _ | t⟩ := db
  · exact ⟨rfl, .absent⟩
  · exact ⟨rfl, .foreign⟩
  · exact ⟨rfl, .present (Table.Alike.refl s t)⟩

@[elab_as_elim]
theorem Alike.elim {motive : Database → Database → Prop} (h : db.Alike s db')
    (absent : ∀ versions, motive ⟨versions, .absent⟩ ⟨versions, .absent⟩)
    (foreign : ∀ versions, motive ⟨versions, .foreign⟩ ⟨versions, .foreign⟩)
    (present : ∀ versions (t t' : Table), t.Alike s t' →
      motive ⟨versions, .present t⟩ ⟨versions, .present t'⟩) : motive db db' := by
  obtain ⟨versions, table⟩ := db
  obtain ⟨_, table'⟩ := db'
  obtain ⟨rfl, htable⟩ := h
  cases htable with
  | absent => exact absent versions
  | foreign => exact foreign versions
  | present ht => exact present versions _ _ ht

theorem insert_alike {r r' : Row} (hr : r.Alike s r') (h : db.Alike s db') :
    Both Eq (db.answer (.insert r)).1 (db'.answer (.insert r')).1 ∧
      (db.answer (.insert r)).2.Alike s (db'.answer (.insert r')).2 := by
  refine h.elim (fun _ => ⟨.error _, rfl, .absent⟩) (fun _ => ⟨.error _, rfl, .foreign⟩)
    fun versions t t' ht => ?_
  simp only [answer]
  rcases (ht.insert hr).cases with ⟨e, hx, hy⟩ | ⟨⟨id, _⟩, ⟨_, _⟩, hx, hy, hid, hinserted⟩
  · rw [hx, hy]
    exact ⟨.error _, rfl, .present ht⟩
  · rw [hx, hy]
    exact ⟨.ok hid, rfl, .present hinserted⟩

theorem update_alike {r r' : Row} (hr : r.Akin s r') (h : db.Alike s db') :
    Both Eq (db.answer (.update r)).1 (db'.answer (.update r')).1 ∧
      (db.answer (.update r)).2.Alike s (db'.answer (.update r')).2 := by
  have hid : r'.id = r.id := by rw [hr.rest]
  refine h.elim (fun _ => ⟨.error _, rfl, .absent⟩) (fun _ => ⟨.error _, rfl, .foreign⟩)
    fun versions t t' ht => ?_
  obtain ⟨hcount, haltered⟩ := ht.alter r.id fun c c' hc => hc.overwrite hr
  simp only [answer, hid]
  exact ⟨.ok hcount, rfl, .present haltered⟩

theorem findById_alike (id : Int) (h : db.Alike s db') :
    Both (Option.Rel (Row.Alike s)) (db.answer (.findById id)).1 (db'.answer (.findById id)).1 ∧
      (db.answer (.findById id)).2.Alike s (db'.answer (.findById id)).2 := by
  refine h.elim (fun _ => ⟨.error _, rfl, .absent⟩) (fun _ => ⟨.error _, rfl, .foreign⟩)
    fun versions t t' ht => ⟨?_, rfl, .present ht⟩
  exact ht.find? fun r r' hr => by rw [hr.1]

theorem findByProvider_alike (p : String) (h : db.Alike s db') :
    Both (Option.Rel (Row.Alike s)) (db.answer (.findByProvider p)).1
        (db'.answer (.findByProvider p)).1 ∧
      (db.answer (.findByProvider p)).2.Alike s (db'.answer (.findByProvider p)).2 := by
  refine h.elim (fun _ => ⟨.error _, rfl, .absent⟩) (fun _ => ⟨.error _, rfl, .foreign⟩)
    fun versions t t' ht => ⟨?_, rfl, .present ht⟩
  exact ht.find? fun r r' hr => by rw [hr.2.provider]

theorem findAll_alike (h : db.Alike s db') :
    Both (List.Forall₂ (Row.Alike s)) (db.answer .findAll).1 (db'.answer .findAll).1 ∧
      (db.answer .findAll).2.Alike s (db'.answer .findAll).2 := by
  refine h.elim (fun _ => ⟨.error _, rfl, .absent⟩) (fun _ => ⟨.error _, rfl, .foreign⟩)
    fun versions t t' ht => ⟨?_, rfl, .present ht⟩
  exact Both.mapM (fun r r' hr => readRow_alike hr.1 hr.2) ht.rows

end Database

/-! ## Stores -/

namespace Store

variable {s : Store} {T : Twins} {c c' : Credential}

theorem coupled_toRow (c c' : Credential) :
    T.store.Coupled (fun r r' => r = s.written T.nonce c ∧ r' = s.written T.nonce' c')
      (s.toRow c) (s.toRow c') := by
  unfold toRow written
  cases s.key with
  | none => exact Pairing.coupled_pure ⟨rfl, rfl⟩
  | some key =>
      refine Twins.coupled_nonce.bind ?_
      rintro _ _ ⟨rfl, rfl⟩
      exact Pairing.coupled_pure ⟨rfl, rfl⟩

variable (hT : T.database = Database.Alike s)

include hT

theorem coupled_create (h : c.Alike c')
    (hcreatedOn : StampsAlike c.audit.createdOn c'.audit.createdOn)
    (hupdatedOn : StampsAlike c.audit.updatedOn c'.audit.updatedOn) :
    T.store.Coupled (Both fun d d' => ∃ id, d = { c with id } ∧ d' = { c' with id })
      (s.create c) (s.create c') := by
  refine (coupled_toRow c c').bind ?_
  rintro _ _ ⟨rfl, rfl⟩
  have hinsert := Twins.coupled_database (T := T) fun db db' hdb =>
    hT ▸ Database.insert_alike (alike_written T.nonce T.nonce' h hcreatedOn hupdatedOn) (hT ▸ hdb)
  obtain ⟨token, createdOn, updatedOn, rfl⟩ := h
  refine hinsert.bind ?_
  rintro _ _ (e | ⟨rfl⟩)
  · exact Pairing.coupled_pure (.error _)
  · exact .note (Pairing.coupled_pure (.ok ⟨_, rfl, rfl⟩))

theorem coupled_update (h : c.Alike c')
    (hupdatedOn : StampsAlike c.audit.updatedOn c'.audit.updatedOn) :
    T.store.Coupled (Both Eq) (s.update c) (s.update c') := by
  refine (coupled_toRow c c').bind ?_
  rintro _ _ ⟨rfl, rfl⟩
  have hupdate := Twins.coupled_database (T := T) fun db db' hdb =>
    hT ▸ Database.update_alike (akin_written T.nonce T.nonce' h hupdatedOn) (hT ▸ hdb)
  obtain ⟨token, createdOn, updatedOn, rfl⟩ := h
  refine hupdate.bind ?_
  rintro _ _ (e | ⟨rfl⟩)
  · exact Pairing.coupled_pure (.error _)
  · refine Pairing.coupled_ite (fun _ => ?_) fun _ => ?_
    · exact .note (Pairing.coupled_pure (.ok rfl))
    · exact Pairing.coupled_pure (.ok rfl)

theorem coupled_getById (id : Int) :
    T.store.Coupled (Both (Option.Rel Credential.Alike)) (s.getById id) (s.getById id) := by
  refine (Twins.coupled_database fun db db' hdb =>
    hT ▸ Database.findById_alike id (hT ▸ hdb)).bind ?_
  rintro _ _ (e | hrow)
  · exact Pairing.coupled_pure (.error _)
  · exact Pairing.coupled_pure (ofRow?_alike hrow)

theorem coupled_getByProvider (p : Provider) :
    T.store.Coupled (Both (Option.Rel Credential.Alike)) (s.getByProvider p)
      (s.getByProvider p) := by
  refine (Twins.coupled_database fun db db' hdb =>
    hT ▸ Database.findByProvider_alike p.name (hT ▸ hdb)).bind ?_
  rintro _ _ (e | hrow)
  · exact Pairing.coupled_pure (.error _)
  · exact Pairing.coupled_pure (ofRow?_alike hrow)

theorem coupled_getAll :
    T.store.Coupled (Both (List.Forall₂ Credential.Alike)) s.getAll s.getAll := by
  refine (Twins.coupled_database fun db db' hdb =>
    hT ▸ Database.findAll_alike (hT ▸ hdb)).bind ?_
  rintro _ _ (e | hrows)
  · exact Pairing.coupled_pure (.error _)
  · have hread (r r' : Row) (h : r.Alike s r') : Both Credential.Alike (s.ofRow r) (s.ofRow r') :=
      ofRow_alike h
    exact Pairing.coupled_pure (Both.mapM hread hrows)

end Store

end CredRegistry
