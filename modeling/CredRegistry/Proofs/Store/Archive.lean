import CredRegistry.Proofs.Database.Table
import CredRegistry.Proofs.Store.Rows

/-!
# A store is a map of credentials

Any number of stores, each with a key of its own or without one, write to one database, and its
file is opened again now and then. `Archive` sets the database beside a map from ids to what
should be read there: a create adds a credential under the id it is given, an update replaces
all of a credential but its creation, and both note the key of the store that wrote.

`Mirrors` says that the rows of the table are the credentials of the map. Each request keeps
that (`Mirrors.after`), so every run does, and `store_refines_map` reads off what follows: ids
ascend, whoever may read a credential gets what was last written, whoever lacks a key gets an
error, and no request touches a row but its own.
-/

namespace CredRegistry

open CredRegistry.Cipher

/-! ## Work on one database -/

namespace Database

/-- Answer the calls of a store: with the nonce at hand, and from the database as it is. -/
def serve (nonce : Nonce) : (q : StoreCall) → StateM Database q.Answer
  | .nonce => pure nonce
  | .database c => fun db => db.answer c

/-- Carry out work on a store. What it reports is passed over. -/
def perform {α : Type} (db : Database) (nonce : Nonce) (work : StoreTask α) : α × Database :=
  work.run (serve nonce) (fun _ => pure ()) db

theorem perform_bind {α β : Type} (db : Database) (nonce : Nonce) (work : StoreTask α)
    (f : α → StoreTask β) :
    db.perform nonce (work >>= f)
      = (db.perform nonce work).2.perform nonce (f (db.perform nonce work).1) := by
  simp only [perform, Dialogue.run_bind]
  rfl

theorem perform_toRow (db : Database) (nonce : Nonce) (s : Store) (c : Credential) :
    db.perform nonce (s.toRow c) = (s.written nonce c, db) := by
  obtain ⟨_ | key⟩ := s <;> rfl

theorem perform_call (db : Database) (nonce : Nonce) (c : DatabaseCall) :
    db.perform nonce (Dialogue.call (StoreCall.database c)) = db.answer c := rfl

theorem perform_create (db : Database) (nonce : Nonce) (s : Store) (c : Credential) :
    db.perform nonce (s.create c) =
      match db.answer (.insert (s.written nonce c)) with
      | (.error e, db) => (.error (.database e), db)
      | (.ok id, db) => (.ok { c with id }, db) := by
  rw [Store.create, perform_bind, perform_toRow, perform_bind, perform_call]
  rcases db.answer (.insert (s.written nonce c)) with ⟨_ | id, db'⟩ <;> rfl

theorem perform_update (db : Database) (nonce : Nonce) (s : Store) (c : Credential) :
    db.perform nonce (s.update c) =
      match db.answer (.update (s.written nonce c)) with
      | (.error e, db) => (.error (.database e), db)
      | (.ok _, db) => (.ok (), db) := by
  rw [Store.update, perform_bind, perform_toRow, perform_bind, perform_call]
  rcases db.answer (.update (s.written nonce c)) with ⟨_ | _ | count, db'⟩ <;> rfl

theorem perform_getById (db : Database) (nonce : Nonce) (s : Store) (id : Int) :
    db.perform nonce (s.getById id) =
      match db.answer (.findById id) with
      | (.error e, db) => (.error (.database e), db)
      | (.ok row, db) => (s.ofRow? row, db) := by
  rw [Store.getById, perform_bind, perform_call]
  rcases db.answer (.findById id) with ⟨_ | row, db'⟩ <;> rfl

theorem perform_getById_snd (db : Database) (nonce : Nonce) (s : Store) (id : Int) :
    (db.perform nonce (s.getById id)).2 = db := by
  rw [Store.getById, perform_bind, perform_call, answer_findById]
  rcases (db.answer (.findById id)).1 with _ | row <;> rfl

theorem perform_getAll (db : Database) (nonce : Nonce) (s : Store) :
    (db.perform nonce s.getAll).2 = db := by
  rw [Store.getAll, perform_bind, perform_call, answer_findAll]
  rcases (db.answer .findAll).1 with _ | rows <;> rfl

theorem perform_getByProvider (db : Database) (nonce : Nonce) (s : Store) (p : Provider) :
    (db.perform nonce (s.getByProvider p)).2 = db := by
  rw [Store.getByProvider, perform_bind, perform_call, answer_findByProvider]
  rcases (db.answer (.findByProvider p.name)).1 with _ | row <;> rfl

end Database

/-! ## Archives -/

/-- What is asked of the stores of one database, or done with its file. -/
inductive Request where
  | create (s : Store) (c : Credential)
  | update (s : Store) (c : Credential)
  | getById (s : Store) (id : Int)
  | getAll (s : Store)
  | getByProvider (s : Store) (p : Provider)
  | reopen (fs : FileSystem) (location : DatabaseLocation)

/-- The requests that a run is made of: what is written fits into a row, and the file is found
again. An update leaves the creation alone, whatever it carries there. -/
def Request.Proper : Request → Prop
  | .create _ c => c.Proper
  | .update _ c => CellRow.IsSmall c.audit.updatedBy ∧ c.audit.updatedOn.Proper
  | .reopen _ location => location.IsKept
  | _ => True

/-- What should be read of a credential, and the key it was last written with. -/
structure Kept where
  credential : Credential
  key : Option TokenKey
deriving DecidableEq

/-- The map in which a credential is kept under an id. -/
def Kept.under (kept : Int → Option Kept) (id : Int) (k : Kept) : Int → Option Kept :=
  fun i => if i = id then some k else kept i

@[simp] theorem Kept.under_self (kept : Int → Option Kept) (id : Int) (k : Kept) :
    Kept.under kept id k id = some k := if_pos rfl

theorem Kept.under_of_ne (kept : Int → Option Kept) {id i : Int} (k : Kept) (h : i ≠ id) :
    Kept.under kept id k i = kept i := if_neg h

/-- A database, and the map of what should be in it. -/
structure Archive where
  database : Database
  /-- The ids that were handed out, one after the other. -/
  ids : List Int
  kept : Int → Option Kept

namespace Archive

/-- The archive of a database that nothing was put into. -/
def start (db : Database) : Archive := ⟨db, [], fun _ => none⟩

/-- The archive after a request, which gets a nonce if it asks for one. A credential that was
created is kept under its id, and an update takes all of the credential but its creation. -/
def after (a : Archive) : Nonce × Request → Archive
  | (nonce, .create s c) =>
      match a.database.perform nonce (s.create c) with
      | (.ok stored, db) =>
          ⟨db, a.ids ++ [stored.id],
            Kept.under a.kept stored.id ⟨{ c with id := stored.id }, s.key⟩⟩
      | (.error _, db) => { a with database := db }
  | (nonce, .update s c) =>
      let db := (a.database.perform nonce (s.update c)).2
      match a.kept c.id with
      | some old =>
          ⟨db, a.ids,
            Kept.under a.kept c.id ⟨c.withCreationOf old.credential, s.key⟩⟩
      | none => { a with database := db }
  | (nonce, .getById s id) => { a with database := (a.database.perform nonce (s.getById id)).2 }
  | (nonce, .getAll s) => { a with database := (a.database.perform nonce s.getAll).2 }
  | (nonce, .getByProvider s p) =>
      { a with database := (a.database.perform nonce (s.getByProvider p)).2 }
  | (_, .reopen fs location) =>
      { a with database := (Database.reopen (m := Id) fs location a.database).2 }

def cells? (a : Archive) (id : Int) : Option CellRow :=
  match a.database.table with
  | .present t => t.find? id
  | _ => none

/-- A row holds a credential as it was last written. -/
def Holds (r : Int × CellRow) (k : Kept) : Prop :=
  k.credential.id = r.1 ∧ k.credential.Proper ∧
    ∃ nonce, r.2 = .ofRow ((Store.mk k.key).written nonce k.credential)

/-- The rows are the kept credentials, in the order their ids were handed out. -/
structure Mirrors (a : Archive) (t : Table) : Prop where
  database : a.database = ⟨some [1], .present t⟩
  ids : t.rows.map (·.1) = a.ids
  lastId : t.lastId = a.ids.length
  bounded : ∀ id ∈ a.ids, id ≤ t.lastId
  ascending : a.ids.Pairwise (· < ·)
  absent : ∀ id, id ∉ a.ids → a.kept id = none
  rows : ∀ r ∈ t.rows, ∃ k, a.kept r.1 = some k ∧ Holds r k

theorem after_reopen {a : Archive} (nonce : Nonce) (fs : FileSystem) {location : DatabaseLocation}
    (hkept : location.IsKept) (h : a.database.versions = some [1]) :
    a.after (nonce, .reopen fs location) = a := by
  rw [after, Database.reopen_of_versions fs hkept h]

theorem mirrors_start : Mirrors (start .fresh) .empty where
  database := rfl
  ids := rfl
  lastId := rfl
  bounded := by simp [start]
  ascending := List.Pairwise.nil
  absent := fun _ _ => rfl
  rows := by simp [Table.empty]

/-! ## One request -/

variable {a : Archive} {t : Table}

/-- What creating does to a mirrored table: the next id is the one after the last. -/
theorem Mirrors.perform_create (h : Mirrors a t) (nonce : Nonce) (s : Store) (c : Credential) :
    a.database.perform nonce (s.create c) =
      if Cell.integerBounds.2 < t.lastId + 1 then
        (.error (.database (.statement .full)), ⟨some [1], .present t⟩)
      else (.ok { c with id := t.lastId + 1 }, ⟨some [1], .present
        ⟨t.rows ++ [(t.lastId + 1, .ofRow (s.written nonce c))], t.lastId + 1⟩⟩) := by
  have hbounded : ∀ r ∈ t.rows, r.1 ≤ t.lastId := fun r hr =>
    h.bounded r.1 (h.ids ▸ List.mem_map_of_mem hr)
  rw [Database.perform_create, h.database, Database.answer_insert hbounded]
  by_cases hfull : Cell.integerBounds.2 < t.lastId + 1
  · simp only [if_pos hfull]
    rfl
  · simp only [if_neg hfull]

theorem Mirrors.perform_update (h : Mirrors a t) (nonce : Nonce) (s : Store) (c : Credential) :
    a.database.perform nonce (s.update c) =
      (.ok (), ⟨some [1], .present (t.alter c.id (·.overwrite (s.written nonce c))).2⟩) := by
  have hid : (s.written nonce c).id = c.id := by
    obtain ⟨_ | key⟩ := s <;> rfl
  rw [Database.perform_update, h.database]
  simp only [Database.answer, hid]

theorem Mirrors.create (h : Mirrors a t) (nonce : Nonce) (s : Store) {c : Credential}
    (hc : c.Proper) : ∃ t', Mirrors (a.after (nonce, .create s c)) t' := by
  rw [after, h.perform_create]
  by_cases hfull : Cell.integerBounds.2 < t.lastId + 1
  · rw [if_pos hfull]
    exact ⟨t, { h with database := rfl }⟩
  · rw [if_neg hfull]
    dsimp only
    have hnew : t.lastId + 1 ∉ a.ids := fun hmem => by
      have := h.bounded _ hmem
      omega
    have hcells : CellRow.ofRow (s.written nonce c)
        = CellRow.ofRow (s.written nonce { c with id := t.lastId + 1 }) := by
      obtain ⟨_ | key⟩ := s <;> simp only [Store.written, Store.rowOf, CellRow.ofRow]
    refine ⟨⟨t.rows ++ [(t.lastId + 1, .ofRow (s.written nonce c))], t.lastId + 1⟩, rfl, ?_, ?_,
      ?_, ?_, ?_, ?_⟩
    · simp [h.ids]
    · simp [h.lastId]
    · intro id hid
      rcases List.mem_append.mp hid with hold | hlast
      · have := h.bounded id hold
        change id ≤ t.lastId + 1
        omega
      · exact Int.le_of_eq (List.mem_singleton.mp hlast)
    · refine List.pairwise_append.mpr ⟨h.ascending, List.pairwise_singleton _ _, ?_⟩
      intro id hid id' hid'
      have := h.bounded id hid
      rw [List.mem_singleton.mp hid']
      change id < t.lastId + 1
      omega
    · intro id hid
      obtain ⟨hold, hlast⟩ := not_or.mp (mt List.mem_append.mpr hid)
      dsimp only
      rw [Kept.under_of_ne _ _ (by simpa using hlast)]
      exact h.absent id hold
    · intro r hr
      dsimp only
      rcases List.mem_append.mp hr with hold | hlast
      · have hne : r.1 ≠ t.lastId + 1 := fun heq =>
          hnew (heq ▸ h.ids ▸ List.mem_map_of_mem hold)
        rw [Kept.under_of_ne _ _ hne]
        exact h.rows r hold
      · obtain rfl := List.mem_singleton.mp hlast
        exact ⟨_, Kept.under_self .., rfl, ⟨hc.1, hc.2, hc.3, hc.4⟩, nonce, hcells⟩

theorem Mirrors.update (h : Mirrors a t) (nonce : Nonce) (s : Store) {c : Credential}
    (hby : CellRow.IsSmall c.audit.updatedBy) (hon : c.audit.updatedOn.Proper) :
    ∃ t', Mirrors (a.after (nonce, .update s c)) t' := by
  simp only [after, h.perform_update]
  cases hkept : a.kept c.id with
  | none =>
      refine ⟨t, { h with database := ?_ }⟩
      have hid : c.id ∉ t.rows.map (·.1) := by
        intro hmem
        obtain ⟨r, hr, hrid⟩ := List.mem_map.mp hmem
        obtain ⟨k, hk, -⟩ := h.rows r hr
        rw [hrid, hkept] at hk
        cases hk
      rw [Table.alter_of_not_mem _ hid]
  | some old =>
      dsimp only
      refine ⟨(t.alter c.id (·.overwrite (s.written nonce c))).2, rfl, ?_, h.lastId, h.bounded,
        h.ascending, ?_, ?_⟩
      · rw [Table.ids_alter, h.ids]
      · intro id hid
        dsimp only
        rw [Kept.under_of_ne]
        · exact h.absent id hid
        · rintro rfl
          rw [h.absent _ hid] at hkept
          cases hkept
      · intro r hr
        obtain ⟨r₀, hr₀, rfl⟩ := List.mem_map.mp hr
        obtain ⟨k, hk, hid, hproper, nonce₀, hcells⟩ := h.rows r₀ hr₀
        dsimp only
        by_cases hrow : r₀.1 = c.id
        · rw [hrow, hkept] at hk
          cases hk
          rw [if_pos hrow, hrow, hcells, Store.overwrite_written]
          exact ⟨_, Kept.under_self .., rfl,
            ⟨hproper.createdBy, hproper.createdOn, hby, hon⟩, nonce, rfl⟩
        · rw [if_neg hrow, Kept.under_of_ne _ _ hrow]
          exact ⟨k, hk, hid, hproper, nonce₀, hcells⟩

/-- Every request keeps the rows and the map together. -/
theorem Mirrors.after (h : Mirrors a t) (nonce : Nonce) {r : Request} (hr : r.Proper) :
    ∃ t', Mirrors (a.after (nonce, r)) t' := by
  cases r with
  | create s c => exact h.create nonce s hr
  | update s c => exact h.update nonce s hr.1 hr.2
  | getById s id =>
      exact ⟨t, { h with database := (Database.perform_getById_snd ..).trans h.database }⟩
  | getAll s => exact ⟨t, { h with database := (Database.perform_getAll ..).trans h.database }⟩
  | getByProvider s p =>
      exact ⟨t, { h with database := (Database.perform_getByProvider ..).trans h.database }⟩
  | reopen fs location =>
      rw [after_reopen nonce fs hr (by rw [h.database])]
      exact ⟨t, h⟩

/-! ## Runs -/

theorem Mirrors.run (h : Mirrors a t) {requests : List (Nonce × Request)}
    (hproper : ∀ r ∈ requests, r.2.Proper) :
    ∃ t', Mirrors (requests.foldl Archive.after a) t' := by
  induction requests generalizing a t with
  | nil => exact ⟨t, h⟩
  | cons r rs ih =>
      obtain ⟨t', h'⟩ := h.after r.1 (hproper r (by simp))
      exact ih h' fun r' hr' => hproper r' (by simp [hr'])

theorem Mirrors.isSome_kept (h : Mirrors a t) (id : Int) : (a.kept id).isSome ↔ id ∈ a.ids := by
  constructor
  · intro hsome
    refine Decidable.byContradiction fun hid => ?_
    rw [h.absent id hid] at hsome
    cases hsome
  · intro hid
    obtain ⟨r, hr, rfl⟩ := List.mem_map.mp (h.ids ▸ hid)
    obtain ⟨k, hk, -⟩ := h.rows r hr
    rw [hk]
    rfl

theorem Mirrors.getById (h : Mirrors a t) (nonce : Nonce) (s : Store) {id : Int} {k : Kept}
    (hk : a.kept id = some k) : k.credential.id = id ∧ k.credential.Proper ∧
      ∃ nonce', (a.database.perform nonce (s.getById id)).1
        = some <$> s.ofRow ((Store.mk k.key).written nonce' k.credential) := by
  have hid : id ∈ t.rows.map (·.1) := h.ids ▸ (h.isSome_kept id).mp (hk ▸ rfl)
  obtain ⟨r₀, hr₀, hr₀id⟩ := List.mem_map.mp hid
  obtain ⟨r, hr⟩ : ∃ r, t.rows.find? (·.1 = id) = some r :=
    Option.isSome_iff_exists.mp (List.find?_isSome.mpr ⟨r₀, hr₀, by simpa using hr₀id⟩)
  have hrid : r.1 = id := by simpa using List.find?_some hr
  obtain ⟨k', hk', hcid, hproper, nonce', hcells⟩ := h.rows r (List.mem_of_find?_eq_some hr)
  obtain rfl : k' = k := by
    rw [hrid, hk] at hk'
    exact (Option.some.inj hk').symm
  refine ⟨hcid.trans hrid, hproper, nonce', ?_⟩
  have hread : Database.readRow r = .ok ((Store.mk k'.key).written nonce' k'.credential) := by
    rw [Database.readRow, hcells, ← hcid, Store.read_written _ _ hproper]
  rw [Database.perform_getById, h.database]
  simp only [Database.answer, hr, Database.readRow?, hread]
  rfl

theorem Mirrors.getById_of_not_mem (h : Mirrors a t) (nonce : Nonce) (s : Store) {id : Int}
    (hid : id ∉ a.ids) : (a.database.perform nonce (s.getById id)).1 = .ok none := by
  have hnone : t.rows.find? (·.1 = id) = none := by
    refine List.find?_eq_none.mpr fun r hr hrid => hid ?_
    rw [← of_decide_eq_true hrid, ← h.ids]
    exact List.mem_map_of_mem hr
  rw [Database.perform_getById, h.database]
  simp only [Database.answer, hnone, Database.readRow?]
  rfl

theorem Mirrors.cells?_after (h : Mirrors a t) (nonce : Nonce) {r : Request} (hr : r.Proper)
    {id : Int} (hupdate : ∀ s c, r = .update s c → c.id ≠ id)
    (hcreate : (a.after (nonce, r)).ids ≠ a.ids ++ [id]) :
    (a.after (nonce, r)).cells? id = a.cells? id := by
  have hbefore : a.cells? id = t.find? id := by rw [cells?, h.database]
  cases r with
  | create s c =>
      rw [Archive.after, h.perform_create] at hcreate ⊢
      by_cases hfull : Cell.integerBounds.2 < t.lastId + 1
      · rw [if_pos hfull, hbefore]
        rfl
      · rw [if_neg hfull] at hcreate ⊢
        have hne : id ≠ t.lastId + 1 := fun heq => hcreate (heq ▸ rfl)
        rw [hbefore]
        exact Table.find?_append_of_ne _ t.lastId _ hne
  | update s c =>
      have hne : id ≠ c.id := (hupdate s c rfl).symm
      have hafter : (a.after (nonce, .update s c)).database
          = ⟨some [1], .present (t.alter c.id (·.overwrite (s.written nonce c))).2⟩ := by
        simp only [Archive.after, h.perform_update]
        split <;> rfl
      rw [cells?, hafter, hbefore]
      exact Table.find?_alter_of_ne _ hne
  | getById s id' =>
      simp only [Archive.after, Database.perform_getById_snd, cells?]
  | getAll s => simp only [Archive.after, Database.perform_getAll, cells?]
  | getByProvider s p => simp only [Archive.after, Database.perform_getByProvider, cells?]
  | reopen fs location =>
      rw [after_reopen nonce fs hr (by rw [h.database])]

/-- A store is a map from ids to credentials, whatever keys its rows were written with. After
any run of requests on a database that was opened empty:

* ids were handed out in ascending order, and under each of them, and no other, something is
  kept; the next create gets the next id, as long as there is one;
* a store reads what is kept of a credential if that was last written without a key or with
  the key of the store, and a store without a key is refused what was written with one;
* an update succeeds, and changes nothing if its id was never handed out;
* the rows that a request neither updates nor creates are left as they are. -/
theorem store_refines_map {fs : FileSystem} {location : DatabaseLocation} {version : Nat}
    {db : Database} (hopen : Database.openAt (m := Id) fs location .new = (.ok version, db))
    {requests : List (Nonce × Request)} (hproper : ∀ r ∈ requests, r.2.Proper) :
    let a := requests.foldl after (.start db)
    a.ids.Pairwise (· < ·) ∧
    (∀ id, (a.kept id).isSome ↔ id ∈ a.ids) ∧
    (∀ nonce (s : Store) c, a.ids.length < 0x7FFFFFFFFFFFFFFF →
      (a.database.perform nonce (s.create c)).1 = .ok { c with id := a.ids.length + 1 }) ∧
    (∀ id k, a.kept id = some k →
      ∀ nonce (s : Store), k.key = none ∨ s.key = k.key →
        (a.database.perform nonce (s.getById id)).1 = .ok (some k.credential)) ∧
    (∀ id k, a.kept id = some k → k.key ≠ none →
      ∀ nonce (s : Store), s.key = none → (a.database.perform nonce (s.getById id)).1
        = .error (.corrupt id "token is encrypted but no token key is configured")) ∧
    (∀ id, id ∉ a.ids → ∀ nonce (s : Store),
      (a.database.perform nonce (s.getById id)).1 = .ok none) ∧
    (∀ nonce (s : Store) c, (a.database.perform nonce (s.update c)).1 = .ok ()) ∧
    (∀ nonce (s : Store) c, c.id ∉ a.ids → (a.database.perform nonce (s.update c)).2 = a.database) ∧
    (∀ nonce (r : Request), r.Proper → ∀ id, (∀ s c, r = .update s c → c.id ≠ id) →
      (a.after (nonce, r)).ids ≠ a.ids ++ [id] → (a.after (nonce, r)).cells? id = a.cells? id) := by
  obtain rfl := Database.openAt_new hopen
  intro a
  obtain ⟨t, h⟩ : ∃ t, Mirrors a t := mirrors_start.run hproper
  refine ⟨h.ascending, h.isSome_kept, ?_, ?_, ?_, ?_, ?_, ?_, ?_⟩
  · intro nonce s c hroom
    have hfull : ¬ Cell.integerBounds.2 < t.lastId + 1 := by
      rw [h.lastId, Cell.integerBounds]
      omega
    rw [h.perform_create, if_neg hfull, h.lastId]
  · intro id k hk nonce s hkey
    obtain ⟨-, hfits, nonce', hread⟩ := h.getById nonce s hk
    rw [hread, Store.ofRow_written nonce' hfits hkey]
    rfl
  · intro id k hk hsealed nonce s hkeyless
    obtain ⟨hid, -, nonce', hread⟩ := h.getById nonce s hk
    rw [hread, Store.ofRow_written_of_keyless nonce' _ hkeyless hsealed, hid]
    rfl
  · intro id hid nonce s
    exact h.getById_of_not_mem nonce s hid
  · intro nonce s c
    rw [h.perform_update]
  · intro nonce s c hid
    rw [h.perform_update, Table.alter_of_not_mem _ (h.ids ▸ hid), h.database]
  · intro nonce r hr id
    exact h.cells?_after nonce hr

/-! ## Two keys and none -/

/-- Where the credentials of a user are kept for want of another location. -/
def credentials : String := Database.defaultPath "/home/ann"

theorem openAt_credentials :
    Database.openAt (m := Id) {} (.file credentials) .new = (.ok 1, .fresh) := by
  have hlocated : (Database.locate {} credentials).isOk = true := by decide +kernel
  cases hlocate : Database.locate {} credentials with
  | error e =>
      rw [hlocate] at hlocated
      cases hlocated
  | ok a => simp only [Database.openAt, hlocate, ite_self, Database.ready_new]

theorem isKept_credentials : (DatabaseLocation.file credentials).IsKept := by
  have hzero : credentials.toList.contains '\x00' = false := by decide +kernel
  have hpath : DatabaseAddress.isMarked credentials = false := by decide +kernel
  intro a ha
  simp only [DatabaseAddress.ofText, hzero, hpath, Bool.not_false, if_true, if_false,
    Bool.false_eq_true] at ha
  cases ha
  decide +kernel

def keyed (b : UInt8) : Store := ⟨some ⟨Vector.replicate 32 b⟩⟩

/-- A credential that was created at noon and touched in a leap second. -/
def sample : Credential where
  id := 0
  provider := .gitlab
  username := "ann"
  token := "token"
  orgOrGroupId := "group"
  host := "gitlab.example"
  active := true
  audit := ⟨1, ⟨17000, 43200, 500000000⟩, 2, ⟨17166, 86399, 1000000000⟩⟩

theorem proper_sample : sample.Proper where
  createdBy := by unfold CellRow.IsSmall; decide
  createdOn := ⟨by decide, by decide, by decide, by decide⟩
  updatedBy := by unfold CellRow.IsSmall; decide
  updatedOn := ⟨by decide, by decide, by decide, by decide⟩

/-- The update of a credential, with another creation than it has. -/
def changed : Credential :=
  { sample with id := 1, active := false, audit := { sample.audit with createdBy := 9 } }

/-- Two credentials are created by stores with different keys, and then the first is updated by
one without. -/
def visits : List (Nonce × Request) :=
  [ (Vector.replicate 12 1, .create (keyed 1) sample),
    (Vector.replicate 12 2, .reopen {} (.file credentials)),
    (Vector.replicate 12 3, .create (keyed 2) sample),
    (Vector.replicate 12 4, .update ⟨none⟩ changed) ]

theorem proper_visits : ∀ r ∈ visits, r.2.Proper := by
  intro r hr
  simp only [visits, List.mem_cons, List.not_mem_nil, or_false] at hr
  rcases hr with rfl | rfl | rfl | rfl
  · exact proper_sample
  · exact isKept_credentials
  · exact proper_sample
  · exact ⟨proper_sample.updatedBy, proper_sample.updatedOn⟩

/-- After these visits every store reads the first credential with the creation it was given,
and a store without a key is refused the second. -/
theorem visits_refine_map :
    let a := visits.foldl after (.start .fresh)
    (a.database.perform (Vector.replicate 12 5) (Store.getById (keyed 2) 1)).1
        = .ok (some { changed with audit := sample.audit }) ∧
      (a.database.perform (Vector.replicate 12 6) (Store.getById ⟨none⟩ 2)).1
        = .error (.corrupt 2 "token is encrypted but no token key is configured") := by
  obtain ⟨-, -, -, hread, hkeyless, -⟩ := store_refines_map openAt_credentials proper_visits
  have hrun : visits.foldl after (.start .fresh)
      = (visits.eraseIdx 1).foldl after (.start .fresh) := by
    simp only [visits, List.foldl_cons, List.eraseIdx]
    rw [after_reopen _ _ isKept_credentials rfl]
  have hfirst : (visits.foldl after (.start .fresh)).kept 1
      = some ⟨{ changed with audit := sample.audit }, none⟩ := by
    rw [hrun]
    decide +kernel
  have hsecond : (visits.foldl after (.start .fresh)).kept 2
      = some ⟨{ sample with id := 2 }, (keyed 2).key⟩ := by
    rw [hrun]
    decide +kernel
  exact ⟨hread 1 _ hfirst _ _ (.inl rfl), hkeyless 2 _ hsecond nofun _ _ rfl⟩

end Archive

end CredRegistry
