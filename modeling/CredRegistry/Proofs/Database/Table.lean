import CredRegistry.Database.Location

/-!
# A database from call to call

What the calls of a store do to a table: a new row comes after all others, under the next id
(`answer_insert`), an update alters the rows with one id and no others, and reading alters
nothing. The next id is the one after the last that was handed out, as long as no row has an id
beyond that one.

Two things hold of every table that the calls can make: the ids are a key (`Table.Keyed`), and the
rows are in their order (`Table.Ordered`). What inserting, altering and renumbering keep is kept
by every call (`answer_keeps`) and by every change of a cell (`setCell_keeps`).

Opening a database for the first time makes the table (`openAt_new`). Opening it again leaves it
as it is, if it is one that is found again (`reopen_of_versions`), even where opening fails.
-/

namespace CredRegistry

/-! ## Tables -/

namespace Table

/-- The next id follows the last that was handed out, if no id is beyond that one. -/
theorem greatestId_eq {t : Table} (h : ∀ r ∈ t.rows, r.1 ≤ t.lastId) : t.greatestId = t.lastId := by
  obtain ⟨rows, lastId⟩ := t
  change rows.foldl (fun n r => max n r.1) lastId = lastId
  induction rows with
  | nil => rfl
  | cons r rows ih =>
      rw [List.foldl_cons, Int.max_eq_left (h r (by simp))]
      exact ih fun r' hr' => h r' (by simp [hr'])

theorem find?_append_of_ne {rows : List (Int × CellRow)} {id id' : Int} (c : CellRow)
    (lastId lastId' : Int) (h : id' ≠ id) :
    (Table.mk (rows ++ [(id, c)]) lastId').find? id' = (Table.mk rows lastId).find? id' := by
  simp only [find?]
  induction rows with
  | nil => simp [List.lookup_cons, beq_eq_false_iff_ne.mpr h]
  | cons r rows ih =>
      rw [List.cons_append, List.lookup_cons, List.lookup_cons, ih]

theorem find?_alter_of_ne {t : Table} {id id' : Int} (f : CellRow → CellRow) (h : id' ≠ id) :
    (t.alter id f).2.find? id' = t.find? id' := by
  obtain ⟨rows, lastId⟩ := t
  simp only [find?, alter]
  induction rows with
  | nil => rfl
  | cons r rows ih =>
      by_cases hr : r.1 = id
      · have hne : (id' == r.1) = false := beq_eq_false_iff_ne.mpr (hr ▸ h)
        rw [List.map_cons, if_pos hr, List.lookup_cons, List.lookup_cons, ih]
        simp only [hne]
      · rw [List.map_cons, if_neg hr, List.lookup_cons, List.lookup_cons, ih]

theorem alter_of_not_mem {t : Table} {id : Int} (f : CellRow → CellRow)
    (h : id ∉ t.rows.map (·.1)) : (t.alter id f).2 = t := by
  have hsame : t.rows.map (fun r => if r.1 = id then (r.1, f r.2) else r) = t.rows := by
    refine (List.map_congr_left fun r hr => if_neg ?_).trans (List.map_id t.rows)
    rintro rfl
    exact h (List.mem_map_of_mem hr)
  rw [alter, hsame]

theorem ids_alter (t : Table) (id : Int) (f : CellRow → CellRow) :
    (t.alter id f).2.rows.map (·.1) = t.rows.map (·.1) := by
  rw [alter, List.map_map]
  refine List.map_congr_left fun r _ => ?_
  simp only [Function.comp]
  split <;> rfl

/-- No two rows have one id. -/
def Keyed (t : Table) : Prop := (t.rows.map (·.1)).Nodup

theorem le_greatestId {t : Table} {r : Int × CellRow} (hr : r ∈ t.rows) : r.1 ≤ t.greatestId := by
  have hgrows (rs : List (Int × CellRow)) : ∀ n : Int,
      n ≤ rs.foldl (fun n r => max n r.1) n ∧
        ∀ r ∈ rs, r.1 ≤ rs.foldl (fun n r => max n r.1) n := by
    induction rs with
    | nil => exact fun n => ⟨Int.le_refl n, fun _ hr => absurd hr List.not_mem_nil⟩
    | cons r' rs ih =>
        intro n
        obtain ⟨hstart, hrest⟩ := ih (max n r'.1)
        refine ⟨Int.le_trans (Int.le_max_left ..) hstart, fun r hr => ?_⟩
        rcases List.mem_cons.mp hr with rfl | hr
        · exact Int.le_trans (Int.le_max_right ..) hstart
        · exact hrest r hr
  exact (hgrows t.rows t.lastId).2 r hr

/-- A new row comes last, with an id beyond all others. -/
theorem rows_of_insert {t t' : Table} {r : Row} {id : Int} (h : t.insert r = .ok (id, t')) :
    t'.rows = t.rows ++ [(id, .ofRow r)] ∧ ∀ id' ∈ t.rows.map (·.1), id' < id := by
  by_cases hfull : Cell.integerBounds.2 < t.greatestId + 1
  · simp only [Table.insert, if_pos hfull] at h
    cases h
  · simp only [Table.insert, if_neg hfull] at h
    cases h
    refine ⟨rfl, fun id' hid' => ?_⟩
    obtain ⟨r', hr', rfl⟩ := List.mem_map.mp hid'
    have := le_greatestId hr'
    omega

theorem Keyed.insert {t t' : Table} {r : Row} {id : Int} (h : t.Keyed)
    (ht' : t.insert r = .ok (id, t')) : t'.Keyed := by
  obtain ⟨hrows, hbeyond⟩ := rows_of_insert ht'
  rw [Keyed, hrows, List.map_append, List.map_singleton, List.nodup_append]
  refine ⟨h, by simp, fun id' hid' last hlast => ?_⟩
  rw [List.mem_singleton.mp hlast]
  exact Int.ne_of_lt (hbeyond id' hid')

theorem Keyed.alter {t : Table} (h : t.Keyed) (id : Int) (f : CellRow → CellRow) :
    (t.alter id f).2.Keyed := by
  rw [Keyed, ids_alter]
  exact h

theorem place_perm (r : Int × CellRow) (rs : List (Int × CellRow)) :
    (place r rs).Perm (r :: rs) := by
  induction rs with
  | nil => exact .refl _
  | cons r' rs ih =>
      unfold place
      split
      · exact .refl _
      · exact (ih.cons r').trans (.swap r r' rs)

/-- A row with a new id is put in its place among the others, and none of those has that id. -/
theorem rows_of_renumber {t t' : Table} {id : Int} {v : Cell} {n : Nat}
    (h : t.renumber id v = .ok (n, t')) : t' = t ∨
      ∃ r, t'.rows = place r (t.rows.filter (·.1 ≠ id)) ∧
        r.1 ∉ (t.rows.filter (·.1 ≠ id)).map (·.1) := by
  unfold Table.renumber at h
  split at h
  · cases h
    exact .inl rfl
  · rename_i c new hlookup hv
    by_cases htaken : (t.rows.filter (·.1 ≠ id)).any (·.1 = new) = true
    · simp only [if_pos htaken] at h
      cases h
    · simp only [if_neg htaken] at h
      cases h
      refine .inr ⟨(new, c), rfl, fun hmem => ?_⟩
      obtain ⟨r, hr, hnew⟩ := List.mem_map.mp hmem
      exact htaken (List.any_eq_true.mpr ⟨r, hr, decide_eq_true hnew⟩)
  · cases h

theorem Keyed.renumber {t t' : Table} {id : Int} {v : Cell} {n : Nat} (h : t.Keyed)
    (ht' : t.renumber id v = .ok (n, t')) : t'.Keyed := by
  rcases rows_of_renumber ht' with rfl | ⟨r, hrows, hfree⟩
  · exact h
  · rw [Keyed, hrows, ((place_perm _ _).map _).nodup_iff, List.map_cons, List.nodup_cons]
    exact ⟨hfree, (List.filter_sublist.map _).nodup h⟩

/-- The rows are in the order of their ids, and no two have one id. -/
def Ordered (t : Table) : Prop := (t.rows.map (·.1)).Pairwise (· < ·)

theorem ordered_empty : empty.Ordered := List.Pairwise.nil

theorem Ordered.keyed {t : Table} (h : t.Ordered) : t.Keyed := h.imp Int.ne_of_lt

theorem Ordered.insert {t t' : Table} {r : Row} {id : Int} (h : t.Ordered)
    (ht' : t.insert r = .ok (id, t')) : t'.Ordered := by
  obtain ⟨hrows, hbeyond⟩ := rows_of_insert ht'
  rw [Ordered, hrows, List.map_append, List.map_singleton, List.pairwise_append]
  refine ⟨h, List.pairwise_singleton _ _, fun id' hid' last hlast => ?_⟩
  rw [List.mem_singleton.mp hlast]
  exact hbeyond id' hid'

theorem Ordered.alter {t : Table} (h : t.Ordered) (id : Int) (f : CellRow → CellRow) :
    (t.alter id f).2.Ordered := by
  rw [Ordered, ids_alter]
  exact h

theorem pairwise_place {r : Int × CellRow} {rs : List (Int × CellRow)}
    (h : (rs.map (·.1)).Pairwise (· < ·)) (hr : r.1 ∉ rs.map (·.1)) :
    ((place r rs).map (·.1)).Pairwise (· < ·) := by
  induction rs with
  | nil => exact List.pairwise_singleton _ _
  | cons r' rs ih =>
      obtain ⟨hfirst, hrest⟩ := List.pairwise_cons.mp h
      obtain ⟨hne, hnot⟩ := not_or.mp (mt List.mem_cons.mpr hr)
      unfold place
      split
      next hlt =>
        refine List.pairwise_cons.mpr ⟨fun id hid => ?_, h⟩
        rcases List.mem_cons.mp hid with rfl | hid
        · exact hlt
        · exact Int.lt_trans hlt (hfirst id hid)
      next hle =>
        refine List.pairwise_cons.mpr ⟨fun id hid => ?_, ih hrest hnot⟩
        rcases List.mem_cons.mp (((place_perm r rs).map _).mem_iff.mp hid) with rfl | hid
        · exact Int.lt_iff_le_and_ne.mpr ⟨Int.not_lt.mp hle, Ne.symm hne⟩
        · exact hfirst id hid

theorem Ordered.renumber {t t' : Table} {id : Int} {v : Cell} {n : Nat} (h : t.Ordered)
    (ht' : t.renumber id v = .ok (n, t')) : t'.Ordered := by
  rcases rows_of_renumber ht' with rfl | ⟨r, hrows, hfree⟩
  · exact h
  · rw [Ordered, hrows]
    exact pairwise_place (h.sublist (List.filter_sublist.map _)) hfree

end Table

/-! ## Calls -/

namespace Database

theorem answer_findById (db : Database) (id : Int) : (db.answer (.findById id)).2 = db := by
  unfold answer
  split <;> rfl

theorem answer_findAll (db : Database) : (db.answer .findAll).2 = db := by
  unfold answer
  split <;> rfl

theorem answer_findByProvider (db : Database) (p : String) :
    (db.answer (.findByProvider p)).2 = db := by
  unfold answer
  split <;> rfl

theorem answer_insert {t : Table} (h : ∀ r ∈ t.rows, r.1 ≤ t.lastId) (versions : Option (List Nat))
    (r : Row) : (Database.mk versions (.present t)).answer (.insert r) =
      if Cell.integerBounds.2 < t.lastId + 1 then (failed .full, ⟨versions, .present t⟩)
      else (.ok (t.lastId + 1),
        ⟨versions, .present ⟨t.rows ++ [(t.lastId + 1, .ofRow r)], t.lastId + 1⟩⟩) := by
  by_cases hfull : Cell.integerBounds.2 < t.lastId + 1
  · simp only [answer, Table.insert, Table.greatestId_eq h, if_pos hfull]
  · simp only [answer, Table.insert, Table.greatestId_eq h, if_neg hfull]

/-- What inserting and altering keep of a table is kept whatever is asked of the database. -/
theorem answer_keeps {P : Table → Prop}
    (hinsert : ∀ {t r id t'}, P t → t.insert r = .ok (id, t') → P t')
    (halter : ∀ {t}, P t → ∀ id f, P (t.alter id f).2) {db : Database} {t : Table}
    (ht : db.table = .present t) (h : P t) (c : DatabaseCall) :
    ∃ t', (db.answer c).2.table = .present t' ∧ P t' := by
  cases c with
  | insert r =>
      simp only [answer, ht]
      cases hresult : t.insert r with
      | error fault => exact ⟨t, ht, h⟩
      | ok result => exact ⟨result.2, rfl, hinsert h hresult⟩
  | update r =>
      simp only [answer, ht]
      exact ⟨_, rfl, halter h _ _⟩
  | findById id => exact ⟨t, (congrArg table (answer_findById db id)).trans ht, h⟩
  | findAll => exact ⟨t, (congrArg table (answer_findAll db)).trans ht, h⟩
  | findByProvider p => exact ⟨t, (congrArg table (answer_findByProvider db p)).trans ht, h⟩

/-- What altering and renumbering keep of a table is kept whatever is put into a cell. -/
theorem setCell_keeps {P : Table → Prop} (halter : ∀ {t}, P t → ∀ id f, P (t.alter id f).2)
    (hrenumber : ∀ {t id v n t'}, P t → t.renumber id v = .ok (n, t') → P t')
    {db db' : Database} {t : Table} {id : Int} {column : String} {v : Cell} {n : Nat}
    (ht : db.table = .present t) (h : P t) (hset : db.setCell id column v = .ok (n, db')) :
    ∃ t', db'.table = .present t' ∧ P t' := by
  simp only [setCell, ht] at hset
  split at hset
  · cases hnumber : t.renumber id v with
    | error fault => simp [hnumber, failed] at hset
    | ok result =>
        simp only [hnumber] at hset
        cases hset
        exact ⟨result.2, rfl, hrenumber h hnumber⟩
  · split at hset
    · simp [failed] at hset
    · cases hset
      exact ⟨_, rfl, halter h _ _⟩

/-- Whatever is asked of a database, the ids of its table stay a key. -/
theorem keyed_answer {db : Database} {t : Table} (ht : db.table = .present t) (h : t.Keyed)
    (c : DatabaseCall) : ∃ t', (db.answer c).2.table = .present t' ∧ t'.Keyed :=
  answer_keeps Table.Keyed.insert Table.Keyed.alter ht h c

/-- Nor is there a cell whose change makes two ids the same. -/
theorem keyed_setCell {db db' : Database} {t : Table} {id : Int} {column : String} {v : Cell}
    {n : Nat} (ht : db.table = .present t) (h : t.Keyed)
    (hset : db.setCell id column v = .ok (n, db')) : ∃ t', db'.table = .present t' ∧ t'.Keyed :=
  setCell_keeps Table.Keyed.alter Table.Keyed.renumber ht h hset

/-- Nor do the rows ever leave the order of their ids. -/
theorem ordered_answer {db : Database} {t : Table} (ht : db.table = .present t) (h : t.Ordered)
    (c : DatabaseCall) : ∃ t', (db.answer c).2.table = .present t' ∧ t'.Ordered :=
  answer_keeps Table.Ordered.insert Table.Ordered.alter ht h c

theorem ordered_setCell {db db' : Database} {t : Table} {id : Int} {column : String} {v : Cell}
    {n : Nat} (ht : db.table = .present t) (h : t.Ordered)
    (hset : db.setCell id column v = .ok (n, db')) :
    ∃ t', db'.table = .present t' ∧ t'.Ordered :=
  setCell_keeps Table.Ordered.alter Table.Ordered.renumber ht h hset

end Database

/-! ## Opening -/

/-- Where nobody listens, reports are passed over. -/
instance : Log.MonadLog Id := ⟨fun _ => ()⟩

/-- Is the database of a location found again when it is opened again? -/
def DatabaseLocation.IsKept : DatabaseLocation → Prop
  | .memory => True
  | .file text => ∀ a, DatabaseAddress.ofText text = .ok a → a.isKept = true

namespace Database

/-- A database as it is after the first opening. -/
def fresh : Database := ⟨some [1], .present .empty⟩

theorem ready_new (location : DatabaseLocation) :
    ready (m := Id) location .new = (.ok 1, fresh) := rfl

theorem ready_of_versions (location : DatabaseLocation) {db : Database}
    (h : db.versions = some [1]) : ready (m := Id) location db = (.ok 1, db) := by
  obtain ⟨versions, table⟩ := db
  subst h
  rfl

theorem openAt_new {fs : FileSystem} {location : DatabaseLocation} {version : Nat} {db : Database}
    (h : openAt (m := Id) fs location .new = (.ok version, db)) : db = fresh := by
  cases location with
  | memory =>
      rw [openAt, ready_new] at h
      exact (congrArg Prod.snd h).symm
  | file text =>
      rw [openAt] at h
      split at h
      · cases congrArg Prod.fst h
      · rw [ite_self, ready_new] at h
        exact (congrArg Prod.snd h).symm

theorem ofText_of_locate {fs : FileSystem} {text : String} {a : DatabaseAddress}
    (h : locate fs text = .ok a) : DatabaseAddress.ofText text = .ok a := by
  simp only [locate, bind, Except.bind] at h
  split at h
  next =>
    split at h
    · cases h
    next ha =>
      split at h
      · cases h
      · cases h
        exact ha
  next => cases h

theorem reopen_of_versions (fs : FileSystem) {location : DatabaseLocation} {db : Database}
    (hkept : location.IsKept) (h : db.versions = some [1]) :
    (reopen (m := Id) fs location db).2 = db := by
  cases location with
  | memory => rfl
  | file text =>
      rw [reopen, openAt]
      split
      · rfl
      next a ha =>
        rw [if_pos (hkept a (ofText_of_locate ha)), ready_of_versions _ h]

end Database

end CredRegistry
