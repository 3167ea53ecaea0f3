import CredRegistry.Proofs.Store.Archive
import Mathlib.Data.List.Forall2

/-!
# A store is a list of credentials

What `Archive` shows of any number of stores is sharper for one store that has its database to
itself: the table is a list of credentials, numbered from one. `Store.Lists` says so, and there is
one lemma for each thing that can be asked of the store. A create adds to the end of the list, an
update changes the members with its id, and each look-up is a look-up in the list.
-/

namespace CredRegistry

open CredRegistry.Cipher

/-- Lists that are related member by member have related members in the same first place. -/
theorem find?_of_forall₂ {α β : Type} {R : α → β → Prop} {p : α → Bool} {q : β → Bool}
    (hpq : ∀ a b, R a b → p a = q b) {as : List α} {bs : List β} (h : List.Forall₂ R as bs) :
    (as.find? p = none ∧ bs.find? q = none) ∨
      ∃ a b, as.find? p = some a ∧ bs.find? q = some b ∧ R a b := by
  induction h with
  | nil => exact .inl ⟨rfl, rfl⟩
  | @cons a b as bs hab _ ih =>
      rw [List.find?_cons, List.find?_cons, hpq a b hab]
      cases q b with
      | true => exact .inr ⟨a, b, rfl, rfl, hab⟩
      | false => exact ih

theorem Provider.name_injective : Function.Injective Provider.name := by
  intro p p' h
  have hread := Provider.ofText?_name p
  rw [h, Provider.ofText?_name p'] at hread
  exact (Option.some.inj hread).symm

namespace Store

/-- A row holds a credential as the store has written it. -/
structure Wrote (s : Store) (r : Int × CellRow) (c : Credential) : Prop where
  id : r.1 = c.id
  proper : c.Proper
  cells : ∃ nonce, r.2 = .ofRow (s.written nonce c)

/-- The rows are these credentials, one after the other, and their ids count them. -/
structure Lists (s : Store) (t : Table) (cs : List Credential) : Prop where
  rows : List.Forall₂ s.Wrote t.rows cs
  ids : cs.map (·.id) = (List.range cs.length).map fun n : Nat => (n : Int) + 1
  lastId : t.lastId = cs.length

variable {s : Store} {t : Table} {cs : List Credential} {r : Int × CellRow} {c : Credential}

theorem Wrote.read (h : s.Wrote r c) :
    ∃ row, Database.readRow r = .ok row ∧ s.ofRow row = .ok c := by
  obtain ⟨hid, hproper, nonce, hcells⟩ := h
  refine ⟨s.written nonce c, ?_, ofRow_written nonce hproper (.inr rfl)⟩
  rw [Database.readRow, hcells, hid, read_written _ _ hproper]

theorem Wrote.provider (h : s.Wrote r c) (p : Provider) :
    r.2.provider = .text p.name ↔ c.provider = p := by
  obtain ⟨-, -, nonce, hcells⟩ := h
  have hprovider : r.2.provider = .text c.provider.name := by
    rw [hcells]
    obtain ⟨_ | key⟩ := s <;> rfl
  rw [hprovider, Cell.text.injEq]
  exact ⟨fun heq => Provider.name_injective heq, congrArg Provider.name⟩

theorem lists_empty (s : Store) : s.Lists .empty [] := ⟨.nil, rfl, rfl⟩

theorem Lists.id_le (h : s.Lists t cs) (hr : r ∈ t.rows) : r.1 ≤ t.lastId := by
  obtain ⟨i, hi, rfl⟩ := List.getElem_of_mem hr
  have hi' : i < cs.length := h.rows.length_eq ▸ hi
  have hwrote : s.Wrote t.rows[i] cs[i] := h.rows.get hi hi'
  have hcs : (cs.map (·.id))[i]? = some ((i : Int) + 1) := by
    rw [h.ids, List.getElem?_map, List.getElem?_range hi']
    rfl
  have hid : cs[i].id = (i : Int) + 1 := by
    rw [List.getElem?_map, List.getElem?_eq_getElem hi'] at hcs
    exact Option.some.inj hcs
  rw [hwrote.id, h.lastId, hid]
  omega

theorem Lists.proper (h : s.Lists t cs) (hc : c ∈ cs) : c.Proper := by
  obtain ⟨i, hi, rfl⟩ := List.getElem_of_mem hc
  have hi' : i < t.rows.length := h.rows.length_eq ▸ hi
  exact (h.rows.get hi' hi : s.Wrote t.rows[i] cs[i]).proper

/-! ## Writing -/

theorem Lists.create (h : s.Lists t cs) (versions : Option (List Nat)) (nonce : Nonce)
    (hc : c.Proper) (hroom : cs.length < 0x7FFFFFFFFFFFFFFF) :
    ∃ t', Database.perform ⟨versions, .present t⟩ nonce (s.create c)
        = (.ok { c with id := cs.length + 1 }, ⟨versions, .present t'⟩) ∧
      s.Lists t' (cs ++ [{ c with id := cs.length + 1 }]) := by
  have hfull : ¬Cell.integerBounds.2 < t.lastId + 1 := by
    rw [h.lastId, Cell.integerBounds]
    omega
  refine ⟨⟨t.rows ++ [(t.lastId + 1, .ofRow (s.written nonce c))], t.lastId + 1⟩, ?_, ?_, ?_, ?_⟩
  · rw [Database.perform_create, Database.answer_insert fun _ hr => h.id_le hr, if_neg hfull,
      h.lastId]
  · refine List.rel_append h.rows (.cons ⟨?_, ⟨hc.1, hc.2, hc.3, hc.4⟩, nonce, ?_⟩ .nil)
    · exact congrArg (· + 1) h.lastId
    · obtain ⟨_ | key⟩ := s <;> simp only [written, rowOf, CellRow.ofRow]
  · simp only [List.map_append, h.ids, List.length_append, List.length_singleton,
      List.range_succ, List.map_singleton]
  · simp [h.lastId]

/-- When all ids have been handed out nothing more is stored. -/
theorem Lists.create_of_full (h : s.Lists t cs) (versions : Option (List Nat)) (nonce : Nonce)
    (c : Credential) (hfull : ¬cs.length < 0x7FFFFFFFFFFFFFFF) :
    Database.perform ⟨versions, .present t⟩ nonce (s.create c)
      = (.error (.database (.statement .full)), ⟨versions, .present t⟩) := by
  have hlast : Cell.integerBounds.2 < t.lastId + 1 := by
    rw [h.lastId, Cell.integerBounds]
    omega
  rw [Database.perform_create, Database.answer_insert fun _ hr => h.id_le hr, if_pos hlast]
  rfl

theorem Lists.update (h : s.Lists t cs) (versions : Option (List Nat)) (nonce : Nonce)
    (hc : c.Proper) :
    ∃ t', Database.perform ⟨versions, .present t⟩ nonce (s.update c)
        = (.ok (), ⟨versions, .present t'⟩) ∧
      s.Lists t' (cs.map fun old => if old.id = c.id then c.withCreationOf old else old) := by
  have hid : (s.written nonce c).id = c.id := by
    obtain ⟨_ | key⟩ := s <;> rfl
  refine ⟨(t.alter c.id (·.overwrite (s.written nonce c))).2, ?_, ?_, ?_, ?_⟩
  · rw [Database.perform_update]
    simp only [Database.answer, hid]
  · refine List.forall₂_map_left_iff.mpr (List.forall₂_map_right_iff.mpr (h.rows.imp ?_))
    intro r old hold
    obtain ⟨hr, hproper, nonce', hcells⟩ := hold
    by_cases hrow : old.id = c.id
    · rw [if_pos (hr.trans hrow), if_pos hrow]
      dsimp only
      rw [hcells, overwrite_written]
      exact ⟨hr.trans hrow, ⟨hproper.createdBy, hproper.createdOn, hc.updatedBy, hc.updatedOn⟩,
        nonce, rfl⟩
    · rw [if_neg (hr ▸ hrow), if_neg hrow]
      exact ⟨hr, hproper, nonce', hcells⟩
  · rw [List.length_map, ← h.ids, List.map_map]
    refine List.map_congr_left fun old _ => ?_
    by_cases hrow : old.id = c.id
    · simp only [Function.comp, hrow]
      rfl
    · simp only [Function.comp, if_neg hrow]
  · rw [List.length_map]
    exact h.lastId

/-! ## Reading -/

theorem getById_of_row {row : Row} (versions : Option (List Nat)) (nonce : Nonce) {id : Int}
    (hr : t.rows.find? (·.1 = id) = some r) (hread : Database.readRow r = .ok row)
    (hof : s.ofRow row = .ok c) :
    (Database.perform ⟨versions, .present t⟩ nonce (s.getById id)).1 = .ok (some c) := by
  rw [Database.perform_getById]
  simp only [Database.answer, hr, Database.readRow?, hread]
  exact congrArg (some <$> ·) hof

theorem Lists.getById (h : s.Lists t cs) (versions : Option (List Nat)) (nonce : Nonce)
    (id : Int) : (Database.perform ⟨versions, .present t⟩ nonce (s.getById id)).1
      = .ok (cs.find? (·.id = id)) := by
  have hfind := find?_of_forall₂ (p := (·.1 = id)) (q := (·.id = id))
    (fun r c hrc => by rw [hrc.id]) h.rows
  rcases hfind with ⟨hrow, hc⟩ | ⟨r, c, hrow, hc, hwrote⟩
  · rw [Database.perform_getById]
    simp only [Database.answer, hrow, hc]
    rfl
  · obtain ⟨row, hread, hof⟩ := hwrote.read
    rw [getById_of_row versions nonce hrow hread hof, hc]

theorem Lists.getByProvider (h : s.Lists t cs) (versions : Option (List Nat)) (nonce : Nonce)
    (p : Provider) : (Database.perform ⟨versions, .present t⟩ nonce (s.getByProvider p)).1
      = .ok (cs.find? (·.provider = p)) := by
  have hfind := find?_of_forall₂ (p := (·.2.provider = .text p.name)) (q := (·.provider = p))
    (fun r c hrc => decide_eq_decide.mpr (hrc.provider p)) h.rows
  rw [Store.getByProvider, Database.perform_bind, Database.perform_call]
  rcases hfind with ⟨hrow, hc⟩ | ⟨r, c, hrow, hc, hwrote⟩
  · simp only [Database.answer, hrow, hc]
    rfl
  · obtain ⟨row, hread, hof⟩ := hwrote.read
    simp only [Database.answer, hrow, hc, Database.readRow?, hread]
    exact congrArg (some <$> ·) hof

theorem Lists.getAll (h : s.Lists t cs) (versions : Option (List Nat)) (nonce : Nonce) :
    (Database.perform ⟨versions, .present t⟩ nonce s.getAll).1 = .ok cs := by
  have hread : ∃ rows, t.rows.mapM Database.readRow = .ok rows ∧ rows.mapM s.ofRow = .ok cs := by
    have hrows := h.rows
    clear h
    generalize t.rows = rs at hrows
    induction hrows with
    | nil => exact ⟨[], rfl, rfl⟩
    | cons hwrote _ ih =>
        obtain ⟨row, hr, hc⟩ := hwrote.read
        obtain ⟨rows, hrs, hcs⟩ := ih
        refine ⟨row :: rows, ?_, ?_⟩
        · rw [List.mapM_cons, hr, hrs]
          rfl
        · rw [List.mapM_cons, hc, hcs]
          rfl
  obtain ⟨rows, hrows, hof⟩ := hread
  rw [Store.getAll, Database.perform_bind, Database.perform_call]
  simp only [Database.answer, hrows]
  exact hof

/-! ## In a database of any content -/

section

variable {db : Database} {stored : Credential}

/-- What was just created can be looked up. -/
theorem getById_of_create {nonce : Nonce} (hc : c.Proper)
    (h : (db.perform nonce (s.create c)).1 = .ok stored) (nonce' : Nonce) :
    stored = { c with id := stored.id } ∧ ((db.perform nonce (s.create c)).2.perform nonce'
      (s.getById stored.id)).1 = .ok (some stored) := by
  rw [Database.perform_create] at h ⊢
  cases ht : db.table with
  | present t =>
      by_cases hfull : Cell.integerBounds.2 < t.greatestId + 1
      · simp only [Database.answer, ht, Table.insert, if_pos hfull, Database.failed] at h
        cases h
      · simp only [Database.answer, ht, Table.insert, if_neg hfull] at h ⊢
        cases h
        have hwrote : s.Wrote (t.greatestId + 1, .ofRow (s.written nonce c))
            { c with id := t.greatestId + 1 } := by
          refine ⟨rfl, ⟨hc.1, hc.2, hc.3, hc.4⟩, nonce, ?_⟩
          obtain ⟨_ | key⟩ := s <;> simp only [written, rowOf, CellRow.ofRow]
        have hrow : (t.rows ++ [(t.greatestId + 1, CellRow.ofRow (s.written nonce c))]).find?
            (·.1 = t.greatestId + 1) = some (t.greatestId + 1, .ofRow (s.written nonce c)) := by
          have hnone : t.rows.find? (·.1 = t.greatestId + 1) = none := by
            refine List.find?_eq_none.mpr fun r hr hrid => ?_
            have hle := Table.le_greatestId hr
            have hid : r.1 = t.greatestId + 1 := of_decide_eq_true hrid
            omega
          simp [List.find?_append, hnone]
        obtain ⟨row, hread, hof⟩ := hwrote.read
        exact ⟨rfl, getById_of_row _ nonce' hrow hread hof⟩
  | absent =>
      simp only [Database.answer, ht, Database.misfit, Database.failed] at h
      cases h
  | foreign =>
      simp only [Database.answer, ht, Database.misfit, Database.failed] at h
      cases h

/-- A credential is found only in a row that can be read. -/
theorem row_of_getById {id : Int} {nonce : Nonce}
    (h : (db.perform nonce (s.getById id)).1 = .ok (some stored)) :
    ∃ t cells row, db.table = .present t ∧ t.rows.find? (·.1 = id) = some (id, cells) ∧
      cells.read id = .ok row ∧ s.ofRow row = .ok stored := by
  rw [Database.perform_getById] at h
  cases ht : db.table with
  | present t =>
      simp only [Database.answer, ht] at h
      cases hr : t.rows.find? (·.1 = id) with
      | none =>
          rw [hr] at h
          cases h
      | some r =>
          obtain ⟨id', cells⟩ := r
          obtain rfl : id' = id := by simpa using List.find?_some hr
          rw [hr] at h
          simp only [Database.readRow?, Database.readRow] at h
          cases hread : cells.read id' with
          | error fault =>
              rw [hread] at h
              cases h
          | ok row =>
              rw [hread] at h
              change some <$> s.ofRow row = .ok (some stored) at h
              cases hof : s.ofRow row with
              | error e =>
                  rw [hof] at h
                  cases h
              | ok c =>
                  rw [hof] at h
                  cases h
                  exact ⟨t, cells, row, rfl, hr, hread, hof⟩
  | absent =>
      simp only [Database.answer, ht, Database.misfit, Database.failed] at h
      cases h
  | foreign =>
      simp only [Database.answer, ht, Database.misfit, Database.failed] at h
      cases h

theorem id_of_getById {id : Int} {nonce : Nonce}
    (h : (db.perform nonce (s.getById id)).1 = .ok (some stored)) : stored.id = id := by
  obtain ⟨t, cells, row, -, -, hread, hof⟩ := row_of_getById h
  exact (id_of_ofRow hof).trans (id_of_read hread)

/-- What has overwritten a credential that could be looked up can be looked up, with the
creation of that one. -/
theorem getById_of_update {id : Int} {nonce₀ : Nonce}
    (h : (db.perform nonce₀ (s.getById id)).1 = .ok (some stored)) (hid : c.id = id)
    (hby : CellRow.IsSmall c.audit.updatedBy) (hon : c.audit.updatedOn.Proper)
    (nonce nonce' : Nonce) : ((db.perform nonce (s.update c)).2.perform nonce' (s.getById id)).1
      = .ok (some (c.withCreationOf stored)) := by
  obtain ⟨t, cells, old, ht, hr, hread, hof⟩ := row_of_getById h
  have hwritten : (s.written nonce c).id = id := by
    obtain ⟨_ | key⟩ := s <;> exact hid
  have hupdatedBy : (s.written nonce c).updatedBy = c.audit.updatedBy := by
    obtain ⟨_ | key⟩ := s <;> rfl
  have hfind : (t.alter id (·.overwrite (s.written nonce c))).2.rows.find? (·.1 = id)
      = some (id, cells.overwrite (s.written nonce c)) := by
    have hsame : (fun r : Int × CellRow => decide (r.1 = id)) ∘ (fun r =>
        if r.1 = id then (r.1, r.2.overwrite (s.written nonce c)) else r)
        = fun r => decide (r.1 = id) := by
      funext r
      simp only [Function.comp]
      split <;> rfl
    rw [Table.alter, List.find?_map, hsame, hr, Option.map_some, if_pos rfl]
  have hoverwritten : (cells.overwrite (s.written nonce c)).read id
      = .ok { s.written nonce c with createdBy := old.createdBy, createdOn := old.createdOn } :=
    read_overwrite hread hwritten (hupdatedBy ▸ hby)
  rw [Database.perform_update]
  simp only [Database.answer, ht, hwritten]
  refine getById_of_row _ nonce' hfind ?_ (ofRow_overwritten hof nonce hon)
  rw [Database.readRow, hoverwritten]

end

end Store

end CredRegistry
