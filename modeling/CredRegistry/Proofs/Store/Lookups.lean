import CredRegistry.Proofs.Store.Listing
import Mathlib.Data.List.Nodup

/-!
# Three ways to look credentials up

A credential is looked up by its id, by its provider, or with all others. All three read the rows
of the table in the same way, `Store.readRow`, whoever has written them. `lookups_agree` sets the
three side by side over a table of any content: all credentials can be had at once exactly if each
can be had by its id, and then they are these, in the order of the ids.

The name of a provider is read in any case, but the rows of a provider are found by its name as
the store writes it. So a row that spells the name in another way is passed over: the lookup by
provider gives the first credential of a provider only if the first row of the provider spells
the name as it is (`lookups_differ` has a row that does not).
-/

namespace CredRegistry

/-- The provider that the text in a row is read as. -/
def CellRow.provider? (c : CellRow) : Option Provider :=
  match c.provider with
  | .text s => Provider.ofText? s
  | _ => none

theorem CellRow.provider?_of_name {c : CellRow} {p : Provider} (h : c.provider = .text p.name) :
    c.provider? = some p := by
  rw [provider?, h]
  exact Provider.ofText?_name p

/-- The members of a list that a function gives something for, all of them or none. -/
theorem mapM_eq_ok {ε α β : Type} {f : α → Except ε β} {as : List α} {bs : List β} :
    as.mapM f = .ok bs ↔ List.Forall₂ (fun a b => f a = .ok b) as bs := by
  induction as generalizing bs with
  | nil =>
      constructor
      · intro h
        cases h
        exact .nil
      · intro h
        cases h
        rfl
  | cons a as ih =>
      rw [List.mapM_cons]
      constructor
      · intro h
        cases ha : f a with
        | error e =>
            rw [ha] at h
            cases h
        | ok b =>
            cases has : as.mapM f with
            | error e =>
                rw [ha, has] at h
                cases h
            | ok bs' =>
                rw [ha, has] at h
                cases h
                exact .cons ha (ih.mp has)
      · intro h
        cases h with
        | cons ha has =>
            rw [ha, ih.mpr has]
            rfl

theorem exists_forall₂ {α β : Type} {R : α → β → Prop} {as : List α} :
    (∃ bs, List.Forall₂ R as bs) ↔ ∀ a ∈ as, ∃ b, R a b := by
  induction as with
  | nil => exact ⟨nofun, fun _ => ⟨[], .nil⟩⟩
  | cons a as ih =>
      rw [List.forall_mem_cons, ← ih]
      constructor
      · rintro ⟨bs, h⟩
        cases h with
        | cons hab has => exact ⟨⟨_, hab⟩, _, has⟩
      · rintro ⟨⟨b, hab⟩, bs, has⟩
        exact ⟨b :: bs, .cons hab has⟩

theorem forall₂_comp {α β γ : Type} {R : α → β → Prop} {S : β → γ → Prop} {as : List α}
    {cs : List γ} : List.Forall₂ (fun a c => ∃ b, R a b ∧ S b c) as cs
      ↔ ∃ bs, List.Forall₂ R as bs ∧ List.Forall₂ S bs cs := by
  constructor
  · intro h
    induction h with
    | nil => exact ⟨[], .nil, .nil⟩
    | cons hac _ ih =>
        obtain ⟨b, hab, hbc⟩ := hac
        obtain ⟨bs, has, hbs⟩ := ih
        exact ⟨b :: bs, .cons hab has, .cons hbc hbs⟩
  · rintro ⟨bs, has, hbs⟩
    induction has generalizing cs with
    | nil =>
        cases hbs
        exact .nil
    | cons hab _ ih =>
        cases hbs with
        | cons hbc hbs => exact .cons ⟨_, hab, hbc⟩ (ih hbs)

/-- The first member with a property is also the first with a narrower one, if it has that. -/
theorem find?_of_imp {α : Type} {p q : α → Bool} {as : List α} {a : α}
    (h : as.find? p = some a) (hqp : ∀ a, q a = true → p a = true) (hq : q a = true) :
    as.find? q = some a := by
  obtain ⟨-, before, after, has, hbefore⟩ := List.find?_eq_some_iff_append.mp h
  refine List.find?_eq_some_iff_append.mpr ⟨hq, before, after, has, fun b hb => ?_⟩
  have hnot : p b = false := by simpa using hbefore b hb
  cases hqb : q b with
  | false => rfl
  | true => exact absurd (hqp b hqb) (by simp [hnot])

namespace Store

/-- What a store reads in a row of the table. -/
def readRow (s : Store) (r : Int × CellRow) : Except StoreError Credential :=
  match Database.readRow r with
  | .ok row => s.ofRow row
  | .error e => .error (.database e)

/-- What a store reads in a row that may be missing. -/
def readRow? (s : Store) : Option (Int × CellRow) → Except StoreError (Option Credential)
  | none => .ok none
  | some r => some <$> s.readRow r

variable {s : Store} {t : Table} {r : Int × CellRow} {c : Credential}

theorem readRow_eq_ok :
    s.readRow r = .ok c ↔ ∃ row, Database.readRow r = .ok row ∧ s.ofRow row = .ok c := by
  rw [readRow]
  cases Database.readRow r with
  | error e =>
      constructor
      · intro h
        cases h
      · rintro ⟨row, hnone, -⟩
        cases hnone
  | ok row =>
      constructor
      · intro h
        exact ⟨row, rfl, h⟩
      · rintro ⟨row', hrow, h⟩
        cases hrow
        exact h

theorem readRow?_eq_ok : s.readRow? (some r) = .ok (some c) ↔ s.readRow r = .ok c := by
  rw [readRow?]
  cases s.readRow r with
  | error e =>
      constructor
      · intro h
        cases h
      · intro h
        cases h
  | ok c' =>
      constructor
      · intro h
        cases h
        rfl
      · intro h
        cases h
        rfl

theorem read_of_readRow {row : Row} (h : Database.readRow r = .ok row) :
    r.2.read r.1 = .ok row := by
  rw [Database.readRow] at h
  cases hread : r.2.read r.1 with
  | error fault =>
      rw [hread] at h
      cases h
  | ok row' =>
      rw [hread] at h
      cases h
      rfl

theorem id_of_readRow (h : s.readRow r = .ok c) : c.id = r.1 := by
  obtain ⟨row, hrow, hof⟩ := readRow_eq_ok.mp h
  exact (id_of_ofRow hof).trans (id_of_read (read_of_readRow hrow))

theorem provider_of_read {cells : CellRow} {id : Int} {row : Row} (h : cells.read id = .ok row) :
    cells.provider = .text row.provider := by
  cases hp : cells.provider with
  | text name =>
      simp only [CellRow.read, hp, Cell.readText, bind, Except.bind] at h
      repeat (split at h; · cases h)
      cases h
      rfl
  | integer n =>
      simp only [CellRow.read, hp, Cell.readText, bind, Except.bind] at h
      cases h
  | real x =>
      simp only [CellRow.read, hp, Cell.readText, bind, Except.bind] at h
      cases h
  | blob bytes =>
      simp only [CellRow.read, hp, Cell.readText, bind, Except.bind] at h
      cases h

theorem provider_of_ofRow {row : Row} (h : s.ofRow row = .ok c) :
    Provider.ofText? row.provider = some c.provider := by
  simp only [ofRow, bind, Except.bind] at h
  split at h
  · cases h
  · repeat (split at h; · cases h)
    cases h
    assumption

theorem provider_of_readRow (h : s.readRow r = .ok c) : r.2.provider? = some c.provider := by
  obtain ⟨row, hrow, hof⟩ := readRow_eq_ok.mp h
  rw [CellRow.provider?, provider_of_read (read_of_readRow hrow)]
  exact provider_of_ofRow hof

/-- A provider's name is read in the same way however it is spelt. -/
theorem ofRow_respelt {row : Row} {name : String} {p : Provider}
    (hname : Provider.ofText? name = some p) (hrow : Provider.ofText? row.provider = some p) :
    s.ofRow { row with provider := name } = s.ofRow row := by
  simp only [ofRow, hname, hrow]
  rfl

/-! ## The lookups -/

section

variable (s t) (versions : Option (List Nat)) (nonce : Cipher.Nonce)

theorem getById_eq (id : Int) :
    (Database.perform ⟨versions, .present t⟩ nonce (s.getById id)).1
      = s.readRow? (t.rows.find? (·.1 = id)) := by
  rw [Database.perform_getById]
  simp only [Database.answer]
  cases t.rows.find? (·.1 = id) with
  | none => rfl
  | some r =>
      simp only [Database.readRow?, readRow?, readRow]
      cases Database.readRow r <;> rfl

theorem getByProvider_eq (p : Provider) :
    (Database.perform ⟨versions, .present t⟩ nonce (s.getByProvider p)).1
      = s.readRow? (t.rows.find? (·.2.provider = .text p.name)) := by
  rw [getByProvider, Database.perform_bind, Database.perform_call]
  simp only [Database.answer]
  cases t.rows.find? (·.2.provider = .text p.name) with
  | none => rfl
  | some r =>
      simp only [Database.readRow?, readRow?, readRow]
      cases Database.readRow r <;> rfl

theorem getAll_eq_ok {cs : List Credential} :
    (Database.perform ⟨versions, .present t⟩ nonce s.getAll).1 = .ok cs
      ↔ List.Forall₂ (fun r c => s.readRow r = .ok c) t.rows cs := by
  have hread : List.Forall₂ (fun r c => s.readRow r = .ok c) t.rows cs ↔
      ∃ rows, t.rows.mapM Database.readRow = .ok rows ∧ rows.mapM s.ofRow = .ok cs := by
    simp only [readRow_eq_ok, forall₂_comp, mapM_eq_ok]
  rw [getAll, Database.perform_bind, Database.perform_call, hread]
  simp only [Database.answer]
  cases t.rows.mapM Database.readRow with
  | error e =>
      constructor
      · intro h
        cases h
      · rintro ⟨rows, hnone, -⟩
        cases hnone
  | ok rows =>
      constructor
      · intro h
        exact ⟨rows, rfl, h⟩
      · rintro ⟨rows', hrows, h⟩
        cases hrows
        exact h

end

/-- In a table whose ids are a key the row with an id is the only one. -/
theorem find?_id (h : t.Keyed) (hr : r ∈ t.rows) : t.rows.find? (·.1 = r.1) = some r := by
  cases hfind : t.rows.find? (·.1 = r.1) with
  | none => exact absurd (List.find?_eq_none.mp hfind r hr) (by simp)
  | some r' =>
      have hid : r'.1 = r.1 := by simpa using List.find?_some hfind
      rw [List.inj_on_of_nodup_map h (List.mem_of_find?_eq_some hfind) hr hid]

/-! ## Their agreement -/

section

variable {cs : List Credential} {p : Provider}

/-- The credentials that a store reads have the ids of their rows. -/
theorem ids_of_readRow (h : List.Forall₂ (fun r c => s.readRow r = .ok c) t.rows cs) :
    cs.map (·.id) = t.rows.map (·.1) := by
  have hids : List.Forall₂ (· = ·) (cs.map (·.id)) (t.rows.map (·.1)) :=
    List.forall₂_map_left_iff.mpr (List.forall₂_map_right_iff.mpr
      (h.flip.imp fun _ _ hrc => id_of_readRow hrc))
  rwa [List.forall₂_eq_eq_eq] at hids

/-- The first row that is read as one of a provider gives the first of its credentials. -/
theorem find?_provider (h : List.Forall₂ (fun r c => s.readRow r = .ok c) t.rows cs)
    (p : Provider) :
    (t.rows.find? (·.2.provider? = some p) = none ∧ cs.find? (·.provider = p) = none) ∨
      ∃ r c, t.rows.find? (·.2.provider? = some p) = some r ∧
        cs.find? (·.provider = p) = some c ∧ s.readRow r = .ok c := by
  refine find?_of_forall₂ (fun r c hrc => ?_) h
  rw [provider_of_readRow hrc, decide_eq_decide]
  exact Option.some_inj

theorem find?_name_of_find?_provider {r : Int × CellRow}
    (h : t.rows.find? (·.2.provider? = some p) = some r) (hname : r.2.provider = .text p.name) :
    t.rows.find? (·.2.provider = .text p.name) = some r := by
  refine find?_of_imp h (fun r' hr' => ?_) (decide_eq_true hname)
  exact decide_eq_true (CellRow.provider?_of_name (of_decide_eq_true hr'))

/-- The row that is found by the name of a provider gives the first credential of the provider
exactly if the first row of the provider spells its name. -/
theorem readRow?_find?_name (hkeyed : t.Keyed)
    (h : List.Forall₂ (fun r c => s.readRow r = .ok c) t.rows cs) :
    s.readRow? (t.rows.find? (·.2.provider = .text p.name)) = .ok (cs.find? (·.provider = p)) ↔
      ∀ r, t.rows.find? (·.2.provider? = some p) = some r → r.2.provider = .text p.name := by
  rcases find?_provider h p with ⟨hrow, hc⟩ | ⟨r, c, hrow, hc, hrc⟩
  · have hnone : t.rows.find? (·.2.provider = .text p.name) = none := by
      refine List.find?_eq_none.mpr fun r hr hname => ?_
      exact List.find?_eq_none.mp hrow r hr
        (decide_eq_true (CellRow.provider?_of_name (of_decide_eq_true hname)))
    rw [hrow, hc, hnone]
    refine ⟨fun _ r hr => ?_, fun _ => rfl⟩
    cases hr
  · rw [hc, hrow]
    constructor
    · rintro hread r' ⟨rfl⟩
      cases hfound : t.rows.find? (·.2.provider = .text p.name) with
      | none =>
          rw [hfound] at hread
          cases hread
      | some r' =>
          rw [hfound, readRow?_eq_ok] at hread
          -- one credential cannot come from two rows, as it has the id of its row
          have hid : r'.1 = r.1 := (id_of_readRow hread).symm.trans (id_of_readRow hrc)
          obtain rfl := List.inj_on_of_nodup_map hkeyed (List.mem_of_find?_eq_some hfound)
            (List.mem_of_find?_eq_some hrow) hid
          simpa using List.find?_some hfound
    · intro hname
      rw [find?_name_of_find?_provider hrow (hname r rfl)]
      exact readRow?_eq_ok.mpr hrc

end

/-- Over a table of any content, and for any store (the rows are always in the order of their ids,
`Database.ordered_answer` and `Database.ordered_setCell`): all credentials can be had at once exactly
if each can be had by its id, and then they are these in the order of the ids. A lookup by
provider comes to what the lookup by id comes to for the first row that spells the provider by
its name. So it gives the first credential of the provider if the first row that is read as one
of the provider spells it by its name, and only then. -/
theorem lookups_agree (s : Store) {t : Table} (h : t.Ordered) (versions : Option (List Nat))
    (nonce : Cipher.Nonce) :
    let ids := t.rows.map (·.1)
    let all := (Database.perform ⟨versions, .present t⟩ nonce s.getAll).1
    let byId id := (Database.perform ⟨versions, .present t⟩ nonce (s.getById id)).1
    let byProvider p := (Database.perform ⟨versions, .present t⟩ nonce (s.getByProvider p)).1
    ((∃ cs, all = .ok cs) ↔ ∀ id ∈ ids, ∃ found, byId id = .ok found) ∧
      (∀ p, byProvider p = match t.rows.find? (·.2.provider = .text p.name) with
        | none => .ok none
        | some r => byId r.1) ∧
      ∀ cs, all = .ok cs →
        List.Forall₂ (fun id c => byId id = .ok (some c)) ids cs ∧
        cs.map (·.id) = ids ∧ ids.Pairwise (· < ·) ∧
        ∀ p, byProvider p = .ok (cs.find? (·.provider = p)) ↔
          ∀ r, t.rows.find? (·.2.provider? = some p) = some r → r.2.provider = .text p.name := by
  intro ids all byId byProvider
  have hall {cs : List Credential} :
      all = .ok cs ↔ List.Forall₂ (fun r c => s.readRow r = .ok c) t.rows cs :=
    getAll_eq_ok s t versions nonce
  have hbyId {r : Int × CellRow} (hr : r ∈ t.rows) : byId r.1 = s.readRow? (some r) := by
    rw [← find?_id h.keyed hr]
    exact getById_eq s t versions nonce r.1
  have hbyProvider (p : Provider) :
      byProvider p = s.readRow? (t.rows.find? (·.2.provider = .text p.name)) :=
    getByProvider_eq s t versions nonce p
  refine ⟨?_, fun p => ?_, fun cs hcs => ?_⟩
  · simp only [hall, exists_forall₂]
    constructor
    · intro hread id hid
      obtain ⟨r, hr, rfl⟩ := List.mem_map.mp hid
      obtain ⟨c, hc⟩ := hread r hr
      exact ⟨some c, (hbyId hr).trans (readRow?_eq_ok.mpr hc)⟩
    · intro hfound r hr
      obtain ⟨found, hfound⟩ := hfound r.1 (List.mem_map_of_mem hr)
      rw [hbyId hr, readRow?] at hfound
      cases hread : s.readRow r with
      | ok c => exact ⟨c, rfl⟩
      | error e =>
          rw [hread] at hfound
          cases hfound
  · rw [hbyProvider]
    cases hfind : t.rows.find? (·.2.provider = .text p.name) with
    | none => rfl
    | some r => exact (hbyId (List.mem_of_find?_eq_some hfind)).symm
  · have hread := hall.mp hcs
    refine ⟨?_, ids_of_readRow hread, h, fun p => ?_⟩
    · refine List.forall₂_map_left_iff.mpr ?_
      refine ((List.forall₂_and_left _ _).mpr ⟨fun r hr => hr, hread⟩).imp fun r c hrc => ?_
      exact (hbyId hrc.1).trans (readRow?_eq_ok.mpr hrc.2)
    · rw [hbyProvider]
      exact readRow?_find?_name h.keyed hread

/-! ## A name in another case -/

/-- A credential of GitLab. -/
def ofGitlab : Credential := { Archive.sample with id := 1 }

/-- A credential of GitHub. -/
def ofGithub : Credential := { Archive.sample with id := 2, provider := .github }

/-- A row in which somebody has typed the name of the provider, and one that was written with a
key. -/
def typed : Table where
  rows := [
    (1, .ofRow { (Store.mk none).written (Vector.replicate 12 1) ofGitlab with
      provider := "Gitlab" }),
    (2, .ofRow ((Archive.keyed 7).written (Vector.replicate 12 2) ofGithub))]
  lastId := 2

theorem ordered_typed : typed.Ordered := by
  unfold Table.Ordered
  decide

theorem readRow_typed : List.Forall₂ (fun r c => (Archive.keyed 7).readRow r = .ok c) typed.rows
    [ofGitlab, ofGithub] := by
  obtain ⟨hcreatedBy, hcreatedOn, hupdatedBy, hupdatedOn⟩ := Archive.proper_sample
  have hgitlab : ofGitlab.Proper := ⟨hcreatedBy, hcreatedOn, hupdatedBy, hupdatedOn⟩
  have hgithub : ofGithub.Proper := ⟨hcreatedBy, hcreatedOn, hupdatedBy, hupdatedOn⟩
  refine .cons ?_ (.cons ?_ .nil)
  · have hname : Provider.ofText? "Gitlab" = some .gitlab := by decide +kernel
    have hread (row : Row) (hid : row.id = 1) (hby : CellRow.IsSmall row.createdBy)
        (hby' : CellRow.IsSmall row.updatedBy) : Database.readRow (1, .ofRow row) = .ok row := by
      rw [Database.readRow, ← hid, CellRow.read_ofRow hby hby']
    exact readRow_eq_ok.mpr ⟨_, hread _ rfl hcreatedBy hupdatedBy,
      (ofRow_respelt hname (Provider.ofText?_name .gitlab)).trans
        (ofRow_written (Vector.replicate 12 1) hgitlab (.inl rfl))⟩
  · have hwrote : (Archive.keyed 7).Wrote
        (2, .ofRow ((Archive.keyed 7).written (Vector.replicate 12 2) ofGithub)) ofGithub :=
      ⟨rfl, hgithub, _, rfl⟩
    exact readRow_eq_ok.mpr hwrote.read

/-- The credential of a provider is among all credentials and is not found by its provider. -/
theorem lookups_differ :
    let db : Database := ⟨some [1], .present typed⟩
    (db.perform (Vector.replicate 12 3) (Archive.keyed 7).getAll).1
        = .ok [ofGitlab, ofGithub] ∧
      ofGitlab.provider = .gitlab ∧
      (db.perform (Vector.replicate 12 3) ((Archive.keyed 7).getByProvider .gitlab)).1
        = .ok none := by
  refine ⟨(getAll_eq_ok ..).mpr readRow_typed, rfl, ?_⟩
  rw [getByProvider_eq]
  rfl

/-- The credential of a provider whose row spells the name as it is can be found by it, whatever
the other rows do. -/
theorem lookups_agree_typed :
    let db : Database := ⟨some [1], .present typed⟩
    let byProvider p :=
      (db.perform (Vector.replicate 12 3) ((Archive.keyed 7).getByProvider p)).1
    byProvider .github = .ok (some ofGithub) ∧ byProvider .gitlab ≠ .ok (some ofGitlab) ∧
      (db.perform (Vector.replicate 12 3) ((Archive.keyed 7).getById 1)).1
        = .ok (some ofGitlab) := by
  obtain ⟨-, -, hagree⟩ :=
    lookups_agree (Archive.keyed 7) ordered_typed (some [1]) (Vector.replicate 12 3)
  obtain ⟨hids, -, -, hprovider⟩ := hagree _ ((getAll_eq_ok ..).mpr readRow_typed)
  have hfirst : typed.rows.find? (·.2.provider? = some .gitlab) = typed.rows[0]? := rfl
  have hsecond : typed.rows.find? (·.2.provider? = some .github) = typed.rows[1]? := rfl
  refine ⟨(hprovider .github).mpr fun r hr => ?_, fun hfound => ?_, ?_⟩
  · rw [hsecond] at hr
    cases hr
    rfl
  · have hname := (hprovider .gitlab).mp hfound _ hfirst
    exact absurd hname (by decide)
  · cases hids with
    | cons hid _ => exact hid

end Store

end CredRegistry
