import CredRegistry.Proofs.Service.Errand
import Mathlib.Data.List.Forall2

/-!
# Requests at work on one table

A service reads the row that it overwrites, and other requests may write in between. An `Office`
is any number of requests, each with a service of its own, and the database that answers them
all. A turn takes one request to its next report or call; the clock, the nonce and the cluster
answer it as they like. So every interleaving is a run of some list of turns.

What a single request may write is known without a look at the others (`Errand.keeps_task`). What
the writes make of the table is then a matter of their order alone (`Recorded.answer`): every row is
as it was made (`Makes`), or has the cells of the last update that had its id (`Becomes`).
-/

namespace CredRegistry

open CredRegistry.Cipher CredRegistry.RepoList

/-! ## Turns -/

namespace Office

variable {ι : Type}

/-- A request has its turn: the time and the nonce that it may ask for, and what the cluster may
answer. -/
structure Turn (ι : Type) where
  who : ι
  now : Timestamp
  nonce : Nonce
  respond : (q : ClusterCall) → q.Answer

/-- A time that a request may have been told in one of its turns. -/
def Told (turns : List (Turn ι)) (i : ι) (now : Timestamp) : Prop :=
  ∃ e ∈ turns, e.who = i ∧ e.now = now

/-! ## What was written to the table -/

/-- A row was created or overwritten, and at whose request. -/
inductive Write (ι : Type) where
  | create (who : ι) (id : Int)
  | update (who : ι) (id : Int)
deriving DecidableEq

namespace Write

def who : Write ι → ι
  | .create i _ => i
  | .update i _ => i

def isCreate : Write ι → Bool
  | .create _ _ => true
  | .update _ _ => false

/-- The one who overwrote the row with an id. -/
def updater? (id : Int) : Write ι → Option ι
  | .create _ _ => none
  | .update i id' => if id' = id then some i else none

/-- A call that succeeds, and finds a row if it is to overwrite one, has written. -/
def of? (who : ι) : (q : DatabaseCall) → q.Answer → Option (Write ι)
  | .insert _ => fun
      | .ok id => some (.create who id)
      | .error _ => none
  | .update r => fun
      | .ok (_ + 1) => some (.update who r.id)
      | _ => none
  | .findById _ => fun _ => none
  | .findAll => fun _ => none
  | .findByProvider _ => fun _ => none

end Write

/-- The one who was the last to overwrite the row with an id. -/
def lastUpdater? (log : List (Write ι)) (id : Int) : Option ι :=
  (log.filterMap (Write.updater? id)).getLast?

/-- A creation, and the row that it made: every cell is that of the request which it was made for,
at one time. -/
inductive Makes (requests : ι → Errand) (turns : List (Turn ι)) :
    Write ι → Int × CellRow → Prop where
  | intro {i : ι} {id : Int} {c : GitOpsConfig} {p : Provider} {nonce : Nonce} {now : Timestamp}
      (hcreate : (requests i).submission = .create c) (hprovider : c.provider = some p)
      (htold : Told turns i now) :
      Makes requests turns (.create i id)
        (id, (requests i).cells p nonce now (.integer (requests i).user) (.text now.text))

/-- A row as it was made, and what it is by now. Unless it was never overwritten, every cell is that
of the last request that did, at one time, but for those of the creation, which stay. -/
inductive Becomes (requests : ι → Errand) (turns : List (Turn ι)) (log : List (Write ι)) :
    Int × CellRow → Int × CellRow → Prop where
  | untouched {r : Int × CellRow} (hnobody : lastUpdater? log r.1 = none) :
      Becomes requests turns log r r
  | updated {r : Int × CellRow} {i : ι} {c : GitOpsConfig} {p : Provider} {nonce : Nonce}
      {now : Timestamp} (hlast : lastUpdater? log r.1 = some i)
      (hupdate : (requests i).submission = .update c) (hid : c.id = some r.1)
      (hprovider : c.provider = some p) (htold : Told turns i now) :
      Becomes requests turns log r
        (r.1, (requests i).cells p nonce now r.2.createdBy r.2.createdOn)

section

variable {requests : ι → Errand} {turns : List (Turn ι)} {log : List (Write ι)} {w : Write ι}
  {id : Int} {r r' : Int × CellRow}

theorem lastUpdater?_of_nobody (h : ∀ w ∈ log, w.updater? id = none) :
    lastUpdater? log id = none := by
  rw [lastUpdater?, List.filterMap_eq_nil_iff.mpr h]
  rfl

theorem lastUpdater?_append_of_none (h : w.updater? id = none) :
    lastUpdater? (log ++ [w]) id = lastUpdater? log id := by
  have hnone : [w].filterMap (Write.updater? id) = [] := by
    rw [List.filterMap_cons_none h, List.filterMap_nil]
  rw [lastUpdater?, List.filterMap_append, hnone, List.append_nil]
  rfl

theorem lastUpdater?_append_of_some {i : ι} (h : w.updater? id = some i) :
    lastUpdater? (log ++ [w]) id = some i := by
  have hsome : [w].filterMap (Write.updater? id) = [i] := by
    rw [List.filterMap_cons_some h, List.filterMap_nil]
  rw [lastUpdater?, List.filterMap_append, hsome, List.getLast?_concat]

theorem Becomes.keeps (h : Becomes requests turns log r r') :
    r'.1 = r.1 ∧ r'.2.createdBy = r.2.createdBy ∧ r'.2.createdOn = r.2.createdOn := by
  cases h with
  | untouched => exact ⟨rfl, rfl, rfl⟩
  | updated => exact ⟨rfl, rfl, rfl⟩

/-- A write of something else changes nothing. -/
theorem Becomes.stays (h : Becomes requests turns log r r') (hw : w.updater? r.1 = none) :
    Becomes requests turns (log ++ [w]) r r' := by
  have hlast : lastUpdater? (log ++ [w]) r.1 = lastUpdater? log r.1 :=
    lastUpdater?_append_of_none hw
  cases h with
  | untouched hnobody => exact .untouched (hlast.trans hnobody)
  | updated hi hupdate hid hprovider htold =>
      exact .updated (hlast.trans hi) hupdate hid hprovider htold

/-- Whatever has become of a row, the next one who overwrites it is the last one who did. -/
theorem Becomes.overwrite (h : Becomes requests turns log r r') {who : ι} {row : Row}
    (hrow : (requests who).Updates (Told turns who) row) (hid : row.id = r.1) :
    Becomes requests turns (log ++ [.update who row.id]) r (r'.1, r'.2.overwrite row) := by
  obtain ⟨c, p, nonce, now, hupdate, hc, hprovider, htold, hcells⟩ := hrow
  obtain ⟨hsame, hby, hon⟩ := h.keeps
  rw [hsame, hcells, hby, hon]
  refine .updated (lastUpdater?_append_of_some (if_pos hid)) hupdate ?_ hprovider htold
  rw [hc, hid]

end

/-- The table is what the writes have made of the one that was there. -/
structure Recorded (requests : ι → Errand) (turns : List (Turn ι)) (t₀ : Table)
    (log : List (Write ι)) (t : Table) : Prop where
  rows : ∃ made, List.Forall₂ (Makes requests turns) (log.filter Write.isCreate) made ∧
    List.Forall₂ (Becomes requests turns log) (t₀.rows ++ made) t.rows
  /-- Only rows that are there were overwritten. -/
  known : ∀ w ∈ log, ∀ id, id ∉ t.rows.map (·.1) → w.updater? id = none
  ordered : t₀.Ordered → t.Ordered

section

variable {requests : ι → Errand} {turns : List (Turn ι)} {t₀ t t' : Table} {log : List (Write ι)}

theorem Recorded.start (t₀ : Table) : Recorded requests turns t₀ [] t₀ where
  rows := by
    refine ⟨[], .nil, ?_⟩
    rw [List.append_nil, List.forall₂_same]
    intro r _
    exact .untouched rfl
  known := nofun
  ordered := id

theorem Recorded.insert (h : Recorded requests turns t₀ log t) {who : ι} {row : Row} {id : Int}
    (hrow : (requests who).Creates (Told turns who) row) (ht' : t.insert row = .ok (id, t')) :
    Recorded requests turns t₀ (log ++ [.create who id]) t' := by
  obtain ⟨hrows, hbeyond⟩ := Table.rows_of_insert ht'
  have hids : t'.rows.map (·.1) = t.rows.map (·.1) ++ [id] := by
    rw [hrows, List.map_append, List.map_singleton]
  have hnew : id ∉ t.rows.map (·.1) := fun hid => Int.lt_irrefl id (hbeyond id hid)
  refine ⟨?_, ?_, fun ht₀ => (h.ordered ht₀).insert ht'⟩
  · obtain ⟨c, p, nonce, now, hcreate, hprovider, htold, hcells⟩ := hrow
    obtain ⟨made, hmade, hbecomes⟩ := h.rows
    refine ⟨made ++ [(id, .ofRow row)], ?_, ?_⟩
    · rw [List.filter_append, hcells]
      exact List.rel_append hmade (.cons (.intro hcreate hprovider htold) .nil)
    · -- no update can have met the new row, since its id was not there
      have hnobody : lastUpdater? (log ++ [.create who id]) id = none :=
        (lastUpdater?_append_of_none rfl).trans
          (lastUpdater?_of_nobody fun w hw => h.known w hw id hnew)
      rw [hrows, ← List.append_assoc]
      exact List.rel_append (hbecomes.imp fun r r' hr => hr.stays rfl)
        (.cons (.untouched hnobody) .nil)
  · intro w hw id' hid'
    rcases List.mem_append.mp hw with hw | hw
    · refine h.known w hw id' fun hmem => hid' ?_
      rw [hids]
      exact List.mem_append_left _ hmem
    · rw [List.mem_singleton.mp hw]
      rfl

theorem Recorded.update (h : Recorded requests turns t₀ log t) {who : ι} {row : Row}
    (hrow : (requests who).Updates (Told turns who) row) (hid : row.id ∈ t.rows.map (·.1)) :
    Recorded requests turns t₀ (log ++ [.update who row.id])
      (t.alter row.id (·.overwrite row)).2 := by
  refine ⟨?_, ?_, fun ht₀ => (h.ordered ht₀).alter _ _⟩
  · obtain ⟨made, hmade, hbecomes⟩ := h.rows
    refine ⟨made, ?_, ?_⟩
    · rw [List.filter_append]
      exact (List.append_nil _).symm ▸ hmade
    · rw [Table.alter, List.forall₂_map_right_iff]
      refine hbecomes.imp ?_
      intro r r' hr
      have hsame : r'.1 = r.1 := hr.keeps.1
      split
      next hit => exact hr.overwrite hrow (hit ▸ hsame)
      next hother => exact hr.stays (if_neg fun hit => hother (hsame.trans hit.symm))
  · intro w hw id hid'
    rw [Table.ids_alter] at hid'
    rcases List.mem_append.mp hw with hw | hw
    · exact h.known w hw id hid'
    · rw [List.mem_singleton.mp hw]
      refine if_neg ?_
      rintro rfl
      exact hid' hid

/-- Whatever a request may ask of the database, what is written is put on record. -/
theorem Recorded.answer (h : Recorded requests turns t₀ log t) (versions : Option (List Nat))
    {who : ι} {q : DatabaseCall}
    (hmay : (requests who).MayAsk (Told turns who) (.store (.database q))) :
    ∃ t', ((Database.mk versions (.present t)).answer q).2 = ⟨versions, .present t'⟩ ∧
      Recorded requests turns t₀ (log ++ (Write.of? who q
        ((Database.mk versions (.present t)).answer q).1).toList) t' := by
  have hsame : Recorded requests turns t₀ (log ++ (none : Option (Write ι)).toList) t := by
    rw [Option.toList_none, List.append_nil]
    exact h
  cases q with
  | insert row =>
      simp only [Database.answer]
      cases hinsert : t.insert row with
      | error fault => exact ⟨t, rfl, hsame⟩
      | ok result => exact ⟨result.2, rfl, h.insert hmay hinsert⟩
  | update row =>
      simp only [Database.answer]
      refine ⟨_, rfl, ?_⟩
      cases hcount : (t.alter row.id (·.overwrite row)).1 with
      | zero =>
          have hmissing : row.id ∉ t.rows.map (·.1) := by
            intro hmem
            obtain ⟨r, hr, hid⟩ := List.mem_map.mp hmem
            have hnone := List.length_eq_zero_iff.mp hcount
            exact List.filter_eq_nil_iff.mp hnone r hr (decide_eq_true hid)
          rw [Table.alter_of_not_mem _ hmissing]
          exact hsame
      | succ n =>
          refine h.update hmay ?_
          obtain ⟨r, hr⟩ := List.exists_mem_of_length_pos
            (Nat.lt_of_lt_of_eq (Nat.succ_pos n) hcount.symm)
          obtain ⟨hmem, hid⟩ := List.mem_filter.mp hr
          exact of_decide_eq_true hid ▸ List.mem_map_of_mem hmem
  | findById id => exact ⟨t, Database.answer_findById .., hsame⟩
  | findAll => exact ⟨t, Database.answer_findAll .., hsame⟩
  | findByProvider p => exact ⟨t, Database.answer_findByProvider .., hsame⟩

end

end Office

/-! ## Offices -/

/-- Requests at work, the database that answers them, and what was written so far. -/
structure Office (ι : Type) where
  database : Database
  tasks : ι → ServiceTask Unit
  log : List (Office.Write ι)

namespace Office

variable {ι : Type} [DecidableEq ι]

/-- The office after a turn. A request that is done stays so. -/
def next (s : Office ι) (e : Turn ι) : Office ι :=
  match s.tasks e.who with
  | .done _ => s
  | .report _ task => { s with tasks := Function.update s.tasks e.who task }
  | .ask .now go => { s with tasks := Function.update s.tasks e.who (go e.now) }
  | .ask (.store .nonce) go => { s with tasks := Function.update s.tasks e.who (go e.nonce) }
  | .ask (.cluster q) go => { s with tasks := Function.update s.tasks e.who (go (e.respond q)) }
  | .ask (.store (.database q)) go =>
      let (answer, database) := s.database.answer q
      { database
        tasks := Function.update s.tasks e.who (go answer)
        log := s.log ++ (Write.of? e.who q answer).toList }

def run (s : Office ι) (turns : List (Turn ι)) : Office ι := turns.foldl next s

/-- An office in which no request has had a turn. -/
def start (requests : ι → Errand) (db : Database) : Office ι :=
  ⟨db, fun i => (requests i).task, []⟩

/-! ### The requests -/

omit [DecidableEq ι] in
theorem writes_of? {who : ι} {q : DatabaseCall} {answer : q.Answer} {w : Write ι}
    (hw : Write.of? who q answer = some w) :
    w.who = who ∧ Errand.writes (.store (.database q)) = 1 := by
  cases q with
  | insert r =>
      cases answer with
      | error e => cases hw
      | ok id =>
          cases hw
          exact ⟨rfl, rfl⟩
  | update r =>
      rcases answer with _ | _ | n
      · cases hw
      · cases hw
      · cases hw
        exact ⟨rfl, rfl⟩
  | findById id => cases hw
  | findAll => cases hw
  | findByProvider p => cases hw

theorem fair_answer (told : Timestamp → Prop) (db : Database) (q : DatabaseCall) :
    Errand.Fair told (.store (.database q)) (db.answer q).1 := by
  cases q with
  | findById id =>
      intro r hr
      obtain ⟨versions, _ | _ | t⟩ := db
      · cases hr
      · cases hr
      · simp only [Database.answer] at hr
        cases hfind : t.rows.find? (·.1 = id) with
        | none =>
            rw [hfind] at hr
            cases hr
        | some row =>
            have hid : row.1 = id := by simpa using List.find?_some hfind
            rw [hfind, Database.readRow?] at hr
            cases hread : Database.readRow row with
            | error e =>
                rw [hread] at hr
                cases hr
            | ok r' =>
                rw [hread] at hr
                cases hr
                exact (Store.id_of_read (Store.read_of_readRow hread)).trans hid
  | insert r => trivial
  | update r => trivial
  | findAll => trivial
  | findByProvider p => trivial

/-- The number of writes that a request has made. -/
def count (s : Office ι) (i : ι) : Nat := s.log.countP fun w => decide (w.who = i)

/-- What holds of an office: its log explains the table, and no request writes what is not its
own, or more than once. -/
structure Sound (requests : ι → Errand) (turns : List (Turn ι)) (versions : Option (List Nat))
    (t₀ : Table) (s : Office ι) : Prop where
  table : ∃ t, s.database = ⟨versions, .present t⟩ ∧ Recorded requests turns t₀ s.log t
  once : ∀ i, s.count i ≤ 1
  tasks : ∀ i, (requests i).Keeps (Told turns i) (fun _ => True) (1 - s.count i) (s.tasks i)

section

variable {requests : ι → Errand} {turns : List (Turn ι)} {versions : Option (List Nat)}
  {t₀ : Table} {s : Office ι}

theorem sound_start (requests : ι → Errand) (turns : List (Turn ι))
    (versions : Option (List Nat)) (t₀ : Table) :
    Sound requests turns versions t₀ (start requests ⟨versions, .present t₀⟩) where
  table := ⟨t₀, rfl, .start t₀⟩
  once := fun _ => Nat.zero_le 1
  tasks := fun i => (requests i).keeps_task

/-- A request goes on without a write. -/
theorem Sound.goesOn (h : Sound requests turns versions t₀ s) {i : ι} {task : ServiceTask Unit}
    (htask : (requests i).Keeps (Told turns i) (fun _ => True) (1 - s.count i) task) :
    Sound requests turns versions t₀ { s with tasks := Function.update s.tasks i task } where
  table := h.table
  once := h.once
  tasks := by
    intro j
    show (requests j).Keeps _ _ (1 - s.count j) (Function.update s.tasks i task j)
    by_cases hj : j = i
    · subst hj
      rw [Function.update_self]
      exact htask
    · rw [Function.update_of_ne hj]
      exact h.tasks j

/-- A request has written, and may not write again. -/
theorem Sound.wrote (h : Sound requests turns versions t₀ s) {w : Write ι} {db : Database}
    {task : ServiceTask Unit} {t : Table} (hdb : db = ⟨versions, .present t⟩)
    (ht : Recorded requests turns t₀ (s.log ++ [w]) t) (hnone : s.count w.who = 0)
    (htask : (requests w.who).Keeps (Told turns w.who) (fun _ => True) 0 task) :
    Sound requests turns versions t₀
      ⟨db, Function.update s.tasks w.who task, s.log ++ [w]⟩ := by
  have hcount (j : ι) : count ⟨db, Function.update s.tasks w.who task, s.log ++ [w]⟩ j
      = s.count j + if w.who = j then 1 else 0 := by
    simp only [count, List.countP_append, List.countP_singleton, decide_eq_true_eq]
  refine ⟨⟨t, hdb, ht⟩, ?_, ?_⟩
  · intro j
    rw [hcount]
    split
    next hj =>
      have : s.count j = 0 := hj ▸ hnone
      omega
    next => exact h.once j
  · intro j
    rw [hcount]
    show (requests j).Keeps _ _ _ (Function.update s.tasks w.who task j)
    by_cases hj : j = w.who
    · subst hj
      rw [Function.update_self, if_pos rfl, hnone]
      exact htask
    · rw [Function.update_of_ne hj, if_neg (Ne.symm hj)]
      exact h.tasks j

/-- A request asks something of the database, and may have written then. -/
theorem Sound.asks (h : Sound requests turns versions t₀ s) {i : ι} {q : DatabaseCall}
    {go : q.Answer → ServiceTask Unit} (htask : s.tasks i = .ask (.store (.database q)) go) :
    Sound requests turns versions t₀
      { database := (s.database.answer q).2
        tasks := Function.update s.tasks i (go (s.database.answer q).1)
        log := s.log ++ (Write.of? i q (s.database.answer q).1).toList } := by
  obtain ⟨hmay, hcost, hgo⟩ := (htask ▸ h.tasks i).of_ask
  have hlater := hgo _ (fair_answer _ s.database q)
  obtain ⟨t, hdb, ht⟩ := h.table
  obtain ⟨t', hdb', ht'⟩ := ht.answer versions hmay
  rw [← hdb] at hdb' ht'
  cases hw : Write.of? i q (s.database.answer q).1 with
  | none =>
      rw [hw] at ht'
      simp only [Option.toList_none, List.append_nil] at ht' ⊢
      exact Sound.goesOn (s := { s with database := (s.database.answer q).2 })
        ⟨⟨t', hdb', ht'⟩, h.once, h.tasks⟩ (hlater.mono (Nat.sub_le ..))
  | some w =>
      obtain ⟨rfl, hwrites⟩ := writes_of? hw
      rw [hw] at ht'
      rw [hwrites] at hcost hlater
      have hnone : s.count w.who = 0 := by omega
      refine h.wrote hdb' ht' hnone ?_
      rwa [hnone] at hlater

/-- Every turn keeps what holds of an office. -/
theorem Sound.next (h : Sound requests turns versions t₀ s) {e : Turn ι} (he : e ∈ turns) :
    Sound requests turns versions t₀ (s.next e) := by
  have htask := h.tasks e.who
  unfold Office.next
  split
  next => exact h
  next hreport =>
    rw [hreport] at htask
    exact h.goesOn htask.of_report
  next hask =>
    rw [hask] at htask
    exact h.goesOn (htask.of_ask.2.2 _ ⟨e, he, rfl, rfl⟩)
  next hask =>
    rw [hask] at htask
    exact h.goesOn (htask.of_ask.2.2 _ trivial)
  next hask =>
    rw [hask] at htask
    exact h.goesOn (htask.of_ask.2.2 _ trivial)
  next hask => exact h.asks hask

theorem Sound.run (h : Sound requests turns versions t₀ s) {es : List (Turn ι)}
    (hes : ∀ e ∈ es, e ∈ turns) : Sound requests turns versions t₀ (s.run es) := by
  induction es generalizing s with
  | nil => exact h
  | cons e es ih =>
      exact ih (h.next (hes e (List.mem_cons_self ..)))
        fun e' he' => hes e' (List.mem_cons_of_mem _ he')

end

/-- However the store's reads and writes of any number of requests interleave, whatever the cluster
answers, and whatever keys their services hold, no row is ever torn:

* the rows are those that were there and one for each creation, every cell of which is that of the
  request which it was made for (`Makes`);
* a row that was never overwritten is as it was, and else every cell is that of the last request
  that overwrote it, which is an update of its id, but for the two cells of the creation, which
  stay (`Becomes`);
* the rows are in the order of the ids, and no request writes more than once. -/
theorem updates_never_tear (requests : ι → Errand) (versions : Option (List Nat)) (t₀ : Table)
    (turns : List (Turn ι)) :
    let s := (start requests ⟨versions, .present t₀⟩).run turns
    ∃ t made, s.database = ⟨versions, .present t⟩ ∧
      List.Forall₂ (Makes requests turns) (s.log.filter Write.isCreate) made ∧
      List.Forall₂ (Becomes requests turns s.log) (t₀.rows ++ made) t.rows ∧
      (t₀.Ordered → t.Ordered) ∧
      ∀ i, s.log.countP (fun w => decide (w.who = i)) ≤ 1 := by
  intro s
  have h : Sound requests turns versions t₀ s :=
    (sound_start requests turns versions t₀).run fun _ he => he
  obtain ⟨t, hdb, ht⟩ := h.table
  obtain ⟨made, hmade, hbecomes⟩ := ht.rows
  exact ⟨t, made, hdb, hmade, hbecomes, ht.ordered, h.once⟩

/-! ## Two updates that both read first -/

/-- Two updates of one row, by a service with a key and by one without, and a create. -/
def rivals : Fin 3 → Errand
  | 0 => ⟨{ Service.plain with store := Archive.keyed 7 }, .update
      { id := some 1, provider := some .github, username := "ann", token := "new"
        gitLabGroupId := "", gitHubOrgId := "acme", host := "github.example", active := true }, 2⟩
  | 1 => ⟨Service.plain, .update
      { id := some 1, provider := some .azureDevops, username := "bob", token := "late"
        gitLabGroupId := "", gitHubOrgId := "zeta", host := "azure.example", active := false }, 3⟩
  | 2 => ⟨Service.plain, .create { Service.config with username := "cid" }, 4⟩

/-- A row that has no cell in common with what the update that comes last writes. -/
def early : CellRow where
  provider := .text "GITLAB"
  username := .text "eve"
  token := .text "old"
  tokenEncrypted := .integer 0
  orgOrGroupId := .text "group"
  host := .text "gitlab.example"
  active := .integer 0
  createdBy := .integer 8
  createdOn := .text "2001-02-03T04:05:06Z"
  updatedBy := .integer 9
  updatedOn := .text "2002-03-04T05:06:07Z"

/-- A row that nobody updates. -/
def aside : CellRow := { early with username := .text "dee" }

def filed : Table := ⟨[(1, early), (2, aside)], 2⟩

/-- The time that a request is told. -/
def moment (i : Fin 3) : Timestamp := ⟨17000, 43200 + i, 0⟩

/-- Both updates read, and the one that reads first writes last. -/
def crossing : List (Turn (Fin 3)) :=
  [0, 1, 0, 1, 2, 1, 2, 0, 0].map fun i =>
    ⟨i, moment i, Service.zeros, fun q => ((Memory.new "default_cluster").answer q).1⟩

theorem told_crossing {i : Fin 3} {now : Timestamp} (h : Told crossing i now) :
    now = moment i := by
  obtain ⟨e, he, rfl, rfl⟩ := h
  obtain ⟨i, -, rfl⟩ := List.mem_map.mp he
  rfl

theorem log_crossing : ((start rivals ⟨some [1], .present filed⟩).run crossing).log
    = [.update 1 1, .create 2 3, .update 0 1] := by
  decide +kernel

/-- Of the two updates the last one has every cell of the row, and nothing of what it has read comes
back but the creation. The other row is as it was, and the create has a row of its own. -/
theorem rivals_never_tear :
    ∃ t nonce, ((start rivals ⟨some [1], .present filed⟩).run crossing).database
        = ⟨some [1], .present t⟩ ∧
      t.rows =
        [ (1, { provider := .text "GITHUB"
                username := .text "ann"
                token := .text (TokenKey.encrypt ⟨Vector.replicate 32 7⟩ nonce "new")
                tokenEncrypted := .integer 1
                orgOrGroupId := .text "acme"
                host := .text "github.example"
                active := .integer 1
                createdBy := .integer 8
                createdOn := .text "2001-02-03T04:05:06Z"
                updatedBy := .integer 2
                updatedOn := .text "2016-07-18T12:00:00+00:00" }),
          (2, aside),
          (3, { provider := .text "GITHUB"
                username := .text "cid"
                token := .text ""
                tokenEncrypted := .integer 0
                orgOrGroupId := .text ""
                host := .text "h"
                active := .integer 0
                createdBy := .integer 4
                createdOn := .text "2016-07-18T12:00:02+00:00"
                updatedBy := .integer 4
                updatedOn := .text "2016-07-18T12:00:02+00:00" }) ] := by
  obtain ⟨t, made, hdb, hmade, hbecomes, -⟩ :=
    updates_never_tear rivals (some [1]) filed crossing
  rw [log_crossing] at hmade hbecomes
  obtain ⟨created, later, hcreated, hlater, rfl⟩ := List.forall₂_cons_left_iff.mp hmade
  obtain rfl := List.forall₂_nil_left_iff.mp hlater
  obtain ⟨first, behind, hfirst, hbehind, hrows⟩ := List.forall₂_cons_left_iff.mp hbecomes
  obtain ⟨second, last, hsecond, hend, rfl⟩ := List.forall₂_cons_left_iff.mp hbehind
  obtain ⟨third, others, hthird, hothers, rfl⟩ := List.forall₂_cons_left_iff.mp hend
  obtain rfl := List.forall₂_nil_left_iff.mp hothers
  refine ⟨t, ?_⟩
  rw [hrows]
  cases hcreated with
  | intro hcreate hprovider htold =>
  cases hcreate
  cases hprovider
  cases told_crossing htold
  -- nobody updates the last two rows
  cases hsecond with
  | updated hlast => cases hlast
  | untouched =>
  cases hthird with
  | updated hlast => cases hlast
  | untouched =>
  cases hfirst with
  | untouched hnobody => cases hnobody
  | updated hlast hupdate hid hprovider htold =>
  cases hlast
  cases hupdate
  cases hprovider
  cases told_crossing htold
  exact ⟨_, hdb, by rfl⟩

end Office

end CredRegistry
