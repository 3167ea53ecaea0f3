import CredRegistry.Proofs.Database.Table

/-!
# Migrating once, in order

Migrating issues two statements for each step above the highest version on record: the
step itself, and then the entry in the record (`script`). The statements are executed one
after the other, up to the first that fails. `runSteps_eq_execute` says that this is all
that `runSteps` does, and `migrate_in_order` what it comes to: the steps that succeeded are
on record, and the first that did not is the one that the next run begins with.

What is written between two runs does not touch the record (`versions_use`), so once no
step is pending there is none until the steps change.
-/

namespace CredRegistry

/-- The versions go up along the list. -/
def Migration.Ascending (steps : List Migration) : Prop :=
  steps.Pairwise fun s s' => s.version < s'.version

namespace Database

/-! ## Statements -/

/-- A statement that is issued in migrating. -/
inductive Statement where
  | run (step : Migration)
  | record (version : Nat)

/-- Execute one statement; only a step may fail. -/
def Statement.execute (db : Database) : Statement → Except DatabaseError Unit × Database
  | .run step =>
      match step.apply db.table with
      | (.error reason, table) => (.error (.migration step.version reason), { db with table })
      | (.ok (), table) => (.ok (), { db with table })
  | .record version => (.ok (), db.recordVersion version)

/-- Execute statements one after the other, up to one that fails. -/
def execute : List Statement → Database → Except DatabaseError Unit × Database
  | [], db => (.ok (), db)
  | statement :: statements, db =>
      match statement.execute db with
      | (.error e, db) => (.error e, db)
      | (.ok (), db) => execute statements db

/-- The statements for some steps: each step, and its entry in the record right after it. -/
def script (steps : List Migration) : List Statement :=
  steps.flatMap fun step => [.run step, .record step.version]

/-- A step that succeeds goes on record. -/
theorem execute_script_cons {step : Migration} {db : Database} {table : TableState}
    (h : step.apply db.table = (.ok (), table)) (steps : List Migration) :
    execute (script (step :: steps)) db
      = execute (script steps) ({ db with table }.recordVersion step.version) := by
  show execute (.run step :: .record step.version :: script steps) db = _
  simp only [execute, Statement.execute, h]

/-! ## The highest version -/

theorem foldl_max_lt {versions : List Nat} {start bound : Nat} :
    versions.foldl max start < bound ↔ start < bound ∧ ∀ v ∈ versions, v < bound := by
  induction versions generalizing start with
  | nil => simp
  | cons v versions ih =>
      rw [List.foldl_cons, ih, Nat.max_lt, List.forall_mem_cons, and_assoc]

/-- The version of the last of some steps, unless `start` is greater. -/
def reached (start : Nat) (steps : List Migration) : Nat :=
  steps.getLast?.elim start fun step => max start step.version

theorem reached_eq {steps : List Migration} (h : Migration.Ascending steps) (start : Nat) :
    reached start steps = (steps.map (·.version)).foldl max start := by
  rcases List.eq_nil_or_concat steps with rfl | ⟨earlier, last, rfl⟩
  · rfl
  · have hearlier : (earlier.map (·.version)).foldl max start < max start last.version + 1 := by
      refine foldl_max_lt.mpr ⟨by omega, fun v hv => ?_⟩
      obtain ⟨step, hstep, rfl⟩ := List.mem_map.mp hv
      rw [Migration.Ascending, List.concat_eq_append, List.pairwise_append] at h
      have hlt := h.2.2 step hstep last (List.mem_singleton.mpr rfl)
      omega
    have hstart : start ≤ (earlier.map (·.version)).foldl max start := by
      have hself := foldl_max_lt.mp (Nat.lt_succ_self ((earlier.map (·.version)).foldl max start))
      exact Nat.le_of_lt_succ hself.1
    rw [List.concat_eq_append, reached, List.getLast?_concat, List.map_append, List.map_singleton,
      List.foldl_append]
    show max start last.version = max _ last.version
    omega

/-- The steps that are still to be run. -/
def pending (db : Database) (steps : List Migration) : List Migration :=
  steps.filter fun step => db.schemaVersion < step.version

theorem ascending_pending {steps : List Migration} (h : Migration.Ascending steps)
    (db : Database) : Migration.Ascending (db.pending steps) :=
  h.sublist List.filter_sublist

theorem ascending_of_pending {steps done rest : List Migration} {db : Database}
    (h : Migration.Ascending steps) (hpending : db.pending steps = done ++ rest) :
    Migration.Ascending done :=
  (hpending ▸ ascending_pending h db).sublist (List.sublist_append_left done rest)

theorem schemaVersion_of_recorded {steps done rest : List Migration} {db db' : Database}
    (hascending : Migration.Ascending steps) (hpending : db.pending steps = done ++ rest)
    (hversions : db'.versions = some (db.versions.getD [] ++ done.map (·.version))) :
    db'.schemaVersion = reached db.schemaVersion done := by
  rw [reached_eq (ascending_of_pending hascending hpending), schemaVersion, hversions,
    Option.getD_some, List.foldl_append]
  rfl

/-- Once the first of the pending steps are on record, the others are pending. -/
theorem pending_of_recorded {steps done rest : List Migration} {db db' : Database}
    (hascending : Migration.Ascending steps) (hpending : db.pending steps = done ++ rest)
    (hversions : db'.versions = some (db.versions.getD [] ++ done.map (·.version))) :
    db'.pending steps = rest := by
  have hsorted : Migration.Ascending (done ++ rest) := hpending ▸ ascending_pending hascending db
  have hlt (b : Nat) : db'.schemaVersion < b ↔
      db.schemaVersion < b ∧ ∀ step ∈ done, step.version < b := by
    rw [schemaVersion, hversions, Option.getD_some, List.foldl_append, foldl_max_lt,
      List.forall_mem_map]
    rfl
  have hfilter : db'.pending steps
      = (done ++ rest).filter fun step => db'.schemaVersion < step.version := by
    rw [← hpending, pending, pending, List.filter_filter]
    refine List.filter_congr fun step _ => ?_
    rw [← Bool.decide_and, decide_eq_decide]
    exact ⟨fun h => ⟨h, ((hlt _).mp h).1⟩, And.left⟩
  obtain ⟨-, -, hbefore⟩ := List.pairwise_append.mp hsorted
  have hdone : done.filter (fun step => db'.schemaVersion < step.version) = [] := by
    refine List.filter_eq_nil_iff.mpr fun step hstep hbeyond => ?_
    exact Nat.lt_irrefl _ (((hlt _).mp (of_decide_eq_true hbeyond)).2 step hstep)
  have hrest : rest.filter (fun step => db'.schemaVersion < step.version) = rest := by
    refine List.filter_eq_self.mpr fun step hstep => decide_eq_true ((hlt _).mpr ?_)
    have hmem : step ∈ db.pending steps := hpending ▸ List.mem_append_right _ hstep
    exact ⟨of_decide_eq_true (List.mem_filter.mp hmem).2, fun s hs => hbefore s hs step hstep⟩
  rw [hfilter, List.filter_append, hdone, hrest, List.nil_append]

/-! ## Runs of steps -/

section
variable {m : Type → Type} [Monad m] [Log.MonadLog m]

/-- Report that a step is run. -/
def announcement (step : Migration) : m Unit :=
  Log.note .info migrationTarget s!"Running migration v{step.version}: {step.description}"

def announce (steps : List Migration) : m Unit := steps.forM announcement

theorem announce_nil [LawfulMonad m] {α : Type} (work : Unit → m α) :
    (announce [] : m Unit) >>= work = work () := pure_bind PUnit.unit work

theorem announce_cons (step : Migration) (steps : List Migration) :
    (announce (step :: steps) : m Unit) = announcement step >>= fun _ => announce steps := rfl

theorem runSteps_of_error {step : Migration} {db : Database} {reason : String}
    {table : TableState} (h : step.apply db.table = (.error reason, table))
    (steps : List Migration) (start : Nat) :
    (runSteps (step :: steps) start db : m _) = announcement step >>= fun _ =>
      pure (.error (.migration step.version reason), { db with table }) := by
  simp only [runSteps, h, announcement]

theorem runSteps_of_ok {step : Migration} {db : Database} {table : TableState}
    (h : step.apply db.table = (.ok (), table)) (steps : List Migration) (start : Nat) :
    (runSteps (step :: steps) start db : m _) = announcement step >>= fun _ =>
      runSteps steps step.version ({ db with table }.recordVersion step.version) := by
  simp only [runSteps, h, announcement]

end

/-- How a run comes to its end on the database `after`, when `rest` is left: there is
nothing left to do, and the version is the highest that was `reached`, or the first that is
left fails. -/
inductive Ends (reached : Nat) (after : Database) :
    List Migration → Except DatabaseError Nat × Database → Prop where
  | completed : Ends reached after [] (.ok reached, after)
  | broken {step : Migration} {later : List Migration} {reason : String} {table : TableState} :
      step.apply after.table = (.error reason, table) →
      Ends reached after (step :: later)
        (.error (.migration step.version reason), { after with table })

theorem Ends.versions {reached : Nat} {after : Database} {rest : List Migration}
    {result : Except DatabaseError Nat × Database} (h : Ends reached after rest result) :
    result.2.versions = after.versions := by
  cases h <;> rfl

/-- A run executes the script of steps that all succeed, until it ends, and reports those
and the one that fails. -/
theorem runSteps_eq_execute {steps : List Migration} (hascending : Migration.Ascending steps) :
    ∀ {start : Nat} {db : Database} {versions : List Nat}, (∀ s ∈ steps, start < s.version) →
      db.versions = some versions →
      ∃ done rest after result, steps = done ++ rest ∧
        execute (script done) db = (.ok (), after) ∧
        after.versions = some (versions ++ done.map (·.version)) ∧
        Ends ((done.map (·.version)).foldl max start) after rest result ∧
        ∀ (m : Type → Type) [Monad m] [LawfulMonad m] [Log.MonadLog m],
          (runSteps steps start db : m _)
            = announce (done ++ rest.take 1) >>= fun _ => pure result := by
  induction steps with
  | nil =>
      intro start db versions hstart hversions
      refine ⟨[], [], db, (.ok start, db), rfl, rfl, ?_, .completed, fun m _ _ _ => ?_⟩
      · rw [hversions, List.map_nil, List.append_nil]
      · show pure _ = announce [] >>= fun _ => pure _
        rw [announce_nil]
  | cons step steps ih =>
      intro start db versions hstart hversions
      obtain ⟨hlater, hascending⟩ := List.pairwise_cons.mp hascending
      rcases happly : step.apply db.table with ⟨reason | ⟨⟩, table⟩
      · -- The step fails, and nothing has been done before it.
        refine ⟨[], step :: steps, db, _, rfl, rfl, ?_, .broken happly, fun m _ _ _ => ?_⟩
        · rw [hversions, List.map_nil, List.append_nil]
        · show _ = announce [step] >>= _
          rw [runSteps_of_error happly, announce_cons, bind_assoc]
          refine congrArg _ (funext fun _ => ?_)
          rw [announce_nil]
      · let db₁ := { db with table }.recordVersion step.version
        have hversions₁ : db₁.versions = some (versions ++ [step.version]) := by
          show some (db.versions.getD [] ++ [step.version]) = _
          rw [hversions, Option.getD_some]
        obtain ⟨done, rest, after, result, rfl, hexecute, hafter, hends, hrun⟩ :=
          ih hascending hlater hversions₁
        refine ⟨step :: done, rest, after, result, rfl, ?_, ?_, ?_, fun m _ _ _ => ?_⟩
        · rw [execute_script_cons happly, hexecute]
        · rw [hafter, List.map_cons, List.append_assoc, List.singleton_append]
        · have hmax : max start step.version = step.version :=
            Nat.max_eq_right (Nat.le_of_lt (hstart step List.mem_cons_self))
          rw [List.map_cons, List.foldl_cons, hmax]
          exact hends
        · rw [List.cons_append, runSteps_of_ok happly, announce_cons, bind_assoc]
          exact congrArg _ (funext fun _ => hrun m)

/-- Migrating runs the pending steps on the database with its record. -/
theorem migrate_eq_execute {steps : List Migration} (hascending : Migration.Ascending steps)
    (db : Database) :
    ∃ done rest after result, db.pending steps = done ++ rest ∧
      execute (script done) { db with versions := some (db.versions.getD []) }
        = (.ok (), after) ∧
      after.versions = some (db.versions.getD [] ++ done.map (·.version)) ∧
      Ends (reached db.schemaVersion done) after rest result ∧
      ∀ (m : Type → Type) [Monad m] [LawfulMonad m] [Log.MonadLog m],
        (migrate steps db : m _) = announce (done ++ rest.take 1) >>= fun _ => pure result := by
  have hpending := ascending_pending hascending db
  have hstart : ∀ s ∈ db.pending steps, db.schemaVersion < s.version := fun s hs =>
    of_decide_eq_true (List.mem_filter.mp hs).2
  have hopened : ({ db with versions := some (db.versions.getD []) } : Database).versions
      = some (db.versions.getD []) := rfl
  obtain ⟨done, rest, after, result, hsplit, hexecute, hafter, hends, hrun⟩ :=
    runSteps_eq_execute hpending hstart hopened
  rw [← reached_eq (ascending_of_pending hascending hsplit)] at hends
  exact ⟨done, rest, after, result, hsplit, hexecute, hafter, hends, hrun⟩

/-- Without pending steps nothing is done or reported. -/
theorem migrate_of_pending_eq_nil {m : Type → Type} [Monad m] [Log.MonadLog m]
    {steps : List Migration} {db : Database} (hpending : db.pending steps = [])
    (hversions : db.versions.isSome) :
    (migrate steps db : m _) = pure (.ok db.schemaVersion, db) := by
  obtain ⟨versions, hversions⟩ := Option.isSome_iff_exists.mp hversions
  have hopened : ({ db with versions := some (db.versions.getD []) } : Database) = db := by
    rw [hversions, Option.getD_some, ← hversions]
  show runSteps (db.pending steps) _ _ = _
  rw [hpending, hopened]
  rfl

/-! ## Between two runs -/

/-- What is done to a database: a call, a change to a cell past the calls, or another
run. -/
inductive Use where
  | call (c : DatabaseCall)
  | setCell (id : Int) (column : String) (v : Cell)
  | migrate

def use (steps : List Migration) (db : Database) : Use → Database
  | .call c => (db.answer c).2
  | .setCell id column v =>
      match db.setCell id column v with
      | .ok (_, db') => db'
      | .error _ => db
  | .migrate => (migrate (m := Id) steps db).2

theorem versions_answer (db : Database) (c : DatabaseCall) :
    (db.answer c).2.versions = db.versions := by
  cases c with
  | insert r =>
      simp only [answer]
      split
      · split <;> rfl
      · rfl
  | update r =>
      simp only [answer]
      split <;> rfl
  | findById id => rw [answer_findById]
  | findAll => rw [answer_findAll]
  | findByProvider p => rw [answer_findByProvider]

theorem versions_setCell {db db' : Database} {id : Int} {column : String} {v : Cell} {n : Nat}
    (h : db.setCell id column v = .ok (n, db')) : db'.versions = db.versions := by
  cases ht : db.table with
  | present t =>
      simp only [setCell, ht] at h
      split at h
      · cases hnumber : t.renumber id v with
        | error fault => simp [hnumber, failed] at h
        | ok result =>
            simp only [hnumber] at h
            cases h
            rfl
      · split at h
        · simp [failed] at h
        · cases h
          rfl
  | absent => simp [setCell, ht, misfit, failed] at h
  | foreign => simp [setCell, ht, misfit, failed] at h

/-- No use touches the record once there are no pending steps. -/
theorem versions_use {steps : List Migration} {db : Database} (hpending : db.pending steps = [])
    (hversions : db.versions.isSome) (u : Use) : (use steps db u).versions = db.versions := by
  cases u with
  | call c => exact versions_answer db c
  | setCell id column v =>
      simp only [use]
      split
      next hset => exact versions_setCell hset
      next => rfl
  | migrate =>
      show ((migrate steps db : Id _).2).versions = _
      rw [migrate_of_pending_eq_nil hpending hversions]
      rfl

theorem pending_congr {db db' : Database} (h : db'.versions = db.versions)
    (steps : List Migration) : db'.pending steps = db.pending steps := by
  rw [pending, pending, schemaVersion, h, ← schemaVersion]

theorem versions_uses {steps : List Migration} (uses : List Use) :
    ∀ {db : Database}, db.pending steps = [] → db.versions.isSome →
      (uses.foldl (use steps) db).versions = db.versions := by
  induction uses with
  | nil => exact fun _ _ => rfl
  | cons u uses ih =>
      intro db hpending hversions
      have hu := versions_use hpending hversions u
      rw [List.foldl_cons, ih ((pending_congr hu steps).trans hpending) (hu ▸ hversions), hu]

/-- Without pending steps a run changes nothing, however often and after whatever uses it is
made again. -/
theorem migrate_again {m : Type → Type} [Monad m] [Log.MonadLog m] {steps : List Migration}
    {db : Database} (hpending : db.pending steps = []) (hversions : db.versions.isSome)
    (uses : List Use) :
    (migrate steps (uses.foldl (use steps) db) : m _)
      = pure (.ok db.schemaVersion, uses.foldl (use steps) db) := by
  have hsame := versions_uses uses hpending hversions
  rw [migrate_of_pending_eq_nil ((pending_congr hsame steps).trans hpending)
    (hsame ▸ hversions), schemaVersion, hsame, ← schemaVersion]

/-- A run of ascending steps executes those above the highest version on record, in order,
and puts each on record right after it, up to the first that fails. If none fails, the
version is the last that was run, or the highest on record before, and another run does
nothing, whatever was written meanwhile. If one fails, it and the steps after it are not on
record, and whatever becomes of the table, the next run begins with it. -/
theorem migrate_in_order {steps : List Migration} (hascending : Migration.Ascending steps)
    (db : Database) :
    ∃ done rest after result, db.pending steps = done ++ rest ∧
      execute (script done) { db with versions := some (db.versions.getD []) }
        = (.ok (), after) ∧
      Ends (reached db.schemaVersion done) after rest result ∧
      (∀ (m : Type → Type) [Monad m] [LawfulMonad m] [Log.MonadLog m],
        (migrate steps db : m _) = announce (done ++ rest.take 1) >>= fun _ => pure result) ∧
      result.2.versions = some (db.versions.getD [] ++ done.map (·.version)) ∧
      result.2.schemaVersion = reached db.schemaVersion done ∧
      (∀ db' : Database, db'.versions = result.2.versions → db'.pending steps = rest) ∧
      (rest = [] → ∀ (uses : List Use) (m : Type → Type) [Monad m] [Log.MonadLog m],
        (migrate steps (uses.foldl (use steps) result.2) : m _)
          = pure (.ok (reached db.schemaVersion done), uses.foldl (use steps) result.2)) := by
  obtain ⟨done, rest, after, result, hsplit, hexecute, hafter, hends, hrun⟩ :=
    migrate_eq_execute hascending db
  have hversions : result.2.versions = some (db.versions.getD [] ++ done.map (·.version)) :=
    hends.versions.trans hafter
  have hreached := schemaVersion_of_recorded hascending hsplit hversions
  have hlater : ∀ db' : Database, db'.versions = result.2.versions → db'.pending steps = rest :=
    fun db' hdb' => pending_of_recorded hascending hsplit (hdb'.trans hversions)
  refine ⟨done, rest, after, result, hsplit, hexecute, hends, hrun, hversions, hreached, hlater,
    fun hnone uses m _ _ => ?_⟩
  have hpending : result.2.pending steps = [] := (hlater _ rfl).trans hnone
  have hsome : result.2.versions.isSome := hversions ▸ rfl
  rw [migrate_again hpending hsome uses, hreached]

/-- A second step that fails after the first. -/
def stepsWithBroken : List Migration :=
  Migration.all ++ [⟨2, "broken", fun t => (.error "no such table: x", t)⟩]

/-- The first step stays on record, and the next run begins with the second. -/
theorem broken_step_begins_next :
    Migration.Ascending stepsWithBroken ∧
      ((migrate stepsWithBroken .new : Id _).2).versions = some [1] ∧
      ∀ db : Database, db.versions = some [1] →
        db.pending stepsWithBroken = stepsWithBroken.drop 1 := by
  have hascending : Migration.Ascending stepsWithBroken := by
    unfold Migration.Ascending
    decide
  obtain ⟨done, rest, after, result, -, -, -, hrun, -, -, hlater, -⟩ :=
    migrate_in_order hascending .new
  have hresult : result = (migrate stepsWithBroken .new : Id _) := (hrun Id).symm
  have hversions : result.2.versions = some [1] := by
    rw [hresult]
    rfl
  refine ⟨hascending, hresult ▸ hversions, ?_⟩
  intro db hdb
  have hrest : fresh.pending stepsWithBroken = rest := hlater fresh hversions.symm
  rw [hlater db (hdb.trans hversions.symm), ← hrest]
  rfl

/-! ## Opening again -/

theorem ready_of_ok {db db' : Database} {version : Nat} (location : DatabaseLocation)
    (h : (migrate Migration.all db : Id _) = (.ok version, db')) :
    ready (m := Id) location db = (.ok version, db') := by
  unfold ready
  rw [h]
  rfl

theorem ready_of_error {db db' : Database} {e : DatabaseError} (location : DatabaseLocation)
    (h : (migrate Migration.all db : Id _) = (.error e, db')) :
    ready (m := Id) location db = (.error e, db') := by
  unfold ready
  rw [h]
  rfl

/-- A database that could be opened can be opened again, and stays as it is. -/
theorem ready_again {location : DatabaseLocation} {db db' : Database} {version : Nat}
    (h : ready (m := Id) location db = (.ok version, db')) (uses : List Use) :
    ready (m := Id) location (uses.foldl (use Migration.all) db')
      = (.ok version, uses.foldl (use Migration.all) db') := by
  have hascending : Migration.Ascending Migration.all := List.pairwise_singleton ..
  obtain ⟨done, rest, after, result, hsplit, -, hafter, hends, hrun⟩ :=
    migrate_eq_execute hascending db
  have hmigrate : (migrate Migration.all db : Id _) = result := hrun Id
  cases hends with
  | broken hbroken => cases (ready_of_error location hmigrate).symm.trans h
  | completed =>
      cases (ready_of_ok location hmigrate).symm.trans h
      have hpending : db'.pending Migration.all = [] :=
        pending_of_recorded hascending hsplit hafter
      have hsome : db'.versions.isSome := hafter ▸ rfl
      have hreached := schemaVersion_of_recorded hascending hsplit hafter
      exact ready_of_ok location (hreached ▸ migrate_again hpending hsome uses)

end Database

end CredRegistry
