import CredRegistry.Proofs.Cluster.Session

/-!
# One client's turns

Two things can be said of a client without a look at the others. `Leaves` says what is left of
its task after its exchanges: whoever knows the exchanges of a client that is done knows what it
has come to (`Leaves.done`, `Leaves.asked`). `Within` says in how many turns it is done, as long as
every call is met by a cluster in a certain condition. If the calls of all clients keep that
condition, and so does everybody else, each client has so many turns at most before it is done
(`Session.within_run`).
-/

namespace CredRegistry

variable {ι α : Type}

/-! ## What exchanges leave of a task -/

/-- What is left of a task after some exchanges; it may have made its reports on the way. -/
inductive Leaves : ClusterTask α → List Exchange → ClusterTask α → Prop where
  | start (d) : Leaves d [] d
  | report {e next xs d} (h : Leaves next xs d) : Leaves (.report e next) xs d
  | ask {q go m xs d} (h : Leaves (go (m.answer q).1) xs d) : Leaves (.ask q go) (⟨q, m⟩ :: xs) d

namespace Leaves

variable {task : ClusterTask α} {xs : List Exchange}

theorem of_report {e : Log.Event} {next : ClusterTask α} (h : Leaves task xs (.report e next)) :
    Leaves task xs next := by
  generalize hd : Dialogue.report e next = d at h
  induction h with
  | start d =>
      subst hd
      exact .report (.start next)
  | report _ ih => exact .report (ih hd)
  | ask _ ih => exact .ask (ih hd)

theorem of_ask {q : ClusterCall} {go : q.Answer → ClusterTask α}
    (h : Leaves task xs (.ask q go)) (m : Memory) :
    Leaves task (xs ++ [⟨q, m⟩]) (go (m.answer q).1) := by
  generalize hd : Dialogue.ask q go = d at h
  induction h with
  | start d =>
      subst hd
      exact .ask (.start _)
  | report _ ih => exact .report (ih hd)
  | ask _ ih => exact .ask (ih hd)

/-- Reports do not matter to a task that is done in the end. -/
theorem quiet {a : α} (h : Leaves task xs (.done a)) : Leaves task.quiet xs (.done a) := by
  generalize hd : Dialogue.done a = d at h
  induction h with
  | start d =>
      subst hd
      exact .start _
  | report _ ih => exact ih hd
  | ask h _ =>
      subst hd
      exact .ask h

/-- A task that asks nothing. -/
theorem done {a b : α} (h : Leaves task xs (.done b)) (htask : task.quiet = .done a) :
    xs = [] ∧ b = a := by
  have hquiet := h.quiet
  rw [htask] at hquiet
  cases hquiet
  exact ⟨rfl, rfl⟩

/-- A task that asks something first. -/
theorem asked {b : α} {q : ClusterCall} {go : q.Answer → ClusterTask α}
    (h : Leaves task xs (.done b)) (htask : task.quiet = .ask q go) :
    ∃ m ys, xs = ⟨q, m⟩ :: ys ∧ Leaves (go (m.answer q).1) ys (.done b) := by
  have hquiet := h.quiet
  rw [htask] at hquiet
  cases hquiet with
  | ask hrest => exact ⟨_, _, rfl, hrest⟩

end Leaves

/-! ## Tasks that are done soon -/

/-- The task is done within so many turns if every call is met by a cluster in a condition `met`.
It asks calls of a kind `mild`, and what it comes to is `good`. -/
inductive Within (met : Memory → Prop) (mild : ClusterCall → Prop) (good : α → Prop) :
    Nat → ClusterTask α → Prop where
  | done {n a} (h : good a) : Within met mild good n (.done a)
  | report {n e d} (h : Within met mild good n d) : Within met mild good (n + 1) (.report e d)
  | ask {n q go} (hq : mild q) (h : ∀ m, met m → Within met mild good n (go (m.answer q).1)) :
      Within met mild good (n + 1) (.ask q go)

section

variable {met : Memory → Prop} {mild : ClusterCall → Prop} {good : α → Prop}

theorem Within.of_zero {d : ClusterTask α} (h : Within met mild good 0 d) :
    ∃ a, d = .done a ∧ good a := by
  cases h with
  | done ha => exact ⟨_, rfl, ha⟩

theorem Within.of_done {n : Nat} {a : α} (h : Within met mild good n (.done a)) : good a := by
  cases h with
  | done ha => exact ha

theorem Within.of_report {n : Nat} {e : Log.Event} {d : ClusterTask α}
    (h : Within met mild good n (.report e d)) : Within met mild good (n - 1) d := by
  cases h with
  | report hd => exact hd

theorem Within.of_ask {n : Nat} {q : ClusterCall} {go : q.Answer → ClusterTask α}
    (h : Within met mild good n (.ask q go)) :
    mild q ∧ ∀ m, met m → Within met mild good (n - 1) (go (m.answer q).1) := by
  cases h with
  | ask hq hgo => exact ⟨hq, hgo⟩

end

/-! ## Sessions of such tasks -/

/-- How many turns a client has. -/
def Session.turns [DecidableEq ι] (i : ι) (events : List (Session.Event ι)) : Nat :=
  events.countP fun e =>
    match e with
    | .turn j => j = i
    | .deed _ => false

namespace Session

variable [DecidableEq ι] {met : Memory → Prop} {mild : ClusterCall → Prop} {good : α → Prop}
  {n : ι → Nat}

/-- Every client is done soon, and only calls of the kind have been asked, each in the
condition. -/
structure Soon (met : Memory → Prop) (mild : ClusterCall → Prop) (good : α → Prop) (n : ι → Nat)
    (s : Session ι α) : Prop where
  memory : met s.memory
  tasks : ∀ i, Within met mild good (n i) (s.tasks i)
  log : ∀ x ∈ s.log, mild x.2.call ∧ met x.2.before

theorem Soon.deed {s : Session ι α} (h : s.Soon met mild good n) {d : Memory.Deed}
    (hd : met (s.memory.perform d)) : (s.next (.deed d)).Soon met mild good n where
  memory := hd
  tasks := h.tasks
  log := h.log

theorem Soon.turn {s : Session ι α} (h : s.Soon met mild good n)
    (hkeeps : ∀ m q, met m → mild q → met (m.answer q).2) (i : ι) :
    (s.next (.turn i)).Soon met mild good fun j => if i = j then n j - 1 else n j := by
  have hi := h.tasks i
  have htasks {d : ClusterTask α} (hd : Within met mild good (n i - 1) d) (j : ι) :
      Within met mild good (if i = j then n j - 1 else n j) (Function.update s.tasks i d j) := by
    by_cases hj : j = i
    · subst hj
      rwa [if_pos rfl, Function.update_self]
    · rw [if_neg (Ne.symm hj), Function.update_of_ne hj]
      exact h.tasks j
  cases htask : s.tasks i with
  | done a =>
      rw [htask] at hi
      have hdone := htasks (.done hi.of_done)
      rw [← htask, Function.update_eq_self] at hdone
      simp only [next, htask]
      exact ⟨h.memory, hdone, h.log⟩
  | report e d =>
      rw [htask] at hi
      simp only [next, htask]
      exact ⟨h.memory, htasks hi.of_report, h.log⟩
  | ask q go =>
      rw [htask] at hi
      obtain ⟨hq, hgo⟩ := hi.of_ask
      simp only [next, htask]
      refine ⟨hkeeps _ q h.memory hq, htasks (hgo _ h.memory), fun x hx => ?_⟩
      rcases List.mem_append.mp hx with hx | hx
      · exact h.log x hx
      · rw [List.mem_singleton.mp hx]
        exact ⟨hq, h.memory⟩

/-- A client that has had its turns is done, whatever the others do in between, if nobody takes the
cluster out of its condition. -/
theorem Soon.run (hkeeps : ∀ m q, met m → mild q → met (m.answer q).2)
    {events : List (Event ι)} : ∀ {n : ι → Nat} {s : Session ι α}, s.Soon met mild good n →
      (∀ earlier d later, events = earlier ++ .deed d :: later →
        met (s.run earlier).memory → met ((s.run earlier).memory.perform d)) →
      (s.run events).Soon met mild good fun i => n i - turns i events := by
  induction events with
  | nil => exact fun h _ => h
  | cons e events ih =>
      intro n s h hdeeds
      have hlater : ∀ earlier d later, events = earlier ++ .deed d :: later →
          met ((s.next e).run earlier).memory →
          met (((s.next e).run earlier).memory.perform d) := by
        rintro earlier d later rfl
        exact hdeeds (e :: earlier) d later rfl
      cases e with
      | deed d => exact ih (h.deed (hdeeds [] d events rfl h.memory)) hlater
      | turn i =>
          have hrest := ih (h.turn hkeeps i) hlater
          refine ⟨hrest.memory, fun j => ?_, hrest.log⟩
          have hj := hrest.tasks j
          have hcount : (if i = j then n j - 1 else n j) - turns j events
              = n j - turns j (.turn i :: events) := by
            by_cases hij : i = j
            · simp only [turns, List.countP_cons, hij, decide_true, if_true]
              omega
            · simp only [turns, List.countP_cons, hij, decide_false, Bool.false_eq_true, if_false,
                Nat.add_zero]
          rwa [hcount] at hj

end Session

end CredRegistry
