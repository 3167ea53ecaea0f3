import CredRegistry.Proofs.Cluster.Secrets
import CredRegistry.Proofs.RepoList.Contention
import CredRegistry.Proofs.Service.Site

/-!
# A cluster that others are at work on

A `Bustle` is a cluster in memory and a schedule: what other parties do to the cluster before
each of the calls that a task makes. A task that is carried out there goes through a session in
which it has all the turns and the others do their deeds between them (`runs_of_carry`), so what
is known of sessions holds here: `reconciled` tells the outcome of a reconcile from its own
calls. `ensured` is the same for making sure of a secret, as long as nobody else writes it.
-/

namespace CredRegistry

open CredRegistry.RepoList

/-! ## One secret and everybody else -/

namespace Memory

/-- Does a deed write the secret with a key? -/
def Deed.WritesSecretAt (k : ObjectKey) : Deed → Prop
  | .storeSecret s => (s.space, s.name) = k
  | .call (.createSecret space name _ _) => (space, name) = k
  | _ => False

theorem find?_secrets_perform (m : Memory) {k : ObjectKey} {d : Deed}
    (hd : ¬d.WritesSecretAt k) : (m.perform d).secrets.find? k = m.secrets.find? k := by
  cases d with
  | storeSecret s =>
      change (m.secrets.put (s.space, s.name) s).find? k = _
      rw [Objects.find?_put, if_neg fun heq => hd heq.symm]
  | call q =>
      by_cases hq : CreatesSecret q
      · cases q with
        | createSecret space name username token =>
            rcases m.createSecret_cases space name username token with
              ⟨-, -, -, -, hsecrets⟩ | ⟨-, -, hsecrets⟩
            · exact congrArg (·.find? k) hsecrets
            · refine (congrArg (·.find? k) hsecrets).trans ?_
              rw [Objects.find?_put, if_neg fun heq => hd heq.symm]
        | _ => cases hq
      · exact congrArg (·.find? k) (m.secrets_answer hq)
  | _ => rfl

theorem find?_secrets_foldl {k : ObjectKey} {deeds : List Deed}
    (hdeeds : ∀ d ∈ deeds, ¬d.WritesSecretAt k) :
    ∀ m : Memory, (deeds.foldl perform m).secrets.find? k = m.secrets.find? k := by
  induction deeds with
  | nil => exact fun _ => rfl
  | cons d deeds ih =>
      intro m
      rw [List.foldl_cons, ih fun d' hd' => hdeeds d' (List.mem_cons_of_mem _ hd')]
      exact m.find?_secrets_perform (hdeeds d List.mem_cons_self)

end Memory

/-! ## Bustles -/

/-- A cluster in memory, what others will do to it before each of the next calls, and what was
asked of it so far. -/
structure Bustle where
  memory : Memory
  others : List (List Memory.Deed)
  log : List Exchange

namespace Bustle

variable {α : Type} {b b' : Bustle} {space name : String}

/-- The cluster that the next call meets. -/
def met (b : Bustle) : Memory := (b.others.headD []).foldl Memory.perform b.memory

/-- Answer a call, once the others have done what comes before it. -/
def respond : Responder Bustle := fun q b =>
  ((b.met.answer q).1, ⟨(b.met.answer q).2, b.others.tail, b.log ++ [⟨q, b.met⟩]⟩)

/-- Nobody else writes the secret with a key. -/
def Spares (k : ObjectKey) (b : Bustle) : Prop :=
  ∀ deeds ∈ b.others, ∀ d ∈ deeds, ¬d.WritesSecretAt k

/-- What others do before the next call is part of the schedule. -/
theorem mem_others {d : Memory.Deed} (h : d ∈ b.others.headD []) :
    ∃ deeds ∈ b.others, d ∈ deeds := by
  cases hothers : b.others with
  | nil =>
      rw [hothers] at h
      cases h
  | cons deeds others =>
      rw [hothers] at h
      exact ⟨deeds, List.mem_cons_self, h⟩

theorem Spares.head {k : ObjectKey} (h : b.Spares k) :
    ∀ d ∈ b.others.headD [], ¬d.WritesSecretAt k := by
  intro d hd
  obtain ⟨deeds, hdeeds, hd⟩ := mem_others hd
  exact h deeds hdeeds d hd

theorem Spares.find?_met {k : ObjectKey} (h : b.Spares k) :
    b.met.secrets.find? k = b.memory.secrets.find? k :=
  Memory.find?_secrets_foldl h.head b.memory

theorem Spares.respond {k : ObjectKey} (q : ClusterCall) (b : Bustle) (h : b.Spares k) :
    (Bustle.respond q b).2.Spares k :=
  fun deeds hdeeds => h deeds (List.mem_of_mem_tail hdeeds)

theorem Spares.carry {k : ObjectKey} (h : b.Spares k) (task : ClusterTask α) :
    (Bustle.respond.carry b task).2.Spares k :=
  Responder.carry_keeps (P := Spares k) Spares.respond task h

theorem sound_carry (h : b.memory.Sound) (task : ClusterTask α) :
    (Bustle.respond.carry b task).2.memory.Sound :=
  Responder.carry_keeps (P := fun b : Bustle => b.memory.Sound)
    (fun q _ hb => (Memory.sound_answer (Memory.sound_foldl_perform _ hb) q).1) task h

/-- What was asked is never forgotten. -/
theorem log_carry (b : Bustle) (task : ClusterTask α) :
    ∃ calls, (Bustle.respond.carry b task).2.log = b.log ++ calls := by
  refine Responder.carry_keeps (P := fun b' : Bustle => ∃ calls, b'.log = b.log ++ calls)
    (fun q b' h => ?_) task ⟨[], (List.append_nil _).symm⟩
  obtain ⟨calls, hlog⟩ := h
  exact ⟨calls ++ [⟨q, b'.met⟩], by rw [respond, hlog, List.append_assoc]⟩

/-! ## Making sure of the secret -/

/-- A read leaves the secret as it is. -/
theorem secret?_after_read (h : b.Spares (space, name)) :
    (respond (.getSecret space name) b).2.memory.secret? space name
      = b.memory.secret? space name := by
  have hkept : (b.met.getSecret space name).2.secrets = b.met.secrets :=
    b.met.secrets_answer (q := .getSecret space name) not_false
  exact (congrArg (Objects.find? · (space, name)) hkept).trans h.find?_met

/-- What was read is there. -/
theorem secret?_of_read {x : Secret} (h : b.Spares (space, name))
    (hread : (b.met.getSecret space name).1 = .ok x) : b.memory.secret? space name = some x := by
  have hmet : b.met.secret? space name = b.memory.secret? space name := h.find?_met
  rcases b.met.getSecret_cases space name with ⟨e, -, he⟩ | ⟨-, he⟩ | ⟨found, hfound, hok⟩
  · cases hread.symm.trans he
  · cases hread.symm.trans he
  · cases hread.symm.trans hok
    exact hmet.symm.trans hfound

/-- What was created was not there before, and is there now. -/
theorem secret?_of_create {username token : String} {x : Secret} (h : b.Spares (space, name))
    (hcreate : (b.met.createSecret space name username token).1 = .ok x) :
    b.memory.secret? space name = none ∧
      (respond (.createSecret space name username token) b).2.memory.secret? space name
        = some (.holding space name username token) := by
  have hmet : b.met.secret? space name = b.memory.secret? space name := h.find?_met
  rcases b.met.createSecret_cases space name username token with
    ⟨-, e, -, he, -⟩ | ⟨hnone, -, hsecrets⟩
  · cases hcreate.symm.trans he
  · refine ⟨hmet.symm.trans hnone, ?_⟩
    refine (congrArg (Objects.find? · (space, name)) hsecrets).trans ?_
    rw [Objects.find?_put, if_pos rfl]

/-- Once a task has made sure of a secret, it is the one that was there before, or else the one
that the task has created. -/
theorem ensured {username token : String} {ref : SecretRef} (hspares : b.Spares (space, name))
    (h : respond.carry b (ClusterTask.ensureSecret space name username token) = (.ok ref, b')) :
    b'.memory.secret? space name = some
      ((b.memory.secret? space name).getD (.holding space name username token)) := by
  let b₁ := (respond (.getSecret space name) b).2
  have hcarry : respond.carry b (ClusterTask.getSecret space name)
      = ((b.met.getSecret space name).1, b₁) := rfl
  have hafter : b₁.memory.secret? space name = b.memory.secret? space name :=
    secret?_after_read hspares
  rw [ClusterTask.ensureSecret, Responder.carry_bind, hcarry] at h
  cases hread : (b.met.getSecret space name).1 with
  | ok x =>
      rw [hread] at h
      obtain rfl : b₁ = b' := congrArg Prod.snd h
      rw [hafter, secret?_of_read hspares hread, Option.getD_some]
  | error e =>
      simp only [hread] at h
      cases hmissing : e.isNotFound with
      | false =>
          simp only [hmissing] at h
          cases congrArg Prod.fst h
      | true =>
          simp only [hmissing, if_true] at h
          let b₂ := (respond (.createSecret space name username token) b₁).2
          have hcarry₁ : respond.carry b₁ (ClusterTask.createSecret space name username token)
              = ((b₁.met.createSecret space name username token).1, b₂) := rfl
          rw [Responder.carry_bind] at h
          change respond.carry b₁ (ClusterTask.createSecret space name username token >>= _) = _
            at h
          rw [Responder.carry_bind, hcarry₁] at h
          cases hcreate : (b₁.met.createSecret space name username token).1 with
          | error e' =>
              simp only [hcreate] at h
              cases congrArg Prod.fst h
          | ok x =>
              simp only [hcreate] at h
              obtain rfl : b₂ = b' := congrArg Prod.snd h
              obtain ⟨hnone, hcreated⟩ := secret?_of_create (hspares.respond _ b) hcreate
              rw [hcreated, ← hafter, hnone, Option.getD_none]

/-! ## Bustles and sessions -/

theorem run_deeds {ι : Type} [DecidableEq ι] (deeds : List Memory.Deed) (s : Session ι α) :
    s.run (deeds.map .deed) = { s with memory := deeds.foldl Memory.perform s.memory } := by
  induction deeds generalizing s with
  | nil => rfl
  | cons d deeds ih => exact ih { s with memory := s.memory.perform d }

/-- A task that is carried out goes through a session in which the others do what they are
scheduled for. -/
theorem runs_of_carry (task : ClusterTask α) (b : Bustle) {s : Session Unit α}
    (hmemory : s.memory = b.memory) (htask : s.tasks () = task) :
    ∃ (events : List (Session.Event Unit)) (calls : List Exchange),
      (∀ d, .deed d ∈ events → ∃ deeds ∈ b.others, d ∈ deeds) ∧
      (s.run events).tasks () = .done (respond.carry b task).1 ∧
      (s.run events).memory = (respond.carry b task).2.memory ∧
      (respond.carry b task).2.log = b.log ++ calls ∧
      (s.run events).log.map (·.2) = s.log.map (·.2) ++ calls := by
  induction task generalizing b s with
  | done a =>
      exact ⟨[], [], nofun, htask, hmemory, (List.append_nil _).symm, (List.append_nil _).symm⟩
  | report e next ih =>
      have hnext : s.next (.turn ()) = { s with tasks := Function.update s.tasks () next } := by
        simp only [Session.next, htask]
      obtain ⟨events, calls, hdeeds, hrun⟩ := ih b (s := s.next (.turn ()))
        (by rw [hnext]; exact hmemory) (by rw [hnext]; exact Function.update_self () next s.tasks)
      refine ⟨.turn () :: events, calls, fun d hd => ?_, ?_⟩
      · rcases List.mem_cons.mp hd with hturn | hd
        · cases hturn
        · exact hdeeds d hd
      · rw [hnext] at hrun
        rw [Session.run, List.foldl_cons, hnext]
        exact hrun
  | ask q next ih =>
      let b₁ := (respond q b).2
      let s₁ : Session Unit α :=
        ⟨b₁.memory, Function.update s.tasks () (next (b.met.answer q).1),
          s.log ++ [((), ⟨q, b.met⟩)]⟩
      have hstart : s.run ((b.others.headD []).map .deed ++ [.turn ()]) = s₁ := by
        rw [Session.run_append, run_deeds, hmemory]
        simp only [Session.run, List.foldl_cons, List.foldl_nil, Session.next, htask]
        rfl
      obtain ⟨events, calls, hdeeds, htasks, hmem, hlog, hcalls⟩ := ih (b.met.answer q).1 b₁
        (s := s₁) rfl (Function.update_self () _ s.tasks)
      refine ⟨(b.others.headD []).map .deed ++ [.turn ()] ++ events, ⟨q, b.met⟩ :: calls,
        fun d hd => ?_, ?_⟩
      · rcases List.mem_append.mp hd with hd | hd
        · exact mem_others (by simpa using hd)
        · obtain ⟨deeds, hmem', hd⟩ := hdeeds d hd
          exact ⟨deeds, List.mem_of_mem_tail hmem', hd⟩
      · rw [Session.run_append, hstart]
        refine ⟨htasks, hmem, hlog.trans ?_, hcalls.trans ?_⟩
        · exact List.append_assoc ..
        · simp only [s₁, List.map_append, List.append_assoc]
          rfl

/-! ## Reconciling -/

/-- A reconcile among others does what its outcome says, and leaves all secrets alone. -/
theorem reconciled {policy : RetryPolicy} {c : Credential} {secret : String} {o : Outcome}
    (hm : b.memory.Sound)
    (h : respond.carry b (reconcile policy space name c secret) = (o, b')) :
    ∃ calls, b'.log = b.log ++ calls ∧ Orderly space name calls ∧
      Ended ⟨policy.maxAttempts, c, secret⟩ space name calls o ∧
      ∀ k, b.Spares k → b'.memory.secrets.find? k = b.memory.secrets.find? k := by
  rw [Service.reconcile_eq_task] at h
  let r : Call := ⟨policy.maxAttempts, c, secret⟩
  obtain ⟨events, calls, hdeeds, hdone, hmemory, hlog, hcalls⟩ := runs_of_carry
    (r.task space name) b (s := atOnce (fun _ => r) space name b.memory) rfl rfl
  rw [h] at hdone hmemory hlog
  obtain ⟨⟨stages, hcontended⟩, hsecrets⟩ : (∃ stages, Contended r space name stages
      ((atOnce (fun _ => r) space name b.memory).run events)) ∧
      ∀ k, b.Spares k →
        ((atOnce (fun _ => r) space name b.memory).run events).memory.secrets.find? k
          = b.memory.secrets.find? k := by
    refine Session.run_keeps (P := fun s => (∃ stages, Contended r space name stages s) ∧
      ∀ k, b.Spares k → s.memory.secrets.find? k = b.memory.secrets.find? k) (fun s e he hs => ?_)
      ⟨⟨_, contended_atOnce hm⟩, fun _ _ => rfl⟩
    obtain ⟨⟨stages, hcontended⟩, hkept⟩ := hs
    cases e with
    | deed d =>
        obtain ⟨deeds, hothers, hd⟩ := hdeeds d he
        refine ⟨⟨stages, hcontended.deed d⟩, fun k hspares => ?_⟩
        exact (s.memory.find?_secrets_perform (hspares deeds hothers d hd)).trans (hkept k hspares)
    | turn i =>
        refine ⟨hcontended.turn, fun k hspares =>
          (congrArg (Objects.find? · k) ?_).trans (hkept k hspares)⟩
        rcases turn_cases hcontended.tracked () with ⟨-, hsame, -⟩ |
          ⟨attempt, left, -, -, hsame, -⟩ | ⟨attempt, left, c', text, -, -, hsame, -⟩
        · rw [hsame]
        · rw [hsame]
          exact s.memory.secrets_answer (q := .getConfigMap space name) not_false
        · rw [hsame]
          exact s.memory.secrets_answer (q := .updateConfigMap (revise c' text)) not_false
  have hexchanges : exchanges ((atOnce (fun _ => r) space name b.memory).run events) = calls :=
    hcalls
  have hcome := hcontended.come
  rw [hcontended.tracked.of_done hdone, hexchanges] at hcome
  refine ⟨calls, hlog, hexchanges ▸ hcontended.orderly, hcome.2.2, fun k hspares => ?_⟩
  rw [← hmemory, hsecrets k hspares]

end Bustle

end CredRegistry
