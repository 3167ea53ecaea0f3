import CredRegistry.Cluster.Provision
import CredRegistry.Proofs.Cluster.Session

/-!
# Work that is carried through

`Memory.carry` takes one task from its beginning to its end, and keeps the exchanges that this
takes. They lead from the cluster as it was to the cluster as it is left (`leads_carry`), so
whatever a task leaves behind can be read off its exchanges: `Leads.untouched` does that for
the config maps. `provided_ensureSecret` says what making sure of a secret comes to.
-/

namespace CredRegistry

/-! ## Exchanges -/

namespace Exchange

/-- What a call failed with, if it failed. -/
def fault? (x : Exchange) : Option ClusterError :=
  match x with
  | ⟨.connect cluster, m⟩ => error? (m.connect cluster)
  | ⟨.getSecret space name, m⟩ => error? (m.getSecret space name).1
  | ⟨.createSecret space name username token, m⟩ =>
      error? (m.createSecret space name username token).1
  | ⟨.getConfigMap space name, m⟩ => error? (m.getConfigMap space name).1
  | ⟨.updateConfigMap c, m⟩ => error? (m.updateConfigMap c).1
where
  error? {α : Type} : Except ClusterError α → Option ClusterError
    | .error e => some e
    | .ok _ => none

/-- An exchange that is no accepted update leaves all config maps alone, but for the one that
the other writer is let in at. -/
theorem configMaps_after {x : Exchange} (h : x.isAccepted = false) :
    x.after.configMaps = x.before.configMaps ∨
      ∃ c, x.call = .updateConfigMap c ∧
        x.after.configMaps = (x.before.letIn c.space c.name).configMaps := by
  obtain ⟨q, m⟩ := x
  cases q with
  | connect cluster => exact .inl rfl
  | getSecret space name =>
      refine .inl ?_
      simp only [after, Memory.answer, Memory.getSecret]
      split
      · rfl
      · split <;> rfl
  | createSecret space name username token =>
      refine .inl ?_
      simp only [after, Memory.answer, Memory.createSecret]
      split <;> rfl
  | getConfigMap space name => exact .inl (m.getConfigMap_keeps space name).1
  | updateConfigMap c =>
      cases hanswer : (m.updateConfigMap c).1 with
      | ok c' =>
          simp only [isAccepted, hanswer] at h
          cases h
      | error e =>
          rcases (Memory.updateConfigMap_refused hanswer).2 with hmaps | hmaps
          · exact .inl hmaps
          · exact .inr ⟨c, rfl, hmaps⟩

theorem interloper_after {x : Exchange} (h : x.before.interloper = none) :
    x.after.interloper = none := by
  obtain ⟨q, m⟩ := x
  cases q with
  | connect cluster => exact h
  | getSecret space name =>
      simp only [after, Memory.answer, Memory.getSecret]
      split
      · exact h
      · split <;> exact h
  | createSecret space name username token =>
      simp only [after, Memory.answer, Memory.createSecret]
      split <;> exact h
  | getConfigMap space name => exact (m.getConfigMap_keeps space name).2.trans h
  | updateConfigMap c => exact (Memory.updateConfigMap_alone c h).1

end Exchange

/-- Do these exchanges, one after the other, make the one cluster the other? -/
def Leads : Memory → List Exchange → Memory → Prop
  | m, [], m' => m' = m
  | m, x :: xs, m' => x.before = m ∧ Leads x.after xs m'

theorem Leads.append {m₁ m₂ m₃ : Memory} {xs ys : List Exchange} (h : Leads m₁ xs m₂)
    (h' : Leads m₂ ys m₃) : Leads m₁ (xs ++ ys) m₃ := by
  induction xs generalizing m₁ with
  | nil =>
      cases h
      exact h'
  | cons x xs ih => exact ⟨h.1, ih h.2⟩

/-- No update was accepted, so all that became of the config maps is what the other writer has
made of them. -/
structure Untouched (m : Memory) (xs : List Exchange) (m' : Memory) : Prop where
  refused : ∀ x ∈ xs, x.isAccepted = false
  others : ∀ x ∈ xs, x.after.configMaps = x.before.configMaps ∨
    ∃ c, x.call = .updateConfigMap c ∧
      x.after.configMaps = (x.before.letIn c.space c.name).configMaps
  alone : m.interloper = none → m'.configMaps = m.configMaps

theorem Leads.configMaps_of_alone {m m' : Memory} {xs : List Exchange} (h : Leads m xs m')
    (hxs : ∀ x ∈ xs, x.isAccepted = false) (halone : m.interloper = none) :
    m'.configMaps = m.configMaps := by
  induction xs generalizing m with
  | nil => rw [show m' = m from h]
  | cons x xs ih =>
      obtain ⟨rfl, hlater⟩ := h
      have hrest := ih hlater (fun y hy => hxs y (List.mem_cons_of_mem _ hy))
        (Exchange.interloper_after halone)
      rw [hrest]
      rcases Exchange.configMaps_after (hxs x List.mem_cons_self) with hmaps | ⟨c, -, hmaps⟩
      · exact hmaps
      · rw [hmaps, Memory.letIn, halone]

theorem Leads.untouched {m m' : Memory} {xs : List Exchange} (h : Leads m xs m')
    (hxs : ∀ x ∈ xs, x.isAccepted = false) : Untouched m xs m' where
  refused := hxs
  others x hx := Exchange.configMaps_after (hxs x hx)
  alone := h.configMaps_of_alone hxs

/-! ## Tasks -/

/-- What a task comes to, what it leaves of the cluster, and what it has asked. -/
structure Completed (α : Type) where
  result : α
  cluster : Memory
  calls : List Exchange

namespace Memory

variable {α β : Type}

/-- Carry a task through. What it reports is passed over. -/
def carry : Memory → ClusterTask α → Completed α
  | m, .done a => ⟨a, m, []⟩
  | m, .report _ next => m.carry next
  | m, .ask q next =>
      let rest := (m.answer q).2.carry (next (m.answer q).1)
      { rest with calls := ⟨q, m⟩ :: rest.calls }

@[simp] theorem carry_pure (m : Memory) (a : α) : m.carry (pure a) = ⟨a, m, []⟩ := rfl

@[simp] theorem carry_note (m : Memory) (level : Log.Level) (target message : String) :
    m.carry (Log.note level target message) = ⟨(), m, []⟩ := rfl

@[simp] theorem carry_connect (m : Memory) (cluster : String) :
    m.carry (ClusterTask.connect cluster) = ⟨m.connect cluster, m, [⟨.connect cluster, m⟩]⟩ := rfl

@[simp] theorem carry_getSecret (m : Memory) (space name : String) :
    m.carry (ClusterTask.getSecret space name) = ⟨(m.getSecret space name).1,
      (m.getSecret space name).2, [⟨.getSecret space name, m⟩]⟩ := rfl

@[simp] theorem carry_createSecret (m : Memory) (space name username token : String) :
    m.carry (ClusterTask.createSecret space name username token)
      = ⟨(m.createSecret space name username token).1,
        (m.createSecret space name username token).2,
        [⟨.createSecret space name username token, m⟩]⟩ := rfl

@[simp] theorem carry_getConfigMap (m : Memory) (space name : String) :
    m.carry (ClusterTask.getConfigMap space name) = ⟨(m.getConfigMap space name).1,
      (m.getConfigMap space name).2, [⟨.getConfigMap space name, m⟩]⟩ := rfl

@[simp] theorem carry_updateConfigMap (m : Memory) (c : ConfigMap) :
    m.carry (ClusterTask.updateConfigMap c) = ⟨(m.updateConfigMap c).1, (m.updateConfigMap c).2,
      [⟨.updateConfigMap c, m⟩]⟩ := rfl

theorem carry_bind (m : Memory) (task : ClusterTask α) (f : α → ClusterTask β) :
    m.carry (task >>= f) =
      let first := m.carry task
      let second := first.cluster.carry (f first.result)
      ⟨second.result, second.cluster, first.calls ++ second.calls⟩ := by
  change m.carry (task.bind f) = _
  induction task generalizing m with
  | done a => rfl
  | report e next ih => exact ih m
  | ask q next ih => simp only [Dialogue.bind, carry, ih, List.cons_append]

theorem leads_carry (m : Memory) (task : ClusterTask α) :
    Leads m (m.carry task).calls (m.carry task).cluster := by
  induction task generalizing m with
  | done a => rfl
  | report e next ih => exact ih m
  | ask q next ih => exact ⟨rfl, ih _ _⟩

end Memory

/-! ## Making sure of the secret -/

/-- The calls that make sure of a secret. -/
def IsSecretCall (space name username token : String) (q : ClusterCall) : Prop :=
  q = .getSecret space name ∨ q = .createSecret space name username token

/-- The calls that keep making sure of a secret from succeeding: a read, unless the secret is
just missing, and a creation. -/
inductive SecretFault : Exchange → ClusterError → Prop where
  | read {m space name e} (h : (m.getSecret space name).1 = .error e)
      (he : e.isNotFound = false) : SecretFault ⟨.getSecret space name, m⟩ e
  | creation {m space name username token e}
      (h : (m.createSecret space name username token).1 = .error e) :
      SecretFault ⟨.createSecret space name username token, m⟩ e

/-- What making sure of a secret comes to. -/
structure Provided (space name username token : String)
    (v : Completed (Except ClusterError SecretRef)) : Prop where
  calls : ∀ x ∈ v.calls, IsSecretCall space name username token x.call
  failed : ∀ e, v.result = .error e → ∃ earlier x, v.calls = earlier ++ [x] ∧ SecretFault x e
  given : ∀ ref, v.result = .ok ref → ∃ x ∈ v.calls, x.fault? = none

theorem provided_ensureSecret (m : Memory) (space name username token : String) :
    Provided space name username token
      (m.carry (ClusterTask.ensureSecret space name username token)) := by
  have hget : IsSecretCall space name username token (.getSecret space name) := .inl rfl
  simp only [ClusterTask.ensureSecret, Memory.carry_bind, Memory.carry_getSecret]
  cases hread : (m.getSecret space name).1 with
  | ok s =>
      simp only [Memory.carry_bind, Memory.carry_note, Memory.carry_pure, List.append_nil]
      refine ⟨by simpa using hget, nofun, fun _ _ => ⟨_, List.mem_singleton_self _, ?_⟩⟩
      simp only [Exchange.fault?, hread, Exchange.fault?.error?]
  | error e =>
      cases hmissing : e.isNotFound with
      | false =>
          simp only [hmissing, Bool.false_eq_true, if_false, Memory.carry_bind, Memory.carry_note,
            Memory.carry_pure, List.append_nil]
          refine ⟨by simpa using hget, ?_, nofun⟩
          rintro e' ⟨rfl⟩
          exact ⟨[], _, rfl, .read hread hmissing⟩
      | true =>
          have hcreate : IsSecretCall space name username token
              (.createSecret space name username token) := .inr rfl
          simp only [hmissing, if_true, Memory.carry_bind, Memory.carry_note,
            Memory.carry_createSecret]
          cases hcreation :
              ((m.getSecret space name).2.createSecret space name username token).1 with
          | ok s =>
              simp only [Memory.carry_pure, List.append_nil, List.nil_append]
              refine ⟨by simpa using ⟨hget, hcreate⟩, nofun, fun _ _ =>
                ⟨_, List.mem_append_right _ (List.mem_singleton_self _), ?_⟩⟩
              simp only [Exchange.fault?, hcreation, Exchange.fault?.error?]
          | error e' =>
              simp only [Memory.carry_bind, Memory.carry_note, Memory.carry_pure, List.append_nil,
                List.nil_append]
              refine ⟨by simpa using ⟨hget, hcreate⟩, ?_, nofun⟩
              rintro e'' ⟨rfl⟩
              exact ⟨_, _, rfl, .creation hcreation⟩

end CredRegistry
