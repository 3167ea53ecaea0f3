import CredRegistry.Proofs.Cluster.Session
import CredRegistry.RepoList.Reconcile

/-!
# The course of reconciling

A call to reconcile is always at one of three stages: about to read the map, about to
write what it made of it, or done. `Stage.afterRead` and `Stage.afterWrite` say how an
answer takes it from one to the next; they are all that an argument about interleavings has
to know of the program. `Stands` ties a stage to the dialogue that is left, and
`reading_asks` and `writing_asks` say that the dialogue asks the call of its stage and goes
on as the stages do.
-/

namespace CredRegistry.RepoList

open RetryPolicy (Success Failure)

abbrev Outcome := Except ReconcileError Reconciled

/-- A call to reconcile. -/
structure Call where
  budget : Nat
  credential : Credential
  secret : String

namespace Call

variable (r : Call) (space name : String)

/-- The host whose entry is to be in the list. -/
def host : String := r.credential.host

/-- The entry that is made for the host if there is none. Its references are named after the user
and the token themselves. -/
def entry : Entry where
  url := r.credential.host
  usernameSecret := some { name := r.credential.username, key := "username", extra := ∅ }
  passwordSecret := some { name := r.credential.token, key := "password", extra := ∅ }
  extra := ∅

/-- This is what merging appends. -/
theorem entry_eq : r.entry = .ofCredential r.credential := rfl

def limit : Nat := max r.budget 1

def task : ClusterTask Outcome :=
  reconcile (.fixed r.budget) space name r.credential r.secret

/-- The end of an attempt, once the write has been answered. -/
def wrote : Except ClusterError ConfigMap → ClusterTask (Except ReconcileError Bool)
  | .error e => pure (.error (.cluster e))
  | .ok _ => do
      Log.note .info logTarget <|
        s!"Added repository credentials for {r.credential.host} "
          ++ s!"to config map {space}/{name}"
      pure (.ok true)

/-- The end of the call, once there is an outcome of the attempts. -/
def conclude : Except (Failure ReconcileError) (Success Bool) → ClusterTask Outcome
  | .ok s => pure (.ok ⟨s.attempts, s.value⟩)
  | .error (.exhausted attempts _) => do
      Log.note .error logTarget
        s!"Giving up on config map {space}/{name} after {attempts} conflicting attempts"
      pure (.error (.conflictExhausted space name attempts))
  | .error (.aborted _ e) => pure (.error e)

/-- The work from an attempt on, with so many left after it. -/
def attempts (left attempt : Nat) : ClusterTask Outcome :=
  (RetryPolicy.fixed r.budget).attemptFrom
      (mergeOnce (.fixed r.budget) space name r.credential r.secret)
      ReconcileError.isRetryable ReconcileError.message left attempt
    >>= conclude space name

/-- The work after an attempt that came to something. -/
def settle (left attempt : Nat) : Except ReconcileError Bool → ClusterTask Outcome
  | .ok written => pure (.ok ⟨attempt, written⟩)
  | .error e =>
      if e.isRetryable then
        match left with
        | 0 => conclude space name (.error (.exhausted attempt e))
        | left + 1 => do
            (RetryPolicy.fixed r.budget).noteFailure attempt e.message
            r.attempts space name left (attempt + 1)
      else pure (.error e)

theorem attempts_eq (left attempt : Nat) :
    r.attempts space name left attempt =
      mergeOnce (.fixed r.budget) space name r.credential r.secret attempt
        >>= r.settle space name left attempt := by
  unfold attempts
  rw [RetryPolicy.attemptFrom, Dialogue.bind_assoc]
  refine congrArg _ (funext fun result => ?_)
  cases result with
  | ok value => rfl
  | error e =>
      by_cases he : e.isRetryable = true
      · simp only [settle, if_pos he]
        cases left <;> rfl
      · simp only [settle, if_neg he]
        rfl

end Call

/-! ## Stages -/

/-- How far a call to reconcile has come. -/
inductive Stage where
  /-- An attempt is about to read the map, with so many attempts left after it. -/
  | reading (attempt left : Nat)
  /-- It is about to write the map it has read with a new text of the list. -/
  | writing (attempt left : Nat) (c : ConfigMap) (text : String)
  | returned (o : Outcome)

namespace Stage

variable (r : Call) (space name : String)

/-- The stage after an attempt that came to something. -/
def settled (attempt left : Nat) : Except ReconcileError Bool → Stage
  | .ok written => .returned (.ok ⟨attempt, written⟩)
  | .error e =>
      if e.isRetryable then
        match left with
        | 0 => .returned (.error (.conflictExhausted space name attempt))
        | left + 1 => .reading (attempt + 1) left
      else .returned (.error e)

def afterRead (attempt left : Nat) : Except ClusterError ConfigMap → Stage
  | .error e => settled space name attempt left (.error (.cluster e))
  | .ok c =>
      match mergedText c r.credential r.secret with
      | .error e => settled space name attempt left (.error (.malformed space name e))
      | .ok none => settled space name attempt left (.ok false)
      | .ok (some text) => .writing attempt left c text

/-- The stage after the write has been answered. -/
def afterWrite (attempt left : Nat) : Except ClusterError ConfigMap → Stage
  | .error e => settled space name attempt left (.error (.cluster e))
  | .ok _ => settled space name attempt left (.ok true)

end Stage

def revise (c : ConfigMap) (text : String) : ConfigMap :=
  { c with data := c.data.insert listKey text }

/-- Is this dialogue what is left of a call at a stage? Reports on the way do not matter. -/
def Stands (r : Call) (space name : String) : Stage → ClusterTask Outcome → Prop
  | .reading attempt left, d => d.quiet = (r.attempts space name left attempt).quiet
  | .writing attempt left c text, d =>
      d.quiet = .ask (.updateConfigMap (revise c text)) fun answer =>
        r.wrote space name answer >>= r.settle space name left attempt
  | .returned o, d => d.quiet = .done o

section

variable {r : Call} {space name : String}

theorem stands_task : Stands r space name (.reading 1 (r.limit - 1)) (r.task space name) := rfl

theorem Stands.congr {σ : Stage} {d d' : ClusterTask Outcome} (h : Stands r space name σ d)
    (hd : d'.quiet = d.quiet) : Stands r space name σ d' := by
  cases σ <;> exact hd.trans h

theorem stands_settle (left attempt : Nat) (result : Except ReconcileError Bool) :
    Stands r space name (Stage.settled space name attempt left result)
      (r.settle space name left attempt result) := by
  cases result with
  | ok written => rfl
  | error e =>
      by_cases he : e.isRetryable = true
      · simp only [Stage.settled, Call.settle, if_pos he]
        cases left <;> rfl
      · simp only [Stage.settled, Call.settle, if_neg he]
        rfl

theorem Stands.asks_of_reading {attempt left : Nat} {d : ClusterTask Outcome}
    (h : Stands r space name (.reading attempt left) d) :
    ∃ go, d.quiet = .ask (.getConfigMap space name) go ∧
      ∀ answer, Stands r space name (Stage.afterRead r space name attempt left answer)
        (go answer) := by
  have hd : d.quiet = (r.attempts space name left attempt).quiet := h
  rw [Call.attempts_eq] at hd
  refine ⟨_, hd, fun answer => ?_⟩
  cases answer with
  | error e => exact stands_settle left attempt (.error (.cluster e))
  | ok c =>
      simp only [Stage.afterRead]
      cases hmerged : mergedText c r.credential r.secret with
      | error e =>
          refine (stands_settle left attempt (.error (.malformed space name e))).congr ?_
          simp only [Dialogue.bind, hmerged]
          rfl
      | ok text =>
          cases text with
          | none =>
              refine (stands_settle left attempt (.ok false)).congr ?_
              simp only [Dialogue.bind, hmerged]
              rfl
          | some text =>
              simp only [Dialogue.bind, hmerged]
              exact congrArg (Dialogue.ask _) (funext fun answer => by cases answer <;> rfl)

theorem Stands.asks_of_writing {attempt left : Nat} {c : ConfigMap} {text : String}
    {d : ClusterTask Outcome} (h : Stands r space name (.writing attempt left c text) d) :
    ∃ go, d.quiet = .ask (.updateConfigMap (revise c text)) go ∧
      ∀ answer, Stands r space name (Stage.afterWrite space name attempt left answer)
        (go answer) := by
  refine ⟨_, h, fun answer => ?_⟩
  cases answer with
  | error e => exact stands_settle left attempt (.error (.cluster e))
  | ok c' => exact @stands_settle r space name left attempt (.ok true)

/-! ## What an attempt makes of the map -/

theorem indexOf?_eq_none {host : String} {es : List Entry} :
    indexOf? host es = none ↔ ∀ e ∈ es, e.url ≠ host := by
  simp [indexOf?, List.findIdx?_eq_none_iff]

theorem mergedText_some {c : ConfigMap} {credential : Credential} {secret text : String}
    (h : mergedText c credential secret = .ok (some text)) :
    ∃ es, decode (listText c) = .ok es ∧ (∀ e ∈ es, e.url ≠ credential.host) ∧
      encode (es ++ [.ofCredential credential]) = .ok text := by
  unfold mergedText at h
  cases hdecode : decode (listText c) with
  | error e => simp [hdecode, bind, Except.bind] at h
  | ok es =>
      refine ⟨es, rfl, ?_⟩
      simp only [hdecode, bind, Except.bind, merge] at h
      cases hindex : indexOf? credential.host es with
      | some i =>
          simp only [hindex] at h
          split at h <;> cases h
      | none =>
          refine ⟨indexOf?_eq_none.mp hindex, ?_⟩
          simp only [hindex] at h
          split at h
          · cases h
          · cases h
            assumption

theorem mergedText_none {c : ConfigMap} {credential : Credential} {secret : String}
    (h : mergedText c credential secret = .ok none) :
    ∃ es, decode (listText c) = .ok es ∧ ∃ e ∈ es, e.url = credential.host := by
  unfold mergedText at h
  cases hdecode : decode (listText c) with
  | error e => simp [hdecode, bind, Except.bind] at h
  | ok es =>
      refine ⟨es, rfl, ?_⟩
      by_cases hindex : indexOf? credential.host es = none
      · simp only [hdecode, bind, Except.bind, merge, hindex] at h
        split at h <;> cases h
      · rw [indexOf?_eq_none] at hindex
        simpa using hindex

theorem mergedText_error {c : ConfigMap} {credential : Credential} {secret : String}
    {e : Yaml.Error} (h : mergedText c credential secret = .error e) :
    decode (listText c) = .error e ∨
      ∃ es, decode (listText c) = .ok es ∧
        encode (merge es credential secret).1 = .error e := by
  unfold mergedText at h
  cases hdecode : decode (listText c) with
  | error e' =>
      simp only [hdecode, bind, Except.bind] at h
      cases h
      exact .inl rfl
  | ok es =>
      refine .inr ⟨es, rfl, ?_⟩
      simp only [hdecode, bind, Except.bind] at h
      cases hencode : encode (merge es credential secret).1 with
      | error e' =>
          simp only [hencode] at h
          cases h
          rfl
      | ok text =>
          simp only [hencode] at h
          split at h <;> cases h

end

/-! ## Many calls at once -/

section

variable {ι : Type} {calls : ι → Call} {space name : String}

/-- Calls to reconcile one config map that have all just been made. -/
def atOnce (calls : ι → Call) (space name : String) (m : Memory) : Session ι Outcome :=
  { memory := m
    tasks := fun i => (calls i).task space name
    log := [] }

def Tracked (calls : ι → Call) (space name : String) (stages : ι → Stage)
    (s : Session ι Outcome) : Prop :=
  ∀ i, Stands (calls i) space name (stages i) (s.tasks i)

theorem tracked_atOnce (m : Memory) :
    Tracked calls space name (fun i => .reading 1 ((calls i).limit - 1))
      (atOnce calls space name m) :=
  fun _ => stands_task

theorem Tracked.update [DecidableEq ι] {stages : ι → Stage} {s s' : Session ι Outcome} {i : ι}
    {σ : Stage} {d : ClusterTask Outcome} (h : Tracked calls space name stages s)
    (hd : Stands (calls i) space name σ d) (hs' : s'.tasks = Function.update s.tasks i d) :
    Tracked calls space name (Function.update stages i σ) s' := by
  intro j
  rw [hs']
  by_cases hj : j = i
  · subst hj
    rw [Function.update_self, Function.update_self]
    exact hd
  · rw [Function.update_of_ne hj, Function.update_of_ne hj]
    exact h j

/-- What a turn comes to: a report or nothing, a read, or a write. -/
theorem turn_cases [DecidableEq ι] {stages : ι → Stage} {s : Session ι Outcome}
    (h : Tracked calls space name stages s) (i : ι) :
    (Tracked calls space name stages (s.next (.turn i)) ∧
        (s.next (.turn i)).memory = s.memory ∧ (s.next (.turn i)).log = s.log) ∨
      (∃ attempt left, stages i = .reading attempt left ∧
        Tracked calls space name
          (Function.update stages i (Stage.afterRead (calls i) space name attempt left
            (s.memory.getConfigMap space name).1)) (s.next (.turn i)) ∧
        (s.next (.turn i)).memory = (s.memory.getConfigMap space name).2 ∧
        (s.next (.turn i)).log = s.log ++ [(i, ⟨.getConfigMap space name, s.memory⟩)]) ∨
      (∃ attempt left c text, stages i = .writing attempt left c text ∧
        Tracked calls space name
          (Function.update stages i (Stage.afterWrite space name attempt left
            (s.memory.updateConfigMap (revise c text)).1)) (s.next (.turn i)) ∧
        (s.next (.turn i)).memory = (s.memory.updateConfigMap (revise c text)).2 ∧
        (s.next (.turn i)).log
          = s.log ++ [(i, ⟨.updateConfigMap (revise c text), s.memory⟩)]) := by
  have hi := h i
  cases htask : s.tasks i with
  | done o =>
      have hnext : s.next (.turn i) = s := by simp only [Session.next, htask]
      rw [hnext]
      exact .inl ⟨h, rfl, rfl⟩
  | report e task =>
      have hnext : s.next (.turn i) = { s with tasks := Function.update s.tasks i task } := by
        simp only [Session.next, htask]
      have hquiet : task.quiet = (s.tasks i).quiet := by rw [htask, Dialogue.quiet]
      rw [hnext]
      refine .inl ⟨?_, rfl, rfl⟩
      have htracked : Tracked calls space name (Function.update stages i (stages i))
          { s with tasks := Function.update s.tasks i task } := h.update (hi.congr hquiet) rfl
      rwa [Function.update_eq_self] at htracked
  | ask q go =>
      have hnext : s.next (.turn i) = ⟨(s.memory.answer q).2,
          Function.update s.tasks i (go (s.memory.answer q).1),
          s.log ++ [(i, ⟨q, s.memory⟩)]⟩ := by
        simp only [Session.next, htask]
      rw [hnext]
      cases hstage : stages i with
      | reading attempt left =>
          rw [hstage] at hi
          obtain ⟨go', hgo, hrest⟩ := hi.asks_of_reading
          rw [htask] at hgo
          cases hgo
          exact .inr (.inl ⟨attempt, left, rfl, h.update (hrest _) rfl, rfl, rfl⟩)
      | writing attempt left c text =>
          rw [hstage] at hi
          obtain ⟨go', hgo, hrest⟩ := hi.asks_of_writing
          rw [htask] at hgo
          cases hgo
          exact .inr (.inr ⟨attempt, left, c, text, rfl, h.update (hrest _) rfl, rfl, rfl⟩)
      | returned o =>
          rw [hstage, htask] at hi
          cases hi

theorem Tracked.of_done {stages : ι → Stage} {s : Session ι Outcome} {i : ι} {o : Outcome}
    (h : Tracked calls space name stages s) (ho : s.tasks i = .done o) :
    stages i = .returned o := by
  have hi := h i
  rw [ho] at hi
  cases hstage : stages i with
  | reading attempt left =>
      rw [hstage] at hi
      obtain ⟨go, hgo, -⟩ := hi.asks_of_reading
      cases hgo
  | writing attempt left c text =>
      rw [hstage] at hi
      obtain ⟨go, hgo, -⟩ := hi.asks_of_writing
      cases hgo
  | returned o' =>
      rw [hstage] at hi
      cases hi
      rfl

end

end CredRegistry.RepoList
