import CredRegistry.Proofs.Cluster.Writes
import CredRegistry.Proofs.RepoList.Race
import Mathlib.Data.Fintype.Card

/-!
# Why a call to reconcile gives up

A call that spends its budget on conflicts was overtaken each time: between its read and its
update, or right in front of the update, somebody else has written the map. The `chronicle` of a
run keeps everything that was done to the cluster, in order, and `Span` cuts out of it what
happened from the first read of a call to its last update, attempt by attempt.

What carries this through a run is `Course`: a call that is about to write holds the map that is
stored, or somebody else has written since its read. A refused update turns that into an
`Attempt`. Calls write at most once each, so among `k` of them none is overtaken `k` times.
-/

namespace CredRegistry

open Memory (Write Deed)

/-! ## What happens in a session -/

/-- Something that was done to a cluster, by a client or by somebody else. -/
structure Happening (ι : Type) where
  client : Option ι
  deed : Deed
  before : Memory

namespace Session

variable {ι α : Type}

/-- What an event does to the cluster, if it does anything. -/
def happening? (s : Session ι α) : Event ι → Option (Happening ι)
  | .deed d => some ⟨none, d, s.memory⟩
  | .turn i =>
      match s.tasks i with
      | .ask q _ => some ⟨some i, .call q, s.memory⟩
      | _ => none

/-- All that is done to the cluster in the course of some events. -/
def chronicle [DecidableEq ι] (s : Session ι α) : List (Event ι) → List (Happening ι)
  | [] => []
  | e :: events => (s.happening? e).toList ++ (s.next e).chronicle events

variable [DecidableEq ι] {s : Session ι α} {i : ι}

theorem happening?_of_log_eq (h : (s.next (.turn i)).log = s.log) :
    s.happening? (.turn i) = none := by
  cases htask : s.tasks i with
  | ask q go =>
      simp only [next, htask] at h
      exact absurd h (by simp)
  | _ => simp only [happening?, htask]

theorem happening?_of_log {x : Exchange} (h : (s.next (.turn i)).log = s.log ++ [(i, x)]) :
    s.happening? (.turn i) = some ⟨some i, .call x.call, x.before⟩ := by
  cases htask : s.tasks i with
  | ask q go =>
      simp only [next, htask] at h
      have hx := (List.append_inj' h rfl).2
      simp only [List.cons.injEq, Prod.mk.injEq, true_and, and_true] at hx
      simp only [happening?, htask, ← hx]
  | done a =>
      simp only [next, htask] at h
      exact absurd h.symm (by simp)
  | report e task =>
      simp only [next, htask] at h
      exact absurd h.symm (by simp)

end Session

/-- What the other writer writes when a deed lets it in. -/
def Memory.intruded (m : Memory) : Deed → List Write
  | .call (.updateConfigMap c) =>
      if 0 < m.conflicts then [] else m.countUpdate.intrusions c.space c.name
  | _ => []

/-- The writes in a happening that no client has made. -/
def Happening.outside {ι : Type} (h : Happening ι) : List Write :=
  match h.client with
  | some _ => h.before.intruded h.deed
  | none => h.before.writes h.deed

/-- The client does nothing. -/
def Idle {ι : Type} (i : ι) (hs : List (Happening ι)) : Prop := ∀ h ∈ hs, h.client ≠ some i

theorem Idle.append {ι : Type} {i : ι} {hs hs' : List (Happening ι)} (h : Idle i hs)
    (h' : Idle i hs') : Idle i (hs ++ hs') :=
  fun x hx => (List.mem_append.mp hx).elim (h x) (h' x)

theorem idle_nil {ι : Type} {i : ι} : Idle i [] := fun _ hx => absurd hx List.not_mem_nil

theorem idle_singleton {ι : Type} {i : ι} {h : Happening ι} (hh : h.client ≠ some i) :
    Idle i [h] := by
  intro x hx
  rw [List.mem_singleton.mp hx]
  exact hh

section

variable {ι : Type} [DecidableEq ι] (i : ι)

/-- The writes in a happening that are not the client's own. -/
def Happening.foreign (h : Happening ι) : List Write :=
  if h.client = some i then h.before.intruded h.deed else h.before.writes h.deed

/-- The writes of one map that others than a client have made. -/
def foreignWrites (k : ObjectKey) (hs : List (Happening ι)) : List Write :=
  (hs.flatMap (Happening.foreign i)).filter (·.key = k)

variable (space name : String)

/-- An attempt that has failed: the client reads the map, and its update is refused because of
the version. Somebody else has written the map meanwhile. -/
structure Attempt (hs : List (Happening ι)) : Prop where
  calls : ∃ m₀ between c m, hs = ⟨some i, .call (.getConfigMap space name), m₀⟩ ::
      (between ++ [⟨some i, .call (.updateConfigMap c), m⟩]) ∧
    Idle i between ∧ c.space = space ∧ c.name = name ∧
    (m.updateConfigMap c).1 = .error (.conflict .configMap space name)
  overtaken : foreignWrites i (space, name) hs ≠ []

/-- So many failed attempts of a client one after the other, from its first read to its last
update. -/
inductive Span : Nat → List (Happening ι) → Prop where
  | once {hs} (h : Attempt i space name hs) : Span 1 hs
  | again {n earlier idle hs} (h : Span n earlier) (hidle : Idle i idle)
      (hattempt : Attempt i space name hs) : Span (n + 1) (earlier ++ idle ++ hs)

/-- The calls of the client are so many failed attempts. -/
def Tried (n : Nat) (hs : List (Happening ι)) : Prop :=
  (n = 0 ∧ Idle i hs) ∨ ∃ before during later, hs = before ++ during ++ later ∧
    Idle i before ∧ Idle i later ∧ Span i space name n during

end

section

variable {ι : Type} [DecidableEq ι] {i : ι} {space name : String} {k : ObjectKey}
  {hs : List (Happening ι)} {n : Nat}

theorem foreignWrites_append (hs hs' : List (Happening ι)) :
    foreignWrites i k (hs ++ hs') = foreignWrites i k hs ++ foreignWrites i k hs' := by
  simp [foreignWrites]

theorem foreignWrites_of_mem {h : Happening ι} {w : Write} (hh : h ∈ hs) (hw : w ∈ h.foreign i)
    (hk : w.key = k) : foreignWrites i k hs ≠ [] := by
  refine List.ne_nil_of_mem (a := w) (List.mem_filter.mpr ⟨?_, by simpa using hk⟩)
  exact List.mem_flatMap.mpr ⟨h, hh, hw⟩

theorem Span.length_le (h : Span i space name n hs) :
    n ≤ (foreignWrites i (space, name) hs).length := by
  have hattempt {hs : List (Happening ι)} (h : Attempt i space name hs) :
      0 < (foreignWrites i (space, name) hs).length := List.length_pos_iff.mpr h.overtaken
  induction h with
  | once h => exact hattempt h
  | again h hidle hlast ih =>
      have := hattempt hlast
      simp only [foreignWrites_append, List.length_append]
      omega

theorem Tried.idle {hs' : List (Happening ι)} (h : Tried i space name n hs)
    (h' : Idle i hs') : Tried i space name n (hs ++ hs') := by
  rcases h with ⟨rfl, h⟩ | ⟨before, during, later, rfl, hbefore, hlater, hspan⟩
  · exact .inl ⟨rfl, h.append h'⟩
  · exact .inr ⟨before, during, later ++ hs', by simp, hbefore, hlater.append h', hspan⟩

theorem Tried.again {hs' : List (Happening ι)} (h : Tried i space name n hs)
    (h' : Attempt i space name hs') : Tried i space name (n + 1) (hs ++ hs') := by
  rcases h with ⟨rfl, h⟩ | ⟨before, during, later, rfl, hbefore, hlater, hspan⟩
  · exact .inr ⟨hs, hs', [], by simp, h, idle_nil, .once h'⟩
  · exact .inr ⟨before, during ++ later ++ hs', [], by simp, hbefore, idle_nil,
      hspan.again hlater h'⟩

end

/-! ## Refusals -/

namespace Memory

theorem conflicts_letIn (m : Memory) (space name : String) :
    (m.letIn space name).conflicts = m.conflicts := by
  unfold letIn
  split <;> rfl

/-- No refusal is arranged but by the one deed for that. -/
theorem conflicts_perform {m : Memory} {d : Deed} (hm : m.conflicts = 0)
    (hd : ∀ count, d ≠ .refuse count) : (m.perform d).conflicts = 0 := by
  cases d with
  | refuse count => exact absurd rfl (hd count)
  | call q =>
      cases q with
      | connect cluster => exact hm
      | getSecret space name =>
          simp only [perform, answer, getSecret]
          split
          · exact hm
          · split <;> exact hm
      | createSecret space name username token =>
          simp only [perform, answer, createSecret]
          split <;> exact hm
      | getConfigMap space name =>
          simp only [perform, answer, getConfigMap]
          split <;> exact hm
      | updateConfigMap c =>
          have hletIn := (conflicts_letIn m.countUpdate c.space c.name).trans hm
          change (m.updateConfigMap c).2.conflicts = 0
          rcases updateConfigMap_cases m c with ⟨hpositive, -⟩ | ⟨-, hu⟩
          · omega
          · rw [hu]
            rcases replaceConfigMap_cases (m.countUpdate.letIn c.space c.name) c with
              ⟨-, hr⟩ | ⟨stored, -, ⟨-, hr⟩ | ⟨-, hr⟩⟩ <;> rw [hr] <;> exact hletIn
  | _ => exact hm

/-- An update that carries the very map that is stored, but for its data, conflicts only with
the writer that is let in with it. -/
theorem intruded_of_conflict {m : Memory} {c stored : ConfigMap} {e : ClusterError}
    (hm : m.conflicts = 0) (hstored : m.configMap? c.space c.name = some stored)
    (hversion : stored.version = c.version) (h : (m.updateConfigMap c).1 = .error e) :
    ∃ w ∈ m.intruded (.call (.updateConfigMap c)), w.key = (c.space, c.name) := by
  have hfind : m.countUpdate.configMap? c.space c.name = some stored := hstored
  simp only [intruded, hm, Nat.lt_irrefl, if_false, intrusions, hfind]
  cases hi : m.countUpdate.interloper with
  | some i => exact ⟨_, List.mem_singleton_self _, rfl⟩
  | none =>
      have hletIn : m.countUpdate.letIn c.space c.name = m.countUpdate := by
        simp only [letIn, hi]
      rcases updateConfigMap_cases m c with ⟨hpositive, -⟩ | ⟨-, hu⟩
      · omega
      · rw [hu, hletIn] at h
        rcases replaceConfigMap_cases m.countUpdate c with
          ⟨hnone, -⟩ | ⟨d, hd, ⟨hne, -⟩ | ⟨-, hr⟩⟩
        · cases hfind.symm.trans hnone
        · cases hfind.symm.trans hd
          exact absurd hversion hne
        · rw [hr] at h
          cases h

/-- An update writes once at most, if it is accepted, and after the writer let in with it. -/
theorem writes_updateConfigMap (m : Memory) (c : ConfigMap) :
    ∃ own, m.writes (.call (.updateConfigMap c))
        = m.intruded (.call (.updateConfigMap c)) ++ own ∧
      own.length ≤ (m.updateConfigMap c).1.isOk.toNat := by
  simp only [writes, intruded]
  rcases updateConfigMap_cases m c with ⟨hpositive, -⟩ | ⟨hzero, hu⟩
  · exact ⟨[], by simp only [if_pos hpositive, List.append_nil], Nat.zero_le _⟩
  · have hnot : ¬0 < m.conflicts := by omega
    refine ⟨_, by rw [if_neg hnot, if_neg hnot], ?_⟩
    rw [hu, replacements]
    cases (m.countUpdate.letIn c.space c.name).replaceConfigMap c |>.1 <;> exact Nat.le_refl _

end Memory

/-! ## The course of a call -/

namespace RepoList

section

variable {ι : Type} [DecidableEq ι] (r : Call) (i : ι) (space name : String)

/-- What has happened by the time a call is at a stage. One that is about to write holds the
stored map, unless somebody else has written since it was read. -/
def Course (m : Memory) (hs : List (Happening ι)) : Stage → Prop
  | .reading attempt left => attempt + left = r.limit ∧
      ∃ n, n + 1 = attempt ∧ Tried i space name n hs
  | .writing attempt left c _ => attempt + left = r.limit ∧ c.space = space ∧ c.name = name ∧
      ∃ n earlier m₀ between, n + 1 = attempt ∧ Tried i space name n earlier ∧
        hs = earlier ++ ⟨some i, .call (.getConfigMap space name), m₀⟩ :: between ∧
        Idle i between ∧
        (m.configMap? space name = some c ∨ foreignWrites i (space, name) between ≠ [])
  | .returned (.error (.conflictExhausted _ _ _)) => Tried i space name r.limit hs
  | .returned _ => True

end

section

variable {ι : Type} [DecidableEq ι] {r : Call} {i : ι} {space name : String} {m : Memory}
  {hs : List (Happening ι)}

/-- Whatever somebody else does: it writes the map, or the stored map stays. -/
theorem Course.others {σ : Stage} (h : Course r i space name m hs σ) (hm : m.Sound) {x : Option ι}
    (hx : x ≠ some i) (d : Deed) :
    Course r i space name (m.perform d) (hs ++ [⟨x, d, m⟩]) σ := by
  have hidle : Idle i [(⟨x, d, m⟩ : Happening ι)] := idle_singleton hx
  cases σ with
  | reading attempt left =>
      obtain ⟨hlimit, n, hn, htried⟩ := h
      exact ⟨hlimit, n, hn, htried.idle hidle⟩
  | writing attempt left c text =>
      obtain ⟨hlimit, hspace, hname, n, earlier, m₀, between, hn, htried, rfl, hbetween, hheld⟩ := h
      refine ⟨hlimit, hspace, hname, n, earlier, m₀, between ++ [⟨x, d, m⟩], hn, htried,
        by simp, hbetween.append hidle, ?_⟩
      rw [foreignWrites_append]
      rcases hheld with hstored | hforeign
      · by_cases hsame : (m.perform d).configMaps.find? (space, name)
            = m.configMaps.find? (space, name)
        · exact .inl (hsame.trans hstored)
        · rw [(Memory.wrote_perform m d).same_iff hm] at hsame
          simp only [not_forall, not_not] at hsame
          obtain ⟨w, hw, hkey⟩ := hsame
          have hown : w ∈ Happening.foreign i (⟨x, d, m⟩ : Happening ι) := by
            simpa only [Happening.foreign, if_neg hx] using hw
          have hlast := foreignWrites_of_mem (List.mem_singleton_self _) hown hkey
          exact .inr (List.append_ne_nil_of_right_ne_nil _ hlast)
      · exact .inr (List.append_ne_nil_of_left_ne_nil hforeign _)
  | returned o =>
      cases o with
      | ok res => trivial
      | error e =>
          cases e with
          | conflictExhausted space' name' n => exact Tried.idle h hidle
          | _ => trivial

theorem Course.read {attempt left : Nat} (hm : m.Sound)
    (h : Course r i space name m hs (.reading attempt left)) :
    Course r i space name (m.getConfigMap space name).2
      (hs ++ [⟨some i, .call (.getConfigMap space name), m⟩])
      (Stage.afterRead r space name attempt left (m.getConfigMap space name).1) := by
  obtain ⟨hlimit, n, hn, htried⟩ := h
  rcases m.getConfigMap_cases space name with ⟨-, hanswer⟩ | ⟨c, hc, hanswer⟩ <;>
    rw [hanswer, Stage.afterRead]
  · trivial
  · cases hmerged : mergedText c r.credential r.secret with
    | error e => trivial
    | ok text =>
        cases text with
        | none => trivial
        | some text =>
            obtain ⟨hspace, hname⟩ := Prod.mk.inj (hm.filed _ c hc)
            refine ⟨hlimit, hspace, hname, n, hs, m, [], hn, htried, rfl, idle_nil, .inl ?_⟩
            exact (m.configMap?_getConfigMap ..).trans hc

theorem Course.write {attempt left : Nat} {c : ConfigMap} {text : String} (hm : m.conflicts = 0)
    (h : Course r i space name m hs (.writing attempt left c text)) :
    Course r i space name (m.updateConfigMap (revise c text)).2
      (hs ++ [⟨some i, .call (.updateConfigMap (revise c text)), m⟩])
      (Stage.afterWrite space name attempt left (m.updateConfigMap (revise c text)).1) := by
  obtain ⟨hlimit, rfl, rfl, n, earlier, m₀, between, hn, htried, rfl, hbetween, hheld⟩ := h
  cases hanswer : (m.updateConfigMap (revise c text)).1 with
  | ok c' => trivial
  | error e =>
      rcases (Memory.updateConfigMap_refused hanswer).1 with rfl | ⟨rfl, -⟩
      · have hovertaken : foreignWrites i (c.space, c.name)
            (between ++ [⟨some i, .call (.updateConfigMap (revise c text)), m⟩]) ≠ [] := by
          rw [foreignWrites_append]
          rcases hheld with hstored | hforeign
          · -- Nobody has written since the read, so it was the writer let in with the update.
            obtain ⟨w, hw, hkey⟩ :=
              Memory.intruded_of_conflict (c := revise c text) hm hstored rfl hanswer
            have hown : w ∈ Happening.foreign i
                ⟨some i, .call (.updateConfigMap (revise c text)), m⟩ := by
              simpa only [Happening.foreign, if_true] using hw
            have hlast := foreignWrites_of_mem (List.mem_singleton_self _) hown hkey
            exact List.append_ne_nil_of_right_ne_nil _ hlast
          · exact List.append_ne_nil_of_left_ne_nil hforeign _
        have hattempt : Attempt i c.space c.name
            (⟨some i, .call (.getConfigMap c.space c.name), m₀⟩ ::
              (between ++ [⟨some i, .call (.updateConfigMap (revise c text)), m⟩])) := by
          refine ⟨⟨m₀, between, _, m, rfl, hbetween, rfl, rfl, hanswer⟩, ?_⟩
          have hsplit := foreignWrites_append (i := i) (k := (c.space, c.name))
            [⟨some i, .call (.getConfigMap c.space c.name), m₀⟩]
            (between ++ [⟨some i, .call (.updateConfigMap (revise c text)), m⟩])
          rw [List.singleton_append] at hsplit
          rw [hsplit]
          exact List.append_ne_nil_of_right_ne_nil _ hovertaken
        have htried' := htried.again hattempt
        rw [List.append_assoc, List.cons_append]
        cases left with
        | zero =>
            change Tried i c.space c.name r.limit _
            rwa [show r.limit = n + 1 by omega]
        | succ left => exact ⟨by omega, n + 1, by omega, htried'⟩
      · trivial

end

/-! ## Many calls -/

section

variable {ι : Type} [DecidableEq ι] {calls : ι → Call} {space name : String}
  {stages : ι → Stage} {s s' : Session ι Outcome} {hs : List (Happening ι)}

/-- A session at any point, after all that has happened in it, if no refusal was arranged. -/
structure Underway (calls : ι → Call) (space name : String) (stages : ι → Stage)
    (s : Session ι Outcome) (hs : List (Happening ι)) : Prop where
  tracked : Tracked calls space name stages s
  sound : s.memory.Sound
  unrefused : s.memory.conflicts = 0
  courses : ∀ i, Course (calls i) i space name s.memory hs (stages i)

theorem Underway.call (h : Underway calls space name stages s hs) {i : ι} {σ : Stage}
    {q : ClusterCall} (htracked : Tracked calls space name (Function.update stages i σ) s')
    (hmemory : s'.memory = s.memory.perform (.call q))
    (hσ : Course (calls i) i space name (s.memory.perform (.call q))
      (hs ++ [⟨some i, .call q, s.memory⟩]) σ) :
    Underway calls space name (Function.update stages i σ) s'
      (hs ++ [⟨some i, .call q, s.memory⟩]) where
  tracked := htracked
  sound := hmemory ▸ (Memory.sound_perform h.sound _).1
  unrefused := hmemory ▸ Memory.conflicts_perform h.unrefused nofun
  courses j := by
    rw [hmemory]
    by_cases hj : j = i
    · subst hj
      rw [Function.update_self]
      exact hσ
    · rw [Function.update_of_ne hj]
      exact (h.courses j).others h.sound (fun heq => hj (Option.some.inj heq).symm) _

theorem Underway.turn (h : Underway calls space name stages s hs) (i : ι) :
    ∃ stages', Underway calls space name stages' (s.next (.turn i))
      (hs ++ (s.happening? (.turn i)).toList) := by
  rcases turn_cases h.tracked i with ⟨ht, hm, hlog⟩ |
    ⟨attempt, left, hstage, ht, hm, hlog⟩ |
    ⟨attempt, left, c, text, hstage, ht, hm, hlog⟩
  · rw [Session.happening?_of_log_eq hlog, Option.toList_none, List.append_nil]
    exact ⟨stages, ht, hm ▸ h.sound, hm ▸ h.unrefused, hm ▸ h.courses⟩
  · rw [Session.happening?_of_log hlog, Option.toList_some]
    have hcourse := h.courses i
    rw [hstage] at hcourse
    exact ⟨_, h.call ht hm (hcourse.read h.sound)⟩
  · rw [Session.happening?_of_log hlog, Option.toList_some]
    have hcourse := h.courses i
    rw [hstage] at hcourse
    exact ⟨_, h.call ht hm (hcourse.write h.unrefused)⟩

theorem Underway.deed (h : Underway calls space name stages s hs) {d : Deed}
    (hd : ∀ count, d ≠ .refuse count) :
    Underway calls space name stages (s.next (.deed d)) (hs ++ [⟨none, d, s.memory⟩]) where
  tracked := h.tracked
  sound := (Memory.sound_perform h.sound d).1
  unrefused := Memory.conflicts_perform h.unrefused hd
  courses i := Course.others (h.courses i) h.sound (x := none) nofun d

theorem Underway.run {events : List (Session.Event ι)}
    (hevents : ∀ count, .deed (.refuse count) ∉ events) :
    ∀ {stages : ι → Stage} {s : Session ι Outcome} {hs : List (Happening ι)},
      Underway calls space name stages s hs →
      ∃ stages', Underway calls space name stages' (s.run events) (hs ++ s.chronicle events) := by
  induction events with
  | nil => exact fun h => ⟨_, by simpa [Session.run, Session.chronicle] using h⟩
  | cons e events ih =>
      intro stages s hs h
      have hlater : ∀ count, .deed (.refuse count) ∉ events :=
        fun count hmem => hevents count (List.mem_cons_of_mem _ hmem)
      have hstep : ∃ stages', Underway calls space name stages' (s.next e)
          (hs ++ (s.happening? e).toList) := by
        cases e with
        | turn i => exact h.turn i
        | deed d =>
            refine ⟨stages, h.deed fun count hd => hevents count ?_⟩
            rw [hd]
            exact List.mem_cons_self
      obtain ⟨stages', hnext⟩ := hstep
      obtain ⟨stages'', hrun⟩ := ih hlater hnext
      rw [List.append_assoc] at hrun
      exact ⟨stages'', hrun⟩

theorem underway_atOnce {m : Memory} (hm : m.Sound) (hconflicts : m.conflicts = 0) :
    Underway calls space name (fun i => .reading 1 ((calls i).limit - 1))
      (atOnce calls space name m) [] where
  tracked := tracked_atOnce m
  sound := hm
  unrefused := hconflicts
  courses i := by
    have hpositive : 1 ≤ (calls i).limit := Nat.le_max_right ..
    exact ⟨by omega, 0, rfl, .inl ⟨rfl, idle_nil⟩⟩

/-! ## Calls among themselves -/

/-- Nobody but the clients writes the map. -/
def Undisturbed (space name : String) (hs : List (Happening ι)) : Prop :=
  ∀ h ∈ hs, ∀ w ∈ h.outside, w.key ≠ (space, name)

/-- Calls that were never disturbed: each writes once at most, so each was overtaken no more
often than others have written. -/
structure Peaceful (space name : String) (stages : ι → Stage) (log : List (ι × Exchange))
    (hs : List (Happening ι)) : Prop where
  once : (writers log).Nodup
  pending : ∀ i, i ∈ writers log → ∃ o, stages i = .returned o
  counted : ∀ i, (foreignWrites i (space, name) hs).length
    ≤ ((writers log).filter (· ≠ i)).length

/-- An exchange that is not disturbed counts for others only if it is accepted, and then once. -/
theorem foreignWrites_exchange {i : ι} {x : Exchange}
    (h : Undisturbed space name [(⟨some i, .call x.call, x.before⟩ : Happening ι)]) (j : ι) :
    (foreignWrites j (space, name) [⟨some i, .call x.call, x.before⟩]).length
      ≤ ((writers [(i, x)]).filter (· ≠ j)).length := by
  have hnone : (x.before.intruded (.call x.call)).filter (·.key = (space, name)) = [] := by
    refine List.filter_eq_nil_iff.mpr fun w hw => ?_
    simpa using h _ (List.mem_singleton_self _) w hw
  rw [foreignWrites, List.flatMap_singleton, Happening.foreign]
  by_cases hij : i = j
  · rw [if_pos (congrArg some hij), hnone]
    exact Nat.zero_le _
  · have hclient : some i ≠ some j := fun heq => hij (Option.some.inj heq)
    rw [if_neg hclient]
    obtain ⟨q, m⟩ := x
    cases q with
    | updateConfigMap c =>
        obtain ⟨own, hown, hlength⟩ := m.writes_updateConfigMap c
        rw [hown, List.filter_append, hnone, List.nil_append]
        refine (List.length_filter_le ..).trans (hlength.trans ?_)
        cases hok : (m.updateConfigMap c).1.isOk with
        | false => exact Nat.zero_le _
        | true => simp [writers, Exchange.isAccepted, hok, hij]
    | _ => exact Nat.zero_le _

theorem Peaceful.call {log : List (ι × Exchange)} (h : Peaceful space name stages log hs)
    {i : ι} {σ : Stage} {x : Exchange} (hi : ∀ o, stages i ≠ .returned o)
    (hσ : x.isAccepted = true → ∃ o, σ = .returned o)
    (hx : Undisturbed space name [(⟨some i, .call x.call, x.before⟩ : Happening ι)]) :
    Peaceful space name (Function.update stages i σ) (log ++ [(i, x)])
      (hs ++ [⟨some i, .call x.call, x.before⟩]) := by
  have hnot : i ∉ writers log := fun hmem => (h.pending i hmem).elim hi
  refine ⟨?_, ?_, fun j => ?_⟩
  · cases hacc : x.isAccepted with
    | false =>
        rw [writers_of_not_accepted hacc]
        exact h.once
    | true =>
        rw [writers_of_accepted hacc]
        exact h.once.append (List.nodup_singleton i) (List.disjoint_singleton.mpr hnot)
  · intro j hj
    by_cases hji : j = i
    · subst hji
      rw [Function.update_self]
      cases hacc : x.isAccepted with
      | false =>
          rw [writers_of_not_accepted hacc] at hj
          exact absurd hj hnot
      | true => exact hσ hacc
    · rw [Function.update_of_ne hji]
      rw [writers_append, List.mem_append] at hj
      refine h.pending j (hj.resolve_right fun hlast => hji ?_)
      obtain ⟨y, hy, rfl⟩ := List.mem_map.mp hlast
      rw [List.mem_singleton.mp (List.mem_of_mem_filter hy)]
  · have hcount := foreignWrites_exchange hx j
    have hbefore := h.counted j
    rw [foreignWrites_append, writers_append, List.filter_append, List.length_append,
      List.length_append]
    omega

theorem Peaceful.turn (ht : Tracked calls space name stages s)
    (h : Peaceful space name stages s.log hs) (i : ι)
    (hi : Undisturbed space name (s.happening? (.turn i)).toList) :
    ∃ stages', Tracked calls space name stages' (s.next (.turn i)) ∧
      Peaceful space name stages' (s.next (.turn i)).log
        (hs ++ (s.happening? (.turn i)).toList) := by
  rcases turn_cases ht i with ⟨ht', -, hlog⟩ |
    ⟨attempt, left, hstage, ht', -, hlog⟩ |
    ⟨attempt, left, c, text, hstage, ht', -, hlog⟩
  · rw [Session.happening?_of_log_eq hlog, Option.toList_none, List.append_nil, hlog]
    exact ⟨stages, ht', h⟩
  · rw [Session.happening?_of_log hlog, Option.toList_some] at hi ⊢
    rw [hlog]
    refine ⟨_, ht', h.call (fun o ho => ?_) (fun hacc => ?_) hi⟩
    · rw [hstage] at ho
      cases ho
    · cases hacc
  · rw [Session.happening?_of_log hlog, Option.toList_some] at hi ⊢
    rw [hlog]
    refine ⟨_, ht', h.call (fun o ho => ?_) (fun hacc => ?_) hi⟩
    · rw [hstage] at ho
      cases ho
    · cases hanswer : (s.memory.updateConfigMap (revise c text)).1 with
      | ok c' => exact ⟨_, rfl⟩
      | error e =>
          simp only [Exchange.isAccepted, hanswer] at hacc
          cases hacc

theorem Peaceful.deed {log : List (ι × Exchange)} (h : Peaceful space name stages log hs)
    {d : Deed} {m : Memory} (hd : Undisturbed space name [(⟨none, d, m⟩ : Happening ι)]) :
    Peaceful space name stages log (hs ++ [⟨none, d, m⟩]) := by
  refine ⟨h.once, h.pending, fun i => ?_⟩
  have hnone : foreignWrites i (space, name) [(⟨none, d, m⟩ : Happening ι)] = [] := by
    rw [foreignWrites, List.flatMap_singleton]
    refine List.filter_eq_nil_iff.mpr fun w hw => ?_
    simpa using hd _ (List.mem_singleton_self _) w hw
  rw [foreignWrites_append, hnone, List.append_nil]
  exact h.counted i

theorem Peaceful.run (events : List (Session.Event ι)) :
    ∀ {stages : ι → Stage} {s : Session ι Outcome} {hs : List (Happening ι)},
      Tracked calls space name stages s → Peaceful space name stages s.log hs →
      Undisturbed space name (s.chronicle events) →
      ∃ stages', Tracked calls space name stages' (s.run events) ∧
        Peaceful space name stages' (s.run events).log (hs ++ s.chronicle events) := by
  induction events with
  | nil => exact fun ht h _ => ⟨_, ht, by simpa [Session.run, Session.chronicle] using h⟩
  | cons e events ih =>
      intro stages s hs ht h hundisturbed
      have hhere : Undisturbed space name (s.happening? e).toList :=
        fun x hx => hundisturbed x (List.mem_append_left _ hx)
      have hlater : Undisturbed space name ((s.next e).chronicle events) :=
        fun x hx => hundisturbed x (List.mem_append_right _ hx)
      have hstep : ∃ stages', Tracked calls space name stages' (s.next e) ∧
          Peaceful space name stages' (s.next e).log (hs ++ (s.happening? e).toList) := by
        cases e with
        | turn i => exact h.turn ht i hhere
        | deed d => exact ⟨stages, ht, h.deed hhere⟩
      obtain ⟨stages', ht', hnext⟩ := hstep
      obtain ⟨stages'', ht'', hrun⟩ := ih ht' hnext hlater
      rw [List.append_assoc] at hrun
      exact ⟨stages'', ht'', hrun⟩

theorem peaceful_atOnce :
    Peaceful space name (fun i => .reading 1 ((calls i).limit - 1)) []
      ([] : List (Happening ι)) where
  once := List.nodup_nil
  pending _ hi := absurd hi List.not_mem_nil
  counted _ := Nat.le_refl _

/-- A call that returns that its budget is exhausted has been overtaken in each of its attempts,
from its first read to its last update. So if nobody writes the map but `k` calls whose budgets
are at least `k`, none of them returns that. -/
theorem exhausted_only_by_others {m : Memory} (hm : m.Reachable) (hconflicts : m.conflicts = 0)
    (calls : ι → Call) (space name : String) {events : List (Session.Event ι)}
    (hevents : ∀ count, .deed (.refuse count) ∉ events) :
    let s := (atOnce calls space name m).run events
    let hs := (atOnce calls space name m).chronicle events
    (∀ i space' name' n, s.tasks i = .done (.error (.conflictExhausted space' name' n)) →
      ∃ before during later, hs = before ++ during ++ later ∧ Idle i before ∧ Idle i later ∧
        Span i space name (max (calls i).budget 1) during ∧
        max (calls i).budget 1 ≤ (foreignWrites i (space, name) during).length) ∧
    (∀ [Fintype ι], Undisturbed space name hs → (∀ i, Fintype.card ι ≤ (calls i).budget) →
      ∀ i space' name' n, s.tasks i ≠ .done (.error (.conflictExhausted space' name' n))) := by
  intro s hs
  have hspan : ∀ i space' name' n,
      s.tasks i = .done (.error (.conflictExhausted space' name' n)) →
      ∃ before during later, hs = before ++ during ++ later ∧ Idle i before ∧ Idle i later ∧
        Span i space name (max (calls i).budget 1) during := by
    intro i space' name' n hdone
    obtain ⟨stages, hunderway⟩ :=
      Underway.run hevents (@underway_atOnce _ _ calls space name _ hm.sound hconflicts)
    have hcourse := hunderway.courses i
    rw [hunderway.tracked.of_done hdone] at hcourse
    rcases hcourse with ⟨hzero, -⟩ | hspan
    · exact absurd hzero (Nat.ne_of_gt (Nat.le_max_right ..))
    · exact hspan
  refine ⟨fun i space' name' n hdone => ?_, fun hundisturbed hbudgets i space' name' n hdone => ?_⟩
  · obtain ⟨before, during, later, hhs, hbefore, hlater, hduring⟩ := hspan i space' name' n hdone
    exact ⟨before, during, later, hhs, hbefore, hlater, hduring, hduring.length_le⟩
  · obtain ⟨before, during, later, hhs, -, -, hduring⟩ := hspan i space' name' n hdone
    obtain ⟨stages, -, hpeaceful⟩ := Peaceful.run events (@tracked_atOnce _ calls _ _ m)
      peaceful_atOnce hundisturbed
    have hoften : max (calls i).budget 1 ≤ (foreignWrites i (space, name) hs).length := by
      have := hduring.length_le
      rw [hhs, foreignWrites_append, foreignWrites_append, List.length_append,
        List.length_append]
      omega
    have hcounted : (foreignWrites i (space, name) hs).length
        ≤ ((writers s.log).filter (· ≠ i)).length := hpeaceful.counted i
    have hothers : (i :: (writers s.log).filter (· ≠ i)).length ≤ Fintype.card ι := by
      refine List.Nodup.length_le_card (List.nodup_cons.mpr ⟨?_, hpeaceful.once.filter _⟩)
      simp
    have hbudget := hbudgets i
    rw [List.length_cons] at hothers
    omega

end

/-- With one attempt each, a call that was overtaken gives up. With two none does. -/
theorem rivals_exhausted_only_by_each_other :
    let events := [false, true, false, true, true, false, false, false, false].map .turn
    let patient (b : Bool) : Call := { rivals b with budget := 2 }
    (∃ before during later,
      (atOnce rivals "ns" "cm" blankCluster).chronicle events = before ++ during ++ later ∧
        Span false "ns" "cm" 1 during ∧ 1 ≤ (foreignWrites false ("ns", "cm") during).length) ∧
    ∀ i space name n, ((atOnce patient "ns" "cm" blankCluster).run events).tasks i
      ≠ .done (.error (.conflictExhausted space name n)) := by
  intro events patient
  have hreachable : blankCluster.Reachable := ⟨"c", [.store _], rfl⟩
  have hevents : ∀ count, Session.Event.deed (.refuse count) ∉ events := by simp [events]
  constructor
  · have hgaveUp : (match ((atOnce rivals "ns" "cm" blankCluster).run events).tasks false with
        | .done (.error (.conflictExhausted ..)) => true
        | _ => false) = true := by decide +kernel
    split at hgaveUp
    case h_1 hdone =>
      obtain ⟨before, during, later, hhs, -, -, hspan, hoften⟩ :=
        (exhausted_only_by_others hreachable rfl rivals "ns" "cm" hevents).1 false _ _ _ hdone
      exact ⟨before, during, later, hhs, hspan, hoften⟩
    case h_2 => cases hgaveUp
  · have hundisturbed :
        Undisturbed "ns" "cm" ((atOnce patient "ns" "cm" blankCluster).chronicle events) := by
      unfold Undisturbed
      decide +kernel
    exact (exhausted_only_by_others hreachable rfl patient "ns" "cm" hevents).2 hundisturbed
      fun _ => Nat.le_refl 2

end RepoList

end CredRegistry
