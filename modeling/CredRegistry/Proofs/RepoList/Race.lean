import CredRegistry.Proofs.RepoList.Course
import CredRegistry.Proofs.RepoList.RoundTrip

/-!
# Calls to reconcile that race each other

Any number of calls reconcile one config map and nobody else writes it. However their reads
and writes interleave, the stored list is the one it started as with the entries of the
writers behind it, in the order in which they wrote (`Raced.stored`).

What carries this from turn to turn is what each call that is about to write knows: the map
it has read is the stored one or has an outdated version (`Memory.Holds`). Its write is
accepted in the first case only, and then what it merged into is what is stored.
-/

namespace CredRegistry.RepoList

open CredRegistry.Yaml (ReadsBack)

section

variable {ι : Type} (calls : ι → Call) (space name : String) (c₀ : ConfigMap)
  (es₀ : List Entry)

/-- The calls whose write was accepted, in order. -/
def writers (log : List (ι × Exchange)) : List ι :=
  (log.filter fun x => x.2.isAccepted).map (·.1)

def written (is : List ι) : List Entry := es₀ ++ is.map fun i => (calls i).entry

/-- Every host among the writers is there once, and was not there before. -/
structure Newcomers (is : List ι) : Prop where
  apart : (is.map fun i => (calls i).host).Nodup
  fresh : ∀ i ∈ is, ∀ e ∈ es₀, e.url ≠ (calls i).host

def Knows (m : Memory) (is : List ι) (i : ι) : Stage → Prop
  | .reading _ _ => i ∉ is
  | .writing _ _ c text => i ∉ is ∧ m.Holds (space, name) c ∧
      mergedText c (calls i).credential (calls i).secret = .ok (some text)
  | .returned (.ok res) => (i ∈ is ↔ res.written = true) ∧
      ∃ e ∈ written calls es₀ is, e.url = (calls i).host
  | .returned (.error _) => i ∉ is

/-- The cluster and the log at any point of a race. -/
structure Raced (stages : ι → Stage) (m : Memory) (log : List (ι × Exchange)) : Prop where
  sound : m.Sound
  alone : m.interloper = none
  stored : ∃ c, m.configMap? space name = some c ∧
    decode (listText c) = .ok (written calls es₀ (writers log)) ∧
    ∀ k, k ≠ listKey → c.data.get? k = c₀.data.get? k
  newcomers : Newcomers calls es₀ (writers log)
  knows : ∀ i, Knows calls space name es₀ m (writers log) i (stages i)

end

section

variable {ι : Type} {calls : ι → Call} {space name : String} {c₀ : ConfigMap}
  {es₀ : List Entry}

theorem writers_of_accepted {log : List (ι × Exchange)} {i : ι} {x : Exchange}
    (hx : x.isAccepted = true) : writers (log ++ [(i, x)]) = writers log ++ [i] := by
  simp [writers, hx]

theorem writers_of_not_accepted {log : List (ι × Exchange)} {i : ι} {x : Exchange}
    (hx : x.isAccepted = false) : writers (log ++ [(i, x)]) = writers log := by
  simp [writers, hx]

theorem writers_append (log log' : List (ι × Exchange)) :
    writers (log ++ log') = writers log ++ writers log' := by
  simp [writers]

theorem written_append (is : List ι) (i : ι) :
    written calls es₀ (is ++ [i]) = written calls es₀ is ++ [(calls i).entry] := by
  simp [written]

theorem written_url {is : List ι} {host : String}
    (h : ∀ e ∈ written calls es₀ is, e.url ≠ host) :
    (∀ e ∈ es₀, e.url ≠ host) ∧ ∀ i ∈ is, (calls i).host ≠ host := by
  refine ⟨fun e he => h e (List.mem_append_left _ he), fun i hi => ?_⟩
  exact h (calls i).entry (List.mem_append_right _ (List.mem_map_of_mem hi))

theorem Newcomers.append {is : List ι} {i : ι} (h : Newcomers calls es₀ is)
    (hi : ∀ e ∈ written calls es₀ is, e.url ≠ (calls i).host) :
    Newcomers calls es₀ (is ++ [i]) := by
  obtain ⟨hold, his⟩ := written_url hi
  constructor
  · rw [List.map_append, List.nodup_append]
    refine ⟨h.apart, by simp, fun a ha b hb => ?_⟩
    obtain ⟨j, hj, rfl⟩ := List.mem_map.mp ha
    rw [List.map_singleton, List.mem_singleton] at hb
    exact hb ▸ his j hj
  · intro j hj
    rcases List.mem_append.mp hj with hj | hj
    · exact h.fresh j hj
    · rw [List.mem_singleton.mp hj]
      exact hold

theorem Knows.evolves {m m' : Memory} {is : List ι} {i : ι} {σ : Stage}
    (h : Knows calls space name es₀ m is i σ) (hm : m.Evolves m') :
    Knows calls space name es₀ m' is i σ := by
  cases σ with
  | writing attempt left c text => exact ⟨h.1, h.2.1.evolves hm, h.2.2⟩
  | returned o => cases o <;> exact h
  | reading attempt left => exact h

theorem Knows.append {m : Memory} {is : List ι} {i j : ι} {σ : Stage}
    (h : Knows calls space name es₀ m is i σ) (hij : i ≠ j) :
    Knows calls space name es₀ m (is ++ [j]) i σ := by
  have hmem : i ∈ is ++ [j] ↔ i ∈ is := by simp [hij]
  cases σ with
  | reading attempt left => exact fun hi => h (hmem.mp hi)
  | writing attempt left c text => exact ⟨fun hi => h.1 (hmem.mp hi), h.2⟩
  | returned o =>
      cases o with
      | error e => exact fun hi => h (hmem.mp hi)
      | ok res =>
          obtain ⟨hwritten, e, he, hurl⟩ := h
          refine ⟨hmem.trans hwritten, e, ?_, hurl⟩
          rw [written_append]
          exact List.mem_append_left _ he

theorem knows_settled_error {m : Memory} {is : List ι} {i : ι} (hi : i ∉ is)
    (attempt left : Nat) (e : ReconcileError) :
    Knows calls space name es₀ m is i
      (Stage.settled space name attempt left (.error e)) := by
  unfold Stage.settled
  by_cases he : e.isRetryable = true
  · simp only [if_pos he]
    cases left <;> exact hi
  · simp only [if_neg he]
    exact hi

theorem knows_update [DecidableEq ι] {stages : ι → Stage} {m : Memory} {is : List ι} {i : ι}
    {σ : Stage} (hi : Knows calls space name es₀ m is i σ)
    (hrest : ∀ j, j ≠ i → Knows calls space name es₀ m is j (stages j)) (j : ι) :
    Knows calls space name es₀ m is j (Function.update stages i σ j) := by
  by_cases hj : j = i
  · subst hj
    rw [Function.update_self]
    exact hi
  · rw [Function.update_of_ne hj]
    exact hrest j hj

/-- A turn of the call `i` that leaves the stored maps as they are. -/
theorem Raced.keep [DecidableEq ι] {stages : ι → Stage} {m m' : Memory}
    {log : List (ι × Exchange)} (h : Raced calls space name c₀ es₀ stages m log)
    (hsound : m'.Sound) (halone : m'.interloper = none) (hevolves : m.Evolves m')
    (hmaps : m'.configMaps = m.configMaps) {i : ι} {x : Exchange}
    (hx : x.isAccepted = false) {σ : Stage}
    (hσ : Knows calls space name es₀ m' (writers log) i σ) :
    Raced calls space name c₀ es₀ (Function.update stages i σ) m' (log ++ [(i, x)]) := by
  obtain ⟨c, hc, hdecode, hdata⟩ := h.stored
  have hwriters : writers (log ++ [(i, x)]) = writers log := writers_of_not_accepted hx
  refine ⟨hsound, halone, ⟨c, ?_, ?_, hdata⟩, ?_, ?_⟩
  · rw [Memory.configMap?, hmaps]
    exact hc
  · rw [hwriters]
    exact hdecode
  · rw [hwriters]
    exact h.newcomers
  · rw [hwriters]
    exact knows_update hσ fun j _ => (h.knows j).evolves hevolves

/-- A read: the call now holds the stored map, or is done because the host is there. -/
theorem Raced.read [DecidableEq ι] {stages : ι → Stage} {m : Memory}
    {log : List (ι × Exchange)} (h : Raced calls space name c₀ es₀ stages m log) {i : ι}
    {attempt left : Nat} (hi : stages i = .reading attempt left) :
    Raced calls space name c₀ es₀
      (Function.update stages i (Stage.afterRead (calls i) space name attempt left
        (m.getConfigMap space name).1))
      (m.getConfigMap space name).2 (log ++ [(i, ⟨.getConfigMap space name, m⟩)]) := by
  obtain ⟨hmaps, hinterloper⟩ := m.getConfigMap_keeps space name
  obtain ⟨hsound, hevolves⟩ := Memory.sound_answer h.sound (.getConfigMap space name)
  obtain ⟨c, hc, hdecode, -⟩ := h.stored
  have hnot : i ∉ writers log := by
    have hknows := h.knows i
    rwa [hi] at hknows
  refine h.keep hsound (hinterloper.trans h.alone) hevolves hmaps rfl ?_
  rw [Memory.getConfigMap_found hc, Stage.afterRead]
  cases hmerged : mergedText c (calls i).credential (calls i).secret with
  | error e => exact knows_settled_error hnot attempt left _
  | ok text =>
      cases text with
      | none =>
          obtain ⟨es, hes, hhost⟩ := mergedText_none hmerged
          rw [hdecode] at hes
          cases hes
          exact ⟨by simp [hnot], hhost⟩
      | some text => exact ⟨hnot, (h.sound.holds hc).evolves hevolves, hmerged⟩

/-- A write that is accepted: what was read is still what is stored, and the list that was
merged from it is stored now. -/
theorem Raced.accepted [DecidableEq ι] {stages : ι → Stage} {m : Memory}
    {log : List (ι × Exchange)} (h : Raced calls space name c₀ es₀ stages m log)
    (hyaml : ∀ is, Newcomers calls es₀ is → ReadsBack (listValue (written calls es₀ is)))
    {i : ι} {c c' : ConfigMap} {text : String} (hholds : m.Holds (space, name) c)
    (hmerged : mergedText c (calls i).credential (calls i).secret = .ok (some text))
    (hanswer : (m.updateConfigMap (revise c text)).1 = .ok c') (attempt : Nat) :
    Raced calls space name c₀ es₀
      (Function.update stages i (.returned (.ok ⟨attempt, true⟩)))
      (m.updateConfigMap (revise c text)).2
      (log ++ [(i, ⟨.updateConfigMap (revise c text), m⟩)]) := by
  obtain ⟨hsound, hevolves⟩ := Memory.sound_updateConfigMap h.sound (revise c text)
  obtain ⟨halone, -⟩ := Memory.updateConfigMap_alone (revise c text) h.alone
  obtain ⟨stored, hstored, hdecode, hdata⟩ := h.stored
  obtain ⟨hcurrent, hafter⟩ := hholds.accepted hanswer
  rw [hstored] at hcurrent
  cases hcurrent
  obtain ⟨es, hes, hhost, hencode⟩ := mergedText_some hmerged
  rw [hdecode] at hes
  cases hes
  have haccepted : (⟨.updateConfigMap (revise c text), m⟩ : Exchange).isAccepted = true := by
    simp only [Exchange.isAccepted, hanswer]
    rfl
  have hgrown : writers (log ++ [(i, ⟨.updateConfigMap (revise c text), m⟩)])
      = writers log ++ [i] := writers_of_accepted haccepted
  have hnewcomers := h.newcomers.append hhost
  have hread : decode text = .ok (written calls es₀ (writers log ++ [i])) := by
    refine decode_of_encode ?_ (hyaml _ hnewcomers) ?_
    · rw [written_append]
      exact proper_snoc hdecode (calls i).credential
    · rw [written_append]
      exact hencode
  refine ⟨hsound, halone, ⟨_, hafter, ?_, ?_⟩, ?_, ?_⟩
  · rw [hgrown, listText, Dict.get?_insert, if_pos rfl]
    exact hread
  · intro k hk
    rw [Dict.get?_insert, if_neg (Ne.symm hk)]
    exact hdata k hk
  · rw [hgrown]
    exact hnewcomers
  · rw [hgrown]
    refine knows_update ⟨by simp, (calls i).entry, ?_, rfl⟩ fun j hj => ?_
    · rw [written_append]
      exact List.mem_append_right _ (List.mem_singleton_self _)
    · exact ((h.knows j).evolves hevolves).append hj

/-- A write: refused, or accepted and then made of what is stored. -/
theorem Raced.write [DecidableEq ι] {stages : ι → Stage} {m : Memory}
    {log : List (ι × Exchange)} (h : Raced calls space name c₀ es₀ stages m log)
    (hyaml : ∀ is, Newcomers calls es₀ is → ReadsBack (listValue (written calls es₀ is)))
    {i : ι} {attempt left : Nat} {c : ConfigMap} {text : String}
    (hi : stages i = .writing attempt left c text) :
    Raced calls space name c₀ es₀
      (Function.update stages i (Stage.afterWrite space name attempt left
        (m.updateConfigMap (revise c text)).1))
      (m.updateConfigMap (revise c text)).2
      (log ++ [(i, ⟨.updateConfigMap (revise c text), m⟩)]) := by
  obtain ⟨hnot, hholds, hmerged⟩ : i ∉ writers log ∧ m.Holds (space, name) c ∧
      mergedText c (calls i).credential (calls i).secret = .ok (some text) := by
    have hknows := h.knows i
    rwa [hi] at hknows
  cases hanswer : (m.updateConfigMap (revise c text)).1 with
  | ok c' => exact h.accepted hyaml hholds hmerged hanswer attempt
  | error e =>
      obtain ⟨hsound, hevolves⟩ := Memory.sound_updateConfigMap h.sound (revise c text)
      obtain ⟨halone, hrefused⟩ := Memory.updateConfigMap_alone (revise c text) h.alone
      have hx : (⟨.updateConfigMap (revise c text), m⟩ : Exchange).isAccepted = false := by
        simp only [Exchange.isAccepted, hanswer]
        rfl
      exact h.keep hsound halone hevolves (hrefused e hanswer) hx
        (knows_settled_error hnot attempt left _)

theorem Raced.turn [DecidableEq ι] {stages : ι → Stage} {s : Session ι Outcome}
    (hyaml : ∀ is, Newcomers calls es₀ is → ReadsBack (listValue (written calls es₀ is)))
    (ht : Tracked calls space name stages s)
    (h : Raced calls space name c₀ es₀ stages s.memory s.log) (i : ι) :
    ∃ stages', Tracked calls space name stages' (s.next (.turn i)) ∧
      Raced calls space name c₀ es₀ stages' (s.next (.turn i)).memory
        (s.next (.turn i)).log := by
  rcases turn_cases ht i with ⟨ht', hm, hlog⟩ |
    ⟨attempt, left, hstage, ht', hm, hlog⟩ |
    ⟨attempt, left, c, text, hstage, ht', hm, hlog⟩
  · exact ⟨_, ht', by rw [hm, hlog]; exact h⟩
  · exact ⟨_, ht', by rw [hm, hlog]; exact h.read hstage⟩
  · exact ⟨_, ht', by rw [hm, hlog]; exact h.write hyaml hstage⟩

theorem raced_atOnce {m : Memory} (hm : m.Sound) (halone : m.interloper = none)
    (hc₀ : m.configMap? space name = some c₀) (hes₀ : decode (listText c₀) = .ok es₀) :
    Raced calls space name c₀ es₀ (fun i => .reading 1 ((calls i).limit - 1)) m [] where
  sound := hm
  alone := halone
  stored := ⟨c₀, hc₀, by simpa [written, writers] using hes₀, fun _ _ => rfl⟩
  newcomers := ⟨List.nodup_nil, fun _ hi => absurd hi List.not_mem_nil⟩
  knows i := List.not_mem_nil

/-- At every point of a race the stored list is the one it started with and the entries of
the writers. A call that has returned finds its host there from then on; one that failed is
no writer. -/
theorem race_keeps_every_entry [DecidableEq ι] {m : Memory} (hm : m.Reachable)
    (halone : m.interloper = none) (hc₀ : m.configMap? space name = some c₀)
    (hes₀ : decode (listText c₀) = .ok es₀)
    (hyaml : ∀ is, Newcomers calls es₀ is → ReadsBack (listValue (written calls es₀ is)))
    (turns : List ι) :
    let s := (atOnce calls space name m).run (turns.map .turn)
    ∃ c, s.memory.configMap? space name = some c ∧
      decode (listText c) = .ok (es₀ ++ (writers s.log).map fun i => (calls i).entry) ∧
      ((writers s.log).map fun i => (calls i).host).Nodup ∧
      (∀ i ∈ writers s.log, ∀ e ∈ es₀, e.url ≠ (calls i).host) ∧
      (∀ k, k ≠ listKey → c.data.get? k = c₀.data.get? k) ∧
      (∀ earlier later i res, turns = earlier ++ later →
        ((atOnce calls space name m).run (earlier.map .turn)).tasks i = .done (.ok res) →
        (i ∈ writers s.log ↔ res.written = true) ∧
          ∃ e ∈ es₀ ++ (writers s.log).map fun i => (calls i).entry,
            e.url = (calls i).host) ∧
      (∀ i e, s.tasks i = .done (.error e) → i ∉ writers s.log) := by
  intro s
  have hrun : ∃ stages, Tracked calls space name stages s ∧
      Raced calls space name c₀ es₀ stages s.memory s.log := by
    refine Session.run_keeps (P := fun s => ∃ stages, Tracked calls space name stages s ∧
      Raced calls space name c₀ es₀ stages s.memory s.log) (fun s e he h => ?_)
      ⟨_, tracked_atOnce m, raced_atOnce hm.sound halone hc₀ hes₀⟩
    obtain ⟨i, -, rfl⟩ := List.mem_map.mp he
    obtain ⟨stages, ht, h⟩ := h
    exact h.turn hyaml ht i
  obtain ⟨stages, ht, h⟩ := hrun
  obtain ⟨c, hc, hdecode, hdata⟩ := h.stored
  refine ⟨c, hc, hdecode, h.newcomers.apart, h.newcomers.fresh, hdata, ?_, ?_⟩
  · intro earlier later i res hturns hdone
    have hdone' : s.tasks i = .done (.ok res) := by
      have hlater := Session.run_of_done (later.map .turn) hdone
      rw [← Session.run_append, ← List.map_append, ← hturns] at hlater
      exact hlater
    have hknows := h.knows i
    rw [ht.of_done hdone'] at hknows
    exact hknows
  · intro i e hdone
    have hknows := h.knows i
    rw [ht.of_done hdone] at hknows
    exact hknows

end

/-- Two calls for one host: one may try once, the other three times. -/
def rivals (patient : Bool) : Call :=
  { budget := if patient then 3 else 0
    credential := { guest with username := if patient then "a" else "b" }
    secret := "s" }

/-- A cluster with a config map that has no list. -/
def blankCluster : Memory :=
  ((Memory.new "c").storeConfigMap ⟨"ns", "cm", none, (∅ : Dict String).insert "x" "y"⟩).2

theorem rivals_keep_every_entry :
    let s := (atOnce rivals "ns" "cm" blankCluster).run
      ([true, true, false, false, true, true, false, false, false].map .turn)
    ∃ c, s.memory.configMap? "ns" "cm" = some c ∧
      decode (listText c) = .ok ((writers s.log).map fun i => (rivals i).entry) ∧
      (∀ i e, s.tasks i = .done (.error e) → i ∉ writers s.log) := by
  intro s
  have hyaml : ∀ is, Newcomers rivals [] is → ReadsBack (listValue (written rivals [] is)) := by
    intro is h
    rcases is with _ | ⟨i, _ | ⟨j, is⟩⟩
    · decide +kernel
    · cases i <;> decide +kernel
    · have happart : (rivals i).host ≠ (rivals j).host := by
        have hnodup := h.apart
        simp only [List.map_cons, List.nodup_cons, List.mem_cons, not_or] at hnodup
        exact hnodup.1.1
      exact absurd rfl happart
  have hblank : decode "" = .ok [] := by decide +kernel
  obtain ⟨c, hc, hdecode, -, -, -, -, herrors⟩ := @race_keeps_every_entry Bool rivals "ns" "cm"
    _ [] _ blankCluster ⟨"c", [.store _], rfl⟩ rfl rfl hblank hyaml
    [true, true, false, false, true, true, false, false, false]
  exact ⟨c, hc, hdecode, herrors⟩

end CredRegistry.RepoList
