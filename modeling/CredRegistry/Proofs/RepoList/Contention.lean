import CredRegistry.Proofs.RepoList.Course
import CredRegistry.Proofs.RepoList.RoundTrip

/-!
# One call to reconcile against everybody else

Between and before the calls of one reconcile anything may happen to the cluster: other
parties store maps with whatever data, arrange refusals, let other writers in. What the one
call has done is then known from its own exchanges. `Come` says, for each stage, what they
look like so far, `Ended` what they look like in the end, for each outcome.

A write is accepted only as the last thing that is done, and only if the map that was read
is the one that is stored. So the map right after it is the map right before it with the new
entry (`Replaced`), whatever happened before.
-/

namespace CredRegistry.RepoList

open CredRegistry.Yaml (ReadsBack)

def reads (xs : List Exchange) : Nat := xs.countP Exchange.isRead

/-- How often it was tried to replace the map. -/
def updates (xs : List Exchange) : Nat := xs.countP Exchange.isUpdate

def Unwritten (xs : List Exchange) : Prop := ∀ x ∈ xs, x.isAccepted = false

/-- Every update was refused because of its version. -/
def Outdated (xs : List Exchange) : Prop := ∀ x ∈ xs, x.isUpdate = true → x.isConflict = true

section

variable (r : Call) (space name : String)

/-- The exchanges are reads and updates of one map. Each update comes right after a read,
and one that is refused leaves no more behind than the other writer it met. -/
structure Orderly (xs : List Exchange) : Prop where
  calls : ∀ x ∈ xs, x.call = .getConfigMap space name ∨
    ∃ c, x.call = .updateConfigMap c ∧ c.space = space ∧ c.name = name
  paired : ∀ before x after, xs = before ++ x :: after → x.isUpdate = true →
    ∃ earlier y, before = earlier ++ [y] ∧ y.isRead = true
  harmless : ∀ x ∈ xs, x.isAccepted = false →
    x.after.configMaps = x.before.configMaps ∨
      x.after.configMaps = (x.before.letIn space name).configMaps

/-- An update that made the stored list longer by the entry of the call, whose host was not
in it, and gave the map a new version. The map is otherwise as it was. -/
def Replaced (x : Exchange) : Prop :=
  ∃ old es text version,
    x.before.configMap? space name = some old ∧
      decode (listText old) = .ok es ∧ (∀ e ∈ es, e.url ≠ r.host) ∧
      encode (es ++ [r.entry]) = .ok text ∧ version ≠ old.version ∧
      x.after.configMap? space name
        = some { old with version, data := old.data.insert listKey text }

/-- What the exchanges of a call look like once it has returned. -/
def Ended (xs : List Exchange) : Outcome → Prop
  | .ok ⟨attempts, true⟩ => attempts = reads xs ∧ ∃ before x, xs = before ++ [x] ∧
      Unwritten before ∧ x.isAccepted = true ∧ Replaced r space name x
  | .ok ⟨attempts, false⟩ => attempts = reads xs ∧ Unwritten xs ∧
      ∃ before m c es, xs = before ++ [⟨.getConfigMap space name, m⟩] ∧
        m.configMap? space name = some c ∧ decode (listText c) = .ok es ∧
        ∃ e ∈ es, e.url = r.host
  | .error (.conflictExhausted space' name' attempts) => Unwritten xs ∧ Outdated xs ∧
      space' = space ∧ name' = name ∧ attempts = r.limit ∧ reads xs = r.limit ∧
      updates xs = r.limit
  | .error (.malformed space' name' e) => Unwritten xs ∧ space' = space ∧ name' = name ∧
      ∃ before m c, xs = before ++ [⟨.getConfigMap space name, m⟩] ∧
        m.configMap? space name = some c ∧
        (decode (listText c) = .error e ∨ ∃ es, decode (listText c) = .ok es ∧
          encode (merge es r.credential r.secret).1 = .error e)
  | .error (.cluster e) => Unwritten xs ∧ e = .notFound .configMap space name ∧
      ∃ before x, xs = before ++ [x] ∧ x.before.configMap? space name = none

/-- What the exchanges of a call look like at a stage. -/
def Come (m : Memory) (xs : List Exchange) : Stage → Prop
  | .reading attempt left => attempt + left = r.limit ∧ reads xs + 1 = attempt ∧
      updates xs + 1 = attempt ∧ Outdated xs
  | .writing attempt left c text => attempt + left = r.limit ∧ reads xs = attempt ∧
      updates xs + 1 = attempt ∧ Outdated xs ∧
      (∃ before x, xs = before ++ [x] ∧ x.isRead = true) ∧
      m.Holds (space, name) c ∧ mergedText c r.credential r.secret = .ok (some text)
  | .returned o => reads xs ≤ r.limit ∧ updates xs ≤ reads xs ∧ Ended r space name xs o

end

section

variable {r : Call} {space name : String}

theorem reads_append (xs : List Exchange) (x : Exchange) :
    reads (xs ++ [x]) = reads xs + if x.isRead then 1 else 0 := by
  simp [reads, List.countP_append, List.countP_singleton]

theorem updates_append (xs : List Exchange) (x : Exchange) :
    updates (xs ++ [x]) = updates xs + if x.isUpdate then 1 else 0 := by
  simp [updates, List.countP_append, List.countP_singleton]

theorem Unwritten.append {xs : List Exchange} {x : Exchange} (h : Unwritten xs)
    (hx : x.isAccepted = false) : Unwritten (xs ++ [x]) := by
  intro y hy
  rcases List.mem_append.mp hy with hy | hy
  · exact h y hy
  · rw [List.mem_singleton.mp hy]
    exact hx

theorem Outdated.append {xs : List Exchange} {x : Exchange} (h : Outdated xs)
    (hx : x.isUpdate = true → x.isConflict = true) : Outdated (xs ++ [x]) := by
  intro y hy
  rcases List.mem_append.mp hy with hy | hy
  · exact h y hy
  · rw [List.mem_singleton.mp hy]
    exact hx

theorem Outdated.unwritten {xs : List Exchange} (h : Outdated xs) : Unwritten xs := by
  intro x hx
  have hconflict := h x hx
  obtain ⟨call, before⟩ := x
  cases call with
  | updateConfigMap c =>
      simp only [Exchange.isUpdate, Exchange.isConflict] at hconflict
      simp only [Exchange.isAccepted]
      cases hanswer : (before.updateConfigMap c).1 with
      | error e => rfl
      | ok c' => simp [hanswer] at hconflict
  | _ => rfl

theorem Orderly.append {xs : List Exchange} {x : Exchange} (h : Orderly space name xs)
    (hcall : x.call = .getConfigMap space name ∨
      ∃ c, x.call = .updateConfigMap c ∧ c.space = space ∧ c.name = name)
    (hpaired : x.isUpdate = true → ∃ earlier y, xs = earlier ++ [y] ∧ y.isRead = true)
    (hharmless : x.isAccepted = false → x.after.configMaps = x.before.configMaps ∨
      x.after.configMaps = (x.before.letIn space name).configMaps) :
    Orderly space name (xs ++ [x]) where
  calls y hy := by
    rcases List.mem_append.mp hy with hy | hy
    · exact h.calls y hy
    · rw [List.mem_singleton.mp hy]
      exact hcall
  paired before y after heq hy := by
    rcases List.eq_nil_or_concat after with rfl | ⟨after', z, rfl⟩
    · obtain ⟨rfl, hxy⟩ := List.append_inj' heq rfl
      cases hxy
      exact hpaired hy
    · have hsplit : xs ++ [x] = (before ++ y :: after') ++ [z] := by simpa using heq
      obtain ⟨rfl, -⟩ := List.append_inj' hsplit rfl
      exact h.paired before y after' rfl hy
  harmless y hy := by
    rcases List.mem_append.mp hy with hy | hy
    · exact h.harmless y hy
    · rw [List.mem_singleton.mp hy]
      exact hharmless

theorem Orderly.read {xs : List Exchange} (h : Orderly space name xs) (m : Memory) :
    Orderly space name (xs ++ [⟨.getConfigMap space name, m⟩]) :=
  h.append (.inl rfl) (fun hx => by cases hx) fun _ => .inl (m.getConfigMap_keeps space name).1

theorem Orderly.write {xs : List Exchange} (h : Orderly space name xs) (m : Memory)
    {c : ConfigMap} (text : String) (hfiled : (c.space, c.name) = (space, name))
    (hlast : ∃ earlier y, xs = earlier ++ [y] ∧ y.isRead = true) :
    Orderly space name (xs ++ [⟨.updateConfigMap (revise c text), m⟩]) := by
  obtain ⟨hspace, hname⟩ := Prod.mk.inj hfiled
  refine h.append (.inr ⟨_, rfl, hspace, hname⟩) (fun _ => hlast) fun hx => ?_
  cases hanswer : (m.updateConfigMap (revise c text)).1 with
  | ok c' =>
      simp only [Exchange.isAccepted, hanswer, Except.isOk, Except.toBool] at hx
      cases hx
  | error e =>
      have hrefused := (Memory.updateConfigMap_refused hanswer).2
      rwa [show (revise c text).space = space from hspace,
        show (revise c text).name = name from hname] at hrefused

theorem Come.evolves {m m' : Memory} {xs : List Exchange} {σ : Stage}
    (h : Come r space name m xs σ) (hm : m.Evolves m') : Come r space name m' xs σ := by
  cases σ with
  | writing attempt left c text =>
      obtain ⟨hlimit, hreads, hupdates, houtdated, hlast, hholds, hmerged⟩ := h
      exact ⟨hlimit, hreads, hupdates, houtdated, hlast, hholds.evolves hm, hmerged⟩
  | _ => exact h

theorem Come.read {m : Memory} {xs : List Exchange} {attempt left : Nat} (hm : m.Sound)
    (h : Come r space name m xs (.reading attempt left)) :
    Come r space name (m.getConfigMap space name).2
      (xs ++ [⟨.getConfigMap space name, m⟩])
      (Stage.afterRead r space name attempt left (m.getConfigMap space name).1) := by
  obtain ⟨hlimit, hreads, hupdates, houtdated⟩ := h
  have hreads' : reads (xs ++ [⟨.getConfigMap space name, m⟩]) = reads xs + 1 :=
    reads_append xs _
  have hupdates' : updates (xs ++ [⟨.getConfigMap space name, m⟩]) = updates xs :=
    updates_append xs _
  have houtdated' : Outdated (xs ++ [⟨.getConfigMap space name, m⟩]) :=
    houtdated.append fun hx => by cases hx
  have hunwritten' := houtdated'.unwritten
  rcases m.getConfigMap_cases space name with ⟨hnone, hanswer⟩ | ⟨c, hc, hanswer⟩
  · rw [hanswer]
    exact ⟨by omega, by omega, hunwritten', rfl, _, _, rfl, hnone⟩
  · rw [hanswer, Stage.afterRead]
    cases hmerged : mergedText c r.credential r.secret with
    | error e =>
        exact ⟨by omega, by omega, hunwritten', rfl, rfl, _, m, c, rfl, hc,
          mergedText_error hmerged⟩
    | ok text =>
        cases text with
        | none =>
            obtain ⟨es, hes, hhost⟩ := mergedText_none hmerged
            exact ⟨by omega, by omega, by omega, hunwritten', _, m, c, es, rfl, hc, hes,
              hhost⟩
        | some text =>
            have hevolves := (Memory.sound_answer hm (.getConfigMap space name)).2
            exact ⟨hlimit, by omega, by omega, houtdated', ⟨_, _, rfl, rfl⟩,
              (hm.holds hc).evolves hevolves, hmerged⟩

theorem Come.write {m : Memory} {xs : List Exchange} {attempt left : Nat} {c : ConfigMap}
    {text : String} (h : Come r space name m xs (.writing attempt left c text)) :
    Come r space name (m.updateConfigMap (revise c text)).2
      (xs ++ [⟨.updateConfigMap (revise c text), m⟩])
      (Stage.afterWrite space name attempt left (m.updateConfigMap (revise c text)).1) := by
  obtain ⟨hlimit, hreads, hupdates, houtdated, -, hholds, hmerged⟩ := h
  have hreads' : reads (xs ++ [⟨.updateConfigMap (revise c text), m⟩]) = reads xs :=
    reads_append xs _
  have hupdates' : updates (xs ++ [⟨.updateConfigMap (revise c text), m⟩])
      = updates xs + 1 := updates_append xs _
  have haccepted : (⟨.updateConfigMap (revise c text), m⟩ : Exchange).isAccepted
      = (m.updateConfigMap (revise c text)).1.isOk := rfl
  have hkey : (c.space, c.name) = (space, name) := hholds.filed
  cases hanswer : (m.updateConfigMap (revise c text)).1 with
  | error e =>
      rw [hanswer] at haccepted
      have hunwritten' := houtdated.unwritten.append haccepted
      obtain ⟨hkind, -⟩ := Memory.updateConfigMap_refused hanswer
      rcases hkind with rfl | ⟨rfl, hnone⟩
      · -- The version was outdated: another attempt is made if there are any left.
        have houtdated' : Outdated (xs ++ [⟨.updateConfigMap (revise c text), m⟩]) :=
          houtdated.append fun _ => by simp only [Exchange.isConflict, hanswer]; rfl
        cases left with
        | zero => exact ⟨by omega, by omega, hunwritten', houtdated', rfl, rfl, by omega,
            by omega, by omega⟩
        | succ left => exact ⟨by omega, by omega, by omega, houtdated'⟩
      · obtain ⟨hspace, hname⟩ := Prod.mk.inj hkey
        simp only [revise, hspace, hname] at hnone
        refine ⟨by omega, by omega, hunwritten', ?_, xs, _, rfl, hnone⟩
        simp only [revise, hspace, hname]
  | ok c' =>
      rw [hanswer] at haccepted
      obtain ⟨hcurrent, hafter⟩ := hholds.accepted hanswer
      obtain ⟨es, hes, hhost, hencode⟩ := mergedText_some hmerged
      obtain ⟨n, hn, hversion⟩ := hholds.versioned
      refine ⟨by omega, by omega, by omega, xs, _, rfl, houtdated.unwritten, haccepted,
        c, es, text, _, hcurrent, hes, hhost, hencode, ?_, hafter⟩
      rw [hversion]
      intro heq
      have := Memory.versionText_inj.mp (Option.some.inj heq)
      omega

/-! ## What an update has stored -/

/-- The list that an update has stored is read as the old one with the entry of the call. -/
theorem Replaced.stored {x : Exchange} (h : Replaced r space name x)
    (hyaml : ∀ old es, x.before.configMap? space name = some old →
      decode (listText old) = .ok es → ReadsBack (listValue (es ++ [r.entry]))) :
    ∃ old es c, x.before.configMap? space name = some old ∧ decode (listText old) = .ok es ∧
      (∀ e ∈ es, e.url ≠ r.host) ∧ x.after.configMap? space name = some c ∧
      encode (es ++ [r.entry]) = .ok (listText c) ∧ decode (listText c) = .ok (es ++ [r.entry]) := by
  obtain ⟨old, es, text, version, hold, hes, hhost, hencode, -, hafter⟩ := h
  have hproper : ∀ e ∈ es ++ [r.entry], e.Proper := proper_snoc hes r.credential
  have htext : listText { old with version, data := old.data.insert listKey text } = text := by
    simp only [listText, Dict.get?_insert, if_pos, Option.getD_some]
  refine ⟨old, es, _, hold, hes, hhost, hafter, ?_, ?_⟩
  · rw [htext]
    exact hencode
  · rw [htext]
    exact decode_of_encode hproper (hyaml old es hold hes) hencode

/-! ## The call at any point -/

/-- The exchanges of a session, whoever made them. -/
def exchanges (s : Session Unit Outcome) : List Exchange := s.log.map (·.2)

/-- The call at any point, whatever has been done by then. -/
structure Contended (r : Call) (space name : String) (stages : Unit → Stage)
    (s : Session Unit Outcome) : Prop where
  tracked : Tracked (fun _ => r) space name stages s
  sound : s.memory.Sound
  orderly : Orderly space name (exchanges s)
  come : Come r space name s.memory (exchanges s) (stages ())

theorem exchanges_of_log {s s' : Session Unit Outcome} {x : Exchange}
    (h : s'.log = s.log ++ [((), x)]) : exchanges s' = exchanges s ++ [x] := by
  simp [exchanges, h]

theorem Contended.turn {stages : Unit → Stage} {s : Session Unit Outcome}
    (h : Contended r space name stages s) :
    ∃ stages', Contended r space name stages' (s.next (.turn ())) := by
  rcases turn_cases h.tracked () with ⟨ht, hm, hlog⟩ |
    ⟨attempt, left, hstage, ht, hm, hlog⟩ |
    ⟨attempt, left, c, text, hstage, ht, hm, hlog⟩
  · have hxs : exchanges (s.next (.turn ())) = exchanges s := by rw [exchanges, hlog]; rfl
    refine ⟨stages, ht, by rw [hm]; exact h.sound, by rw [hxs]; exact h.orderly, ?_⟩
    rw [hm, hxs]
    exact h.come
  · have hcome := h.come
    rw [hstage] at hcome
    refine ⟨_, ht, ?_, ?_, ?_⟩
    · rw [hm]
      exact (Memory.sound_answer h.sound (.getConfigMap space name)).1
    · rw [exchanges_of_log hlog]
      exact h.orderly.read s.memory
    · rw [hm, exchanges_of_log hlog, Function.update_self]
      exact hcome.read h.sound
  · have hcome := h.come
    rw [hstage] at hcome
    refine ⟨_, ht, ?_, ?_, ?_⟩
    · rw [hm]
      exact (Memory.sound_updateConfigMap h.sound (revise c text)).1
    · obtain ⟨-, -, -, -, hlast, hholds, -⟩ := hcome
      rw [exchanges_of_log hlog]
      exact h.orderly.write s.memory text hholds.filed hlast
    · rw [hm, exchanges_of_log hlog, Function.update_self]
      exact hcome.write

theorem Contended.deed {stages : Unit → Stage} {s : Session Unit Outcome}
    (h : Contended r space name stages s) (d : Memory.Deed) :
    Contended r space name stages (s.next (.deed d)) := by
  obtain ⟨hsound, hevolves⟩ := Memory.sound_perform h.sound d
  exact ⟨h.tracked, hsound, h.orderly, h.come.evolves hevolves⟩

theorem contended_atOnce {m : Memory} (hm : m.Sound) :
    Contended r space name (fun _ => .reading 1 (r.limit - 1))
      (atOnce (fun _ => r) space name m) where
  tracked := tracked_atOnce m
  sound := hm
  orderly := ⟨fun _ hx => (by cases hx), fun before x after h => by
    simp [exchanges, atOnce] at h, fun _ hx => (by cases hx)⟩
  come := by
    have hpositive : 1 ≤ r.limit := Nat.le_max_right ..
    exact ⟨by omega, rfl, rfl, fun _ hx => by cases hx⟩

theorem contended_run {m : Memory} (hm : m.Sound) (events : List (Session.Event Unit)) :
    ∃ stages, Contended r space name stages ((atOnce (fun _ => r) space name m).run events) := by
  refine Session.run_keeps (P := fun s => ∃ stages, Contended r space name stages s)
    (fun s e _ h => ?_) ⟨_, contended_atOnce hm⟩
  obtain ⟨stages, h⟩ := h
  cases e with
  | turn i => exact h.turn
  | deed d => exact ⟨stages, h.deed d⟩

theorem Contended.ended {stages : Unit → Stage} {s : Session Unit Outcome} {o : Outcome}
    (h : Contended r space name stages s) (ho : s.tasks () = .done o) :
    Ended r space name (exchanges s) o := by
  have hcome := h.come
  rw [h.tracked.of_done ho] at hcome
  exact hcome.2.2

/-- Whatever others do to the cluster before and between the calls of one reconcile, it
reads the map at most as often as it may, tries at most one update for each read, and once
it has returned its exchanges are those of its outcome. -/
theorem reconcile_against_others {m : Memory} (hm : m.Reachable) (r : Call)
    (space name : String) (events : List (Session.Event Unit)) :
    let s := (atOnce (fun _ => r) space name m).run events
    Orderly space name (exchanges s) ∧ reads (exchanges s) ≤ max r.budget 1 ∧
      updates (exchanges s) ≤ reads (exchanges s) ∧
      ∀ o, s.tasks () = .done o → Ended r space name (exchanges s) o := by
  intro s
  obtain ⟨stages, h⟩ : ∃ stages, Contended r space name stages s := contended_run hm.sound events
  have hcounts : reads (exchanges s) ≤ r.limit ∧ updates (exchanges s) ≤ reads (exchanges s) := by
    have hcome := h.come
    cases hstage : stages () with
    | reading attempt left =>
        rw [hstage] at hcome
        obtain ⟨hlimit, hreads, hupdates, -⟩ := hcome
        omega
    | writing attempt left c text =>
        rw [hstage] at hcome
        obtain ⟨hlimit, hreads, hupdates, -⟩ := hcome
        omega
    | returned o =>
        rw [hstage] at hcome
        exact ⟨hcome.1, hcome.2.1⟩
  exact ⟨h.orderly, hcounts.1, hcounts.2, fun o ho => h.ended ho⟩

end

/-- A list that cannot be read is stored, then mended before the read; another writer is let
in with the first update. -/
theorem reconcile_against_meddlers :
    let broken : ConfigMap := ⟨"ns", "cm", none, (∅ : Dict String).insert listKey "["⟩
    let s := (atOnce (fun _ => ⟨2, guest, "s"⟩) "ns" "cm" (Memory.new "c")).run
      [.deed (.store broken), .turn (), .deed (.interleave 1 (·.insert "x" "y")),
        .deed (.store { broken with data := ∅ }), .turn (), .turn (), .turn (), .turn (),
        .turn (), .turn (), .turn ()]
    Orderly "ns" "cm" (exchanges s) ∧ reads (exchanges s) ≤ 2 ∧
      updates (exchanges s) ≤ reads (exchanges s) ∧
      ∀ o, s.tasks () = .done o → Ended ⟨2, guest, "s"⟩ "ns" "cm" (exchanges s) o :=
  reconcile_against_others ⟨"c", [], rfl⟩ ⟨2, guest, "s"⟩ "ns" "cm" _

end CredRegistry.RepoList
