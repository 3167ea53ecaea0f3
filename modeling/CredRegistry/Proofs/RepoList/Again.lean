import CredRegistry.Proofs.Cluster.Turns
import CredRegistry.Proofs.Cluster.Writes
import CredRegistry.Proofs.RepoList.Contention

/-!
# Reconciling a host again

Whether an attempt finds nothing to write depends on the map and the host alone, not on the user,
the token or the secret (`mergedText_eq_none`). A call that has succeeded leaves such a map behind,
whether it wrote the list or found its host in the text of somebody else (`tended_of_ended`). From
then on a call for the host reads the map once and is done (`Call.within_task`), so any number of
them leave it as it is.
-/

namespace CredRegistry.RepoList

open CredRegistry.Yaml (ReadsBack)

/-- The list of a map can be read and written, and has an entry for a host. -/
def Tended (host : String) (c : ConfigMap) : Prop :=
  ∃ es, decode (listText c) = .ok es ∧ (∃ e ∈ es, e.url = host) ∧
    ∀ e ∈ es, e.nestsSingle = false

theorem any_nestsSingle_eq_false {es : List Entry} :
    es.any Entry.nestsSingle = false ↔ ∀ e ∈ es, e.nestsSingle = false := by
  simp [List.any_eq_false]

/-- A proper list that can be written nests no single entries. -/
theorem nestsSingle_of_encode {es : List Entry} {text : String} (hes : ∀ e ∈ es, e.Proper)
    (h : encode es = .ok text) : ∀ e ∈ es, e.nestsSingle = false := by
  rw [encode_of_proper hes] at h
  split at h
  · cases h
  next hnests => exact any_nestsSingle_eq_false.mp (Bool.eq_false_iff.mpr hnests)

/-- There is nothing to write exactly if the list has an entry for the host; the rest of the
credential and the secret do not matter. -/
theorem mergedText_eq_none {c : ConfigMap} {credential : Credential} {secret : String} :
    mergedText c credential secret = .ok none ↔ Tended credential.host c := by
  constructor
  · intro h
    obtain ⟨es, hes, hhost⟩ := mergedText_none h
    refine ⟨es, hes, hhost, ?_⟩
    unfold mergedText at h
    simp only [hes, bind, Except.bind] at h
    cases hencode : encode (merge es credential secret).1 with
    | error e =>
        rw [hencode] at h
        cases h
    | ok text =>
        have hnests := nestsSingle_of_encode (proper_merge (proper_of_decode hes)) hencode
        rw [← any_nestsSingle_eq_false, any_nestsSingle_merge] at hnests
        exact any_nestsSingle_eq_false.mp hnests
  · rintro ⟨es, hes, ⟨e, he, hurl⟩, hnests⟩
    have hindex : indexOf? credential.host es ≠ none := fun h => indexOf?_eq_none.mp h e he hurl
    obtain ⟨i, hi⟩ := Option.ne_none_iff_exists'.mp hindex
    have hproper : ∀ e ∈ (merge es credential secret).1, e.Proper :=
      proper_merge (proper_of_decode hes)
    have hencode := encode_of_proper hproper
    rw [any_nestsSingle_merge, any_nestsSingle_eq_false.mpr hnests, if_neg Bool.false_ne_true]
      at hencode
    have hmerge : (merge es credential secret).2 = .existing i := by
      simp only [merge, hi]
    simp only [mergedText, hes, bind, Except.bind, hencode, hmerge]

/-! ## What the first call leaves behind -/

section

variable {r : Call} {space name : String}

/-- Every list that was written in some exchanges, with the entry of a call at its end, can be read
again. -/
def Rereadable (r : Call) (space name : String) (xs : List Exchange) : Prop :=
  ∀ x ∈ xs, x.isAccepted = true → ∀ old es, x.before.configMap? space name = some old →
    decode (listText old) = .ok es → ReadsBack (listValue (es ++ [r.entry]))

theorem tended_of_replaced {x : Exchange} (hx : x.isAccepted = true)
    (hyaml : Rereadable r space name [x]) (h : Replaced r space name x) :
    ∃ c, x.after.configMap? space name = some c ∧ Tended r.host c := by
  obtain ⟨old, es, c, -, -, -, hc, hencode, hdecode⟩ :=
    h.stored (hyaml x (List.mem_singleton_self x) hx)
  refine ⟨c, hc, es ++ [r.entry], hdecode, ⟨r.entry, by simp, rfl⟩, ?_⟩
  exact nestsSingle_of_encode (proper_of_decode hdecode) hencode

/-- A call that has written nothing has found such a map with its last read. -/
def Unneeded (r : Call) (space name : String) (xs : List Exchange) (σ : Stage) : Prop :=
  ∀ attempts, σ = .returned (.ok ⟨attempts, false⟩) →
    ∃ before m c, xs = before ++ [⟨.getConfigMap space name, m⟩] ∧
      m.configMap? space name = some c ∧ Tended r.host c

theorem settled_eq_returned {attempt left attempts : Nat}
    {result : Except ReconcileError Bool} {written : Bool}
    (h : Stage.settled space name attempt left result = .returned (.ok ⟨attempts, written⟩)) :
    result = .ok written := by
  cases result with
  | ok written' =>
      cases h
      rfl
  | error e =>
      by_cases he : e.isRetryable = true
      · simp only [Stage.settled, if_pos he] at h
        cases left <;> cases h
      · simp only [Stage.settled, if_neg he] at h
        cases h

theorem Unneeded.read {m : Memory} (xs : List Exchange) (attempt left : Nat) :
    Unneeded r space name (xs ++ [⟨.getConfigMap space name, m⟩])
      (Stage.afterRead r space name attempt left (m.getConfigMap space name).1) := by
  intro attempts h
  rcases m.getConfigMap_cases space name with ⟨-, hanswer⟩ | ⟨c, hc, hanswer⟩
  · rw [hanswer, Stage.afterRead] at h
    cases settled_eq_returned h
  · rw [hanswer, Stage.afterRead] at h
    split at h
    · cases settled_eq_returned h
    next hmerged => exact ⟨xs, m, c, rfl, hc, mergedText_eq_none.mp hmerged⟩
    · cases h

theorem Unneeded.write {xs : List Exchange} {attempt left : Nat}
    (answer : Except ClusterError ConfigMap) :
    Unneeded r space name xs (Stage.afterWrite space name attempt left answer) := by
  intro attempts h
  cases answer with
  | error e =>
      rw [Stage.afterWrite] at h
      cases settled_eq_returned h
  | ok c =>
      rw [Stage.afterWrite] at h
      cases settled_eq_returned h

/-- Reports and deeds leave the exchanges alone, a read is the last of them, and after a write the
call has not returned that it wrote nothing. -/
theorem unneeded_run {m : Memory} (events : List (Session.Event Unit)) :
    ∃ stages, Tracked (fun _ => r) space name stages
        ((atOnce (fun _ => r) space name m).run events) ∧
      Unneeded r space name (exchanges ((atOnce (fun _ => r) space name m).run events))
        (stages ()) := by
  refine Session.run_keeps (P := fun s => ∃ stages, Tracked (fun _ => r) space name stages s ∧
    Unneeded r space name (exchanges s) (stages ())) (fun s e _ h => ?_)
    ⟨_, tracked_atOnce m, fun _ h => nomatch h⟩
  obtain ⟨stages, ht, h⟩ := h
  cases e with
  | deed d => exact ⟨stages, ht, h⟩
  | turn i =>
      rcases turn_cases ht () with ⟨ht', -, hlog⟩ | ⟨attempt, left, -, ht', -, hlog⟩ |
        ⟨attempt, left, c, text, -, ht', -, hlog⟩
      · refine ⟨stages, ht', ?_⟩
        rwa [exchanges, hlog]
      · refine ⟨_, ht', ?_⟩
        rw [exchanges_of_log hlog, Function.update_self]
        exact .read _ attempt left
      · refine ⟨_, ht', ?_⟩
        rw [Function.update_self]
        exact .write _

/-- Right after the last exchange of a call that has succeeded, its host is in the list. -/
theorem tended_of_done {m : Memory} (hm : m.Sound) {events : List (Session.Event Unit)}
    {o : Reconciled} (hyaml : Rereadable r space name
      (exchanges ((atOnce (fun _ => r) space name m).run events)))
    (ho : ((atOnce (fun _ => r) space name m).run events).tasks () = .done (.ok o)) :
    ∃ before x c, exchanges ((atOnce (fun _ => r) space name m).run events) = before ++ [x] ∧
      x.after.configMap? space name = some c ∧ Tended r.host c := by
  obtain ⟨attempts, written⟩ := o
  cases written with
  | true =>
      obtain ⟨stages, h⟩ := contended_run hm events
      obtain ⟨-, before, x, hxs, -, haccepted, hreplaced⟩ := h.ended ho
      rw [hxs] at hyaml
      have hlast : Rereadable r space name [x] :=
        fun y hy => hyaml y (List.mem_append_right _ hy)
      obtain ⟨c, hc, htended⟩ := tended_of_replaced haccepted hlast hreplaced
      exact ⟨before, x, c, hxs, hc, htended⟩
  | false =>
      obtain ⟨stages, ht, h⟩ := unneeded_run (m := m) events
      obtain ⟨before, m', c, hxs, hc, htended⟩ := h attempts (ht.of_done ho)
      exact ⟨before, _, c, hxs, (m'.configMap?_getConfigMap ..).trans hc, htended⟩

/-! ## Later calls -/

/-- The cluster has this map under the name. -/
def Stores (space name : String) (c : ConfigMap) (m : Memory) : Prop :=
  m.configMap? space name = some c

theorem Stores.read {c : ConfigMap} {m : Memory} (h : Stores space name c m) :
    Stores space name c (m.getConfigMap space name).2 :=
  (m.configMap?_getConfigMap ..).trans h

/-- The map is kept by whoever does not write it. -/
theorem Stores.perform {c : ConfigMap} {m : Memory} (h : Stores space name c m) {d : Memory.Deed}
    (hd : ∀ w ∈ m.writes d, w.key ≠ (space, name)) : Stores space name c (m.perform d) := by
  rcases (m.wrote_perform d).maps (space, name) with ⟨hsame, -⟩ | ⟨c', n, -, -, hmem, -⟩
  · exact hsame.trans h
  · exact absurd rfl (hd _ hmem)

/-- A call for a host that is in the list is done after three turns: it reports, reads the map and
reports again. -/
theorem Call.within_task (r : Call) {c : ConfigMap} (hc : Tended r.host c) :
    Within (Stores space name c) (· = .getConfigMap space name) (· = .ok ⟨1, false⟩) 3
      (r.task space name) := by
  have hmerged : mergedText c r.credential r.secret = .ok none := mergedText_eq_none.mpr hc
  rw [show r.task space name = r.attempts space name (r.limit - 1) 1 from rfl, Call.attempts_eq]
  refine .report (.ask rfl fun m hm => ?_)
  have hanswer : (m.answer (.getConfigMap space name)).1 = .ok c := by
    rcases m.getConfigMap_cases space name with ⟨hnone, -⟩ | ⟨c', hc', hanswer⟩
    · exact absurd (hm.symm.trans hnone) nofun
    · cases hm.symm.trans hc'
      exact hanswer
  rw [hanswer]
  simp only [Dialogue.bind, hmerged]
  exact .report (.done rfl)

end

/-- Nobody but the clients writes the map in the course of some events. -/
def LeftAlone {ι α : Type} [DecidableEq ι] (space name : String) (s : Session ι α)
    (events : List (Session.Event ι)) : Prop :=
  ∀ earlier d later, events = earlier ++ .deed d :: later →
    ∀ w ∈ (s.run earlier).memory.writes d, w.key ≠ (space, name)

/-- Once a call to reconcile has succeeded, the map that is then stored stays as it is, whatever is
in it and whoever has written it: each later call for the host, whatever its user, token, secret
and budget, finds the host with its first read and writes nothing, also when refusals are pending,
as long as nobody else writes the map. -/
theorem reconciled_host_stays {m : Memory} (hm : m.Reachable) (first : Call) (space name : String)
    (events : List (Session.Event Unit)) (o : Reconciled)
    (hdone : ((atOnce (fun _ => first) space name m).run events).tasks () = .done (.ok o))
    (hyaml : Rereadable first space name
      (exchanges ((atOnce (fun _ => first) space name m).run events))) :
    ∃ before x c,
      exchanges ((atOnce (fun _ => first) space name m).run events) = before ++ [x] ∧
      x.after.configMap? space name = some c ∧
      ∀ (ι : Type) [DecidableEq ι] (later : ι → Call) (events : List (Session.Event ι)),
        (∀ i, (later i).host = first.host) →
        LeftAlone space name (atOnce later space name x.after) events →
        let s := (atOnce later space name x.after).run events
        s.memory.configMap? space name = some c ∧
          (∀ y ∈ s.log, y.2.isUpdate = false) ∧
          (∀ i o, s.tasks i = .done o → o = .ok ⟨1, false⟩) ∧
          ∀ i, 3 ≤ Session.turns i events → s.tasks i = .done (.ok ⟨1, false⟩) := by
  obtain ⟨before, x, c, hxs, hc, htended⟩ := tended_of_done hm.sound hyaml hdone
  refine ⟨before, x, c, hxs, hc, fun ι _ later events hhost halone => ?_⟩
  intro s
  have hstart : (atOnce later space name x.after).Soon (Stores space name c)
      (· = .getConfigMap space name) (· = .ok ⟨1, false⟩) fun _ => 3 := by
    refine ⟨hc, fun i => ?_, fun y hy => absurd hy List.not_mem_nil⟩
    rw [← hhost i] at htended
    exact (later i).within_task htended
  have hsoon : s.Soon (Stores space name c) (· = .getConfigMap space name) (· = .ok ⟨1, false⟩)
      fun i => 3 - Session.turns i events := by
    refine hstart.run ?_ ?_
    · rintro m q hm rfl
      exact hm.read
    · intro earlier d rest hevents hstores
      exact hstores.perform (halone earlier d rest hevents)
  refine ⟨hsoon.memory, fun y hy => ?_, fun i o ho => ?_, fun i hi => ?_⟩
  · rw [Exchange.isUpdate, (hsoon.log y hy).1]
  · have hi := hsoon.tasks i
    rw [ho] at hi
    exact hi.of_done
  · have hturns := hsoon.tasks i
    rw [Nat.sub_eq_zero_of_le hi] at hturns
    obtain ⟨o, ho, rfl⟩ := hturns.of_zero
    exact ho

/-- Another program has written the list, in a style of its own. -/
def foreignCluster : Memory :=
  ((Memory.new "c").storeConfigMap
    ⟨"ns", "cm", none, (∅ : Dict String).insert listKey "[{url: n}]"⟩).2

/-- A first call finds its host in a list that would be written otherwise. Then two calls with other
users and secrets for that host do not write it, though refusals are pending. -/
theorem foreign_list_stays :
    let later (b : Bool) : Call :=
      ⟨0, { guest with username := if b then "a" else "b", provider := .gitlab }, "t"⟩
    let events := [.deed (.refuse 2), .turn true, .turn false, .turn true, .turn true,
      .turn false, .turn false]
    ∃ (x : Exchange) (c : ConfigMap), x.after.configMap? "ns" "cm" = some c ∧
      let s := (atOnce later "ns" "cm" x.after).run events
      s.memory.configMap? "ns" "cm" = some c ∧
        (∀ y ∈ s.log, y.2.isUpdate = false) ∧ ∀ i, s.tasks i = .done (.ok ⟨1, false⟩) := by
  intro later events
  let first : Call := ⟨2, guest, "s"⟩
  have hunwritten : ∀ x ∈ exchanges ((atOnce (fun _ => first) "ns" "cm" foreignCluster).run
      [.turn (), .turn (), .turn ()]), x.isAccepted = false := by decide +kernel
  have hok : (match ((atOnce (fun _ => first) "ns" "cm" foreignCluster).run
      [.turn (), .turn (), .turn ()]).tasks () with
      | .done (.ok _) => true
      | _ => false) = true := by decide +kernel
  split at hok
  case h_1 o hdone =>
    obtain ⟨before, x, c, -, hc, hlater⟩ := reconciled_host_stays ⟨"c", [.store _], rfl⟩ first
      "ns" "cm" _ o hdone fun x hx haccepted => by
        rw [hunwritten x hx] at haccepted
        cases haccepted
    have halone : LeftAlone "ns" "cm" (atOnce later "ns" "cm" x.after) events := by
      intro earlier d rest hevents w hw
      have hmem : .deed d ∈ events := hevents ▸ List.mem_append_right _ (List.mem_cons_self ..)
      obtain rfl : d = .refuse 2 := by simpa [events] using hmem
      cases hw
    obtain ⟨hstored, hreads, -, hturns⟩ := hlater Bool later events (fun _ => rfl) halone
    exact ⟨x, c, hc, hstored, hreads, fun i => hturns i (by cases i <;> decide)⟩
  case h_2 => cases hok

end CredRegistry.RepoList
