import CredRegistry.Proofs.RepoList.Again
import CredRegistry.Proofs.RepoList.Exhaustion
import CredRegistry.Proofs.RepoList.Faults
import CredRegistry.Proofs.RepoList.Sequence

/-!
# The order of calls to reconcile

Calls that are made one after the other, with nobody else about (`Calm`), for hosts that are all
different. What each of them comes to can be told from the list with which they began (`lone`): the
entries that the others add are for other hosts, and never keep the list from being written. So can
what they add to it together (`added`), up to its order, which is that of the calls.

`Calm.adds_task` is one call and `Calm.adds_inTurn` any number of them, by induction with the list
that is met as it grows.
-/

namespace CredRegistry.RepoList

open CredRegistry.Yaml (ReadsBack)

/-- Calls made one after the other. -/
def inTurn (space name : String) : List Call → ClusterTask (List Outcome)
  | [] => pure []
  | r :: rs => do
      let o ← r.task space name
      let os ← inTurn space name rs
      pure (o :: os)

section

variable (space name : String) (es : List Entry)

/-- Has the list no entry for the host of a call? -/
def lacks (r : Call) : Bool := !es.any (·.url == r.host)

/-- What a call comes to that meets this list: if the list can be written at all, the first attempt
succeeds, and it writes if the host has no entry. -/
def lone (r : Call) : Outcome :=
  if es.any Entry.nestsSingle then .error (.malformed space name (.malformed .unexpectedToken))
  else .ok ⟨1, lacks es r⟩

/-- The entries that calls add to this list. -/
def added (rs : List Call) : List Entry :=
  if es.any Entry.nestsSingle then [] else (rs.filter (lacks es)).map Call.entry

/-- Every list that the calls write, one after the other, can be read again. -/
def RereadableInTurn (rs : List Call) : Prop :=
  ∀ done, done <+: rs → added es done ≠ [] → ReadsBack (listValue (es ++ added es done))

end

/-! ## The list that is met -/

section

variable {space name : String} {es : List Entry} {r : Call} {rs : List Call}

theorem lacks_iff : lacks es r = true ↔ indexOf? r.host es = none := by
  rw [lacks, Bool.not_eq_true', List.any_eq_false, indexOf?_eq_none]
  simp

theorem encode_snoc {text : String} (hes : decode text = .ok es) (r : Call)
    (hnests : ¬ es.any Entry.nestsSingle = true) :
    ∃ text, encode (es ++ [r.entry]) = .ok text := by
  rw [r.entry_eq, encode_of_proper (proper_snoc hes r.credential), List.any_append, List.any_cons,
    List.any_nil, Entry.nestsSingle_ofCredential, Bool.or_false, Bool.or_false, if_neg hnests]
  exact ⟨_, rfl⟩

/-- The text that a call makes of a list that has been read. -/
theorem mergedText_of_decode {c : ConfigMap} (hes : decode (listText c) = .ok es) (r : Call) :
    mergedText c r.credential r.secret =
      if es.any Entry.nestsSingle then .error (.malformed .unexpectedToken)
      else if lacks es r then (encode (es ++ [r.entry])).map some else .ok none := by
  have hencode := encode_of_proper (@proper_merge es r.credential r.secret (proper_of_decode hes))
  rw [any_nestsSingle_merge] at hencode
  unfold mergedText
  simp only [hes, bind, Except.bind]
  by_cases hnests : es.any Entry.nestsSingle = true
  · rw [if_pos hnests] at hencode
    rw [hencode, if_pos hnests]
  · rw [if_neg hnests] at hencode
    rw [if_neg hnests]
    cases hindex : indexOf? r.host es with
    | none =>
        have hmerge : merge es r.credential r.secret = (es ++ [r.entry], .appended) := by
          simp only [merge, Call.host] at hindex ⊢
          rw [hindex]
          rfl
        rw [hmerge] at hencode ⊢
        rw [if_pos (lacks_iff.mpr hindex), hencode]
        rfl
    | some i =>
        have hlacks : ¬ lacks es r = true := by
          rw [lacks_iff, hindex]
          exact nofun
        have hmerge : (merge es r.credential r.secret).2 = .existing i :=
          merge_snd_eq_existing.mpr hindex
        rw [if_neg hlacks, hencode, hmerge]

theorem any_nestsSingle_added :
    (es ++ added es rs).any Entry.nestsSingle = es.any Entry.nestsSingle := by
  unfold added
  split
  · rw [List.append_nil]
  next hnests =>
    have hnone : ((rs.filter (lacks es)).map Call.entry).any Entry.nestsSingle = false := by
      rw [List.any_map, List.any_eq_false]
      intro s _
      exact Bool.eq_false_iff.mp (Entry.nestsSingle_ofCredential s.credential)
    rw [List.any_append, hnone, Bool.or_false]

/-- Entries for other hosts do not matter to a call. -/
theorem lacks_added (hhosts : ∀ s ∈ rs, s.host ≠ r.host) :
    lacks (es ++ added es rs) r = lacks es r := by
  have hnone : (added es rs).any (·.url == r.host) = false := by
    rw [List.any_eq_false]
    intro e he
    unfold added at he
    split at he
    · cases he
    · obtain ⟨s, hs, rfl⟩ := List.mem_map.mp he
      exact mt beq_iff_eq.mp (hhosts s (List.mem_filter.mp hs).1)
  rw [lacks, List.any_append, hnone, Bool.or_false, lacks]

theorem lone_added (hhosts : ∀ s ∈ rs, s.host ≠ r.host) :
    lone space name (es ++ added es rs) r = lone space name es r := by
  rw [lone, any_nestsSingle_added, lacks_added hhosts, lone]

/-- What calls add does not depend on the entries that were added for other hosts before. -/
theorem added_cons (hhosts : ∀ s ∈ rs, r.host ≠ s.host) :
    added es (r :: rs) = added es [r] ++ added (es ++ added es [r]) rs := by
  have hsame : rs.filter (lacks (es ++ added es [r])) = rs.filter (lacks es) := by
    refine List.filter_congr fun s hs => lacks_added ?_
    simpa using hhosts s hs
  have hrest : added (es ++ added es [r]) rs = added es rs := by
    rw [added, any_nestsSingle_added, hsame, added]
  rw [hrest]
  unfold added
  split
  · rfl
  · rw [← List.map_append, ← List.filter_append, List.singleton_append]

theorem added_perm {rs' : List Call} (h : rs'.Perm rs) : (added es rs').Perm (added es rs) := by
  unfold added
  split
  · exact .refl _
  · exact (h.filter _).map _

/-- Of at most one entry there is only one order. -/
theorem added_eq_of_perm {rs' : List Call} (h : rs'.Perm rs)
    (hone : rs.countP (lacks es) ≤ 1) : added es rs' = added es rs := by
  have hlength : (added es rs).length ≤ 1 := by
    unfold added
    split
    · exact Nat.zero_le _
    · rwa [List.length_map, ← List.countP_eq_length_filter]
  have hperm := @added_perm es _ _ h
  match hnew : added es rs, hlength with
  | [], _ => rw [hnew] at hperm; exact hperm.eq_nil
  | [e], _ => rw [hnew] at hperm; exact List.perm_singleton.mp hperm

/-! ## One call -/

/-- Nobody else is about: no update will be refused, no other writer will be let in, and the map
has this list. -/
structure Calm (space name : String) (m : Memory) (c : ConfigMap) (es : List Entry) : Prop where
  sound : m.Sound
  unrefused : m.conflicts = 0
  alone : m.interloper = none
  stored : m.configMap? space name = some c
  listed : decode (listText c) = .ok es

/-- A map whose list has been written with new entries at its end, if there are any. -/
structure Lengthened (c : ConfigMap) (es new : List Entry) (c' : ConfigMap) : Prop where
  others : ∀ k, k ≠ listKey → c'.data.get? k = c.data.get? k
  text : c'.data.get? listKey
    = if new = [] then c.data.get? listKey else (encode (es ++ new)).toOption

theorem Lengthened.refl (c : ConfigMap) (es : List Entry) : Lengthened c es [] c where
  others _ _ := rfl
  text := rfl

theorem Lengthened.append {c c' c'' : ConfigMap} {new new' : List Entry}
    (h : Lengthened c es new c') (h' : Lengthened c' (es ++ new) new' c'') :
    Lengthened c es (new ++ new') c'' where
  others k hk := (h'.others k hk).trans (h.others k hk)
  text := by
    rw [h'.text]
    split
    next hnone => rw [hnone, List.append_nil, h.text]
    next hsome =>
      rw [if_neg (by simp [hsome]), List.append_assoc]

/-- What some work comes to that adds entries to the list. -/
structure Adds {α : Type} (space name : String) (c : ConfigMap) (es new : List Entry)
    (v : Completed α) : Prop where
  updates : updates v.calls = new.length
  left : ∃ c', Calm space name v.cluster c' (es ++ new) ∧ Lengthened c es new c'

theorem Calm.read {m : Memory} {c : ConfigMap} (h : Calm space name m c es) :
    Calm space name (m.getConfigMap space name).2 c es where
  sound := (Memory.sound_answer h.sound (.getConfigMap space name)).1
  unrefused :=
    Memory.conflicts_perform (d := .call (.getConfigMap space name)) h.unrefused (by simp)
  alone := (m.getConfigMap_keeps space name).2.trans h.alone
  stored := (m.configMap?_getConfigMap ..).trans h.stored
  listed := h.listed

/-- An update of the map as it was read is accepted. -/
theorem Calm.write {m : Memory} {c : ConfigMap} {text : String} (h : Calm space name m c es)
    (hyaml : ReadsBack (listValue (es ++ [r.entry])))
    (hencode : encode (es ++ [r.entry]) = .ok text) :
    (∃ c', (m.updateConfigMap (revise c text)).1 = .ok c') ∧
      ∃ c', Calm space name (m.updateConfigMap (revise c text)).2 c' (es ++ [r.entry]) ∧
        Lengthened c es [r.entry] c' := by
  have hholds : m.Holds (space, name) c := h.sound.holds h.stored
  have hstored : m.configMap? (revise c text).space (revise c text).name = some c := by
    have hkey := hholds.filed
    rw [Prod.mk.injEq] at hkey
    simp only [revise, hkey]
    exact h.stored
  have hok := (Memory.updateConfigMap_isOk_iff (c := revise c text) hholds.versioned hstored).mpr
    ⟨rfl, h.unrefused, h.alone⟩
  cases hanswer : (m.updateConfigMap (revise c text)).1 with
  | error e =>
      rw [hanswer] at hok
      cases hok
  | ok c' =>
      obtain ⟨-, hafter⟩ := hholds.accepted hanswer
      refine ⟨⟨c', rfl⟩, _, ⟨(Memory.sound_updateConfigMap h.sound _).1, ?_,
        (Memory.updateConfigMap_alone _ h.alone).1, hafter, ?_⟩, fun k hk => ?_, ?_⟩
      · exact Memory.conflicts_perform (d := .call (.updateConfigMap _)) h.unrefused (by simp)
      · simp only [listText, Dict.get?_insert, if_pos, Option.getD_some]
        exact decode_of_encode (proper_snoc h.listed r.credential) hyaml hencode
      · rw [Dict.get?_insert, if_neg (Ne.symm hk)]
      · rw [Dict.get?_insert, if_pos rfl, if_neg (List.cons_ne_nil _ _), hencode]
        rfl

/-- A call that nobody disturbs reads the map once, and writes it if its host has no entry. -/
theorem Calm.adds_task {m : Memory} {c : ConfigMap} (h : Calm space name m c es) (r : Call)
    (hyaml : RereadableInTurn es [r]) :
    (m.carry (r.task space name)).result = lone space name es r ∧
      Adds space name c es (added es [r]) (m.carry (r.task space name)) := by
  have hread := h.read
  rw [show r.task space name = r.attempts space name (r.limit - 1) 1 from rfl, carry_attempts,
    Memory.getConfigMap_found h.stored]
  simp only [Call.afterRead, mergedText_of_decode h.listed]
  by_cases hnests : es.any Entry.nestsSingle = true
  · have hnew : added es [r] = [] := if_pos hnests
    rw [hnew, lone, if_pos hnests, if_pos hnests]
    exact ⟨rfl, rfl, c, (List.append_nil es).symm ▸ hread, .refl c es⟩
  rw [if_neg hnests, lone, if_neg hnests]
  cases hlacks : lacks es r with
  | false =>
      have hnew : added es [r] = [] := by
        rw [added, if_neg hnests, List.filter_cons_of_neg (Bool.eq_false_iff.mp hlacks)]
        rfl
      rw [hnew]
      exact ⟨rfl, rfl, c, (List.append_nil es).symm ▸ hread, .refl c es⟩
  | true =>
      have hnew : added es [r] = [r.entry] := by
        rw [added, if_neg hnests, List.filter_cons_of_pos hlacks]
        rfl
      have hback := hyaml [r] (List.prefix_refl _)
      rw [hnew] at hback ⊢
      obtain ⟨text, hencode⟩ := encode_snoc h.listed r hnests
      obtain ⟨⟨c', hanswer⟩, hleft⟩ := hread.write (hback (List.cons_ne_nil _ _)) hencode
      have hcarry : (m.getConfigMap space name).2.carry (do
            let answer ← ClusterTask.updateConfigMap (revise c text)
            r.wrote space name answer >>= r.settle space name (r.limit - 1) 1)
          = ⟨.ok ⟨1, true⟩, ((m.getConfigMap space name).2.updateConfigMap (revise c text)).2,
            [⟨.updateConfigMap (revise c text), (m.getConfigMap space name).2⟩]⟩ := by
        simp only [Memory.carry_bind, Memory.carry_updateConfigMap, hanswer, Call.wrote,
          Call.settle, Memory.carry_note, Memory.carry_pure, List.append_nil]
      rw [hencode, if_pos rfl]
      simp only [Except.map]
      rw [hcarry]
      exact ⟨rfl, rfl, hleft⟩

/-! ## One call after the other -/

/-- The first call adds its entry, and the others meet a list that differs from the one before in
entries for other hosts. -/
theorem Calm.adds_inTurn (hhosts : (rs.map Call.host).Nodup)
    (hyaml : RereadableInTurn es rs) :
    ∀ {m : Memory} {c : ConfigMap}, Calm space name m c es →
      (m.carry (inTurn space name rs)).result = rs.map (lone space name es) ∧
        Adds space name c es (added es rs) (m.carry (inTurn space name rs)) := by
  induction rs generalizing es with
  | nil =>
      intro m c h
      have hnew : added es [] = [] := ite_self _
      rw [hnew]
      exact ⟨rfl, rfl, c, (List.append_nil es).symm ▸ h, .refl c es⟩
  | cons r rs ih =>
      intro m c h
      rw [List.map_cons, List.nodup_cons] at hhosts
      have hhost : ∀ s ∈ rs, r.host ≠ s.host := fun s hs heq =>
        hhosts.1 (heq ▸ List.mem_map_of_mem hs)
      have hfirst : RereadableInTurn es [r] := fun done hdone =>
        hyaml done (hdone.trans ⟨rs, rfl⟩)
      obtain ⟨hresult, hupdates, c', hcalm, hlonger⟩ := h.adds_task r hfirst
      have hrest : RereadableInTurn (es ++ added es [r]) rs := by
        intro done hdone hnew
        have hcons : added es (r :: done) = added es [r] ++ added (es ++ added es [r]) done :=
          added_cons fun s hs => hhost s (hdone.subset hs)
        rw [List.append_assoc, ← hcons]
        refine hyaml (r :: done) ((List.prefix_cons_inj r).mpr hdone) ?_
        rw [hcons]
        exact List.append_ne_nil_of_right_ne_nil _ hnew
      obtain ⟨hresults, hupdates', c'', hcalm', hlonger'⟩ := ih hhosts.2 hrest hcalm
      have hlone : rs.map (lone space name (es ++ added es [r])) = rs.map (lone space name es) :=
        List.map_congr_left fun s hs => lone_added (by simpa using hhost s hs)
      simp only [inTurn, Memory.carry_bind, Memory.carry_pure, List.append_nil]
      refine ⟨by rw [hresult, hresults, hlone, List.map_cons], ?_, c'', ?_, ?_⟩
      · rw [added_cons hhost, List.length_append, ← hupdates, ← hupdates']
        exact List.countP_append
      · rw [added_cons hhost, ← List.append_assoc]
        exact hcalm'
      · rw [added_cons hhost]
        exact hlonger.append hlonger'

/-- Calls for different hosts on one map, with nobody else about, made one after the other in two
orders. Each call comes to the same in both, and as many updates are made. The list begins with the
entries that it had, in their places, and goes on with the same new ones, in the order of the
calls. If at most one host had no entry, both orders leave the same text. -/
theorem same_in_any_order {m : Memory} (hm : m.Reachable) (hconflicts : m.conflicts = 0)
    (halone : m.interloper = none) {c : ConfigMap} (hc : m.configMap? space name = some c)
    (hes : decode (listText c) = .ok es) {calls calls' : List Call}
    (hhosts : (calls.map Call.host).Nodup) (horder : calls'.Perm calls)
    (hyaml : RereadableInTurn es calls) (hyaml' : RereadableInTurn es calls') :
    let v := m.carry (inTurn space name calls)
    let v' := m.carry (inTurn space name calls')
    v.result = calls.map (lone space name es) ∧ v'.result = calls'.map (lone space name es) ∧
      updates v.calls = updates v'.calls ∧
      ∃ d d', v.cluster.configMap? space name = some d ∧
        v'.cluster.configMap? space name = some d' ∧
        decode (listText d) = .ok (es ++ added es calls) ∧
        decode (listText d') = .ok (es ++ added es calls') ∧
        (added es calls').Perm (added es calls) ∧
        (∀ k, k ≠ listKey → d'.data.get? k = d.data.get? k) ∧
        (calls.countP (lacks es) ≤ 1 → d'.data.get? listKey = d.data.get? listKey) := by
  intro v v'
  have hcalm : Calm space name m c es := ⟨hm.sound, hconflicts, halone, hc, hes⟩
  have hhosts' : (calls'.map Call.host).Nodup := (horder.map _).nodup_iff.mpr hhosts
  obtain ⟨hresult, hupdates, d, hd, hlonger⟩ := hcalm.adds_inTurn hhosts hyaml
  obtain ⟨hresult', hupdates', d', hd', hlonger'⟩ := hcalm.adds_inTurn hhosts' hyaml'
  have hperm : (added es calls').Perm (added es calls) := added_perm horder
  refine ⟨hresult, hresult', ?_, d, d', hd.stored, hd'.stored, hd.listed, hd'.listed, hperm,
    fun k hk => ?_, fun hone => ?_⟩
  · rw [hupdates, hupdates', hperm.length_eq]
  · rw [hlonger'.others k hk, hlonger.others k hk]
  · rw [hlonger'.text, hlonger.text, added_eq_of_perm horder hone]

end

/-- A config map whose list has an entry for one host. -/
def oneHost : ConfigMap := ⟨"ns", "cm", none, (∅ : Dict String).insert listKey "[{url: h}]"⟩

/-- A call for a new host, and one for the host that has an entry. -/
def visitors : List Call := [⟨1, guest, "s"⟩, ⟨0, { guest with host := "h" }, "t"⟩]

/-- In either order, the call for the new host writes and the other does not, and the text is the
same in the end. -/
theorem visitors_in_any_order :
    let m : Memory := ((Memory.new "c").storeConfigMap oneHost).2
    let v := m.carry (inTurn "ns" "cm" visitors)
    let v' := m.carry (inTurn "ns" "cm" visitors.reverse)
    v.result = [.ok ⟨1, true⟩, .ok ⟨1, false⟩] ∧ v'.result = [.ok ⟨1, false⟩, .ok ⟨1, true⟩] ∧
      updates v.calls = updates v'.calls ∧
      ∃ d d', v.cluster.configMap? "ns" "cm" = some d ∧
        v'.cluster.configMap? "ns" "cm" = some d' ∧
        decode (listText d) = .ok [⟨"h", none, none, ∅⟩, .ofCredential guest] ∧
        d'.data.get? listKey = d.data.get? listKey := by
  intro m v v'
  let old : Entry := ⟨"h", none, none, ∅⟩
  have hstored : m.configMap? "ns" "cm"
      = some { oneHost with version := some (Memory.versionText 1) } := by decide
  have hes : decode (listText { oneHost with version := some (Memory.versionText 1) })
      = .ok [old] := by decide +kernel
  have hlists : ∀ done ∈ visitors.inits ++ visitors.reverse.inits, added [old] done ≠ [] →
      [old] ++ added [old] done = [old, .ofCredential guest] := by decide
  have hback : ReadsBack (listValue [old, .ofCredential guest]) := by decide +kernel
  have hyaml {rs : List Call} (hrs : ∀ done, done <+: rs →
      done ∈ visitors.inits ++ visitors.reverse.inits) : RereadableInTurn [old] rs :=
    fun done hdone hnew => hlists done (hrs done hdone) hnew ▸ hback
  have hreachable : m.Reachable := ⟨"c", [.store oneHost], rfl⟩
  obtain ⟨hresult, hresult', hupdates, d, d', hd, hd', hlist, -, -, -, htext⟩ :=
    same_in_any_order hreachable rfl rfl hstored hes (by decide) visitors.reverse_perm
      (hyaml fun done hdone => List.mem_append_left _ ((List.mem_inits ..).mpr hdone))
      (hyaml fun done hdone => List.mem_append_right _ ((List.mem_inits ..).mpr hdone))
  exact ⟨hresult, hresult', hupdates, d, d', hd, hd', hlist, htext (by decide)⟩

end CredRegistry.RepoList
