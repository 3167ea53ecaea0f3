import CredRegistry.Proofs.Cluster.Versions

/-!
# Faults that are arranged

`refuseUpdates c` and `interleave d w` arrange for the next updates of a config map to be
refused, and then for another writer to get in before them. `Arranged m r d w` is what is
left of both: `r` updates will be refused, and then `w` gets in before `d`. An update
spends a refusal, or else, when none is left, a write (`Arranged.step`). So `n` updates
leave `r - n` refusals and `d - (n - r)` writes (`Arranged.updates`).

An order for no writes is not told apart from an order for one: the writer gets in before
it is asked how many writes are left (`Arranged.start`).
-/

namespace CredRegistry

namespace Interloper

/-- What is left of another writer once it was let in. -/
def rest (i : Interloper) : Option Interloper :=
  if 1 < i.remaining then some { i with remaining := i.remaining - 1 } else none

/-- Before how many updates another writer gets in: before one at least. -/
def writesDue : Option Interloper → Nat
  | none => 0
  | some i => max i.remaining 1

theorem writesDue_rest (i : Interloper) : writesDue i.rest = writesDue (some i) - 1 := by
  unfold rest
  split
  · show max (i.remaining - 1) 1 = max i.remaining 1 - 1
    omega
  · show 0 = max i.remaining 1 - 1
    omega

theorem write_of_mem_rest {i j : Interloper} (h : j ∈ i.rest) : j.write = i.write := by
  unfold rest at h
  split at h
  · cases h
    rfl
  · cases h

end Interloper

namespace Memory

/-- The cluster after updates, whatever was answered to them. -/
def updates (m : Memory) (us : List ConfigMap) : Memory :=
  us.foldl (fun m u => (m.updateConfigMap u).2) m

/-- The cluster once `c` is stored under the key `k`, with the next version. -/
def fileAs (m : Memory) (k : ObjectKey) (c : ConfigMap) : Memory :=
  { m with
    lastVersion := m.lastVersion + 1
    configMaps := m.configMaps.put k { c with version := some (versionText (m.lastVersion + 1)) } }

theorem configMap?_fileAs (m : Memory) (space name : String) (c : ConfigMap) :
    (m.fileAs (space, name) c).configMap? space name
      = some { c with version := some (versionText (m.lastVersion + 1)) } := by
  show (m.configMaps.put _ _).find? _ = _
  rw [Objects.find?_put, if_pos rfl]

/-! ## What an update comes to -/

/-- The update `u` is refused, and no map, no version and no writer is touched. -/
structure RefusedUntouched (m : Memory) (u : ConfigMap) : Prop where
  result : (m.updateConfigMap u).1 = .error (.conflict .configMap u.space u.name)
  configMaps : (m.updateConfigMap u).2.configMaps = m.configMaps
  lastVersion : (m.updateConfigMap u).2.lastVersion = m.lastVersion
  interloper : (m.updateConfigMap u).2.interloper = m.interloper

/-- The update `u` is decided as if it met the cluster `seen`: it is stored with the next
version if its version is that of the map there, and refused with nothing stored if not. -/
def DecidedOn (m seen : Memory) (u : ConfigMap) : Prop :=
  ∃ found, seen.configMap? u.space u.name = some found ∧
    (found.version = u.version →
      (m.updateConfigMap u).1
          = .ok { u with version := some (versionText (seen.lastVersion + 1)) } ∧
        (m.updateConfigMap u).2.configMaps = (seen.fileAs (u.space, u.name) u).configMaps ∧
        (m.updateConfigMap u).2.lastVersion = seen.lastVersion + 1) ∧
    (found.version ≠ u.version →
      (m.updateConfigMap u).1 = .error (.conflict .configMap u.space u.name) ∧
        (m.updateConfigMap u).2.configMaps = seen.configMaps ∧
        (m.updateConfigMap u).2.lastVersion = seen.lastVersion)

/-- An update removes no map. -/
theorem DecidedOn.stored {m seen : Memory} {u : ConfigMap} (h : m.DecidedOn seen u) :
    ∃ c, (m.updateConfigMap u).2.configMap? u.space u.name = some c := by
  obtain ⟨found, hfound, haccepted, hstale⟩ := h
  by_cases hversion : found.version = u.version
  · obtain ⟨-, hmaps, -⟩ := haccepted hversion
    have hstored := configMap?_fileAs seen u.space u.name u
    rw [configMap?, ← hmaps] at hstored
    exact ⟨_, hstored⟩
  · obtain ⟨-, hmaps, -⟩ := hstale hversion
    rw [configMap?, ← hmaps] at hfound
    exact ⟨_, hfound⟩

/-- Nothing but its version decides on an update of a map that is there. -/
theorem decidedOn_of_replace {m m' seen : Memory} {u found : ConfigMap}
    (hm : m.updateConfigMap u = m'.replaceConfigMap u)
    (hmaps : m'.configMaps = seen.configMaps) (hlast : m'.lastVersion = seen.lastVersion)
    (hfound : seen.configMap? u.space u.name = some found) : m.DecidedOn seen u := by
  have hfound' : m'.configMap? u.space u.name = some found := by
    rw [configMap?, hmaps]
    exact hfound
  rcases replaceConfigMap_cases m' u with ⟨hnone, -⟩ | ⟨stored, hstored, hdecision⟩
  · rw [hfound'] at hnone
    cases hnone
  · cases hfound'.symm.trans hstored
    rcases hdecision with ⟨hstale, hr⟩ | ⟨hcurrent, hr⟩
    · refine ⟨found, hfound, fun hcurrent => absurd hcurrent hstale, fun _ => ?_⟩
      rw [hm, hr]
      exact ⟨rfl, hmaps, hlast⟩
    · refine ⟨found, hfound, fun _ => ?_, fun hstale => absurd hcurrent hstale⟩
      rw [hm, hr, ← hlast]
      refine ⟨rfl, ?_, rfl⟩
      simp only [storeConfigMap, fileAs, hmaps, hlast]

/-! ## What is left of the faults -/

open Interloper (writesDue writesDue_rest write_of_mem_rest)

/-- `refusals` updates will be refused, and `write` gets in before `writes` later ones. -/
structure Arranged (m : Memory) (refusals writes : Nat) (write : ConfigMap → ConfigMap) :
    Prop where
  conflicts : m.conflicts = refusals
  due : writesDue m.interloper = writes
  write : ∀ i ∈ m.interloper, i.write = write

/-- What an update meets that is not refused as arranged: the map as it is, or, if a write
is due, with the change and a version of the other writer. -/
def met (m : Memory) (writes : Nat) (write : ConfigMap → ConfigMap) (k : ObjectKey)
    (current : ConfigMap) : Memory :=
  if 0 < writes then m.fileAs k (write current) else m

theorem configMap?_met {m : Memory} {space name : String} {current : ConfigMap}
    (d : Nat) (w : ConfigMap → ConfigMap)
    (hcurrent : m.configMap? space name = some current) :
    ∃ found, (m.met d w (space, name) current).configMap? space name = some found := by
  unfold met
  split
  · exact ⟨_, configMap?_fileAs m space name (w current)⟩
  · exact ⟨current, hcurrent⟩

namespace Arranged

variable {m : Memory} {r d : Nat} {w : ConfigMap → ConfigMap} {space name : String}
  {current u : ConfigMap}

/-- An order for no writes is an order for one. -/
theorem start (m : Memory) (c d : Nat) (w : ConfigMap → ConfigMap) :
    ((m.refuseUpdates c).interleave d w).Arranged c (max d 1) w where
  conflicts := rfl
  due := rfl
  write := by
    rintro i ⟨rfl⟩
    rfl

/-- The other writer gets in if a write is due, and then one write less is due. -/
theorem letIn (h : m.Arranged r d w) (hcurrent : m.configMap? space name = some current) :
    (m.letIn space name).Arranged r (d - 1) w ∧
      (m.letIn space name).configMaps = (m.met d w (space, name) current).configMaps ∧
      (m.letIn space name).lastVersion = (m.met d w (space, name) current).lastVersion := by
  have hdue := h.due
  cases hi : m.interloper with
  | none =>
      rw [hi] at hdue
      have hletIn : m.letIn space name = m := by simp only [Memory.letIn, hi]
      have hd : d = 0 := hdue.symm
      subst hd
      rw [hletIn]
      exact ⟨h, rfl, rfl⟩
  | some i =>
      rw [hi] at hdue
      have hpositive : 0 < d := hdue ▸ Nat.lt_of_lt_of_le Nat.one_pos (Nat.le_max_right ..)
      have hw : i.write = w := h.write i hi
      have hletIn : m.letIn space name
          = { m.fileAs (space, name) (w current) with interloper := i.rest } := by
        simp only [Memory.letIn, hi, hcurrent, hw, fileAs, Interloper.rest]
      rw [hletIn, met, if_pos hpositive]
      exact ⟨⟨h.conflicts, by rw [writesDue_rest, hdue],
        fun j hj => (write_of_mem_rest hj).trans hw⟩, rfl, rfl⟩

/-- As long as updates are to be refused, nothing else is done about one. -/
theorem refused (h : m.Arranged r d w) (hr : 0 < r) (u : ConfigMap) :
    m.RefusedUntouched u ∧ (m.updateConfigMap u).2.Arranged (r - 1) d w := by
  rcases updateConfigMap_cases m u with ⟨-, hm⟩ | ⟨hzero, -⟩
  · rw [← h.conflicts]
    have hafter : (m.updateConfigMap u).2.Arranged (m.conflicts - 1) d w := by
      rw [hm]
      exact ⟨rfl, h.due, h.write⟩
    refine ⟨⟨?_, ?_, ?_, ?_⟩, hafter⟩ <;> rw [hm] <;> rfl
  · have := h.conflicts
    omega

/-- After that an update is decided on what the other writer left, as long as it gets in. -/
theorem decided (h : m.Arranged 0 d w)
    (hcurrent : m.configMap? u.space u.name = some current) :
    m.DecidedOn (m.met d w (u.space, u.name) current) u ∧
      (m.updateConfigMap u).2.Arranged 0 (d - 1) w := by
  rcases updateConfigMap_cases m u with ⟨hpositive, -⟩ | ⟨-, hm⟩
  · exact absurd h.conflicts (Nat.ne_of_gt hpositive)
  · have hcounted : m.countUpdate.Arranged 0 d w := ⟨h.conflicts, h.due, h.write⟩
    have hcurrent' : m.countUpdate.configMap? u.space u.name = some current := hcurrent
    obtain ⟨hleft, hmaps, hlast⟩ := hcounted.letIn hcurrent'
    have hmet : (m.countUpdate.met d w (u.space, u.name) current).configMaps
          = (m.met d w (u.space, u.name) current).configMaps ∧
        (m.countUpdate.met d w (u.space, u.name) current).lastVersion
          = (m.met d w (u.space, u.name) current).lastVersion := by
      unfold met
      split <;> exact ⟨rfl, rfl⟩
    obtain ⟨found, hfound⟩ := configMap?_met d w hcurrent
    refine ⟨decidedOn_of_replace hm (hmaps.trans hmet.1) (hlast.trans hmet.2) hfound, ?_⟩
    rw [hm]
    rcases replaceConfigMap_cases (m.countUpdate.letIn u.space u.name) u with
      ⟨-, hr⟩ | ⟨stored, -, ⟨-, hr⟩ | ⟨-, hr⟩⟩ <;> rw [hr]
    · exact hleft
    · exact hleft
    · exact ⟨hleft.conflicts, hleft.due, hleft.write⟩

/-- An update spends a refusal, or else a write, and leaves a map in place. -/
theorem step (h : m.Arranged r d w) (hcurrent : m.configMap? space name = some current)
    (hu : (u.space, u.name) = (space, name)) :
    (m.updateConfigMap u).2.Arranged (r - 1) (d - (1 - r)) w ∧
      ∃ c, (m.updateConfigMap u).2.configMap? space name = some c := by
  cases hu
  rcases Nat.eq_zero_or_pos r with rfl | hpositive
  · obtain ⟨hdecided, hafter⟩ := h.decided hcurrent
    exact ⟨hafter, hdecided.stored⟩
  · obtain ⟨huntouched, hafter⟩ := h.refused hpositive u
    have hnone : 1 - r = 0 := by omega
    rw [hnone, configMap?, huntouched.configMaps]
    exact ⟨hafter, current, hcurrent⟩

/-- A run of updates spends the refusals first and then the writes. -/
theorem updates (us : List ConfigMap) (hus : ∀ u ∈ us, (u.space, u.name) = (space, name)) :
    ∀ {m : Memory} {r d : Nat} {current : ConfigMap}, m.Arranged r d w →
      m.configMap? space name = some current →
      (m.updates us).Arranged (r - us.length) (d - (us.length - r)) w ∧
        ∃ c, (m.updates us).configMap? space name = some c := by
  induction us with
  | nil =>
      intro m r d current h hcurrent
      rw [List.length_nil, Nat.zero_sub]
      exact ⟨h, current, hcurrent⟩
  | cons u us ih =>
      intro m r d current h hcurrent
      obtain ⟨hu, hus⟩ := List.forall_mem_cons.mp hus
      obtain ⟨hafter, c, hc⟩ := h.step hcurrent hu
      obtain ⟨hleft, hstored⟩ := ih hus hafter hc
      have hrefusals : r - (u :: us).length = r - 1 - us.length := by
        rw [List.length_cons]
        omega
      have hwrites : d - ((u :: us).length - r) = d - (1 - r) - (us.length - (r - 1)) := by
        rw [List.length_cons]
        omega
      rw [hrefusals, hwrites]
      exact ⟨hleft, hstored⟩

end Arranged

/-! ## Runs of updates -/

/-- After `refuseUpdates c` and `interleave d w`, the updates of a map that is there go as
follows. The first `c` are refused and touch nothing. The other writer gets in before the
next `max d 1`, with one version each, and before none after them, and these updates are
decided by their versions. -/
theorem updates_after_faults {m : Memory} {space name : String} {stored : ConfigMap}
    (hstored : m.configMap? space name = some stored) (c d : Nat)
    (w : ConfigMap → ConfigMap) (us : List ConfigMap)
    (hus : ∀ u ∈ us, (u.space, u.name) = (space, name)) (k : Nat) (hk : k < us.length)
    {before : Memory}
    (hbefore : before = ((m.refuseUpdates c).interleave d w).updates (us.take k)) :
    ∃ current, before.configMap? space name = some current ∧
      before.Arranged (c - k) (max d 1 - (k - c)) w ∧
      (k < c → before.RefusedUntouched us[k]) ∧
      (c ≤ k → k < c + max d 1 →
        before.DecidedOn (before.fileAs (space, name) (w current)) us[k]) ∧
      (c + max d 1 ≤ k → before.DecidedOn before us[k]) := by
  have hstart : ((m.refuseUpdates c).interleave d w).configMap? space name = some stored :=
    hstored
  have hkey : (us[k].space, us[k].name) = (space, name) := hus _ (List.getElem_mem hk)
  obtain ⟨hleft, current, hcurrent⟩ := Arranged.updates (us.take k)
    (fun u hu => hus u (List.mem_of_mem_take hu)) (Arranged.start m c d w) hstart
  have hlength : (us.take k).length = k := List.length_take_of_le (Nat.le_of_lt hk)
  rw [hlength] at hleft
  rw [← hbefore] at hleft hcurrent
  have hdecided : c ≤ k →
      before.DecidedOn (before.met (max d 1 - (k - c)) w (space, name) current) us[k] := by
    intro hserved
    have hspent : c - k = 0 := by omega
    rw [hspent] at hleft
    cases hkey
    exact (hleft.decided hcurrent).1
  refine ⟨current, hcurrent, hleft, ?_, ?_, ?_⟩
  · intro hrefused
    exact (hleft.refused (by omega) _).1
  · intro hserved hwrite
    have hmet := hdecided hserved
    rw [met, if_pos (by omega)] at hmet
    exact hmet
  · intro hnone
    have hmet := hdecided (by omega)
    rw [met, if_neg (by omega)] at hmet
    exact hmet

/-- A map, and another writer that adds a field to it. -/
def plainMap : ConfigMap := ⟨"devtroncd", "argocd-cm", some "1", ∅⟩

def addField (c : ConfigMap) : ConfigMap := { c with data := c.data.insert "k" "v" }

/-- A cluster with one map. -/
def furnished : Memory := ((new "c").storeConfigMap plainMap).2

/-- One refusal and one write: of three equal updates, the second meets the writer. -/
theorem second_update_meets_writer :
    furnished.configMap? "devtroncd" "argocd-cm" = some plainMap ∧
      ∃ before, before = ((furnished.refuseUpdates 1).interleave 1 addField).updates [plainMap] ∧
        ∃ current, before.configMap? "devtroncd" "argocd-cm" = some current ∧
          before.DecidedOn (before.fileAs ("devtroncd", "argocd-cm") (addField current))
            plainMap := by
  have hstored : furnished.configMap? "devtroncd" "argocd-cm" = some plainMap := rfl
  obtain ⟨current, hcurrent, -, -, hwrite, -⟩ :=
    updates_after_faults hstored 1 1 addField [plainMap, plainMap, plainMap]
      (by decide) 1 (by decide) rfl
  exact ⟨hstored, _, rfl, current, hcurrent, hwrite (by decide) (by decide)⟩

/-- An order for no writes lets the writer in: the update that carries the stored version
is refused, and the map has changed. -/
theorem writer_let_in_for_none :
    furnished.configMap? "devtroncd" "argocd-cm" = some plainMap ∧
      (((furnished.refuseUpdates 0).interleave 0 addField).updateConfigMap plainMap).1
        = .error (.conflict .configMap "devtroncd" "argocd-cm") ∧
      (((furnished.refuseUpdates 0).interleave 0 addField).updateConfigMap plainMap).2.configMap?
          "devtroncd" "argocd-cm"
        = some { addField plainMap with version := some "2" } :=
  ⟨rfl, rfl, rfl⟩

end Memory

end CredRegistry
