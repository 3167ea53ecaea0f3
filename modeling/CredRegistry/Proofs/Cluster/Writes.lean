import CredRegistry.Proofs.Cluster.Versions

/-!
# The writes of a cluster in memory

Whoever writes a config map takes the next number of the cluster: a map that is stored, another
writer that is let in, an update that is accepted. `writes` lists the writes of one deed and
`history` those of a run. `Wrote` says what such a list means: its numbers are new and ascend,
and each map is the one it was and not in the list, or carries the number of the last write of
it. It holds of every deed (`wrote_perform`), and so of every run (`wrote_history`).

A version is therefore a token. The map under a name is still the one that was read exactly if
nobody has written it since (`Wrote.same_iff`), and exactly then its version is still accepted.
-/

namespace CredRegistry.Memory

/-! ## Histories -/

/-- A write of a config map: the key of the map, and the number that becomes its version. -/
structure Write where
  key : ObjectKey
  number : Nat
deriving Repr, DecidableEq

/-- What the other writer writes when it is let in: nothing if it does not find the map. -/
def intrusions (m : Memory) (space name : String) : List Write :=
  match m.interloper, m.configMap? space name with
  | some _, some _ => [⟨(space, name), m.lastVersion + 1⟩]
  | _, _ => []

/-- What is written when a map is to be replaced: nothing if that is refused. -/
def replacements (m : Memory) (c : ConfigMap) : List Write :=
  match (m.replaceConfigMap c).1 with
  | .ok _ => [⟨(c.space, c.name), m.lastVersion + 1⟩]
  | .error _ => []

/-- The writes that a deed comes to, in order. -/
def writes (m : Memory) : Deed → List Write
  | .store c => [⟨(c.space, c.name), m.lastVersion + 1⟩]
  | .call (.updateConfigMap c) =>
      if 0 < m.conflicts then []
      else m.countUpdate.intrusions c.space c.name
        ++ (m.countUpdate.letIn c.space c.name).replacements c
  | _ => []

def after (m : Memory) (deeds : List Deed) : Memory := deeds.foldl perform m

/-- The writes of a run, in order. -/
def history (m : Memory) : List Deed → List Write
  | [] => []
  | d :: deeds => m.writes d ++ (m.perform d).history deeds

/-- From `m` to `m'` the config maps were written like this and in no other way. -/
structure Wrote (m : Memory) (ws : List Write) (m' : Memory) : Prop where
  later : m.lastVersion ≤ m'.lastVersion
  ascending : ws.Pairwise fun w w' => w.number < w'.number
  fresh : ∀ w ∈ ws, m.lastVersion < w.number ∧ w.number ≤ m'.lastVersion
  maps : ∀ k, (m'.configMaps.find? k = m.configMaps.find? k ∧ ∀ w ∈ ws, w.key ≠ k) ∨
    ∃ c n, m'.configMaps.find? k = some c ∧ c.version = some (versionText n) ∧
      ⟨k, n⟩ ∈ ws ∧ ∀ w ∈ ws, w.key = k → w.number ≤ n

namespace Wrote

theorem of_configMaps {m m' : Memory} (hmaps : m'.configMaps = m.configMaps)
    (hlater : m.lastVersion ≤ m'.lastVersion) : Wrote m [] m' where
  later := hlater
  ascending := .nil
  fresh := fun _ hw => absurd hw List.not_mem_nil
  maps k := .inl ⟨by rw [hmaps], fun _ hw => absurd hw List.not_mem_nil⟩

theorem of_put {m m' : Memory} {k : ObjectKey} {c : ConfigMap}
    (hmaps : m'.configMaps = m.configMaps.put k c)
    (hversion : c.version = some (versionText (m.lastVersion + 1)))
    (hlast : m'.lastVersion = m.lastVersion + 1) :
    Wrote m [⟨k, m.lastVersion + 1⟩] m' where
  later := by omega
  ascending := List.pairwise_singleton _ _
  fresh w hw := by
    rw [List.mem_singleton.mp hw]
    exact ⟨Nat.lt_succ_self _, Nat.le_of_eq hlast.symm⟩
  maps k' := by
    rw [hmaps, Objects.find?_put]
    by_cases hk : k' = k
    · refine .inr ⟨c, m.lastVersion + 1, if_pos hk, hversion, by simp [hk], fun w hw _ => ?_⟩
      exact Nat.le_of_eq (congrArg Write.number (List.mem_singleton.mp hw))
    · refine .inl ⟨if_neg hk, fun w hw hkey => hk ?_⟩
      rw [List.mem_singleton.mp hw] at hkey
      exact hkey.symm

/-- Writes after writes: the later ones have the greater numbers. -/
theorem trans {m₁ m₂ m₃ : Memory} {ws₁ ws₂ : List Write} (h₁ : Wrote m₁ ws₁ m₂)
    (h₂ : Wrote m₂ ws₂ m₃) : Wrote m₁ (ws₁ ++ ws₂) m₃ where
  later := Nat.le_trans h₁.later h₂.later
  ascending := by
    refine List.pairwise_append.mpr ⟨h₁.ascending, h₂.ascending, fun w hw w' hw' => ?_⟩
    exact Nat.lt_of_le_of_lt (h₁.fresh w hw).2 (h₂.fresh w' hw').1
  fresh w hw := by
    have hlater₁ := h₁.later
    have hlater₂ := h₂.later
    rcases List.mem_append.mp hw with hw | hw
    · have := h₁.fresh w hw
      omega
    · have := h₂.fresh w hw
      omega
  maps k := by
    rcases h₂.maps k with ⟨hsame₂, hnone₂⟩ | ⟨c, n, hc, hversion, hmem, hlast⟩
    · rw [hsame₂]
      rcases h₁.maps k with ⟨hsame₁, hnone₁⟩ | ⟨c, n, hc, hversion, hmem, hlast⟩
      · refine .inl ⟨hsame₁, fun w hw => ?_⟩
        exact (List.mem_append.mp hw).elim (hnone₁ w) (hnone₂ w)
      · refine .inr ⟨c, n, hc, hversion, List.mem_append_left _ hmem, fun w hw hkey => ?_⟩
        rcases List.mem_append.mp hw with hw | hw
        · exact hlast w hw hkey
        · exact absurd hkey (hnone₂ w hw)
    · refine .inr ⟨c, n, hc, hversion, List.mem_append_right _ hmem, fun w hw hkey => ?_⟩
      rcases List.mem_append.mp hw with hw | hw
      · exact Nat.le_of_lt
          (Nat.lt_of_le_of_lt (h₁.fresh w hw).2 (h₂.fresh _ hmem).1)
      · exact hlast w hw hkey

/-- A map is the one it was exactly if it was not written: another version would be new. -/
theorem same_iff {m m' : Memory} {ws : List Write} (h : Wrote m ws m') (hm : m.Sound)
    (k : ObjectKey) :
    m'.configMaps.find? k = m.configMaps.find? k ↔ ∀ w ∈ ws, w.key ≠ k := by
  constructor
  · intro hsame
    rcases h.maps k with ⟨-, hnone⟩ | ⟨c, n, hc, hversion, hmem, -⟩
    · exact hnone
    · obtain ⟨n', hn', hversion'⟩ := hm.versioned k c (hsame ▸ hc)
      have heq : n = n' := versionText_inj.mp (Option.some.inj (hversion.symm.trans hversion'))
      have hlt : m.lastVersion < n := (h.fresh _ hmem).1
      omega
  · intro hnone
    rcases h.maps k with ⟨hsame, -⟩ | ⟨c, n, -, -, hmem, -⟩
    · exact hsame
    · exact absurd rfl (hnone _ hmem)

/-- The version of a map never goes back, and is the same exactly if it was not written. -/
theorem grows {m m' : Memory} {ws : List Write} (h : Wrote m ws m') (hm : m.Sound)
    {k : ObjectKey} {c c' : ConfigMap} (hc : m.configMaps.find? k = some c)
    (hc' : m'.configMaps.find? k = some c') :
    ∃ n n', c.version = some (versionText n) ∧ c'.version = some (versionText n') ∧ n ≤ n' ∧
      (n = n' ↔ ∀ w ∈ ws, w.key ≠ k) := by
  obtain ⟨n, hn, hversion⟩ := hm.versioned k c hc
  rcases h.maps k with ⟨hsame, hnone⟩ | ⟨c'', n', hc'', hversion', hmem, -⟩
  · rw [hc, hc'] at hsame
    cases hsame
    exact ⟨n, n, hversion, hversion, Nat.le_refl _, iff_of_true rfl hnone⟩
  · rw [hc'] at hc''
    cases hc''
    have hlt : n < n' := Nat.lt_of_le_of_lt hn (h.fresh _ hmem).1
    refine ⟨n, n', hversion, hversion', Nat.le_of_lt hlt,
      iff_of_false (Nat.ne_of_lt hlt) fun hnone => ?_⟩
    exact hnone _ hmem rfl

theorem remains {m m' : Memory} {ws : List Write} (h : Wrote m ws m') {k : ObjectKey}
    {c : ConfigMap} (hc : m.configMaps.find? k = some c) :
    ∃ c', m'.configMaps.find? k = some c' := by
  rcases h.maps k with ⟨hsame, -⟩ | ⟨c', n, hc', -⟩
  · exact ⟨c, hsame.trans hc⟩
  · exact ⟨c', hc'⟩

end Wrote

/-! ## Deeds and runs -/

theorem wrote_letIn (m : Memory) (space name : String) :
    Wrote m (m.intrusions space name) (m.letIn space name) := by
  unfold letIn intrusions
  cases hi : m.interloper with
  | none => exact .of_configMaps rfl (Nat.le_refl _)
  | some i =>
      cases hc : m.configMap? space name with
      | none => exact .of_configMaps rfl (Nat.le_succ _)
      | some c => exact .of_put rfl rfl rfl

theorem wrote_replaceConfigMap (m : Memory) (c : ConfigMap) :
    Wrote m (m.replacements c) (m.replaceConfigMap c).2 := by
  unfold replacements
  rcases replaceConfigMap_cases m c with ⟨-, hr⟩ | ⟨stored, -, ⟨-, hr⟩ | ⟨-, hr⟩⟩ <;> rw [hr]
  · exact .of_configMaps rfl (Nat.le_refl _)
  · exact .of_configMaps rfl (Nat.le_refl _)
  · exact .of_put rfl rfl rfl

theorem wrote_updateConfigMap (m : Memory) (c : ConfigMap) :
    Wrote m (m.writes (.call (.updateConfigMap c))) (m.updateConfigMap c).2 := by
  simp only [writes]
  rcases updateConfigMap_cases m c with ⟨hconflicts, hm⟩ | ⟨hconflicts, hm⟩ <;> rw [hm]
  · rw [if_pos hconflicts]
    exact .of_configMaps rfl (Nat.le_refl _)
  · rw [if_neg (Nat.not_lt.mpr (Nat.le_of_eq hconflicts))]
    have hcount : Wrote m [] m.countUpdate := .of_configMaps rfl (Nat.le_refl _)
    exact hcount.trans ((wrote_letIn ..).trans (wrote_replaceConfigMap ..))

theorem wrote_perform (m : Memory) (d : Deed) : Wrote m (m.writes d) (m.perform d) := by
  cases d with
  | store c => exact .of_put rfl rfl rfl
  | call q =>
      cases q with
      | updateConfigMap c => exact wrote_updateConfigMap m c
      | connect cluster => exact .of_configMaps rfl (Nat.le_refl _)
      | getConfigMap space name =>
          exact .of_configMaps (m.getConfigMap_keeps space name).1 (by
            simp only [perform, answer, getConfigMap]
            split <;> exact Nat.le_refl _)
      | getSecret space name =>
          simp only [perform, answer, getSecret]
          split
          · exact .of_configMaps rfl (Nat.le_refl _)
          · split <;> exact .of_configMaps rfl (Nat.le_refl _)
      | createSecret space name username token =>
          simp only [perform, answer, createSecret]
          split <;> exact .of_configMaps rfl (Nat.le_refl _)
  | _ => exact .of_configMaps rfl (Nat.le_refl _)

theorem wrote_history (deeds : List Deed) :
    ∀ m : Memory, Wrote m (m.history deeds) (m.after deeds) := by
  induction deeds with
  | nil => exact fun m => .of_configMaps rfl (Nat.le_refl _)
  | cons d deeds ih => exact fun m => (wrote_perform m d).trans (ih (m.perform d))

/-! ## Reads and updates -/

theorem found_of_getConfigMap {m : Memory} {space name : String} {c : ConfigMap}
    (h : (m.getConfigMap space name).1 = .ok c) : m.configMaps.find? (space, name) = some c := by
  rcases m.getConfigMap_cases space name with ⟨-, hanswer⟩ | ⟨c', hc', hanswer⟩
  · rw [hanswer] at h
    cases h
  · rw [hanswer] at h
    cases h
    exact hc'

/-- What the other writer makes of the maps: only the one it is let in at changes. -/
theorem find?_letIn (m : Memory) (space name : String) (k : ObjectKey) :
    (m.letIn space name).configMaps.find? k = m.configMaps.find? k ∨
      k = (space, name) ∧ ∃ i c, m.interloper = some i ∧ m.configMaps.find? k = some c ∧
        (m.letIn space name).configMaps.find? k
          = some { i.write c with version := some (versionText (m.lastVersion + 1)) } := by
  unfold letIn
  cases hi : m.interloper with
  | none => exact .inl rfl
  | some i =>
      cases hc : m.configMap? space name with
      | none => exact .inl rfl
      | some c =>
          simp only [Objects.find?_put]
          by_cases hk : k = (space, name)
          · exact .inr ⟨hk, i, c, rfl, hk ▸ hc, if_pos hk⟩
          · exact .inl (if_neg hk)

theorem secrets_letIn (m : Memory) (space name : String) :
    (m.letIn space name).secrets = m.secrets := by
  unfold letIn
  split <;> rfl

theorem secrets_updateConfigMap (m : Memory) (c : ConfigMap) :
    (m.updateConfigMap c).2.secrets = m.secrets := by
  have hletIn := secrets_letIn m.countUpdate c.space c.name
  rcases updateConfigMap_cases m c with ⟨-, hm⟩ | ⟨-, hm⟩ <;> rw [hm]
  · rfl
  · rcases replaceConfigMap_cases (m.countUpdate.letIn c.space c.name) c with
      ⟨-, hr⟩ | ⟨stored, -, ⟨-, hr⟩ | ⟨-, hr⟩⟩ <;> rw [hr] <;> exact hletIn

/-- An update with a version that was given out is accepted exactly if that is the version of
the stored map, no refusal is arranged and no other writer is to be let in. -/
theorem updateConfigMap_isOk_iff {m : Memory} {c stored : ConfigMap}
    (hgiven : ∃ n ≤ m.lastVersion, c.version = some (versionText n))
    (hstored : m.configMap? c.space c.name = some stored) :
    (m.updateConfigMap c).1.isOk = true ↔
      stored.version = c.version ∧ m.conflicts = 0 ∧ m.interloper = none := by
  constructor
  · intro hok
    cases hanswer : (m.updateConfigMap c).1 with
    | error e => rw [hanswer] at hok; cases hok
    | ok c' =>
        obtain ⟨d, hd, hversion, -⟩ := updateConfigMap_accepted hgiven hanswer
        rw [hstored] at hd
        cases hd
        rcases updateConfigMap_cases m c with ⟨-, hm⟩ | ⟨hconflicts, hm⟩
        · rw [hm] at hanswer
          cases hanswer
        · refine ⟨hversion, hconflicts, Decidable.byContradiction fun hsome => ?_⟩
          rw [hm] at hanswer
          obtain ⟨d, hd, heq, -⟩ := replaceConfigMap_accepted hanswer
          obtain ⟨n, hn, hn'⟩ := hgiven
          rw [version_of_letIn (m := m.countUpdate) hsome hd, hn'] at heq
          have : m.lastVersion + 1 = n := versionText_inj.mp (Option.some.inj heq)
          omega
  · rintro ⟨hversion, hconflicts, hi⟩
    have hletIn : m.countUpdate.letIn c.space c.name = m.countUpdate := by
      simp only [letIn, countUpdate, hi]
    rcases updateConfigMap_cases m c with ⟨hpositive, -⟩ | ⟨-, hm⟩
    · omega
    · rw [hm, hletIn]
      rcases replaceConfigMap_cases m.countUpdate c with
        ⟨hnone, -⟩ | ⟨d, hd, ⟨hne, -⟩ | ⟨-, hr⟩⟩
      · cases hstored.symm.trans hnone
      · cases hstored.symm.trans hd
        exact absurd hversion hne
      · rw [hr]
        rfl

/-! ## Versions as tokens -/

/-- The versions of the config maps of a cluster, at two points of any run from its beginning.

* Each map is filed under its own name, with a version that was given out.
* No two writes of the run were given the same version, whatever they wrote. The writes between
  the two points are all that became of the maps in between, so a map is still the same exactly
  if none of them was of it, and otherwise has a greater version.
* An update with the version of a map that was read at the first point is accepted at the second
  exactly if that map has not been written in between, no refusal is arranged, and no other
  writer is to be let in.
* What is refused leaves all objects as they are, but for the map that the other writer changes. -/
theorem versions_are_tokens (cluster : String) (earlier later : List Deed) :
    let m₀ := (new cluster).after earlier
    let m := m₀.after later
    let ws := m₀.history later
    (∀ k c, m.configMaps.find? k = some c → (c.space, c.name) = k ∧
      ∃ n ≤ m.lastVersion, c.version = some (versionText n)) ∧
    (((new cluster).history earlier ++ ws).map fun w => versionText w.number).Nodup ∧
    (∀ k c c', m₀.configMaps.find? k = some c → m.configMaps.find? k = some c' →
      ∃ n n', c.version = some (versionText n) ∧ c'.version = some (versionText n') ∧ n ≤ n' ∧
        (n = n' ↔ ∀ w ∈ ws, w.key ≠ k)) ∧
    (∀ k, (m.configMaps.find? k = m₀.configMaps.find? k ∧ ∀ w ∈ ws, w.key ≠ k) ∨
      ∃ c n, m.configMaps.find? k = some c ∧ c.version = some (versionText n) ∧ ⟨k, n⟩ ∈ ws ∧
        ∀ w ∈ ws, w.key = k → w.number ≤ n) ∧
    (∀ space name c c', (m₀.getConfigMap space name).1 = .ok c → c'.space = space →
      c'.name = name → c'.version = c.version →
      ((m.updateConfigMap c').1.isOk = true ↔
        (∀ w ∈ ws, w.key ≠ (space, name)) ∧ m.conflicts = 0 ∧ m.interloper = none)) ∧
    (∀ c e, (m.updateConfigMap c).1 = .error e →
      (m.updateConfigMap c).2.secrets = m.secrets ∧
      ∀ k, (m.updateConfigMap c).2.configMaps.find? k = m.configMaps.find? k ∨
        k = (c.space, c.name) ∧ ∃ i old, m.interloper = some i ∧
          m.configMaps.find? k = some old ∧ (m.updateConfigMap c).2.configMaps.find? k
            = some { i.write old with version := some (versionText (m.lastVersion + 1)) }) := by
  intro m₀ m ws
  have hm₀ : m₀.Sound := Reachable.sound ⟨cluster, earlier, rfl⟩
  have hm : m.Sound := sound_foldl_perform later hm₀
  have hwrote : Wrote m₀ ws m := wrote_history later m₀
  refine ⟨fun k c hc => ⟨hm.filed k c hc, hm.versioned k c hc⟩, ?_,
    fun k c c' => hwrote.grows hm₀, hwrote.maps, ?_, ?_⟩
  · have hascending := ((wrote_history earlier (new cluster)).trans hwrote).ascending
    refine List.pairwise_map.mpr (hascending.imp fun hlt heq => ?_)
    exact Nat.ne_of_lt hlt (versionText_inj.mp heq)
  · rintro space name c c' hread rfl rfl hversion
    have hc : m₀.configMaps.find? (c'.space, c'.name) = some c := found_of_getConfigMap hread
    obtain ⟨stored, hstored⟩ := hwrote.remains hc
    obtain ⟨n, n', hn, hn', hle, hsame⟩ := hwrote.grows hm₀ hc hstored
    obtain ⟨k, hk, hgiven⟩ := hm₀.versioned _ c hc
    have hlater := hwrote.later
    have hcurrent : stored.version = c'.version ↔ ∀ w ∈ ws, w.key ≠ (c'.space, c'.name) := by
      rw [hversion, hn, hn', ← hsame, Option.some.injEq, versionText_inj, eq_comm]
    rw [updateConfigMap_isOk_iff ⟨k, by omega, hversion.trans hgiven⟩ hstored, hcurrent]
  · intro c e hrefused
    refine ⟨secrets_updateConfigMap m c, fun k => ?_⟩
    rcases (updateConfigMap_refused hrefused).2 with hmaps | hmaps <;> rw [hmaps]
    · exact .inl rfl
    · exact find?_letIn m c.space c.name k

end CredRegistry.Memory
