import CredRegistry.Cluster.Memory

/-!
# Versions in a cluster in memory

One counter gives every write of a config map its version, so a version is never seen
twice. `Evolves` is what a client that holds on to a map it has read may count on: each
map is either the very same one, or has a version that no map had before. It is kept by
every `Deed`, by whomever, and along every run of them.

Whatever is done to a cluster from its beginning leaves it `Sound`. In a sound cluster an
update with a version that was read is accepted only if no other writer is let in with it
(`updateConfigMap_accepted`).
-/

namespace CredRegistry.Memory

/-! ## What can be done to a cluster -/

/-- One thing that is done to a cluster: a fault that is arranged, an object that is
stored, or a call. -/
inductive Deed where
  | store (c : ConfigMap)
  | storeSecret (s : Secret)
  | refuse (count : Nat)
  /-- The other writer changes the data of the map it finds and nothing else. -/
  | interleave (count : Nat) (write : Dict String → Dict String)
  | failSecretRead (e : ClusterError)
  | call (q : ClusterCall)

def perform (m : Memory) : Deed → Memory
  | .store c => (m.storeConfigMap c).2
  | .storeSecret s => m.storeSecret s
  | .refuse count => m.refuseUpdates count
  | .interleave count write => m.interleave count fun c => { c with data := write c.data }
  | .failSecretRead e => m.failSecretRead e
  | .call q => (m.answer q).2

def Reachable (m : Memory) : Prop :=
  ∃ (name : String) (deeds : List Deed), m = deeds.foldl perform (new name)

/-- Every config map is filed under its own name, its version has been given out, and the
other writer does not rename maps. -/
structure Sound (m : Memory) : Prop where
  filed : ∀ k c, m.configMaps.find? k = some c → (c.space, c.name) = k
  versioned : ∀ k c, m.configMaps.find? k = some c →
    ∃ n ≤ m.lastVersion, c.version = some (versionText n)
  interloper : ∀ i ∈ m.interloper, ∀ c,
    ((i.write c).space, (i.write c).name) = (c.space, c.name)

/-- From `m` to `m'` every config map stayed the same or got a version that was new. -/
structure Evolves (m m' : Memory) : Prop where
  later : m.lastVersion ≤ m'.lastVersion
  maps : ∀ k, m'.configMaps.find? k = m.configMaps.find? k ∨
    ∃ c n, m'.configMaps.find? k = some c ∧ c.version = some (versionText n) ∧
      m.lastVersion < n ∧ n ≤ m'.lastVersion

theorem versionText_inj {n n' : Nat} : versionText n = versionText n' ↔ n = n' := by
  constructor
  · intro h
    have hdigits : Nat.toDigits 10 n = Nat.toDigits 10 n' := String.ofList_injective h
    rw [← Nat.ofDigitChars_ten_toDigits (n := n), hdigits, Nat.ofDigitChars_ten_toDigits]
  · rintro rfl
    rfl

namespace Evolves

theorem of_configMaps {m m' : Memory} (hmaps : m'.configMaps = m.configMaps)
    (hlater : m.lastVersion ≤ m'.lastVersion) : Evolves m m' where
  later := hlater
  maps k := .inl (by rw [hmaps])

theorem refl (m : Memory) : Evolves m m := of_configMaps rfl (Nat.le_refl _)

theorem trans {m₁ m₂ m₃ : Memory} (h₁ : Evolves m₁ m₂) (h₂ : Evolves m₂ m₃) :
    Evolves m₁ m₃ where
  later := Nat.le_trans h₁.later h₂.later
  maps k := by
    have h₁later := h₁.later
    have h₂later := h₂.later
    rcases h₂.maps k with heq | ⟨c, n, hc, hversion, hlt, hle⟩
    · rw [heq]
      rcases h₁.maps k with heq | ⟨c, n, hc, hversion, hlt, hle⟩
      · exact .inl heq
      · exact .inr ⟨c, n, hc, hversion, hlt, Nat.le_trans hle h₂later⟩
    · exact .inr ⟨c, n, hc, hversion, by omega, hle⟩

theorem of_put {m m' : Memory} {k : ObjectKey} {c : ConfigMap}
    (hmaps : m'.configMaps = m.configMaps.put k c)
    (hversion : c.version = some (versionText (m.lastVersion + 1)))
    (hlast : m'.lastVersion = m.lastVersion + 1) : Evolves m m' where
  later := by omega
  maps k' := by
    rw [hmaps, Objects.find?_put]
    split
    · exact .inr ⟨c, m.lastVersion + 1, rfl, hversion, by omega, by omega⟩
    · exact .inl rfl

end Evolves

/-- What a client that has read a map may rely on: as long as the stored map has the same
version, it is the same map. -/
structure Holds (m : Memory) (k : ObjectKey) (c : ConfigMap) : Prop where
  filed : (c.space, c.name) = k
  versioned : ∃ n ≤ m.lastVersion, c.version = some (versionText n)
  current : ∀ d, m.configMaps.find? k = some d → d.version = c.version → d = c

theorem Sound.holds {m : Memory} {k : ObjectKey} {c : ConfigMap} (h : m.Sound)
    (hc : m.configMaps.find? k = some c) : m.Holds k c where
  filed := h.filed k c hc
  versioned := h.versioned k c hc
  current d hd _ := by
    rw [hc] at hd
    exact (Option.some.inj hd).symm

theorem Holds.evolves {m m' : Memory} {k : ObjectKey} {c : ConfigMap} (h : m.Holds k c)
    (hm : Evolves m m') : m'.Holds k c where
  filed := h.filed
  versioned := by
    obtain ⟨n, hn, hversion⟩ := h.versioned
    exact ⟨n, Nat.le_trans hn hm.later, hversion⟩
  current d hd heq := by
    rcases hm.maps k with hsame | ⟨d', n', hd', hnew, hlt, -⟩
    · exact h.current d (hsame ▸ hd) heq
    · -- The version of `c` had been given out before.
      rw [hd] at hd'
      cases hd'
      obtain ⟨n, hn, hversion⟩ := h.versioned
      rw [hnew, hversion] at heq
      have := versionText_inj.mp (Option.some.inj heq)
      omega

/-! ## Single deeds -/

theorem sound_of_configMaps {m m' : Memory} (h : m.Sound)
    (hmaps : m'.configMaps = m.configMaps) (hlater : m.lastVersion ≤ m'.lastVersion)
    (hinterloper : ∀ i ∈ m'.interloper, ∀ c,
      ((i.write c).space, (i.write c).name) = (c.space, c.name)) : m'.Sound where
  filed k c hc := h.filed k c (hmaps ▸ hc)
  versioned k c hc := by
    obtain ⟨n, hn, hversion⟩ := h.versioned k c (hmaps ▸ hc)
    exact ⟨n, Nat.le_trans hn hlater, hversion⟩
  interloper := hinterloper

theorem sound_of_put {m m' : Memory} {k : ObjectKey} {c : ConfigMap} (h : m.Sound)
    (hmaps : m'.configMaps = m.configMaps.put k c) (hfiled : (c.space, c.name) = k)
    (hversion : c.version = some (versionText (m.lastVersion + 1)))
    (hlast : m'.lastVersion = m.lastVersion + 1)
    (hinterloper : ∀ i ∈ m'.interloper, ∀ c,
      ((i.write c).space, (i.write c).name) = (c.space, c.name)) : m'.Sound where
  filed k' c' hc' := by
    rw [hmaps, Objects.find?_put] at hc'
    split at hc'
    next heq =>
      cases hc'
      rw [heq, hfiled]
    next => exact h.filed k' c' hc'
  versioned k' c' hc' := by
    rw [hmaps, Objects.find?_put] at hc'
    split at hc'
    · cases hc'
      exact ⟨m.lastVersion + 1, by omega, hversion⟩
    · obtain ⟨n, hn, hversion⟩ := h.versioned k' c' hc'
      exact ⟨n, by omega, hversion⟩
  interloper := hinterloper

theorem sound_storeConfigMap {m : Memory} (h : m.Sound) (c : ConfigMap) :
    (m.storeConfigMap c).2.Sound ∧ Evolves m (m.storeConfigMap c).2 :=
  ⟨sound_of_put h rfl rfl rfl rfl h.interloper, .of_put rfl rfl rfl⟩

/-- The other writer takes a version, whether or not it finds the map. -/
theorem sound_letIn {m : Memory} (h : m.Sound) (space name : String) :
    (m.letIn space name).Sound ∧ Evolves m (m.letIn space name) := by
  unfold letIn
  cases hi : m.interloper with
  | none => exact ⟨h, .refl m⟩
  | some i =>
      have hinterloper : ∀ j ∈ (if 1 < i.remaining then
          some { i with remaining := i.remaining - 1 } else none), ∀ c,
          ((j.write c).space, (j.write c).name) = (c.space, c.name) := by
        intro j hj c
        split at hj
        · cases hj
          exact h.interloper i hi c
        · cases hj
      cases hc : m.configMap? space name with
      | none =>
          exact ⟨sound_of_configMaps h rfl (Nat.le_succ _) hinterloper,
            .of_configMaps rfl (Nat.le_succ _)⟩
      | some c =>
          have hfiled := (h.interloper i hi c).trans (h.filed _ c hc)
          exact ⟨sound_of_put h rfl hfiled rfl rfl hinterloper, .of_put rfl rfl rfl⟩

/-! ## Updates -/

/-- The cluster with one more update counted. -/
def countUpdate (m : Memory) : Memory :=
  { m with counts := { m.counts with updateConfigMap := m.counts.updateConfigMap + 1 } }

theorem configMaps_letIn_countUpdate (m : Memory) (space name : String) :
    (m.countUpdate.letIn space name).configMaps = (m.letIn space name).configMaps := by
  unfold letIn
  cases hi : m.interloper with
  | none => simp only [countUpdate, hi]
  | some i =>
      simp only [countUpdate, hi]
      rfl

/-- The other writer removes no map. -/
theorem configMap?_of_letIn {m : Memory} {space name : String}
    (h : (m.letIn space name).configMaps.find? (space, name) = none) :
    m.configMap? space name = none := by
  unfold letIn at h
  cases hi : m.interloper with
  | none =>
      simp only [hi] at h
      exact h
  | some i =>
      cases hc : m.configMap? space name with
      | none => rfl
      | some c => simp [hi, hc, Objects.find?_put] at h

/-- An update is refused as arranged, or else looked at after the other writer. -/
theorem updateConfigMap_cases (m : Memory) (c : ConfigMap) :
    (0 < m.conflicts ∧ m.updateConfigMap c =
        (.error (.conflict .configMap c.space c.name),
          { m.countUpdate with conflicts := m.conflicts - 1 })) ∨
      (m.conflicts = 0 ∧
        m.updateConfigMap c = (m.countUpdate.letIn c.space c.name).replaceConfigMap c) := by
  by_cases hconflicts : 0 < m.conflicts
  · exact .inl ⟨hconflicts, if_pos hconflicts⟩
  · exact .inr ⟨by omega, if_neg hconflicts⟩

/-- A map is replaced if there is one and its version is the one that is given. -/
theorem replaceConfigMap_cases (m : Memory) (c : ConfigMap) :
    (m.configMap? c.space c.name = none ∧
        m.replaceConfigMap c = (.error (.notFound .configMap c.space c.name), m)) ∨
      ∃ stored, m.configMap? c.space c.name = some stored ∧
        ((stored.version ≠ c.version ∧
            m.replaceConfigMap c = (.error (.conflict .configMap c.space c.name), m)) ∨
          (stored.version = c.version ∧
            m.replaceConfigMap c = (.ok (m.storeConfigMap c).1, (m.storeConfigMap c).2))) := by
  unfold replaceConfigMap
  cases hstored : m.configMap? c.space c.name with
  | none => exact .inl ⟨rfl, rfl⟩
  | some stored =>
      refine .inr ⟨stored, rfl, ?_⟩
      by_cases hversion : stored.version = c.version
      · exact .inr ⟨hversion, if_neg (not_not_intro hversion)⟩
      · exact .inl ⟨hversion, if_pos hversion⟩

theorem sound_replaceConfigMap {m : Memory} (h : m.Sound) (c : ConfigMap) :
    (m.replaceConfigMap c).2.Sound ∧ Evolves m (m.replaceConfigMap c).2 := by
  rcases replaceConfigMap_cases m c with ⟨-, hm⟩ | ⟨stored, -, ⟨-, hm⟩ | ⟨-, hm⟩⟩ <;> rw [hm]
  · exact ⟨h, .refl m⟩
  · exact ⟨h, .refl m⟩
  · exact sound_storeConfigMap h c

theorem sound_updateConfigMap {m : Memory} (h : m.Sound) (c : ConfigMap) :
    (m.updateConfigMap c).2.Sound ∧ Evolves m (m.updateConfigMap c).2 := by
  have hcounted : m.countUpdate.Sound :=
    sound_of_configMaps h rfl (Nat.le_refl _) h.interloper
  rcases updateConfigMap_cases m c with ⟨-, hm⟩ | ⟨-, hm⟩ <;> rw [hm]
  · exact ⟨sound_of_configMaps h rfl (Nat.le_refl _) h.interloper,
      .of_configMaps rfl (Nat.le_refl _)⟩
  · obtain ⟨hletIn, hevolves⟩ := sound_letIn hcounted c.space c.name
    obtain ⟨hsound, hevolves'⟩ := sound_replaceConfigMap hletIn c
    have hcount : Evolves m m.countUpdate := .of_configMaps rfl (Nat.le_refl _)
    exact ⟨hsound, hcount.trans (hevolves.trans hevolves')⟩

theorem replaceConfigMap_accepted {m : Memory} {c c' : ConfigMap}
    (h : (m.replaceConfigMap c).1 = .ok c') :
    ∃ stored, m.configMap? c.space c.name = some stored ∧ stored.version = c.version ∧
      (m.replaceConfigMap c).2 = (m.storeConfigMap c).2 := by
  rcases replaceConfigMap_cases m c with ⟨-, hr⟩ | ⟨stored, hstored, ⟨-, hr⟩ | ⟨heq, hr⟩⟩
  · rw [hr] at h
    cases h
  · rw [hr] at h
    cases h
  · exact ⟨stored, hstored, heq, by rw [hr]⟩

/-- Another writer that is let in gives the map a newer version than any before. -/
theorem version_of_letIn {m : Memory} {space name : String} {c : ConfigMap}
    (hi : m.interloper ≠ none) (hc : (m.letIn space name).configMap? space name = some c) :
    c.version = some (versionText (m.lastVersion + 1)) := by
  cases hinterloper : m.interloper with
  | none => exact absurd hinterloper hi
  | some i =>
      simp only [letIn, hinterloper, configMap?] at hc
      cases hfind : m.configMaps.find? (space, name) with
      | none => simp [hfind] at hc
      | some c₁ =>
          simp only [hfind, Objects.find?_put, if_true] at hc
          rw [← Option.some.inj hc]

/-- An update with a version that was given out is accepted only if the stored map has that
version and no other writer is let in: it would have taken a newer one. -/
theorem updateConfigMap_accepted {m : Memory} {c c' : ConfigMap}
    (hgiven : ∃ n ≤ m.lastVersion, c.version = some (versionText n))
    (h : (m.updateConfigMap c).1 = .ok c') :
    ∃ stored, m.configMap? c.space c.name = some stored ∧ stored.version = c.version ∧
      (m.updateConfigMap c).2.interloper = none ∧
      (m.updateConfigMap c).2.configMaps = m.configMaps.put (c.space, c.name)
        { c with version := some (versionText (m.lastVersion + 1)) } := by
  obtain ⟨n, hn, hversion⟩ := hgiven
  rcases updateConfigMap_cases m c with ⟨-, hm⟩ | ⟨-, hm⟩
  · rw [hm] at h
    cases h
  · rw [hm] at h ⊢
    obtain ⟨stored, hstored, heq, hr⟩ := replaceConfigMap_accepted h
    have hi : m.countUpdate.interloper = none := by
      refine Decidable.byContradiction fun hsome => ?_
      rw [version_of_letIn hsome hstored, hversion] at heq
      have : m.lastVersion + 1 = n := versionText_inj.mp (Option.some.inj heq)
      omega
    have hletIn : m.countUpdate.letIn c.space c.name = m.countUpdate := by
      simp only [letIn, hi]
    rw [hletIn] at hstored hr ⊢
    rw [hr]
    exact ⟨stored, hstored, heq, hi, rfl⟩

/-- A client that changes the data of a map it has read succeeds only if that very map is
what is stored. -/
theorem Holds.accepted {m : Memory} {space name : String} {c c' : ConfigMap}
    {data : Dict String} (h : m.Holds (space, name) c)
    (hok : (m.updateConfigMap { c with data }).1 = .ok c') :
    m.configMap? space name = some c ∧
      (m.updateConfigMap { c with data }).2.configMap? space name
        = some { c with data, version := some (versionText (m.lastVersion + 1)) } := by
  have hgiven : ∃ n ≤ m.lastVersion, ({ c with data } : ConfigMap).version
      = some (versionText n) := h.versioned
  obtain ⟨d, hd, hversion, -, hmaps⟩ := updateConfigMap_accepted hgiven hok
  have hkey : (c.space, c.name) = (space, name) := h.filed
  simp only [configMap?, hkey] at hd hmaps
  refine ⟨h.current d hd hversion ▸ hd, ?_⟩
  rw [configMap?, hmaps, Objects.find?_put, if_pos rfl]

/-- An update is refused because of the version or because there is no such map, and leaves
no more behind than the other writer does. -/
theorem updateConfigMap_refused {m : Memory} {c : ConfigMap} {e : ClusterError}
    (h : (m.updateConfigMap c).1 = .error e) :
    (e = .conflict .configMap c.space c.name ∨
        e = .notFound .configMap c.space c.name ∧ m.configMap? c.space c.name = none) ∧
      ((m.updateConfigMap c).2.configMaps = m.configMaps ∨
        (m.updateConfigMap c).2.configMaps = (m.letIn c.space c.name).configMaps) := by
  rcases updateConfigMap_cases m c with ⟨-, hm⟩ | ⟨-, hm⟩
  · rw [hm] at h ⊢
    cases h
    exact ⟨.inl rfl, .inl rfl⟩
  · rcases replaceConfigMap_cases (m.countUpdate.letIn c.space c.name) c with
      ⟨hnone, hr⟩ | ⟨stored, -, ⟨-, hr⟩ | ⟨-, hr⟩⟩ <;> rw [hm, hr] at h ⊢
    · cases h
      rw [configMap?, configMaps_letIn_countUpdate] at hnone
      exact ⟨.inr ⟨rfl, configMap?_of_letIn hnone⟩,
        .inr (configMaps_letIn_countUpdate m ..)⟩
    · cases h
      exact ⟨.inl rfl, .inr (configMaps_letIn_countUpdate m ..)⟩
    · cases h

/-- Without another writer there is none afterwards, and a refused update leaves nothing
behind. -/
theorem updateConfigMap_alone {m : Memory} (c : ConfigMap) (h : m.interloper = none) :
    (m.updateConfigMap c).2.interloper = none ∧
      ∀ e, (m.updateConfigMap c).1 = .error e →
        (m.updateConfigMap c).2.configMaps = m.configMaps := by
  have hletIn : m.countUpdate.letIn c.space c.name = m.countUpdate := by
    simp only [letIn, countUpdate, h]
  rcases updateConfigMap_cases m c with ⟨-, hm⟩ | ⟨-, hm⟩
  · rw [hm]
    exact ⟨h, fun _ _ => rfl⟩
  · rw [hletIn] at hm
    rcases replaceConfigMap_cases m.countUpdate c with
      ⟨-, hr⟩ | ⟨stored, -, ⟨-, hr⟩ | ⟨-, hr⟩⟩ <;> rw [hm, hr]
    · exact ⟨h, fun _ _ => rfl⟩
    · exact ⟨h, fun _ _ => rfl⟩
    · exact ⟨h, fun _ he => by cases he⟩

/-! ## Reads -/

/-- A read finds the stored map and changes no map. -/
theorem getConfigMap_found {m : Memory} {space name : String} {c : ConfigMap}
    (h : m.configMap? space name = some c) : (m.getConfigMap space name).1 = .ok c := by
  have hfind : m.configMaps.find? (space, name) = some c := h
  simp only [getConfigMap, configMap?, hfind]

theorem getConfigMap_cases (m : Memory) (space name : String) :
    (m.configMap? space name = none ∧
        (m.getConfigMap space name).1 = .error (.notFound .configMap space name)) ∨
      ∃ c, m.configMap? space name = some c ∧ (m.getConfigMap space name).1 = .ok c := by
  cases hc : m.configMap? space name with
  | none =>
      have hfind : m.configMaps.find? (space, name) = none := hc
      exact .inl ⟨rfl, by simp only [getConfigMap, configMap?, hfind]⟩
  | some c => exact .inr ⟨c, rfl, getConfigMap_found hc⟩

theorem getConfigMap_keeps (m : Memory) (space name : String) :
    (m.getConfigMap space name).2.configMaps = m.configMaps ∧
      (m.getConfigMap space name).2.interloper = m.interloper := by
  simp only [getConfigMap]
  split <;> exact ⟨rfl, rfl⟩

theorem configMap?_getConfigMap (m : Memory) (space name space' name' : String) :
    (m.getConfigMap space name).2.configMap? space' name' = m.configMap? space' name' := by
  rw [configMap?, (m.getConfigMap_keeps space name).1]
  rfl

/-! ## Runs -/

theorem sound_answer {m : Memory} (h : m.Sound) (q : ClusterCall) :
    (m.answer q).2.Sound ∧ Evolves m (m.answer q).2 := by
  have hkept {m' : Memory} (hmaps : m'.configMaps = m.configMaps)
      (hlast : m'.lastVersion = m.lastVersion) (hinterloper : m'.interloper = m.interloper) :
      m'.Sound ∧ Evolves m m' :=
    ⟨sound_of_configMaps h hmaps (by omega) (hinterloper ▸ h.interloper),
      .of_configMaps hmaps (by omega)⟩
  cases q with
  | connect cluster => exact ⟨h, .refl m⟩
  | getSecret space name =>
      simp only [answer, getSecret]
      split
      · exact hkept rfl rfl rfl
      · split <;> exact hkept rfl rfl rfl
  | createSecret space name username token =>
      simp only [answer, createSecret]
      split <;> exact hkept rfl rfl rfl
  | getConfigMap space name =>
      simp only [answer, getConfigMap]
      split <;> exact hkept rfl rfl rfl
  | updateConfigMap c => exact sound_updateConfigMap h c

theorem sound_perform {m : Memory} (h : m.Sound) (d : Deed) :
    (m.perform d).Sound ∧ Evolves m (m.perform d) := by
  cases d with
  | store c => exact sound_storeConfigMap h c
  | interleave count write =>
      refine ⟨sound_of_configMaps h rfl (Nat.le_refl _) ?_,
        .of_configMaps rfl (Nat.le_refl _)⟩
      rintro i ⟨rfl⟩ c
      rfl
  | call q => exact sound_answer h q
  | _ =>
      exact ⟨sound_of_configMaps h rfl (Nat.le_refl _) h.interloper,
        .of_configMaps rfl (Nat.le_refl _)⟩

theorem sound_new (name : String) : (new name).Sound where
  filed k c hc := by cases hc
  versioned k c hc := by cases hc
  interloper i hi := by cases hi

theorem sound_foldl_perform (deeds : List Deed) :
    ∀ {m : Memory}, m.Sound → (deeds.foldl perform m).Sound := by
  induction deeds with
  | nil => exact id
  | cons d deeds ih => exact fun h => ih (sound_perform h d).1

/-- Whatever was done to it, a cluster is sound. -/
theorem Reachable.sound {m : Memory} (h : m.Reachable) : m.Sound := by
  obtain ⟨name, deeds, rfl⟩ := h
  exact sound_foldl_perform deeds (sound_new name)

end CredRegistry.Memory
