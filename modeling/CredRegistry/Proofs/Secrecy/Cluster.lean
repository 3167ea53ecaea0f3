import CredRegistry.Proofs.Secrecy.Lists

/-!
# What a token does to the cluster

Two clusters in memory are alike if they differ in nothing but the password of the secret that
was created and the texts of lists that are alike (`Stock.ClustersAlike`): the calls counted, the
versions and the faults that are arranged are the same. Every call keeps them alike and is
answered alike, so making sure of the secret and reconciling the list are coupled, for two
credentials that differ in their tokens (`Stock.Handed`).
-/

namespace CredRegistry

open CredRegistry.RepoList
open CredRegistry.Yaml (ReadsBack)

namespace Stock

variable (K : Stock)

/-- Two credentials that configurations were stored as which differ in their tokens alone. -/
def Handed (c c' : Credential) : Prop :=
  ∃ d token, K.requests d ∧ K.requests { d with token } ∧
    c.host = d.host ∧ c.username = d.username ∧ c.token = d.token ∧
    c'.host = d.host ∧ c'.username = d.username ∧ c'.token = token

/-- Two secrets: one and the same, or created for configurations which differ in their tokens. -/
def SecretsAlike (x x' : Secret) : Prop :=
  x = x' ∨ ∃ space name d token, K.requests d ∧ K.requests { d with token } ∧
    x = .holding space name d.username d.token ∧ x' = .holding space name d.username token

/-- What another writer does is a list of edits. -/
def Fixed (write : ConfigMap → ConfigMap) : Prop :=
  ∃ edits, write = rewrite edits ∧ ∀ edit ∈ edits, K.edits edit

/-- Two clusters that differ in passwords and in the texts of lists alone. -/
structure ClustersAlike (m m' : Memory) : Prop where
  name : m.name = m'.name
  secrets : ∀ k, Option.Rel K.SecretsAlike (m.secrets.find? k) (m'.secrets.find? k)
  configMaps : ∀ k, Option.Rel K.MapsAlike (m.configMaps.find? k) (m'.configMaps.find? k)
  lastVersion : m.lastVersion = m'.lastVersion
  conflicts : m.conflicts = m'.conflicts
  interloper : m.interloper = m'.interloper
  fixed : ∀ i ∈ m.interloper, K.Fixed i.write
  secretFault : m.secretFault = m'.secretFault
  counts : m.counts = m'.counts

variable {K} {m m' : Memory} {c c' : Credential}

theorem Handed.host (h : K.Handed c c') : c'.host = c.host := by
  obtain ⟨d, token, -, -, hhost, -, -, hhost', -⟩ := h
  rw [hhost, hhost']

theorem Handed.appended (h : K.Handed c c') :
    K.Appended (.ofCredential c) (.ofCredential c') := by
  obtain ⟨d, token, hd, hd', hhost, husername, htoken, hhost', husername', htoken'⟩ := h
  refine ⟨d, token, hd, hd', ?_, ?_⟩
  · rw [Entry.ofCredential, hhost, husername, htoken]
    rfl
  · rw [Entry.ofCredential, hhost', husername', htoken']
    rfl

theorem SecretsAlike.ref {x x' : Secret} (h : K.SecretsAlike x x') :
    x.space = x'.space ∧ x.name = x'.name := by
  rcases h with rfl | ⟨space, name, d, token, -, -, rfl, rfl⟩
  · exact ⟨rfl, rfl⟩
  · exact ⟨rfl, rfl⟩

theorem find?_put_alike {α : Type} {R : α → α → Prop} {os os' : Objects α}
    (h : ∀ k, Option.Rel R (os.find? k) (os'.find? k)) (k : ObjectKey) {a a' : α} (ha : R a a') :
    ∀ k', Option.Rel R ((os.put k a).find? k') ((os'.put k a').find? k') := by
  intro k'
  rw [Objects.find?_put, Objects.find?_put]
  split
  · exact .some ha
  · exact h k'

/-! ## Calls -/

namespace ClustersAlike

theorem refl
    (htexts : ∀ k map text, m.configMaps.find? k = some map →
      map.data.get? listKey = some text → K.texts text)
    (hfixed : ∀ i ∈ m.interloper, K.Fixed i.write) : K.ClustersAlike m m where
  name := rfl
  secrets k := by
    cases m.secrets.find? k with
    | none => exact .none
    | some x => exact .some (.inl rfl)
  configMaps k := by
    cases hmap : m.configMaps.find? k with
    | none => exact .none
    | some map =>
        refine .some ⟨rfl, rfl, rfl, fun _ _ => rfl, ?_⟩
        cases htext : map.data.get? listKey with
        | none => exact .none
        | some text => exact .some (.inl ⟨rfl, .inr (.inl (htexts k map text hmap htext))⟩)
  lastVersion := rfl
  conflicts := rfl
  interloper := rfl
  fixed := hfixed
  secretFault := rfl
  counts := rfl

theorem count (h : K.ClustersAlike m m') (f : CallCounts → CallCounts) :
    K.ClustersAlike { m with counts := f m.counts } { m' with counts := f m'.counts } :=
  { h with counts := congrArg f h.counts }

theorem getSecret (h : K.ClustersAlike m m') (space name : String) :
    Both K.SecretsAlike (m.getSecret space name).1 (m'.getSecret space name).1 ∧
      K.ClustersAlike (m.getSecret space name).2 (m'.getSecret space name).2 := by
  have hcounted := h.count fun n => { n with getSecret := n.getSecret + 1 }
  simp only [Memory.getSecret, ← h.secretFault]
  cases m.secretFault with
  | some e => exact ⟨.error e, { hcounted with secretFault := rfl }⟩
  | none =>
      simp only [Memory.secret?]
      rcases rel_cases (h.secrets (space, name)) with ⟨hx, hx'⟩ | ⟨x, x', hx, hx', hsecrets⟩
      · rw [hx, hx']
        exact ⟨.error _, { hcounted with secretFault := rfl }⟩
      · rw [hx, hx']
        exact ⟨.ok hsecrets, { hcounted with secretFault := rfl }⟩

theorem createSecret (h : K.ClustersAlike m m') (space name : String) (hc : K.Handed c c') :
    Both K.SecretsAlike (m.createSecret space name c.username c.token).1
        (m'.createSecret space name c'.username c'.token).1 ∧
      K.ClustersAlike (m.createSecret space name c.username c.token).2
        (m'.createSecret space name c'.username c'.token).2 := by
  have hcounted := h.count fun n => { n with createSecret := n.createSecret + 1 }
  simp only [Memory.createSecret, Memory.secret?]
  rcases rel_cases (h.secrets (space, name)) with ⟨hx, hx'⟩ | ⟨x, x', hx, hx', -⟩
  · rw [hx, hx']
    obtain ⟨d, token, hd, hd', -, husername, htoken, -, husername', htoken'⟩ := hc
    have hcreated : K.SecretsAlike (.holding space name c.username c.token)
        (.holding space name c'.username c'.token) := by
      refine .inr ⟨space, name, d, token, hd, hd', ?_, ?_⟩
      · rw [husername, htoken]
      · rw [husername', htoken']
    exact ⟨.ok hcreated, { hcounted with
      secrets := find?_put_alike h.secrets (space, name) hcreated }⟩
  · rw [hx, hx']
    exact ⟨.error _, hcounted⟩

theorem getConfigMap (h : K.ClustersAlike m m') (space name : String) :
    Both K.MapsAlike (m.getConfigMap space name).1 (m'.getConfigMap space name).1 ∧
      K.ClustersAlike (m.getConfigMap space name).2 (m'.getConfigMap space name).2 := by
  have hcounted := h.count fun n => { n with getConfigMap := n.getConfigMap + 1 }
  simp only [Memory.getConfigMap, Memory.configMap?]
  rcases rel_cases (h.configMaps (space, name)) with ⟨hx, hx'⟩ | ⟨map, map', hx, hx', hmaps⟩
  · rw [hx, hx']
    exact ⟨.error _, hcounted⟩
  · rw [hx, hx']
    exact ⟨.ok hmaps, hcounted⟩

/-- A config map is stored under a new version. -/
theorem store (h : K.ClustersAlike m m') (k : ObjectKey) {map map' : ConfigMap}
    (hmaps : K.MapsAlike map map') (version : Nat) :
    K.ClustersAlike { m with lastVersion := version, configMaps := m.configMaps.put k map }
      { m' with lastVersion := version, configMaps := m'.configMaps.put k map' } :=
  { h with
    lastVersion := rfl
    configMaps := find?_put_alike h.configMaps k hmaps }

theorem letIn (hyaml : ∀ es, K.Arises es → ReadsBack (listValue es)) (h : K.ClustersAlike m m')
    (space name : String) : K.ClustersAlike (m.letIn space name) (m'.letIn space name) := by
  unfold Memory.letIn
  rw [← h.interloper]
  cases hi : m.interloper with
  | none => exact h
  | some i =>
      obtain ⟨edits, hwrite, hedits⟩ := h.fixed i hi
      have hleft : ∀ j ∈ if 1 < i.remaining then some { i with remaining := i.remaining - 1 }
          else none, K.Fixed j.write := by
        intro j hj
        split at hj
        · cases hj
          exact ⟨edits, hwrite, hedits⟩
        · cases hj
      simp only [Memory.configMap?, ← h.lastVersion]
      rcases rel_cases (h.configMaps (space, name)) with ⟨hx, hx'⟩ | ⟨map, map', hx, hx', hmaps⟩
      · rw [hx, hx']
        exact { h with
          lastVersion := rfl
          interloper := rfl
          fixed := hleft }
      · rw [hx, hx']
        have hwritten := hmaps.rewrite hyaml hedits
        rw [← hwrite] at hwritten
        have hnew (version : Option String) :
            K.MapsAlike { i.write map with version } { i.write map' with version } :=
          { hwritten with version := rfl }
        exact { h.store (space, name) (hnew _) _ with
          interloper := rfl
          fixed := hleft }

theorem replaceConfigMap (h : K.ClustersAlike m m') {map map' : ConfigMap}
    (hmaps : K.MapsAlike map map') :
    Both K.MapsAlike (m.replaceConfigMap map).1 (m'.replaceConfigMap map').1 ∧
      K.ClustersAlike (m.replaceConfigMap map).2 (m'.replaceConfigMap map').2 := by
  simp only [Memory.replaceConfigMap, Memory.configMap?, Memory.storeConfigMap, ← hmaps.space,
    ← hmaps.name, ← hmaps.version, ← h.lastVersion]
  rcases rel_cases (h.configMaps (map.space, map.name)) with
    ⟨hx, hx'⟩ | ⟨stored, stored', hx, hx', hstored⟩
  · rw [hx, hx']
    exact ⟨.error _, h⟩
  · rw [hx, hx']
    simp only [← hstored.version]
    split
    · exact ⟨.error _, h⟩
    · have hnew : K.MapsAlike
          { map with version := some (Memory.versionText (m.lastVersion + 1)) }
          ⟨map.space, map.name, some (Memory.versionText (m.lastVersion + 1)), map'.data⟩ :=
        ⟨rfl, rfl, rfl, hmaps.data⟩
      exact ⟨.ok hnew, h.store _ hnew _⟩

theorem updateConfigMap (hyaml : ∀ es, K.Arises es → ReadsBack (listValue es))
    (h : K.ClustersAlike m m') {map map' : ConfigMap} (hmaps : K.MapsAlike map map') :
    Both K.MapsAlike (m.updateConfigMap map).1 (m'.updateConfigMap map').1 ∧
      K.ClustersAlike (m.updateConfigMap map).2 (m'.updateConfigMap map').2 := by
  have hcounted := h.count fun n => { n with updateConfigMap := n.updateConfigMap + 1 }
  have hconflicts := h.conflicts
  simp only [Memory.updateConfigMap, ← hmaps.space, ← hmaps.name]
  by_cases hrefuse : 0 < m.conflicts
  · rw [if_pos hrefuse, if_pos (hconflicts ▸ hrefuse)]
    exact ⟨.error _, { hcounted with conflicts := congrArg (· - 1) hconflicts }⟩
  · rw [if_neg hrefuse, if_neg (hconflicts ▸ hrefuse)]
    exact (hcounted.letIn hyaml map.space map.name).replaceConfigMap hmaps

end ClustersAlike

/-! ## Tasks -/

variable {T : Twins} (hT : T.cluster = K.ClustersAlike)

include hT

theorem coupled_connect (cluster : String) : T.atCluster.Coupled (Both Eq)
    (ClusterTask.connect cluster) (ClusterTask.connect cluster) := by
  refine Twins.coupled_call fun m m' h => ?_
  rw [hT] at h ⊢
  refine ⟨?_, h⟩
  simp only [Memory.answer, Memory.connect, h.name]
  exact .refl (fun _ => rfl) _

theorem coupled_ensureSecret (space name : String) (hc : K.Handed c c') :
    T.atCluster.Coupled (Both Eq) (ClusterTask.ensureSecret space name c.username c.token)
      (ClusterTask.ensureSecret space name c'.username c'.token) := by
  have hget : T.atCluster.Coupled (Both K.SecretsAlike) (ClusterTask.getSecret space name)
      (ClusterTask.getSecret space name) :=
    Twins.coupled_call fun m m' h => hT ▸ (hT ▸ h : K.ClustersAlike m m').getSecret space name
  have hcreate : T.atCluster.Coupled (Both K.SecretsAlike)
      (ClusterTask.createSecret space name c.username c.token)
      (ClusterTask.createSecret space name c'.username c'.token) :=
    Twins.coupled_call fun m m' h =>
      hT ▸ (hT ▸ h : K.ClustersAlike m m').createSecret space name hc
  have href (x x' : Secret) (h : K.SecretsAlike x x') :
      SecretRef.mk x.space x.name = ⟨x'.space, x'.name⟩ := by
    rw [h.ref.1, h.ref.2]
  refine hget.bind ?_
  rintro _ _ (e | hsecrets)
  · refine Pairing.coupled_ite (fun _ => .note (hcreate.bind ?_)) fun _ => ?_
    · rintro _ _ (e | hsecrets)
      · exact .note (Pairing.coupled_pure (.error _))
      · exact Pairing.coupled_pure (.ok (href _ _ hsecrets))
    · exact .note (Pairing.coupled_pure (.error _))
  · exact .note (Pairing.coupled_pure (.ok (href _ _ hsecrets)))

variable (hyaml : ∀ es, K.Arises es → ReadsBack (listValue es))

include hyaml

theorem coupled_mergeOnce (policy : RetryPolicy) (space name : String) (hc : K.Handed c c')
    (secret : String) (attempt : Nat) :
    T.atCluster.Coupled (Both Eq) (mergeOnce policy space name c secret attempt)
      (mergeOnce policy space name c' secret attempt) := by
  have hget : T.atCluster.Coupled (Both K.MapsAlike) (ClusterTask.getConfigMap space name)
      (ClusterTask.getConfigMap space name) :=
    Twins.coupled_call fun m m' h => hT ▸ (hT ▸ h : K.ClustersAlike m m').getConfigMap space name
  have hupdate (map map' : ConfigMap) (h : K.MapsAlike map map') :
      T.atCluster.Coupled (Both K.MapsAlike) (ClusterTask.updateConfigMap map)
        (ClusterTask.updateConfigMap map') :=
    Twins.coupled_call fun m m' hm =>
      hT ▸ (hT ▸ hm : K.ClustersAlike m m').updateConfigMap hyaml h
  unfold mergeOnce
  rw [hc.host]
  refine .note (hget.bind ?_)
  rintro _ _ (e | @⟨map, map', hmaps⟩)
  · exact Pairing.coupled_pure (.error _)
  · have hmerged := mergedText_alike hyaml hmaps hc.appended secret
    rcases hmerged.cases with ⟨e, hx, hy⟩ | ⟨_, _, hx, hy, @⟨text, text', htexts⟩ | _⟩
    · simp only [hx, hy]
      exact Pairing.coupled_pure (.error _)
    · simp only [hx, hy]
      have hnew : K.MapsAlike { map with data := map.data.insert listKey text }
          { map' with data := map'.data.insert listKey text' } :=
        { hmaps with data := hmaps.data.insert_list htexts }
      refine (hupdate _ _ hnew).bind ?_
      rintro _ _ (e | _)
      · exact Pairing.coupled_pure (.error _)
      · exact .note (Pairing.coupled_pure (.ok rfl))
    · simp only [hx, hy]
      exact .note (Pairing.coupled_pure (.ok rfl))

theorem coupled_reconcile (policy : RetryPolicy) (space name : String) (hc : K.Handed c c')
    (secret : String) :
    T.atCluster.Coupled (Both Eq) (reconcile policy space name c secret)
      (reconcile policy space name c' secret) := by
  have hattempts := Pairing.coupled_retry policy ReconcileError.isRetryable ReconcileError.message
    (coupled_mergeOnce hT hyaml policy space name hc secret)
  refine hattempts.bind ?_
  rintro _ _ (e | ⟨hcount, hvalue⟩)
  · cases e with
    | exhausted attempts last => exact .note (Pairing.coupled_pure (.error _))
    | aborted attempt e => exact Pairing.coupled_pure (.error _)
  · simp only [hcount, hvalue]
    exact Pairing.coupled_pure (.ok rfl)

end Stock

end CredRegistry
