import CredRegistry.Proofs.Cluster.Writes

/-!
# The secrets of a cluster in memory

Secrets have no versions: one that exists is never written again by a call. A call that creates a
secret succeeds only where there is none (`createSecret_cases`), and no other call touches any
(`secrets_answer`). So what a caller has once seen of a secret stays true (`Keeps`), whatever else
is done to the cluster, unless somebody stores a secret past all calls.
-/

namespace CredRegistry

/-- The secret that is created for a user name and a token. -/
def Secret.holding (space name username token : String) : Secret :=
  ⟨space, name, Dict.ofList [("username", username), ("password", token)]⟩

namespace Memory

/-- Every secret is filed under its own name. -/
def SecretsFiled (m : Memory) : Prop :=
  ∀ k s, m.secrets.find? k = some s → (s.space, s.name) = k

/-- Every secret of `m` is in `m'` as it was. -/
def Keeps (m m' : Memory) : Prop :=
  ∀ k s, m.secrets.find? k = some s → m'.secrets.find? k = some s

namespace Keeps

theorem of_secrets {m m' : Memory} (h : m'.secrets = m.secrets) : m.Keeps m' := by
  intro k s hs
  rwa [h]

theorem refl (m : Memory) : m.Keeps m := of_secrets rfl

theorem trans {m₁ m₂ m₃ : Memory} (h : m₁.Keeps m₂) (h' : m₂.Keeps m₃) : m₁.Keeps m₃ :=
  fun k s hs => h' k s (h k s hs)

end Keeps

/-! ## Calls -/

/-- A read of a secret fails as arranged, or finds what is stored. -/
theorem getSecret_cases (m : Memory) (space name : String) :
    (∃ e, m.secretFault = some e ∧ (m.getSecret space name).1 = .error e) ∨
      (m.secret? space name = none ∧
        (m.getSecret space name).1 = .error (.notFound .secret space name)) ∨
      ∃ s, m.secret? space name = some s ∧ (m.getSecret space name).1 = .ok s := by
  unfold getSecret
  cases hfault : m.secretFault with
  | some e => exact .inl ⟨e, rfl, rfl⟩
  | none =>
      cases hs : m.secret? space name with
      | none =>
          have hfind : m.secrets.find? (space, name) = none := hs
          exact .inr (.inl ⟨rfl, by simp only [secret?, hfind]⟩)
      | some s =>
          have hfind : m.secrets.find? (space, name) = some s := hs
          exact .inr (.inr ⟨s, rfl, by simp only [secret?, hfind]⟩)

/-- A secret is created where there is none. -/
theorem createSecret_cases (m : Memory) (space name username token : String) :
    (∃ s e, m.secret? space name = some s ∧
        (m.createSecret space name username token).1 = .error e ∧
        (m.createSecret space name username token).2.secrets = m.secrets) ∨
      (m.secret? space name = none ∧
        (m.createSecret space name username token).1
          = .ok (.holding space name username token) ∧
        (m.createSecret space name username token).2.secrets
          = m.secrets.put (space, name) (.holding space name username token)) := by
  unfold createSecret
  cases hs : m.secret? space name with
  | some s =>
      have hfind : m.secrets.find? (space, name) = some s := hs
      refine .inl ⟨s, .api s!"secret {space}/{name} already exists", rfl, ?_⟩
      simp only [secret?, hfind, and_self]
  | none =>
      have hfind : m.secrets.find? (space, name) = none := hs
      refine .inr ⟨rfl, ?_⟩
      simp only [secret?, hfind]
      exact ⟨rfl, rfl⟩

/-- Does a call create secrets? -/
def CreatesSecret : ClusterCall → Prop
  | .createSecret .. => True
  | _ => False

/-- A call that creates no secret leaves all secrets alone. -/
theorem secrets_answer (m : Memory) {q : ClusterCall} (hq : ¬CreatesSecret q) :
    (m.answer q).2.secrets = m.secrets := by
  cases q with
  | connect cluster => rfl
  | getSecret space name =>
      simp only [answer, getSecret]
      split
      · rfl
      · split <;> rfl
  | createSecret space name username token => exact absurd trivial hq
  | getConfigMap space name =>
      simp only [answer, getConfigMap]
      split <;> rfl
  | updateConfigMap c => exact secrets_updateConfigMap m c

theorem keeps_createSecret (m : Memory) (space name username token : String) :
    m.Keeps (m.createSecret space name username token).2 := by
  intro k s hs
  rcases m.createSecret_cases space name username token with
    ⟨-, -, -, -, hsecrets⟩ | ⟨hnone, -, hsecrets⟩
  · rwa [hsecrets]
  · have hk : k ≠ (space, name) := by
      rintro rfl
      exact absurd (hs.symm.trans hnone) nofun
    rw [hsecrets, Objects.find?_put, if_neg hk]
    exact hs

theorem keeps_answer (m : Memory) (q : ClusterCall) : m.Keeps (m.answer q).2 := by
  cases q with
  | createSecret space name username token => exact m.keeps_createSecret space name username token
  | _ => exact .of_secrets (secrets_answer m not_false)

/-! ## Deeds -/

/-- Does a deed write a secret? -/
def Deed.WritesSecret : Deed → Prop
  | .storeSecret _ => True
  | .call q => CreatesSecret q
  | _ => False

/-- A deed that writes no secret leaves all secrets alone. -/
theorem secrets_perform (m : Memory) {d : Deed} (hd : ¬d.WritesSecret) :
    (m.perform d).secrets = m.secrets := by
  cases d with
  | storeSecret s => exact absurd trivial hd
  | call q => exact secrets_answer m hd
  | _ => rfl

theorem SecretsFiled.of_secrets {m m' : Memory} (h : m.SecretsFiled)
    (hsecrets : m'.secrets = m.secrets) : m'.SecretsFiled := by
  intro k s hs
  exact h k s (hsecrets ▸ hs)

theorem SecretsFiled.of_put {m m' : Memory} {s : Secret} (h : m.SecretsFiled)
    (hsecrets : m'.secrets = m.secrets.put (s.space, s.name) s) : m'.SecretsFiled := by
  intro k s' hs'
  rw [hsecrets, Objects.find?_put] at hs'
  by_cases hk : k = (s.space, s.name)
  · rw [if_pos hk] at hs'
    cases hs'
    exact hk.symm
  · rw [if_neg hk] at hs'
    exact h k s' hs'

theorem SecretsFiled.answer {m : Memory} (h : m.SecretsFiled) (q : ClusterCall) :
    (m.answer q).2.SecretsFiled := by
  cases q with
  | createSecret space name username token =>
      rcases m.createSecret_cases space name username token with
        ⟨-, -, -, -, hsecrets⟩ | ⟨-, -, hsecrets⟩
      · exact h.of_secrets hsecrets
      · exact h.of_put (s := .holding space name username token) hsecrets
  | _ => exact h.of_secrets (secrets_answer m not_false)

theorem SecretsFiled.perform {m : Memory} (h : m.SecretsFiled) (d : Deed) :
    (m.perform d).SecretsFiled := by
  cases d with
  | storeSecret s => exact h.of_put rfl
  | call q => exact h.answer q
  | _ => exact h.of_secrets (secrets_perform m not_false)

/-- Whatever was done to a cluster, its secrets are filed under their names. -/
theorem Reachable.secretsFiled {m : Memory} (h : m.Reachable) : m.SecretsFiled := by
  obtain ⟨name, deeds, rfl⟩ := h
  have hrun : ∀ m : Memory, m.SecretsFiled → (deeds.foldl Memory.perform m).SecretsFiled := by
    induction deeds with
    | nil => exact fun m hm => hm
    | cons d deeds ih => exact fun m hm => ih _ (hm.perform d)
  refine hrun (new name) fun k s hs => ?_
  cases hs

end Memory

end CredRegistry
