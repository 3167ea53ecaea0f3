import CredRegistry.Proofs.Service.Site

/-!
# Two runs side by side

Whether something can be learned from what a program does is a question about two of its runs.
A `Pairing` answers the calls of two dialogues, each out of a state of its own, and says which
states are alike. Two dialogues are `Coupled` if they take states that are alike to such states
again, and come to results that go together. Coupled dialogues are put together from coupled
parts (`Coupled.bind`), so what is said about two runs follows the text of one program.

`Twins` pairs two sites. Work on the store and work on the cluster are coupled on their own, and
`Twins.coupled_ofStore` and `Twins.coupled_ofCluster` take them over to the service.
-/

namespace CredRegistry

open CredRegistry.Cipher

/-! ## Results -/

/-- Two results go together: both failed with one error, or neither failed and `R` holds. -/
inductive Both {ε α β : Type} (R : α → β → Prop) : Except ε α → Except ε β → Prop where
  | error (e : ε) : Both R (.error e) (.error e)
  | ok {a : α} {b : β} (h : R a b) : Both R (.ok a) (.ok b)

namespace Both

variable {ε α β γ δ : Type} {R R' : α → β → Prop} {S : γ → δ → Prop}

theorem mono (hR : ∀ a b, R a b → R' a b) {x : Except ε α} {y : Except ε β} (h : Both R x y) :
    Both R' x y := by
  cases h with
  | error e => exact .error e
  | ok hab => exact .ok (hR _ _ hab)

theorem refl {R : α → α → Prop} (hR : ∀ a, R a a) (x : Except ε α) : Both R x x := by
  cases x with
  | error e => exact .error e
  | ok a => exact .ok (hR a)

theorem cases {x : Except ε α} {y : Except ε β} (h : Both R x y) :
    (∃ e, x = .error e ∧ y = .error e) ∨ ∃ a b, x = .ok a ∧ y = .ok b ∧ R a b := by
  cases h with
  | error e => exact .inl ⟨e, rfl, rfl⟩
  | ok hab => exact .inr ⟨_, _, rfl, rfl, hab⟩

theorem eq {x y : Except ε α} (h : Both Eq x y) : x = y := by
  cases h with
  | error e => rfl
  | ok hab => rw [hab]

theorem bind {x : Except ε α} {y : Except ε β} {f : α → Except ε γ} {g : β → Except ε δ}
    (h : Both R x y) (hfg : ∀ a b, R a b → Both S (f a) (g b)) :
    Both S (x >>= f) (y >>= g) := by
  cases h with
  | error e => exact .error e
  | ok hab => exact hfg _ _ hab

/-- The first part of a computation is the same on both sides. -/
theorem step {x : Except ε α} {f : α → Except ε γ} {g : α → Except ε δ}
    (hfg : ∀ a, x = .ok a → Both S (f a) (g a)) : Both S (x >>= f) (x >>= g) := by
  cases x with
  | error e => exact .error e
  | ok a => exact hfg a rfl

theorem map {x : Except ε α} {y : Except ε β} {f : α → γ} {g : β → δ}
    (h : Both R x y) (hfg : ∀ a b, R a b → S (f a) (g b)) : Both S (f <$> x) (g <$> y) := by
  cases h with
  | error e => exact .error e
  | ok hab => exact .ok (hfg _ _ hab)

theorem mapM {T : α → β → Prop} {f : α → Except ε γ} {g : β → Except ε δ}
    (hfg : ∀ a b, T a b → Both S (f a) (g b)) {as : List α} {bs : List β}
    (h : List.Forall₂ T as bs) : Both (List.Forall₂ S) (as.mapM f) (bs.mapM g) := by
  induction h with
  | nil => exact .ok .nil
  | cons hab _ ih =>
      rw [List.mapM_cons, List.mapM_cons]
      refine (hfg _ _ hab).bind fun c d hcd => ?_
      exact ih.bind fun cs ds hrest => .ok (.cons hcd hrest)

end Both

theorem rel_cases {α β : Type} {R : α → β → Prop} {o : Option α} {o' : Option β}
    (h : Option.Rel R o o') : (o = none ∧ o' = none) ∨ ∃ a b, o = some a ∧ o' = some b ∧ R a b := by
  cases h with
  | none => exact .inl ⟨rfl, rfl⟩
  | some hab => exact .inr ⟨_, _, rfl, rfl, hab⟩

/-! ## Dialogues -/

/-- Relaying a dialogue and then running it is running it with the answers that the relay
gets. -/
theorem Dialogue.run_relay {Q Q' : Type} {A : Q → Type} {A' : Q' → Type} {m : Type → Type}
    [Monad m] [LawfulMonad m] {α : Type} (relayed : (q : Q) → Dialogue Q' A' (A q))
    (answer : (q : Q') → m (A' q)) (report : Log.Event → m Unit) (d : Dialogue Q A α) :
    (d.relay relayed).run answer report
      = d.run (fun q => (relayed q).run answer report) report := by
  unfold relay
  induction d with
  | done a => rfl
  | report e next ih =>
      rw [run, run_bind]
      simp only [ih]
      simp [Log.report, run]
  | ask q next ih =>
      rw [run, run_bind]
      simp only [ih]
      rfl

/-- Two parties that answer the calls of dialogues, and when their states are alike. -/
structure Pairing (Q : Type) (A : Q → Type) (S : Type) where
  left : (q : Q) → StateM S (A q)
  right : (q : Q) → StateM S (A q)
  note : Log.Event → StateM S Unit
  Alike : S → S → Prop
  /-- What both report does not tell them apart. -/
  note_alike (e : Log.Event) {s s' : S} (h : Alike s s') : Alike (note e s).2 (note e s').2

/-- From states that are alike, two dialogues lead to such states, and to results that go
together. -/
def Pairing.Coupled {Q S : Type} {A : Q → Type} (P : Pairing Q A S) {α β : Type}
    (R : α → β → Prop) (d : Dialogue Q A α) (d' : Dialogue Q A β) : Prop :=
  ∀ ⦃s s' : S⦄, P.Alike s s' →
    R (d.run P.left P.note s).1 (d'.run P.right P.note s').1 ∧
      P.Alike (d.run P.left P.note s).2 (d'.run P.right P.note s').2

namespace Pairing

variable {Q S : Type} {A : Q → Type} {P : Pairing Q A S} {α β γ δ : Type} {R R' : α → β → Prop}
  {U : γ → δ → Prop}

theorem coupled_pure {a : α} {b : β} (h : R a b) : P.Coupled R (pure a) (pure b) :=
  fun _ _ halike => ⟨h, halike⟩

theorem coupled_report (e : Log.Event) : P.Coupled Eq (Log.report e) (Log.report e) :=
  fun _ _ halike => ⟨rfl, P.note_alike e halike⟩

theorem coupled_note (level : Log.Level) (target message : String) :
    P.Coupled Eq (Log.note level target message) (Log.note level target message) :=
  coupled_report _

/-- Both sides take the same branch. -/
theorem coupled_ite {p : Prop} [Decidable p] {d e : Dialogue Q A α} {d' e' : Dialogue Q A β}
    (hthen : p → P.Coupled R d d') (helse : ¬p → P.Coupled R e e') :
    P.Coupled R (if p then d else e) (if p then d' else e') := by
  split
  next h => exact hthen h
  next h => exact helse h

namespace Coupled

variable {d : Dialogue Q A α} {d' : Dialogue Q A β}

theorem mono (h : P.Coupled R d d') (hR : ∀ a b, R a b → R' a b) : P.Coupled R' d d' :=
  fun _ _ halike => (h halike).imp_left (hR _ _)

theorem bind {f : α → Dialogue Q A γ} {g : β → Dialogue Q A δ} (h : P.Coupled R d d')
    (hfg : ∀ a b, R a b → P.Coupled U (f a) (g b)) : P.Coupled U (d >>= f) (d' >>= g) := by
  intro s s' halike
  obtain ⟨hresults, hstates⟩ := h halike
  rw [Dialogue.run_bind, Dialogue.run_bind]
  exact hfg _ _ hresults hstates

/-- A report that both make, and what comes after it. -/
theorem note {level : Log.Level} {target message : String} {f : Unit → Dialogue Q A γ}
    {g : Unit → Dialogue Q A δ} (h : P.Coupled U (f ()) (g ())) :
    P.Coupled U (Log.note level target message >>= f) (Log.note level target message >>= g) :=
  (coupled_note level target message).bind fun _ _ _ => h

theorem within (h : P.Coupled R d d') (span : Log.Span) :
    P.Coupled R (Log.within span d) (Log.within span d') := by
  refine (coupled_report _).bind fun _ _ _ => h.bind fun a b hab => ?_
  exact (coupled_report _).bind fun _ _ _ => coupled_pure hab

end Coupled

/-- Operations that are coupled in every attempt are repeated equally often. -/
theorem coupled_retry {ε : Type} (p : RetryPolicy) {operation : Nat → Dialogue Q A (Except ε α)}
    {operation' : Nat → Dialogue Q A (Except ε β)} (retryable : ε → Bool) (message : ε → String)
    (h : ∀ attempt, P.Coupled (Both R) (operation attempt) (operation' attempt)) :
    P.Coupled (Both fun o o' => o.attempts = o'.attempts ∧ R o.value o'.value)
      (p.run operation retryable message) (p.run operation' retryable message) := by
  unfold RetryPolicy.run
  generalize p.maxAttempts - 1 = left
  generalize 1 = attempt
  induction left generalizing attempt with
  | zero =>
      unfold RetryPolicy.attemptFrom
      refine (h attempt).bind ?_
      rintro _ _ (e | hab)
      · refine coupled_ite (fun _ => ?_) fun _ => ?_
        · exact coupled_pure (.error _)
        · exact coupled_pure (.error _)
      · exact coupled_pure (.ok ⟨rfl, hab⟩)
  | succ left ih =>
      unfold RetryPolicy.attemptFrom
      refine (h attempt).bind ?_
      rintro _ _ (e | hab)
      · refine coupled_ite (fun _ => ?_) fun _ => coupled_pure (Both.error _)
        exact Coupled.note (ih (attempt + 1))
      · exact coupled_pure (.ok ⟨rfl, hab⟩)

end Pairing

/-! ## Sites -/

/-- The cluster in memory answers. -/
def Memory.respond : Responder Memory := fun q m => m.answer q

/-- When two databases are alike, and two clusters in memory. -/
structure Likeness where
  database : Database → Database → Prop
  cluster : Memory → Memory → Prop

/-- Two sites that have reported the same, with databases and clusters that are alike. -/
structure Likeness.Alike (L : Likeness) (w w' : Site Memory) : Prop where
  database : L.database w.database w'.database
  cluster : L.cluster w.cluster w'.cluster
  events : w.events = w'.events

theorem Likeness.Alike.note {L : Likeness} {w w' : Site Memory} (h : L.Alike w w')
    (e : Log.Event) : L.Alike (Site.note e w).2 (Site.note e w').2 :=
  ⟨h.database, h.cluster, congrArg (· ++ [e]) h.events⟩

/-- Two sites, with the time and the nonce at hand on each. -/
structure Twins extends Likeness where
  now : Timestamp
  now' : Timestamp
  nonce : Nonce
  nonce' : Nonce

namespace Twins

variable (T : Twins)

/-- The sites serve a service. -/
def service : Pairing ServiceCall ServiceCall.Answer (Site Memory) where
  left := Site.serve Memory.respond T.now T.nonce
  right := Site.serve Memory.respond T.now' T.nonce'
  note := Site.note
  Alike := T.toLikeness.Alike
  note_alike e _ _ h := h.note e

/-- The sites serve a store. -/
def store : Pairing StoreCall StoreCall.Answer (Site Memory) where
  left q := Site.serve Memory.respond T.now T.nonce (.store q)
  right q := Site.serve Memory.respond T.now' T.nonce' (.store q)
  note := Site.note
  Alike := T.toLikeness.Alike
  note_alike e _ _ h := h.note e

/-- The sites serve as clusters. -/
def atCluster : Pairing ClusterCall ClusterCall.Answer (Site Memory) where
  left q := Site.serve Memory.respond T.now T.nonce (.cluster q)
  right q := Site.serve Memory.respond T.now' T.nonce' (.cluster q)
  note := Site.note
  Alike := T.toLikeness.Alike
  note_alike e _ _ h := h.note e

variable {T} {α β : Type} {R : α → β → Prop}

theorem coupled_ofStore {d : StoreTask α} {d' : StoreTask β} (h : T.store.Coupled R d d') :
    T.service.Coupled R (ServiceTask.ofStore d) (ServiceTask.ofStore d') := by
  intro w w' halike
  simp only [ServiceTask.ofStore, Dialogue.run_relay]
  exact h halike

theorem coupled_ofCluster {d : ClusterTask α} {d' : ClusterTask β}
    (h : T.atCluster.Coupled R d d') :
    T.service.Coupled R (ServiceTask.ofCluster d) (ServiceTask.ofCluster d') := by
  intro w w' halike
  simp only [ServiceTask.ofCluster, Dialogue.run_relay]
  exact h halike

theorem coupled_now : T.service.Coupled (fun t t' => t = T.now ∧ t' = T.now') ServiceTask.now
    ServiceTask.now :=
  fun _ _ halike => ⟨⟨rfl, rfl⟩, halike⟩

theorem coupled_nonce : T.store.Coupled (fun n n' => n = T.nonce ∧ n' = T.nonce')
    (Dialogue.call StoreCall.nonce) (Dialogue.call StoreCall.nonce) :=
  fun _ _ halike => ⟨⟨rfl, rfl⟩, halike⟩

/-- A call to the database is coupled if databases that are alike answer it alike. -/
theorem coupled_database {q q' : DatabaseCall} {R : q.Answer → q'.Answer → Prop}
    (h : ∀ db db', T.database db db' →
      R (db.answer q).1 (db'.answer q').1 ∧ T.database (db.answer q).2 (db'.answer q').2) :
    T.store.Coupled R (Dialogue.call (StoreCall.database q))
      (Dialogue.call (StoreCall.database q')) := by
  intro w w' halike
  obtain ⟨hanswers, hdatabases⟩ := h _ _ halike.database
  exact ⟨hanswers, hdatabases, halike.cluster, halike.events⟩

/-- A call to the cluster is coupled if clusters that are alike answer it alike. -/
theorem coupled_call {q q' : ClusterCall} {R : q.Answer → q'.Answer → Prop}
    (h : ∀ m m', T.cluster m m' →
      R (m.answer q).1 (m'.answer q').1 ∧ T.cluster (m.answer q).2 (m'.answer q').2) :
    T.atCluster.Coupled R (Dialogue.call q) (Dialogue.call q') := by
  intro w w' halike
  obtain ⟨hanswers, hclusters⟩ := h _ _ halike.cluster
  exact ⟨hanswers, halike.database, hclusters, halike.events⟩

end Twins

end CredRegistry
