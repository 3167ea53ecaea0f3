import CredRegistry.Proofs.Cluster.Provision
import CredRegistry.Proofs.Cluster.Turns
import Mathlib.Data.List.Perm.Subperm

/-!
# Who gets the secret that is created first

Callers that make sure of one secret at once all come to an end, but not all of them to a good
one. `Request.ended` reads what a caller has come to off its exchanges: it gets the secret if its
read finds it or if it creates it itself. A caller that has read the secret as missing and comes
second to create it is refused, although the secret is there. So all callers are served exactly
if no two of them ask for the creation (`served_iff_one_creation`).
-/

namespace CredRegistry

/-- Does a call ask for a creation, granted or not? -/
def Exchange.asksCreation (x : Exchange) : Bool :=
  match x.call with
  | .createSecret .. => true
  | _ => false

theorem Exchange.asksCreation_of_isCreation {x : Exchange} (h : x.isCreation = true) :
    x.asksCreation = true := by
  unfold isCreation at h
  split at h
  next hcall => simp only [asksCreation, hcall]
  next => cases h

namespace Provision

/-- Reading and creating secrets. -/
def AsksSecret : ClusterCall → Prop
  | .getSecret .. => True
  | .createSecret .. => True
  | _ => False

/-- No read of a secret is made to fail, and secrets are filed under their names. -/
def Faultless (m : Memory) : Prop := m.secretFault = none ∧ m.SecretsFiled

theorem Faultless.answer {m : Memory} (h : Faultless m) {q : ClusterCall} (hq : AsksSecret q) :
    Faultless (m.answer q).2 := by
  refine ⟨?_, h.2.answer q⟩
  have hnone := h.1
  cases q with
  | getSecret space name =>
      simp only [Memory.answer, Memory.getSecret, hnone]
      split <;> rfl
  | createSecret space name username token =>
      simp only [Memory.answer, Memory.createSecret]
      split <;> exact hnone
  | connect cluster => exact hq.elim
  | getConfigMap space name => exact hq.elim
  | updateConfigMap c => exact hq.elim

/-! ## One caller -/

section

variable {r : Request} {m : Memory}

theorem read_cases (hm : Faultless m) :
    (m.secret? r.space r.name = none ∧
        (m.getSecret r.space r.name).1 = .error (.notFound .secret r.space r.name)) ∨
      ∃ s, m.secret? r.space r.name = some s ∧ (m.getSecret r.space r.name).1 = .ok s := by
  rcases m.getSecret_cases r.space r.name with ⟨e, hfault, -⟩ | hread
  · exact absurd (hm.1.symm.trans hfault) nofun
  · exact hread

/-- What is said to a caller that comes second to create the secret. -/
def Request.taken (r : Request) : ClusterError := .api s!"secret {r.space}/{r.name} already exists"

theorem creation_refused {s : Secret} (h : m.secret? r.space r.name = some s) :
    (m.createSecret r.space r.name r.username r.token).1 = .error r.taken ∧
      (⟨r.creation, m⟩ : Exchange).isCreation = false := by
  have hanswer : (m.createSecret r.space r.name r.username r.token).1 = .error r.taken := by
    have hfind : m.secrets.find? (r.space, r.name) = some s := h
    simp only [Memory.createSecret, Memory.secret?, hfind]
    rfl
  refine ⟨hanswer, ?_⟩
  simp only [Exchange.isCreation, Request.creation, hanswer]
  rfl

theorem creation_granted (h : m.secret? r.space r.name = none) :
    (m.createSecret r.space r.name r.username r.token).1 = .ok r.secret ∧
      (⟨r.creation, m⟩ : Exchange).isCreation = true := by
  have hanswer : (m.createSecret r.space r.name r.username r.token).1 = .ok r.secret := by
    rcases m.createSecret_cases r.space r.name r.username r.token with ⟨s, e, hs, -⟩ | ⟨-, h, -⟩
    · exact absurd (h.symm.trans hs) nofun
    · exact h
  refine ⟨hanswer, ?_⟩
  simp only [Exchange.isCreation, Request.creation, hanswer]
  rfl

/-- A caller is done after four turns: it reads, reports, creates and reports again. -/
theorem Request.within_task (r : Request) (met : Memory → Prop) :
    Within met AsksSecret (fun _ => True) 4 r.task := by
  have hfinish (answer : Except ClusterError Secret) :
      Within met AsksSecret (fun _ => True) 1 (r.finish answer) := by
    cases answer with
    | ok s => exact .done trivial
    | error e => exact .report (.done trivial)
  rw [show r.task = .ask r.read r.afterRead from r.quiet_task]
  refine .ask trivial fun m _ => ?_
  cases (m.answer r.read).1 with
  | ok s => exact .report (.done trivial)
  | error e =>
      by_cases he : e.isNotFound = true
      · simp only [afterRead, if_pos he]
        exact .report (.ask trivial fun m _ => hfinish _)
      · simp only [afterRead, if_neg he]
        exact .report (.done trivial)

/-- What the exchanges of a caller have come to. -/
inductive Ended (r : Request) : List Exchange → Except ClusterError SecretRef → Prop where
  | found {m s} (hs : m.secret? r.space r.name = some s) : Ended r [⟨r.read, m⟩] (.ok r.ref)
  | created {m m'} (hread : m.secret? r.space r.name = none)
      (hnone : m'.secret? r.space r.name = none) :
      Ended r [⟨r.read, m⟩, ⟨r.creation, m'⟩] (.ok r.ref)
  | refused {m m' s} (hread : m.secret? r.space r.name = none)
      (hs : m'.secret? r.space r.name = some s) :
      Ended r [⟨r.read, m⟩, ⟨r.creation, m'⟩] (.error r.taken)

/-- A caller that is done has come to what its exchanges say. -/
theorem Request.ended {xs : List Exchange} {o : Except ClusterError SecretRef}
    (h : Leaves r.task xs (.done o)) (hxs : ∀ x ∈ xs, Faultless x.before) : Ended r xs o := by
  obtain ⟨m, ys, rfl, hafter⟩ := h.asked r.quiet_task
  have hm : Faultless m := hxs _ (List.mem_cons_self ..)
  rcases read_cases (r := r) hm with ⟨hnone, hread⟩ | ⟨s, hs, hread⟩
  · rw [show (m.answer r.read).1 = _ from hread] at hafter
    have hask : (r.afterRead (.error (.notFound .secret r.space r.name))).quiet
        = .ask r.creation r.finish := rfl
    obtain ⟨m', zs, rfl, hfinish⟩ := hafter.asked hask
    cases hcreation : m'.secret? r.space r.name with
    | none =>
        rw [show (m'.answer r.creation).1 = _ from (creation_granted hcreation).1] at hfinish
        obtain ⟨rfl, rfl⟩ := hfinish.done rfl
        exact .created hnone hcreation
    | some s =>
        rw [show (m'.answer r.creation).1 = _ from (creation_refused hcreation).1] at hfinish
        obtain ⟨rfl, rfl⟩ := hfinish.done rfl
        exact .refused hnone hcreation
  · rw [show (m.answer r.read).1 = _ from hread] at hafter
    obtain ⟨rfl, rfl⟩ := hafter.done rfl
    rw [ref_of_secret? hm.2 hs]
    exact .found hs

end

/-! ## All callers -/

/-- The calls that ask for a creation. -/
def creations {ι : Type} (log : List (ι × Exchange)) : List (ι × Exchange) :=
  log.filter (·.2.asksCreation)

section

variable {ι : Type} [DecidableEq ι] {requests : ι → Request} {m : Memory} {turns : List ι}

/-- The session after some turns, with nothing going wrong. -/
abbrev afterTurns (requests : ι → Request) (m : Memory) (turns : List ι) :
    Session ι (Except ClusterError SecretRef) :=
  after requests m (turns.map .turn)

theorem soon_afterTurns (hm : Faultless m) :
    (afterTurns requests m turns).Soon Faultless AsksSecret (fun _ => True)
      fun i => 4 - turns.count i := by
  have hstart : (atOnce requests m).Soon Faultless AsksSecret (fun _ => True) fun _ => 4 :=
    ⟨hm, fun i => (requests i).within_task _, fun x hx => absurd hx List.not_mem_nil⟩
  have hrun : (afterTurns requests m turns).Soon Faultless AsksSecret (fun _ => True)
      fun i => 4 - Session.turns i ((turns.map Step.turn).map Step.event) := by
    refine hstart.run (fun m q hm hq => hm.answer hq) ?_
    intro earlier d later heq
    have hd : Session.Event.deed d ∈ (turns.map Step.turn).map Step.event := by
      rw [heq]
      exact List.mem_append_right _ (List.mem_cons_self ..)
    obtain ⟨step, hstep, hevent⟩ := List.mem_map.mp hd
    obtain ⟨i, -, rfl⟩ := List.mem_map.mp hstep
    cases hevent
  have hturns (i : ι) :
      Session.turns i ((turns.map Step.turn).map Step.event) = turns.count i := by
    rw [Session.turns, List.map_map, List.countP_map, List.count]
    refine congrArg (List.countP · turns) (funext fun j => ?_)
    simp only [Function.comp, Step.event]
    rfl
  exact ⟨hrun.memory, fun i => hturns i ▸ hrun.tasks i, hrun.log⟩

theorem mem_exchangesOf {i : ι} {log : List (ι × Exchange)} {x : Exchange} :
    x ∈ exchangesOf i log ↔ (i, x) ∈ log := by
  simp [exchangesOf]

/-- Each caller's task has been taken forward by its exchanges. -/
theorem leaves_run (steps : List (Step ι)) (i : ι) :
    Leaves (requests i).task (exchangesOf i (after requests m steps).log)
      ((after requests m steps).tasks i) := by
  refine Session.run_keeps (P := fun s => ∀ i, Leaves (requests i).task (exchangesOf i s.log)
    (s.tasks i)) (fun s e _ h => ?_) (fun i => .start _) i
  cases e with
  | deed d => exact h
  | turn j =>
      have hj := h j
      cases htask : s.tasks j with
      | done o =>
          simp only [Session.next, htask]
          exact h
      | report e d =>
          rw [htask] at hj
          simp only [Session.next, htask]
          intro i
          by_cases hi : i = j
          · subst hi
            rw [Function.update_self]
            exact hj.of_report
          · rw [Function.update_of_ne hi]
            exact h i
      | ask q go =>
          rw [htask] at hj
          simp only [Session.next, htask]
          intro i
          by_cases hi : i = j
          · subst hi
            rw [Function.update_self, exchangesOf_self]
            exact hj.of_ask s.memory
          · rw [Function.update_of_ne hi, exchangesOf_of_ne hi]
            exact h i

/-- What was there at the start is there at every call, and what was there at a call is there in
the end. -/
theorem keeps_log (steps : List (Step ι)) : ∀ x ∈ (after requests m steps).log,
    m.Keeps x.2.before ∧ x.2.before.Keeps (after requests m steps).memory := by
  refine (Session.run_keeps (P := fun s => m.Keeps s.memory ∧ ∀ x ∈ s.log,
    m.Keeps x.2.before ∧ x.2.before.Keeps s.memory) (fun s e he h => ?_)
    ⟨.refl m, fun x hx => absurd hx List.not_mem_nil⟩).2
  obtain ⟨step, -, rfl⟩ := List.mem_map.mp he
  have hkeeps := keeps_next s step
  refine ⟨h.1.trans hkeeps, fun x hx => ?_⟩
  have hlog : x ∈ s.log ∨ x.2.before = s.memory := by
    cases step with
    | fault e => exact .inl hx
    | turn i =>
        simp only [Step.event, Session.next] at hx
        split at hx
        · exact .inl hx
        · exact .inl hx
        · rcases List.mem_append.mp hx with hx | hx
          · exact .inl hx
          · rw [List.mem_singleton.mp hx]
            exact .inr rfl
  rcases hlog with hx | hx
  · exact ⟨(h.2 x hx).1, (h.2 x hx).2.trans hkeeps⟩
  · rw [hx]
    exact ⟨h.1, hkeeps⟩

theorem ended_afterTurns (hm : Faultless m) {i : ι} {o : Except ClusterError SecretRef}
    (ho : (afterTurns requests m turns).tasks i = .done o) :
    Ended (requests i) (exchangesOf i (afterTurns requests m turns).log) o := by
  have hleaves : Leaves (requests i).task (exchangesOf i (afterTurns requests m turns).log)
      ((afterTurns requests m turns).tasks i) := leaves_run _ i
  rw [ho] at hleaves
  refine Request.ended hleaves fun x hx => ?_
  exact ((soon_afterTurns hm).log _ (mem_exchangesOf.mp hx)).2

/-- A secret that was missing at one call and there at another has been created. -/
theorem exists_creation (hm : m.SecretsFiled) {r : Request} {s : Secret} {steps : List (Step ι)}
    {x y : ι × Exchange} (hx : x ∈ (after requests m steps).log)
    (hy : y ∈ (after requests m steps).log) (hnone : x.2.before.secret? r.space r.name = none)
    (hs : y.2.before.secret? r.space r.name = some s) :
    ∃ z ∈ (after requests m steps).log, z.2.isCreation = true := by
  have hlast : (after requests m steps).memory.secrets.find? r.key = some s :=
    (keeps_log steps y hy).2 _ _ hs
  rcases ((provisioned_after requests hm steps).secrets _ _).mp hlast with hfirst | ⟨i, hi, -⟩
  · have hthere := (keeps_log steps x hx).1 _ _ hfirst
    exact absurd (hnone.symm.trans hthere) nofun
  · obtain ⟨z, hz, -⟩ := List.mem_map.mp hi
    exact ⟨z, List.mem_filter.mp hz⟩

/-- A caller that gets the secret has been granted what it asked for. -/
theorem Ended.granted {r : Request} {xs : List Exchange} {ref : SecretRef}
    (h : Ended r xs (.ok ref)) {x : Exchange} (hx : x ∈ xs) : x.asksCreation = x.isCreation := by
  cases h with
  | found hs =>
      rw [List.mem_singleton.mp hx]
      rfl
  | created hread hnone =>
      rcases List.mem_cons.mp hx with rfl | hx
      · rfl
      · rw [List.mem_singleton.mp hx]
        exact (creation_granted hnone).2.symm

/-- No two creations are granted for one secret. -/
theorem length_creations_le_one {space name : String} (hm : m.SecretsFiled) {steps : List (Step ι)}
    (hsame : ∀ i, (requests i).key = (space, name))
    (hgranted : ∀ x ∈ (after requests m steps).log, x.2.asksCreation = x.2.isCreation) :
    (creations (after requests m steps).log).length ≤ 1 := by
  have honce := (provisioned_after requests hm steps).once
  rw [creators, ← List.filter_congr hgranted, List.map_map] at honce
  change ((creations (after requests m steps).log).map _).Nodup at honce
  have hkeys : (creations (after requests m steps).log).map
      ((fun i => (requests i).key) ∘ fun x => x.1)
        = List.replicate (creations (after requests m steps).log).length (space, name) := by
    rw [List.eq_replicate_iff]
    refine ⟨List.length_map _, fun k hk => ?_⟩
    obtain ⟨x, -, rfl⟩ := List.mem_map.mp hk
    exact hsame x.1
  rw [hkeys] at honce
  exact List.nodup_replicate.mp honce

/-- A caller that is refused is not the only one that has asked for the creation. -/
theorem Ended.not_alone (hm : m.SecretsFiled) {steps : List (Step ι)} {i : ι} {e : ClusterError}
    (h : Ended (requests i) (exchangesOf i (after requests m steps).log) (.error e)) :
    2 ≤ (creations (after requests m steps).log).length := by
  have hmem (x : Exchange) (hx : x ∈ exchangesOf i (after requests m steps).log) :
      (i, x) ∈ (after requests m steps).log := mem_exchangesOf.mp hx
  generalize exchangesOf i (after requests m steps).log = xs at h hmem
  cases h with
  | @refused m₁ m₂ _ hread hs =>
      have hfirst := hmem _ (List.mem_cons_self ..)
      have hsecond := hmem _ (List.mem_cons_of_mem _ (List.mem_singleton_self _))
      obtain ⟨z, hz, hgranted⟩ := exists_creation hm hfirst hsecond hread hs
      have hz' : z ∈ creations (after requests m steps).log :=
        List.mem_filter.mpr ⟨hz, Exchange.asksCreation_of_isCreation hgranted⟩
      have hsecond' : (i, ⟨(requests i).creation, m₂⟩) ∈ creations (after requests m steps).log :=
        List.mem_filter.mpr ⟨hsecond, rfl⟩
      have hne : z ≠ (i, ⟨(requests i).creation, m₂⟩) := by
        rintro rfl
        rw [(creation_refused hs).2] at hgranted
        cases hgranted
      have hboth : [z, (i, ⟨(requests i).creation, m₂⟩)] ⊆ creations (after requests m steps).log :=
        List.cons_subset.mpr ⟨hz', List.cons_subset.mpr ⟨hsecond', List.nil_subset _⟩⟩
      exact (List.subperm_of_subset (by simpa using hne) hboth).length_le

/-- However callers for one secret interleave, with nothing going wrong: each is done after four
turns, and what it has come to is told by its exchanges. All of them are served exactly if no two
of them have asked for the creation, that is, if whoever comes later reads after the secret was
created. -/
theorem served_iff_one_creation {space name : String} (hm : m.Reachable)
    (hfault : m.secretFault = none) (requests : ι → Request)
    (hsame : ∀ i, (requests i).key = (space, name)) (turns : List ι) :
    let s := after requests m (turns.map .turn)
    (∀ i, 4 ≤ turns.count i → ∃ o, s.tasks i = .done o) ∧
    (∀ i o, s.tasks i = .done o → Ended (requests i) (exchangesOf i s.log) o) ∧
    ((∀ i, ∃ o, s.tasks i = .done o) →
      ((∀ i, s.tasks i = .done (.ok ⟨space, name⟩)) ↔ (creations s.log).length ≤ 1)) := by
  intro s
  have hfaultless : Faultless m := ⟨hfault, hm.secretsFiled⟩
  have hended (i : ι) (o) (ho : s.tasks i = .done o) :
      Ended (requests i) (exchangesOf i s.log) o := ended_afterTurns hfaultless ho
  refine ⟨fun i hi => ?_, hended, fun hdone => ⟨fun hserved => ?_, fun hone i => ?_⟩⟩
  · have hsoon : Within _ _ _ _ (s.tasks i) := (soon_afterTurns hfaultless).tasks i
    rw [Nat.sub_eq_zero_of_le hi] at hsoon
    obtain ⟨o, ho, -⟩ := hsoon.of_zero
    exact ⟨o, ho⟩
  · refine length_creations_le_one hm.secretsFiled hsame fun x hx => ?_
    exact (hended x.1 _ (hserved x.1)).granted (mem_exchangesOf.mpr hx)
  · have href : (requests i).ref = ⟨space, name⟩ := by
      obtain ⟨hspace, hname⟩ := Prod.mk.inj (hsame i)
      rw [Request.ref, hspace, hname]
    obtain ⟨o, ho⟩ := hdone i
    have hi := hended i o ho
    rw [ho, ← href]
    cases o with
    | error e =>
        have htwo : 2 ≤ (creations s.log).length := hi.not_alone hm.secretsFiled
        omega
    | ok ref =>
        generalize exchangesOf i s.log = xs at hi
        cases hi with
        | found hs => rfl
        | created hread hnone => rfl

/-- One after the other, both get the secret that the first has created. -/
theorem rivals_served_in_turn :
    let s := after rivals (Memory.new "c") ([true, true, true, false, false].map .turn)
    (∀ i, s.tasks i = .done (.ok ⟨"ns", "s"⟩)) ∧ (creations s.log).length = 1 := by
  intro s
  obtain ⟨-, -, hserved⟩ := served_iff_one_creation (m := Memory.new "c")
    ⟨"c", [], rfl⟩ rfl rivals (fun _ => rfl) [true, true, true, false, false]
  have hdone (i : Bool) : ∃ o, s.tasks i = .done o := by
    cases i
    · exact ⟨_, rfl⟩
    · exact ⟨_, rfl⟩
  exact ⟨(hserved hdone).mpr (by decide), by decide⟩

/-- Both read before either creates: all are done, and one of them is not served. -/
theorem rivals_not_both_served :
    ¬∀ turns : List Bool,
      let s := after rivals (Memory.new "c") (turns.map .turn)
      (∀ i, ∃ o, s.tasks i = .done o) → ∀ i, s.tasks i = .done (.ok ⟨"ns", "s"⟩) := by
  intro h
  have hserved := h [true, false, false, true, true, false, false] (fun i => by
    cases i
    · exact ⟨_, rfl⟩
    · exact ⟨_, rfl⟩) false
  cases hserved

end

end Provision

end CredRegistry
