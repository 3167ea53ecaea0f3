import CredRegistry.Proofs.Cluster.Versions
import Mathlib.Logic.Function.Basic

/-!
# Clients at work on one cluster

A `Session` is any number of clients with a dialogue each, and the cluster in memory that
answers them all. A turn takes one client to its next report or call; whose turn it is next
is up to the events of a run, so every interleaving is the run of some list of events. Other
parties take part through deeds.

The log keeps each call together with the cluster it was asked of: the `Exchange` then
knows its answer and what became of the cluster.
-/

namespace CredRegistry

/-! ## Dialogues between calls -/

namespace Dialogue

variable {Q : Type} {A : Q → Type} {α β γ : Type}

/-- A dialogue from its next call on: the reports in front of it are left out. -/
def quiet : Dialogue Q A α → Dialogue Q A α
  | .report _ next => next.quiet
  | d => d

theorem bind_assoc (d : Dialogue Q A α) (f : α → Dialogue Q A β) (g : β → Dialogue Q A γ) :
    d >>= f >>= g = d >>= fun a => f a >>= g := by
  change (d.bind f).bind g = d.bind fun a => (f a).bind g
  induction d with
  | done a => rfl
  | report e next ih => simp only [bind, ih]
  | ask q next ih => simp only [bind, ih]

end Dialogue

/-! ## Exchanges -/

/-- A call and the cluster it was asked of. -/
structure Exchange where
  call : ClusterCall
  before : Memory

namespace Exchange

def answer (x : Exchange) : x.call.Answer := (x.before.answer x.call).1

def after (x : Exchange) : Memory := (x.before.answer x.call).2

def isRead (x : Exchange) : Bool :=
  match x.call with
  | .getConfigMap .. => true
  | _ => false

def isUpdate (x : Exchange) : Bool :=
  match x.call with
  | .updateConfigMap _ => true
  | _ => false

def isAccepted (x : Exchange) : Bool :=
  match x.call with
  | .updateConfigMap c => (x.before.updateConfigMap c).1.isOk
  | _ => false

/-- Was a config map not replaced because of its version? -/
def isConflict (x : Exchange) : Bool :=
  match x.call with
  | .updateConfigMap c =>
      match (x.before.updateConfigMap c).1 with
      | .error e => e.isConflict
      | .ok _ => false
  | _ => false

end Exchange

/-! ## Sessions -/

/-- Clients at work, the cluster that answers them, and what was asked so far. -/
structure Session (ι α : Type) where
  memory : Memory
  tasks : ι → ClusterTask α
  log : List (ι × Exchange)

namespace Session

variable {ι α : Type} [DecidableEq ι]

/-- What happens next: a client has its turn, or somebody else does something. -/
inductive Event (ι : Type) where
  | turn (i : ι)
  | deed (d : Memory.Deed)

/-- The session after an event. A client that is done stays so. -/
def next (s : Session ι α) : Event ι → Session ι α
  | .deed d => { s with memory := s.memory.perform d }
  | .turn i =>
      match s.tasks i with
      | .done _ => s
      | .report _ task => { s with tasks := Function.update s.tasks i task }
      | .ask q go =>
          let (answer, memory) := s.memory.answer q
          { memory
            tasks := Function.update s.tasks i (go answer)
            log := s.log ++ [(i, ⟨q, s.memory⟩)] }

def run (s : Session ι α) (events : List (Event ι)) : Session ι α := events.foldl next s

theorem run_append (s : Session ι α) (events later : List (Event ι)) :
    s.run (events ++ later) = (s.run events).run later :=
  List.foldl_append

theorem run_keeps {P : Session ι α → Prop} {events : List (Event ι)}
    (hnext : ∀ s, ∀ e ∈ events, P s → P (s.next e)) :
    ∀ {s : Session ι α}, P s → P (s.run events) := by
  induction events with
  | nil => exact id
  | cons e events ih =>
      intro s h
      refine ih (fun s e he => hnext s e (List.mem_cons_of_mem _ he)) ?_
      exact hnext s e (List.mem_cons_self ..) h

theorem run_of_done (events : List (Event ι)) {s : Session ι α} {i : ι} {a : α}
    (h : s.tasks i = .done a) : (s.run events).tasks i = .done a := by
  refine run_keeps (P := fun s => s.tasks i = .done a) (fun s e _ h => ?_) h
  cases e with
  | deed d => exact h
  | turn j =>
      by_cases hj : i = j
      · subst hj
        simp only [next, h]
      · simp only [next]
        cases htask : s.tasks j <;> simp only [Function.update_of_ne hj, h]

end Session

end CredRegistry
