import CredRegistry.Log

/-!
# Dialogues

Work that depends on answers from outside, kept as data: a `Dialogue` is done, or
reports something, or asks a call and goes on with the answer. Whoever answers the
calls decides in what state of the world each of them is met, so several dialogues
can be taken forward in any order.

`run` carries a dialogue through with an answer for every call. `run_bind` says
that the parts of a dialogue are run one after the other.
-/

namespace CredRegistry

/-- Work that asks calls `q : Q` and expects an answer of type `A q` to each. -/
inductive Dialogue (Q : Type) (A : Q → Type) (α : Type) where
  | done (a : α)
  | report (e : Log.Event) (next : Dialogue Q A α)
  | ask (q : Q) (next : A q → Dialogue Q A α)

namespace Dialogue

variable {Q : Type} {A : Q → Type} {α β : Type}

def bind (d : Dialogue Q A α) (f : α → Dialogue Q A β) : Dialogue Q A β :=
  match d with
  | .done a => f a
  | .report e next => .report e (next.bind f)
  | .ask q next => .ask q fun a => (next a).bind f

instance : Monad (Dialogue Q A) where
  pure := .done
  bind := bind

instance : Log.MonadLog (Dialogue Q A) where
  report e := .report e (.done ())

def call (q : Q) : Dialogue Q A (A q) := .ask q .done

/-- Carry a dialogue through, given an answer for every call. -/
def run {m : Type → Type} [Monad m] (answer : (q : Q) → m (A q)) (report : Log.Event → m Unit) :
    Dialogue Q A α → m α
  | .done a => pure a
  | .report e next => do
      report e
      next.run answer report
  | .ask q next => do
      let a ← answer q
      (next a).run answer report

/-- Carry a dialogue through by means of calls of another kind. -/
def relay {Q' : Type} {A' : Q' → Type} (answer : (q : Q) → Dialogue Q' A' (A q))
    (d : Dialogue Q A α) : Dialogue Q' A' α :=
  d.run answer Log.report

/-- Running one dialogue after another. -/
theorem run_bind {m : Type → Type} [Monad m] [LawfulMonad m] (answer : (q : Q) → m (A q))
    (report : Log.Event → m Unit) (d : Dialogue Q A α) (f : α → Dialogue Q A β) :
    (d >>= f).run answer report = d.run answer report >>= fun a => (f a).run answer report := by
  change (d.bind f).run answer report = _
  induction d with
  | done a => simp [bind, run]
  | report e next ih => simp [bind, run, ih]
  | ask q next ih => simp [bind, run, ih]

end Dialogue

end CredRegistry
