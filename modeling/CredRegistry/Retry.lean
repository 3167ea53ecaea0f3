import CredRegistry.Log

/-!
# Bounded retry

An operation is repeated without delay until it succeeds, fails for a reason that
is not worth another attempt, or has been tried as often as the policy allows.

`RetryPolicy.fixed` never allows fewer than one attempt, so there is always an
outcome to report.
-/

namespace CredRegistry

/-- How often an operation is tried. -/
structure RetryPolicy where
  maxAttempts : Nat
  positive : 0 < maxAttempts

namespace RetryPolicy

/-- At most `n` attempts in total, and at least one. -/
def fixed (n : Nat) : RetryPolicy := ⟨max n 1, by omega⟩

/-- A value and the number of attempts it took. -/
structure Success (α : Type) where
  value : α
  attempts : Nat
deriving Repr, DecidableEq

/-- Why there is no value. -/
inductive Failure (ε : Type) where
  /-- Every attempt failed for a reason worth another one. -/
  | exhausted (attempts : Nat) (last : ε)
  /-- An attempt failed for another reason. -/
  | aborted (attempt : Nat) (error : ε)
deriving Repr, DecidableEq

variable {m : Type → Type} [Monad m] [Log.MonadLog m] {ε α : Type}

def logTarget : String := "gitops_creds::gitops::retry"

/-- Report that an attempt failed and will be repeated. -/
def noteFailure (p : RetryPolicy) (attempt : Nat) (message : String) : m Unit :=
  Log.note .warn logTarget s!"Attempt {attempt}/{p.maxAttempts} failed, retrying: {message}"

/-- The attempts from number `attempt` on, `left` more after it. -/
def attemptFrom (p : RetryPolicy) (operation : Nat → m (Except ε α)) (retryable : ε → Bool)
    (message : ε → String) : (left attempt : Nat) → m (Except (Failure ε) (Success α))
  | left, attempt => do
      match ← operation attempt with
      | .ok value => pure (.ok ⟨value, attempt⟩)
      | .error e =>
          if retryable e then
            match left with
            | 0 => pure (.error (.exhausted attempt e))
            | left + 1 => do
                p.noteFailure attempt (message e)
                attemptFrom p operation retryable message left (attempt + 1)
          else pure (.error (.aborted attempt e))

/-- Try `operation`, which is told the number of the attempt, beginning with one. -/
def run (p : RetryPolicy) (operation : Nat → m (Except ε α)) (retryable : ε → Bool)
    (message : ε → String) : m (Except (Failure ε) (Success α)) :=
  p.attemptFrom operation retryable message (p.maxAttempts - 1) 1

end RetryPolicy

end CredRegistry
