import CredRegistry.Dialogue
import CredRegistry.Retry
import Mathlib.Data.List.Range

/-!
# The course of a retried operation

An operation that is retried is known by its script: what comes of each attempt, by number.
`follow` carries the work out by a script and keeps the numbers that were asked for, so
`run_follows_script` can say both what a run comes to and which attempts it makes: one after the
other from the first, up to the first whose outcome is final (`IsFinal`) or to the last that is
allowed.

A policy counts the attempts down that are left. `Loops` is a loop that does not: it counts up in
a word of 32 bits, compares the word with the limit after an attempt has failed, and ends only if
one of its turns does. `loops_followFrom` shows that this loop does end, with the same attempts
and the same result, so the word never passes its greatest value.
-/

namespace CredRegistry.RetryPolicy

variable {ε α β : Type}

/-! ## Scripts -/

/-- Carry work out by a script: its result, and the attempts made so far. What it reports is
passed over. -/
def follow (script : Nat → Except ε α) (work : Dialogue Nat (fun _ => Except ε α) β)
    (made : List Nat) : β × List Nat :=
  work.run (m := StateM (List Nat)) (fun attempt made => (script attempt, made ++ [attempt]))
    (fun _ => pure ()) made

/-- No other attempt is made after this outcome: it is a value, or an error not worth one. -/
def IsFinal (retryable : ε → Bool) : Except ε α → Prop
  | .ok _ => True
  | .error e => retryable e = false

/-- The result of a run whose last outcome is final. -/
def ending (attempt : Nat) : Except ε α → Except (Failure ε) (Success α)
  | .ok value => .ok ⟨value, attempt⟩
  | .error e => .error (.aborted attempt e)

theorem retryable_of_not_isFinal {retryable : ε → Bool} {outcome : Except ε α}
    (h : ¬IsFinal retryable outcome) : ∃ e, outcome = .error e ∧ retryable e = true := by
  cases outcome with
  | ok value => exact absurd trivial h
  | error e => exact ⟨e, rfl, by simpa [IsFinal] using h⟩

section

variable (script : Nat → Except ε α)

theorem follow_call (attempt : Nat) (f : Except ε α → Dialogue Nat (fun _ => Except ε α) β)
    (made : List Nat) : follow script (Dialogue.call attempt >>= f) made
      = follow script (f (script attempt)) (made ++ [attempt]) := rfl

theorem follow_noteFailure (p : RetryPolicy) (attempt : Nat) (message : String)
    (work : Dialogue Nat (fun _ => Except ε α) β) (made : List Nat) :
    follow script (p.noteFailure attempt message >>= fun _ => work) made
      = follow script work made := rfl

variable (p : RetryPolicy) (retryable : ε → Bool) (message : ε → String)

/-- The attempts of a policy from one on, with so many left after it. -/
def followFrom (left attempt : Nat) (made : List Nat) :
    Except (Failure ε) (Success α) × List Nat :=
  follow script (p.attemptFrom Dialogue.call retryable message left attempt) made

end

section

variable {p : RetryPolicy} {script : Nat → Except ε α} {retryable : ε → Bool}
  {message : ε → String} {left attempt : Nat} {made : List Nat}

/-! ## Attempts -/

theorem followFrom_of_isFinal (h : IsFinal retryable (script attempt)) :
    p.followFrom script retryable message left attempt made
      = (ending attempt (script attempt), made ++ [attempt]) := by
  rw [followFrom, attemptFrom, follow_call]
  cases hs : script attempt with
  | ok value => rfl
  | error e =>
      rw [hs] at h
      have he : retryable e = false := h
      simp only [he, Bool.false_eq_true, if_false]
      rfl

theorem followFrom_zero {e : ε} (hs : script attempt = .error e) (he : retryable e = true) :
    p.followFrom script retryable message 0 attempt made
      = (.error (.exhausted attempt e), made ++ [attempt]) := by
  rw [followFrom, attemptFrom, follow_call, hs]
  simp only [he, if_true]
  rfl

theorem followFrom_succ (h : ¬IsFinal retryable (script attempt)) :
    p.followFrom script retryable message (left + 1) attempt made
      = p.followFrom script retryable message left (attempt + 1) (made ++ [attempt]) := by
  obtain ⟨e, hs, he⟩ := retryable_of_not_isFinal h
  rw [followFrom, attemptFrom, follow_call, hs]
  simp only [he, if_true]
  rw [follow_noteFailure, followFrom]

theorem range'_of_le {attempt m : Nat} (h : attempt ≤ m) :
    List.range' attempt (m + 1 - attempt)
      = attempt :: List.range' (attempt + 1) (m + 1 - (attempt + 1)) := by
  rw [show m + 1 - attempt = m + 1 - (attempt + 1) + 1 by omega, List.range'_succ]

/-- The attempts go on up to the first final outcome, if it comes in time. -/
theorem followFrom_ends {m : Nat} (hfinal : IsFinal retryable (script m)) (left : Nat) :
    ∀ (attempt : Nat) (made : List Nat), attempt ≤ m → m ≤ attempt + left →
      (∀ i, attempt ≤ i → i < m → ¬IsFinal retryable (script i)) →
      p.followFrom script retryable message left attempt made
        = (ending m (script m), made ++ List.range' attempt (m + 1 - attempt)) := by
  induction left with
  | zero =>
      intro attempt made hstart hleft _
      obtain rfl : attempt = m := by omega
      rw [followFrom_of_isFinal hfinal, range'_of_le hstart, Nat.sub_self]
      rfl
  | succ left ih =>
      intro attempt made hstart hleft hbefore
      rw [range'_of_le hstart]
      rcases Nat.eq_or_lt_of_le hstart with rfl | hlater
      · rw [followFrom_of_isFinal hfinal, Nat.sub_self]
        rfl
      · rw [followFrom_succ (hbefore attempt (Nat.le_refl _) hlater),
          ih _ _ hlater (by omega) fun i hi => hbefore i (by omega), List.append_assoc]
        rfl

/-- Without a final outcome all attempts are made that are left. -/
theorem followFrom_exhausts {n : Nat} (left : Nat) :
    ∀ (attempt : Nat) (made : List Nat), attempt + left = n →
      (∀ i, attempt ≤ i → i ≤ n → ¬IsFinal retryable (script i)) →
      ∃ e, script n = .error e ∧
        p.followFrom script retryable message left attempt made
          = (.error (.exhausted n e), made ++ List.range' attempt (n + 1 - attempt)) := by
  induction left with
  | zero =>
      rintro attempt made rfl hnone
      obtain ⟨e, hs, he⟩ := retryable_of_not_isFinal (hnone attempt (by omega) (by omega))
      refine ⟨e, hs, ?_⟩
      rw [range'_of_le (Nat.le_refl _), Nat.add_zero, Nat.sub_self]
      exact followFrom_zero hs he
  | succ left ih =>
      intro attempt made hn hnone
      obtain ⟨e, hs, hrun⟩ := ih (attempt + 1) (made ++ [attempt]) (by omega)
        fun i hi => hnone i (by omega)
      refine ⟨e, hs, ?_⟩
      have hattempt : attempt ≤ n := by omega
      rw [followFrom_succ (hnone attempt (Nat.le_refl _) hattempt), hrun, range'_of_le hattempt,
        List.append_assoc]
      rfl

end

/-! ## A loop that counts in a word -/

/-- One turn of a loop that counts its attempts up: it goes on with the counter or has a
result. -/
def turn (limit : UInt32) (script : Nat → Except ε α) (retryable : ε → Bool) (counter : UInt32) :
    UInt32 ⊕ Except (Failure ε) (Success α) :=
  let attempt := counter + 1
  match script attempt.toNat with
  | .ok value => .inr (.ok ⟨value, attempt.toNat⟩)
  | .error e =>
      if retryable e then
        if limit ≤ attempt then .inr (.error (.exhausted attempt.toNat e)) else .inl attempt
      else .inr (.error (.aborted attempt.toNat e))

/-- The loop ends: the attempts it makes from a counter on, and its result. -/
inductive Loops (limit : UInt32) (script : Nat → Except ε α) (retryable : ε → Bool) :
    UInt32 → List Nat → Except (Failure ε) (Success α) → Prop where
  | last {counter result} (h : turn limit script retryable counter = .inr result) :
      Loops limit script retryable counter [(counter + 1).toNat] result
  | again {counter counter' made result} (h : turn limit script retryable counter = .inl counter')
      (hrest : Loops limit script retryable counter' made result) :
      Loops limit script retryable counter ((counter + 1).toNat :: made) result

section

variable {limit counter : UInt32} {script : Nat → Except ε α} {retryable : ε → Bool}

theorem toNat_succ (limit : UInt32) (h : counter.toNat < limit.toNat) :
    (counter + 1).toNat = counter.toNat + 1 := by
  have hlimit : limit.toNat < 2 ^ 32 := limit.toNat_lt
  rw [UInt32.toNat_add, UInt32.toNat_one]
  omega

/-- After its first attempt a loop has as many left as the policy with its limit. -/
theorem toNat_limit (maxAttempts : UInt32) :
    (0 : UInt32).toNat + 1 + (max maxAttempts.toNat 1 - 1) = (max maxAttempts 1).toNat := by
  have hzero : (0 : UInt32).toNat = 0 := rfl
  have hone : (1 : UInt32).toNat = 1 := rfl
  by_cases h : maxAttempts ≤ 1
  · have := UInt32.le_iff_toNat_le.mp h
    rw [show max maxAttempts 1 = 1 from if_pos h]
    omega
  · have : ¬maxAttempts.toNat ≤ (1 : UInt32).toNat := mt UInt32.le_iff_toNat_le.mpr h
    rw [show max maxAttempts 1 = maxAttempts from if_neg h]
    omega

theorem turn_of_isFinal (h : IsFinal retryable (script (counter + 1).toNat)) :
    turn limit script retryable counter
      = .inr (ending (counter + 1).toNat (script (counter + 1).toNat)) := by
  cases hs : script (counter + 1).toNat with
  | ok value => simp only [turn, hs, ending]
  | error e =>
      rw [hs] at h
      have he : retryable e = false := h
      simp only [turn, hs, he, Bool.false_eq_true, if_false, ending]

theorem turn_of_retryable {e : ε} (hs : script (counter + 1).toNat = .error e)
    (he : retryable e = true) : turn limit script retryable counter =
      if limit ≤ counter + 1 then .inr (.error (.exhausted (counter + 1).toNat e))
      else .inl (counter + 1) := by
  simp only [turn, hs, he, if_true]

/-- The loop makes the attempts of a policy that has as many left as there are up to the
limit. -/
theorem loops_followFrom {p : RetryPolicy} {message : ε → String} (left : Nat) :
    ∀ (counter : UInt32) (made : List Nat), counter.toNat + 1 + left = limit.toNat →
      ∃ later, (p.followFrom script retryable message left (counter.toNat + 1) made).2
          = made ++ later ∧
        Loops limit script retryable counter later
          (p.followFrom script retryable message left (counter.toNat + 1) made).1 := by
  induction left with
  | zero =>
      intro counter made hleft
      have hword : (counter + 1).toNat = counter.toNat + 1 := toNat_succ limit (by omega)
      refine ⟨[counter.toNat + 1], ?_⟩
      rw [← hword]
      by_cases hfinal : IsFinal retryable (script (counter + 1).toNat)
      · rw [followFrom_of_isFinal hfinal]
        exact ⟨rfl, .last (turn_of_isFinal hfinal)⟩
      · obtain ⟨e, hs, he⟩ := retryable_of_not_isFinal hfinal
        have hlimit : limit ≤ counter + 1 := UInt32.le_iff_toNat_le.mpr (by omega)
        rw [followFrom_zero hs he]
        exact ⟨rfl, .last ((turn_of_retryable hs he).trans (if_pos hlimit))⟩
  | succ left ih =>
      intro counter made hleft
      have hword : (counter + 1).toNat = counter.toNat + 1 := toNat_succ limit (by omega)
      rw [← hword]
      by_cases hfinal : IsFinal retryable (script (counter + 1).toNat)
      · rw [followFrom_of_isFinal hfinal]
        exact ⟨_, rfl, .last (turn_of_isFinal hfinal)⟩
      · obtain ⟨e, hs, he⟩ := retryable_of_not_isFinal hfinal
        have hlimit : ¬limit ≤ counter + 1 := fun hle => by
          have := UInt32.le_iff_toNat_le.mp hle
          omega
        obtain ⟨later, hmade, hloops⟩ :=
          ih (counter + 1) (made ++ [(counter + 1).toNat]) (by omega)
        rw [followFrom_succ hfinal]
        refine ⟨(counter + 1).toNat :: later, ?_, ?_⟩
        · rw [hmade, List.append_assoc]
          rfl
        · exact .again ((turn_of_retryable hs he).trans (if_neg hlimit)) hloops

end

/-! ## Runs -/

/-- Of some outcomes one is the first that is final, or none is. -/
theorem first_final (script : Nat → Except ε α) (retryable : ε → Bool) (n : Nat) :
    (∃ m, 1 ≤ m ∧ m ≤ n ∧ IsFinal retryable (script m) ∧
      ∀ k, 1 ≤ k → k < m → ¬IsFinal retryable (script k)) ∨
    ∀ k, 1 ≤ k → k ≤ n → ¬IsFinal retryable (script k) := by
  induction n with
  | zero => exact .inr fun k hk hk' => by omega
  | succ n ih =>
      rcases ih with ⟨m, hm, hmn, hfinal, hbefore⟩ | hnone
      · exact .inl ⟨m, hm, by omega, hfinal, hbefore⟩
      · by_cases hlast : IsFinal retryable (script (n + 1))
        · refine .inl ⟨n + 1, by omega, Nat.le_refl _, hlast, fun k hk hkn => ?_⟩
          exact hnone k hk (by omega)
        · refine .inr fun k hk hkn => ?_
          rcases Nat.eq_or_lt_of_le hkn with rfl | hlt
          · exact hlast
          · exact hnone k hk (by omega)

/-- A policy makes the attempts of its script one after the other, from the first to the first
that is final or else to the last that is allowed, and comes to what that one says. A loop that
counts them in a word of 32 bits ends and does the same. -/
theorem run_follows_script (maxAttempts : UInt32) (script : Nat → Except ε α)
    (retryable : ε → Bool) (message : ε → String) :
    let n := max maxAttempts.toNat 1
    let outcome := follow script ((fixed maxAttempts.toNat).run Dialogue.call retryable message) []
    (∀ m, 1 ≤ m → m ≤ n → IsFinal retryable (script m) →
        (∀ k, 1 ≤ k → k < m → ¬IsFinal retryable (script k)) →
        outcome = (ending m (script m), List.range' 1 m)) ∧
      ((∀ k, 1 ≤ k → k ≤ n → ¬IsFinal retryable (script k)) →
        ∃ e, script n = .error e ∧ outcome = (.error (.exhausted n e), List.range' 1 n)) ∧
      Loops (max maxAttempts 1) script retryable 0 outcome.2 outcome.1 ∧
      ∀ k ∈ outcome.2, 1 ≤ k ∧ k ≤ n := by
  intro n outcome
  have houtcome : outcome
      = (fixed maxAttempts.toNat).followFrom script retryable message (n - 1) 1 [] := rfl
  have hends (m : Nat) (hm : 1 ≤ m) (hmn : m ≤ n) (hfinal : IsFinal retryable (script m))
      (hbefore : ∀ k, 1 ≤ k → k < m → ¬IsFinal retryable (script k)) :
      outcome = (ending m (script m), List.range' 1 m) :=
    houtcome.trans (followFrom_ends hfinal (n - 1) 1 [] hm (by omega) hbefore)
  have hexhausts (hnone : ∀ k, 1 ≤ k → k ≤ n → ¬IsFinal retryable (script k)) :
      ∃ e, script n = .error e ∧ outcome = (.error (.exhausted n e), List.range' 1 n) := by
    obtain ⟨e, hs, hrun⟩ := followFrom_exhausts (n - 1) 1 [] (by omega) hnone
    exact ⟨e, hs, houtcome.trans hrun⟩
  have hloops : Loops (max maxAttempts 1) script retryable 0 outcome.2 outcome.1 := by
    obtain ⟨later, hmade, hrest⟩ := loops_followFrom (n - 1) 0 [] (toNat_limit maxAttempts)
    rw [houtcome]
    exact hmade ▸ hrest
  refine ⟨hends, hexhausts, hloops, fun k hk => ?_⟩
  -- In either case the attempts are an initial stretch of the numbers that are allowed.
  rcases first_final script retryable n with ⟨m, hm, hmn, hfinal, hbefore⟩ | hnone
  · rw [hends m hm hmn hfinal hbefore, List.mem_range'_1] at hk
    omega
  · obtain ⟨e, -, hrun⟩ := hexhausts hnone
    rw [hrun, List.mem_range'_1] at hk
    omega

/-- An operation that meets a conflict until the attempt that is given, and then succeeds with
its number. -/
def contested (free : Nat) (attempt : Nat) : Except String Nat :=
  if attempt < free then .error "conflict" else .ok attempt

/-- The run of an operation that is contested twice, with so many attempts allowed. -/
def contestedRun (maxAttempts : UInt32) : Except (Failure String) (Success Nat) × List Nat :=
  follow (contested 3) ((fixed maxAttempts.toNat).run Dialogue.call (· == "conflict") id) []

/-- Contested twice, an operation succeeds at its third attempt, with three allowed and with as
many as a word can say. With none allowed it is tried once. -/
theorem contested_follows_script :
    contestedRun 3 = (.ok ⟨3, 3⟩, [1, 2, 3]) ∧
      contestedRun 4294967295 = (.ok ⟨3, 3⟩, [1, 2, 3]) ∧
      contestedRun 0 = (.error (.exhausted 1 "conflict"), [1]) := by
  have hfinal : IsFinal (· == "conflict") (contested 3 3) := trivial
  have hbefore (k : Nat) (_ : 1 ≤ k) (hk : k < 3) :
      ¬IsFinal (· == "conflict") (contested 3 k) := by
    simp [contested, hk, IsFinal]
  refine ⟨?_, ?_, ?_⟩
  · exact (run_follows_script 3 (contested 3) (· == "conflict") id).1 3 (by decide) (by decide)
      hfinal hbefore
  · exact (run_follows_script 4294967295 (contested 3) (· == "conflict") id).1 3 (by decide)
      (by decide) hfinal hbefore
  · have hnone (k : Nat) (hk : 1 ≤ k) (hn : k ≤ max (0 : UInt32).toNat 1) :
        ¬IsFinal (· == "conflict") (contested 3 k) :=
      hbefore k hk (Nat.lt_of_le_of_lt hn (by decide))
    obtain ⟨e, hs, hrun⟩ :=
      (run_follows_script 0 (contested 3) (· == "conflict") id).2.1 hnone
    cases hs
    exact hrun

end CredRegistry.RetryPolicy
