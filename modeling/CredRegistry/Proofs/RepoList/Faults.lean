import CredRegistry.Proofs.Cluster.Carry
import CredRegistry.Proofs.RepoList.Course

/-!
# Where reconciling fails

A call to reconcile that nobody races, on any cluster: `Listed` says which of its calls an error
comes from (`ListFault`), and that none of its updates was accepted then. `listed_attempts` shows
this of the attempts that are left, by induction on how many there are; what went before counts
only for the conflicts that were met.
-/

namespace CredRegistry.RepoList

/-- The calls that reconcile a list. -/
def IsListCall (space name : String) (q : ClusterCall) : Prop :=
  q = .getConfigMap space name ∨ ∃ c, q = .updateConfigMap c

section

variable (limit : Nat) (space name : String) (c : Credential) (secret : String)

/-- The calls that keep reconciling from succeeding, after what was asked before: the map cannot
be read, what it holds makes no list, or it cannot be written. A conflict does so only if it is
the last that is allowed. -/
inductive ListFault (before : List Exchange) : Exchange → ReconcileError → Prop where
  | read {m e} (h : (m.getConfigMap space name).1 = .error e) :
      ListFault before ⟨.getConfigMap space name, m⟩ (.cluster e)
  | text {m map e} (h : (m.getConfigMap space name).1 = .ok map)
      (he : mergedText map c secret = .error e) :
      ListFault before ⟨.getConfigMap space name, m⟩ (.malformed space name e)
  | write {m map e} (h : (m.updateConfigMap map).1 = .error e) (he : e.isConflict = false) :
      ListFault before ⟨.updateConfigMap map, m⟩ (.cluster e)
  | spent {m map e} (h : (m.updateConfigMap map).1 = .error e) (he : e.isConflict = true)
      (hlimit : (before.filter Exchange.isConflict).length + 1 = limit) :
      ListFault before ⟨.updateConfigMap map, m⟩ (.conflictExhausted space name limit)

/-- The calls that complete reconciling: the list is written, or has the host already. -/
inductive ListDone : Exchange → Prop where
  | written {m map map'} (h : (m.updateConfigMap map).1 = .ok map') :
      ListDone ⟨.updateConfigMap map, m⟩
  | found {m map} (h : (m.getConfigMap space name).1 = .ok map)
      (hmerged : mergedText map c secret = .ok none) : ListDone ⟨.getConfigMap space name, m⟩

/-- What reconciling comes to, after what was asked before. -/
structure Listed (before : List Exchange) (v : Completed Outcome) : Prop where
  calls : ∀ x ∈ v.calls, IsListCall space name x.call
  failed : ∀ e, v.result = .error e → (∀ x ∈ v.calls, x.isAccepted = false) ∧
    ∃ earlier x, v.calls = earlier ++ [x] ∧
      ListFault limit space name c secret (before ++ earlier) x e
  done : ∀ r, v.result = .ok r → ∃ earlier x, v.calls = earlier ++ [x] ∧
    ListDone space name c secret x

end

section

variable {limit : Nat} {space name : String} {c : Credential} {secret : String}

/-- Work that goes on after calls none of which was accepted. -/
theorem Listed.cons {before xs : List Exchange} {v : Completed Outcome}
    (h : Listed limit space name c secret (before ++ xs) v)
    (hxs : ∀ x ∈ xs, IsListCall space name x.call ∧ x.isAccepted = false) :
    Listed limit space name c secret before ⟨v.result, v.cluster, xs ++ v.calls⟩ where
  calls x hx := (List.mem_append.mp hx).elim (fun hx => (hxs x hx).1) (h.calls x)
  failed e he := by
    obtain ⟨hrefused, earlier, x, hcalls, hfault⟩ := h.failed e he
    refine ⟨fun y hy => ?_, xs ++ earlier, x, ?_, List.append_assoc .. ▸ hfault⟩
    · exact (List.mem_append.mp hy).elim (fun hy => (hxs y hy).2) (hrefused y)
    · simp only [hcalls, List.append_assoc]
  done r hr := by
    obtain ⟨earlier, x, hcalls, hdone⟩ := h.done r hr
    exact ⟨xs ++ earlier, x, by simp only [hcalls, List.append_assoc], hdone⟩

theorem Listed.of_fault {before : List Exchange} {x : Exchange} {e : ReconcileError} {m : Memory}
    (hx : IsListCall space name x.call) (hrefused : x.isAccepted = false)
    (hfault : ListFault limit space name c secret before x e) :
    Listed limit space name c secret before ⟨.error e, m, [x]⟩ where
  calls _ hy := List.mem_singleton.mp hy ▸ hx
  failed := by
    rintro e' ⟨rfl⟩
    refine ⟨fun _ hy => List.mem_singleton.mp hy ▸ hrefused, [], x, rfl, ?_⟩
    rwa [List.append_nil]
  done := nofun

theorem Listed.of_done {before : List Exchange} {x : Exchange} {r : Reconciled} {m : Memory}
    (hx : IsListCall space name x.call) (hdone : ListDone space name c secret x) :
    Listed limit space name c secret before ⟨.ok r, m, [x]⟩ where
  calls _ hy := List.mem_singleton.mp hy ▸ hx
  failed := nofun
  done _ _ := ⟨[], x, rfl, hdone⟩

end

/-- What is left of an attempt once the map has been read. -/
def Call.afterRead (r : Call) (space name : String) (left attempt : Nat) :
    Except ClusterError ConfigMap → ClusterTask Outcome
  | .error e => r.settle space name left attempt (.error (.cluster e))
  | .ok map =>
      match mergedText map r.credential r.secret with
      | .error e => r.settle space name left attempt (.error (.malformed space name e))
      | .ok none => r.settle space name left attempt (.ok false)
      | .ok (some text) => do
          let answer ← ClusterTask.updateConfigMap (revise map text)
          r.wrote space name answer >>= r.settle space name left attempt

theorem carry_attempts (r : Call) (space name : String) (left attempt : Nat) (m : Memory) :
    m.carry (r.attempts space name left attempt) =
      let rest := (m.getConfigMap space name).2.carry
        (r.afterRead space name left attempt (m.getConfigMap space name).1)
      ⟨rest.result, rest.cluster, ⟨.getConfigMap space name, m⟩ :: rest.calls⟩ := by
  rw [Call.attempts_eq]
  simp only [mergeOnce, Memory.carry_bind, Memory.carry_note, Memory.carry_getConfigMap,
    Call.afterRead, List.nil_append]
  cases (m.getConfigMap space name).1 with
  | error e => rfl
  | ok map =>
      dsimp only
      cases mergedText map r.credential r.secret with
      | error e => rfl
      | ok text =>
          cases text with
          | none => rfl
          | some text =>
              simp only [Memory.carry_bind, Memory.carry_updateConfigMap, revise, Call.wrote]
              cases ((m.getConfigMap space name).2.updateConfigMap
                { map with data := map.data.insert listKey text }).1 <;> rfl

/-- An attempt that has come to an update, if the attempts after it are as they should be. -/
theorem Listed.of_update {r : Call} {space name : String} {left attempt : Nat}
    {before : List Exchange} {m : Memory} {map : ConfigMap}
    (hbefore : (before.filter Exchange.isConflict).length + 1 = attempt)
    (hlimit : attempt + left = r.limit)
    (hlater : ∀ left', left = left' + 1 → ∀ before' (m' : Memory),
      (before'.filter Exchange.isConflict).length + 1 = attempt + 1 →
      Listed r.limit space name r.credential r.secret before'
        (m'.carry (r.attempts space name left' (attempt + 1)))) :
    Listed r.limit space name r.credential r.secret before
      (m.carry (ClusterTask.updateConfigMap map >>= fun answer =>
        r.wrote space name answer >>= r.settle space name left attempt)) := by
  have hupdate : IsListCall space name (.updateConfigMap map) := .inr ⟨_, rfl⟩
  simp only [Memory.carry_bind, Memory.carry_updateConfigMap]
  cases hanswer : (m.updateConfigMap map).1 with
  | ok map' =>
      simp only [Call.wrote, Call.settle, Memory.carry_bind, Memory.carry_note,
        Memory.carry_pure, List.append_nil]
      exact .of_done hupdate (.written hanswer)
  | error e =>
      have hrefused : (⟨.updateConfigMap map, m⟩ : Exchange).isAccepted = false := by
        simp only [Exchange.isAccepted, hanswer]
        rfl
      simp only [Call.wrote, Memory.carry_pure, List.nil_append]
      cases hconflict : e.isConflict with
      | false =>
          simp only [Call.settle, ReconcileError.isRetryable, hconflict, Bool.false_eq_true,
            if_false, Memory.carry_pure]
          exact .of_fault hupdate hrefused (.write hanswer hconflict)
      | true =>
          simp only [Call.settle, ReconcileError.isRetryable, hconflict, if_true]
          cases left with
          | zero =>
              obtain rfl : attempt = r.limit := hlimit
              simp only [Call.conclude, Memory.carry_bind, Memory.carry_note, Memory.carry_pure,
                List.append_nil]
              exact .of_fault hupdate hrefused (.spent hanswer hconflict hbefore)
          | succ left =>
              have hcounted : (⟨.updateConfigMap map, m⟩ : Exchange).isConflict = true := by
                simp only [Exchange.isConflict, hanswer, hconflict]
              have hone : (before ++ [(⟨.updateConfigMap map, m⟩ : Exchange)]).filter
                  Exchange.isConflict = before.filter Exchange.isConflict
                    ++ [⟨.updateConfigMap map, m⟩] := by
                rw [List.filter_append, List.filter_cons_of_pos hcounted, List.filter_nil]
              simp only [RetryPolicy.noteFailure, Memory.carry_bind, Memory.carry_note,
                List.nil_append]
              refine (hlater left rfl _ _ ?_).cons fun x hx => ?_
              · rw [hone, List.length_append, List.length_singleton, hbefore]
              · rw [List.mem_singleton.mp hx]
                exact ⟨hupdate, hrefused⟩

/-- The attempts that are left, where each before has met a conflict. By induction on their
number: an attempt ends the work, or meets one more conflict. -/
theorem listed_attempts (r : Call) (space name : String) (left : Nat) :
    ∀ (attempt : Nat) (before : List Exchange) (m : Memory),
      (before.filter Exchange.isConflict).length + 1 = attempt → attempt + left = r.limit →
      Listed r.limit space name r.credential r.secret before
        (m.carry (r.attempts space name left attempt)) := by
  induction left using Nat.strongRecOn with
  | _ left ih =>
      intro attempt before m hbefore hlimit
      have hget : IsListCall space name (.getConfigMap space name) := .inl rfl
      rw [carry_attempts]
      rcases m.getConfigMap_cases space name with ⟨-, hread⟩ | ⟨map, -, hread⟩ <;>
        simp only [hread, Call.afterRead]
      · exact .of_fault hget rfl (.read hread)
      · cases hmerged : mergedText map r.credential r.secret with
        | error e => exact .of_fault hget rfl (.text hread hmerged)
        | ok text =>
            cases text with
            | none => exact .of_done hget (.found hread hmerged)
            | some text =>
                have hnone : (before ++ [(⟨.getConfigMap space name, m⟩ : Exchange)]).filter
                    Exchange.isConflict = before.filter Exchange.isConflict := by
                  rw [List.filter_append]
                  exact List.append_nil _
                refine Listed.cons (Listed.of_update (hnone ▸ hbefore) hlimit ?_) ?_
                · rintro left' rfl before' m' hbefore'
                  exact ih left' (Nat.lt_succ_self _) _ before' m' hbefore' (by omega)
                · intro x hx
                  rw [List.mem_singleton.mp hx]
                  exact ⟨hget, rfl⟩

end CredRegistry.RepoList
