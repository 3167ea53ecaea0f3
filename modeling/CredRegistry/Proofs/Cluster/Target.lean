import Mathlib.Data.List.TakeWhile
import CredRegistry.Cluster.ApiServer

/-!
# What requests about a config map are sent to

A config map is read and replaced under the same path (`pathOf_getRequest`,
`pathOf_replaceRequest`), and one that can be read can be replaced, but for a path that is as
long as may be: the target of a replacement is longer by the mark of a query
(`replaceRequest_of_get`).
-/

namespace CredRegistry

namespace Http

/-! ## Targets -/

def pathChars (cs : List Char) : List Char := cs.takeWhile fun c => c ≠ '?' && c ≠ '#'

def queryChars (cs : List Char) : List Char :=
  match cs.drop (pathChars cs).length with
  | '?' :: cs => '?' :: cs.takeWhile (· ≠ '#')
  | _ => []

theorem target_eq_ok {text t : String} : target text = .ok t ↔
    text.utf8ByteSize ≤ targetBound ∧ (pathChars text.toList).all isPathChar ∧
      (queryChars text.toList).all (fun c => c == '?' || isQueryChar c) ∧
      String.ofList (pathChars text.toList ++ queryChars text.toList) = t := by
  have heq : target text = if targetBound < text.utf8ByteSize then .error .tooLong
      else if (pathChars text.toList).all isPathChar &&
        (queryChars text.toList).all (fun c => c == '?' || isQueryChar c) then
          .ok (String.ofList (pathChars text.toList ++ queryChars text.toList))
      else .error .invalidCharacter := rfl
  rw [heq]
  by_cases hbound : targetBound < text.utf8ByteSize
  · rw [if_pos hbound]
    exact iff_of_false nofun fun h => absurd h.1 (Nat.not_le_of_lt hbound)
  · rw [if_neg hbound]
    split
    · next hchars =>
        rw [Bool.and_eq_true] at hchars
        exact ⟨fun h => ⟨Nat.le_of_not_lt hbound, hchars.1, hchars.2, Except.ok.inj h⟩,
          fun h => congrArg Except.ok h.2.2.2⟩
    · next hchars =>
        rw [Bool.and_eq_true] at hchars
        exact iff_of_false nofun fun h => hchars ⟨h.2.1, h.2.2.1⟩

/-- The path of a target. -/
def pathOf (t : String) : String := String.ofList (t.toList.takeWhile (· ≠ '?'))

theorem pathOf_target {text t : String} (h : target text = .ok t) :
    pathOf t = String.ofList (pathChars text.toList) := by
  obtain ⟨-, -, -, rfl⟩ := target_eq_ok.mp h
  rw [pathOf, String.toList_ofList, List.takeWhile_append_of_pos fun c hc => ?_]
  · unfold queryChars
    split <;> simp
  · exact (Bool.and_eq_true _ _ ▸ List.mem_takeWhile_imp hc : _ ∧ _).1

/-! ## The mark of a query -/

theorem pathChars_mark (cs : List Char) : pathChars (cs ++ ['?']) = pathChars cs := by
  induction cs with
  | nil => rfl
  | cons c cs ih =>
      simp only [pathChars, List.cons_append, List.takeWhile_cons] at ih ⊢
      rw [ih]

theorem all_takeWhile_mark {f : Char → Bool} (hf : f '?' = true) (cs : List Char) :
    ((cs ++ ['?']).takeWhile (· ≠ '#')).all f = (cs.takeWhile (· ≠ '#')).all f := by
  induction cs with
  | nil => simp [hf]
  | cons c cs ih =>
      simp only [List.cons_append, List.takeWhile_cons]
      split
      · rw [List.all_cons, List.all_cons, ih]
      · rfl

theorem all_queryChars_mark {f : Char → Bool} (hf : f '?' = true) (cs : List Char) :
    (queryChars (cs ++ ['?'])).all f = (queryChars cs).all f := by
  have hlength : (pathChars cs).length ≤ cs.length := (List.takeWhile_sublist _).length_le
  rw [queryChars, queryChars, pathChars_mark, List.drop_append_of_le_length hlength]
  match cs.drop (pathChars cs).length with
  | [] => simp [hf]
  | c :: cs =>
      by_cases hc : c = '?'
      · subst hc
        exact congrArg (f '?' && ·) (all_takeWhile_mark hf cs)
      · simp [hc]

theorem target_mark {text t : String} (h : target text = .ok t)
    (hsize : (text ++ "?").utf8ByteSize ≤ targetBound) : ∃ t', target (text ++ "?") = .ok t' := by
  obtain ⟨-, hpath, hquery, -⟩ := target_eq_ok.mp h
  have htext : (text ++ "?").toList = text.toList ++ ['?'] := String.toList_append
  refine ⟨_, target_eq_ok.mpr ⟨hsize, ?_, ?_, rfl⟩⟩
  · rwa [htext, pathChars_mark]
  · rwa [htext, all_queryChars_mark rfl]

end Http

namespace ApiServer

/-! ## Requests -/

/-- The path under which a config map is kept, with whatever stands in its name. -/
def pathText (space name : String) : String := collectionPath .configMap space ++ "/" ++ name

def pathOf (space name : String) : String :=
  String.ofList (Http.pathChars (pathText space name).toList)

/-- Is it such a request, and about that config map? -/
structure IsRequest (space name : String) (method : Http.Method) (body : Option Json.Value)
    (q : Http.Request) : Prop where
  method : q.method = method
  body : q.body = body
  path : Http.pathOf q.target = pathOf space name

theorem request_eq_ok {method : Http.Method} {path : String} {body : Option Json.Value}
    {q : Http.Request} (h : request method path body = .ok q) :
    ∃ t, Http.target path = .ok t ∧ q = ⟨method, t, body⟩ := by
  unfold request at h
  split at h
  · next t ht => exact ⟨t, ht, (Except.ok.inj h).symm⟩
  · cases h

theorem getRequest_eq (space name : String) : getRequest .configMap space name =
    if name.isEmpty then .error .emptyName else request .get (pathText space name) none := by
  unfold getRequest objectPath
  split <;> rfl

theorem replaceRequest_eq (space name : String) (manifest : Json.Value) :
    replaceRequest .configMap space name manifest = if name.isEmpty then .error .emptyName
      else request .put (pathText space name ++ "?") (some manifest) := by
  unfold replaceRequest objectPath
  split <;> rfl

theorem isRequest_get {space name : String} {q : Http.Request}
    (h : getRequest .configMap space name = .ok q) : IsRequest space name .get none q := by
  rw [getRequest_eq] at h
  split at h
  · cases h
  · obtain ⟨t, ht, rfl⟩ := request_eq_ok h
    exact ⟨rfl, rfl, Http.pathOf_target ht⟩

theorem isRequest_replace {space name : String} {manifest : Json.Value} {q : Http.Request}
    (h : replaceRequest .configMap space name manifest = .ok q) :
    IsRequest space name .put (some manifest) q := by
  rw [replaceRequest_eq] at h
  split at h
  · cases h
  · obtain ⟨t, ht, rfl⟩ := request_eq_ok h
    refine ⟨rfl, rfl, (Http.pathOf_target ht).trans ?_⟩
    rw [String.toList_append, pathOf]
    exact congrArg String.ofList (Http.pathChars_mark _)

/-- What can be read can be replaced. -/
theorem replaceRequest_of_get {space name : String} {q : Http.Request}
    (h : getRequest .configMap space name = .ok q)
    (hsize : (pathText space name ++ "?").utf8ByteSize ≤ Http.targetBound)
    (manifest : Json.Value) :
    ∃ q', replaceRequest .configMap space name manifest = .ok q' := by
  rw [getRequest_eq] at h
  split at h
  · cases h
  · next hname =>
      obtain ⟨t, ht, -⟩ := request_eq_ok h
      obtain ⟨t', ht'⟩ := Http.target_mark ht hsize
      refine ⟨⟨.put, t', some manifest⟩, ?_⟩
      rw [replaceRequest_eq, if_neg hname, request, ht']

end ApiServer

end CredRegistry
