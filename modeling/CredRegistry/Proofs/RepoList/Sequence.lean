import CredRegistry.Proofs.RepoList.Course
import CredRegistry.Proofs.RepoList.RoundTrip
import Mathlib.Data.List.Induction
import Mathlib.Data.List.Nodup

/-!
# What a sequence of merges comes to

Any number of credentials merged into a list one after the other give the list with which they
began, the first entry of each host that was merged being pointed at the last secret for it
(`kept`), and behind it one entry for each host that was not in it (`newcomers`), in the order in
which the hosts first came up. An entry that came in by a single merge holds what its credential
says; from the second merge of its host on, it points at the secret like all the others.

The three cases of one more merge are in `kept_snoc`, `newHosts_snoc` and `newcomer_snoc`; one merge
is spelt out position by position in `merge_fst`.
-/

namespace CredRegistry.RepoList

/-- A credential to be merged, with the name of the secret for it. -/
abbrev Merge := Credential × String

def Merge.host (m : Merge) : String := m.1.host

/-! ## The result, without merging -/

section

variable (es : List Entry) (merges : List Merge) (host : String)

/-- The merges of one host, in order. -/
def forHost : List Merge := merges.filter (·.host = host)

/-- A reference to a key of a secret in place of another, whose extra fields stay. -/
def refTo (secret key : String) (old : Option SecretKeyRef) : Option SecretKeyRef :=
  some ⟨secret, key, (old.map (·.extra)).getD ∅⟩

/-- An entry whose references are to a secret; its URL and extra fields stay. -/
def Entry.pointedAt (e : Entry) (secret : String) : Entry :=
  ⟨e.url, refTo secret "username" e.usernameSecret, refTo secret "password" e.passwordSecret,
    e.extra⟩

/-- What becomes of the entry at a place: it is pointed at the last secret for its host if no
earlier entry has its URL. -/
def keptAt (i : Nat) (e : Entry) : Entry :=
  match (forHost merges e.url).getLast? with
  | some m => if indexOf? e.url es = some i then e.pointedAt m.2 else e
  | none => e

/-- The entries that were in the list. -/
def kept : List Entry := es.mapIdx (keptAt es merges)

/-- The hosts that were not in the list, in the order in which they come up. -/
def newHosts : List String :=
  ((merges.map Merge.host).filter fun host => !es.any (·.url == host)).eraseDups

/-- An entry without extra fields. -/
def Entry.plain (username password : String) : Entry :=
  ⟨host, some ⟨username, "username", ∅⟩, some ⟨password, "password", ∅⟩, ∅⟩

/-- The entry of a host that was not in the list. -/
def newcomer : Entry :=
  match forHost merges host with
  | [m] => .plain host m.1.username m.1.token
  | ms =>
      let secret := (ms.getLast?.map (·.2)).getD ""
      .plain host secret secret

/-- The entries that are new. -/
def newcomers : List Entry := (newHosts es merges).map (newcomer merges)

end

/-! ## One merge -/

theorem Entry.repoint_eq (e : Entry) (secret : String) : e.repoint secret = e.pointedAt secret := by
  obtain ⟨url, username, password, extra⟩ := e
  cases username <;> cases password <;> rfl

/-- An index is that of the first entry with the URL. -/
theorem indexOf?_eq_some {host : String} {es : List Entry} {i : Nat} :
    indexOf? host es = some i ↔
      ∃ h : i < es.length, es[i].url = host ∧ ∀ j (hj : j < i), es[j].url ≠ host := by
  simp [indexOf?, List.findIdx?_eq_some_iff_getElem]

/-- A merge, position by position. -/
theorem merge_fst (es : List Entry) (c : Credential) (secret : String) :
    (merge es c secret).1
      = (es.mapIdx fun i e => if indexOf? c.host es = some i then e.pointedAt secret else e)
        ++ if indexOf? c.host es = none then [.ofCredential c] else [] := by
  unfold merge
  cases hindex : indexOf? c.host es with
  | none =>
      have hsame : (es.mapIdx fun i e => if none = some i then e.pointedAt secret else e) = es := by
        refine List.ext_getElem? fun i => ?_
        simp
      rw [hsame, if_pos rfl]
  | some i =>
      rw [if_neg nofun, List.append_nil]
      refine List.ext_getElem? fun j => ?_
      rw [List.getElem?_modify, List.getElem?_mapIdx]
      cases es[j]? with
      | none => rfl
      | some e =>
          by_cases hij : i = j
          · simp only [hij, if_true, Option.map_some, Entry.repoint_eq]
            rfl
          · simp [hij]

/-! ## One more merge -/

section

variable {es : List Entry} {merges : List Merge} {m : Merge} {host : String}

theorem forHost_snoc : forHost (merges ++ [m]) host
    = forHost merges host ++ if m.host = host then [m] else [] := by
  by_cases hm : m.host = host <;> simp [forHost, hm]

theorem forHost_eq_nil : forHost merges host = [] ↔ ∀ m ∈ merges, m.host ≠ host := by
  simp [forHost, List.filter_eq_nil_iff]

/-! ### Entries that were there -/

theorem keptAt_snoc {i : Nat} {e : Entry} (he : es[i]? = some e) :
    keptAt es (merges ++ [m]) i e =
      if indexOf? m.host es = some i then (keptAt es merges i e).pointedAt m.2
      else keptAt es merges i e := by
  have hlast : (forHost (merges ++ [m]) e.url).getLast?
      = if m.host = e.url then some m else (forHost merges e.url).getLast? := by
    rw [forHost_snoc]
    by_cases hm : m.host = e.url <;> simp [hm]
  by_cases hm : m.host = e.url
  · rw [keptAt, hlast, if_pos hm, hm]
    by_cases hfirst : indexOf? e.url es = some i
    · simp only [if_pos hfirst, keptAt]
      split <;> rfl
    · simp only [if_neg hfirst, keptAt]
      split <;> rfl
  · have hindex : indexOf? m.host es ≠ some i := by
      intro h
      obtain ⟨hi, hurl, -⟩ := indexOf?_eq_some.mp h
      rw [List.getElem?_eq_getElem hi] at he
      cases he
      exact hm hurl.symm
    rw [keptAt, hlast, if_neg hm, if_neg hindex, keptAt]

theorem kept_snoc : kept es (merges ++ [m])
    = (kept es merges).mapIdx fun i e =>
        if indexOf? m.host es = some i then e.pointedAt m.2 else e := by
  refine List.ext_getElem? fun i => ?_
  simp only [kept, List.getElem?_mapIdx]
  cases he : es[i]? with
  | none => rfl
  | some e => exact congrArg some (keptAt_snoc he)

theorem url_keptAt (i : Nat) (e : Entry) : (keptAt es merges i e).url = e.url := by
  unfold keptAt
  split
  · split <;> rfl
  · rfl

theorem length_kept : (kept es merges).length = es.length := List.length_mapIdx

theorem map_url_kept (es : List Entry) (merges : List Merge) :
    (kept es merges).map Entry.url = es.map Entry.url := by
  refine List.ext_getElem? fun i => ?_
  simp only [kept, List.getElem?_map, List.getElem?_mapIdx, Option.map_map]
  exact congrArg (Option.map · es[i]?) (funext fun e => url_keptAt i e)

theorem indexOf?_kept : indexOf? host (kept es merges) = indexOf? host es := by
  have hindex (l : List Entry) :
      indexOf? host l = (l.map Entry.url).findIdx? fun url => url == host := by
    rw [List.findIdx?_map]
    rfl
  rw [hindex, map_url_kept, ← hindex]

/-! ### New entries -/

theorem mem_newHosts : host ∈ newHosts es merges ↔
    forHost merges host ≠ [] ∧ indexOf? host es = none := by
  rw [newHosts, List.mem_eraseDups, List.mem_filter, indexOf?_eq_none, Ne, forHost_eq_nil]
  simp

theorem newHosts_snoc : newHosts es (merges ++ [m]) = newHosts es merges
    ++ if indexOf? m.host es = none ∧ m.host ∉ newHosts es merges then [m.host] else [] := by
  rw [newHosts, List.map_append, List.filter_append, List.eraseDups_append, ← newHosts]
  refine congrArg (newHosts es merges ++ ·) ?_
  have hany : es.any (·.url == m.host) = (indexOf? m.host es).isSome := by
    rw [indexOf?, List.findIdx?_isSome]
  cases hes : indexOf? m.host es with
  | some i =>
      rw [if_neg fun h => Option.some_ne_none i h.1]
      simp [hany, hes]
  | none =>
      have hmem : m.host ∈ newHosts es merges ↔
          m.host ∈ (merges.map Merge.host).filter fun host => !es.any (·.url == host) :=
        List.mem_eraseDups
      by_cases hms : m.host ∈ newHosts es merges
      · rw [if_neg fun h => h.2 hms]
        simp [hany, hes, List.removeAll, hmem.mp hms]
      · rw [if_pos ⟨rfl, hms⟩]
        simp [hany, hes, List.removeAll, mt hmem.mpr hms]
        rfl

theorem nodup_newHosts (es : List Entry) (merges : List Merge) : (newHosts es merges).Nodup := by
  induction merges using List.reverseRecOn with
  | nil => exact List.nodup_nil
  | append_singleton merges m ih =>
      rw [newHosts_snoc]
      split
      next hnew =>
        rw [List.nodup_append]
        refine ⟨ih, by simp, fun a ha b hb => ?_⟩
        rintro rfl
        rw [List.mem_singleton] at hb
        exact hnew.2 (hb ▸ ha)
      next => rwa [List.append_nil]

theorem url_newcomer : (newcomer merges host).url = host := by
  unfold newcomer
  split <;> rfl

theorem newcomer_of_later {earlier : List Merge} (hearlier : earlier ≠ [])
    (hms : forHost merges host = earlier ++ [m]) : newcomer merges host = .plain host m.2 m.2 := by
  unfold newcomer
  split
  next only honly =>
    rw [hms] at honly
    exact absurd (List.append_eq_singleton_iff.mp honly) (by simp [hearlier])
  next => simp only [hms, List.getLast?_concat, Option.map_some, Option.getD_some]

/-- The entry of a new host after another merge for it points at the secret. -/
theorem newcomer_snoc (hhost : forHost merges host ≠ []) :
    newcomer (merges ++ [m]) host =
      if m.host = host then (newcomer merges host).pointedAt m.2 else newcomer merges host := by
  by_cases hm : m.host = host
  · have hpointed : (newcomer merges host).pointedAt m.2 = .plain host m.2 m.2 := by
      unfold newcomer
      split <;> rfl
    rw [if_pos hm, hpointed]
    exact newcomer_of_later hhost (by rw [forHost_snoc, if_pos hm])
  · rw [if_neg hm, newcomer, forHost_snoc, if_neg hm, List.append_nil]
    rfl

theorem newcomer_first (hhost : forHost merges m.host = []) :
    newcomer (merges ++ [m]) m.host = .ofCredential m.1 := by
  rw [newcomer, forHost_snoc, hhost, if_pos rfl]
  rfl

/-! ### The whole list -/

/-- Where the entry of a host is: the old entries come first. -/
theorem indexOf?_both : indexOf? host (kept es merges ++ newcomers es merges)
    = (indexOf? host es).or
        (((newHosts es merges).findIdx? (· == host)).map fun i => i + es.length) := by
  have hnew : indexOf? host (newcomers es merges) = (newHosts es merges).findIdx? (· == host) := by
    rw [indexOf?, newcomers, List.findIdx?_map]
    refine congrArg (List.findIdx? · (newHosts es merges)) (funext fun h => ?_)
    simp only [Function.comp, url_newcomer]
  have hold : indexOf? host (kept es merges) = indexOf? host es := indexOf?_kept
  rw [indexOf?, List.findIdx?_append, ← indexOf?, ← indexOf?, hold, hnew, length_kept]

theorem indexOf?_both_of_lt {i : Nat} (hi : i < es.length) :
    indexOf? host (kept es merges ++ newcomers es merges) = some i ↔ indexOf? host es = some i := by
  rw [indexOf?_both]
  cases hes : indexOf? host es with
  | some k => rw [Option.some_or]
  | none =>
      rw [Option.none_or, Option.map_eq_some_iff]
      constructor
      · rintro ⟨k, -, rfl⟩
        omega
      · exact nofun

/-- A new host has one entry, so the first of its entries is the one. -/
theorem indexOf?_both_add {i : Nat} {h : String} (hi : (newHosts es merges)[i]? = some h) :
    indexOf? host (kept es merges ++ newcomers es merges) = some (i + es.length)
      ↔ host = h := by
  obtain ⟨hlt, hh⟩ := List.getElem?_eq_some_iff.mp hi
  have hnew : indexOf? h es = none := (mem_newHosts.mp (List.mem_of_getElem? hi)).2
  rw [indexOf?_both]
  constructor
  · intro hindex
    cases hes : indexOf? host es with
    | some k =>
        rw [hes, Option.some_or] at hindex
        cases hindex
        obtain ⟨hk, -⟩ := indexOf?_eq_some.mp hes
        omega
    | none =>
        rw [hes, Option.none_or, Option.map_eq_some_iff] at hindex
        obtain ⟨k, hk, hki⟩ := hindex
        obtain rfl : k = i := by omega
        obtain ⟨hklt, hhost, -⟩ := List.findIdx?_eq_some_iff_getElem.mp hk
        exact (beq_iff_eq.mp hhost).symm.trans hh
  · rintro rfl
    rw [hnew, Option.none_or, Option.map_eq_some_iff]
    refine ⟨i, List.findIdx?_eq_some_iff_getElem.mpr ⟨hlt, beq_iff_eq.mpr hh, ?_⟩, rfl⟩
    intro j hj hjh
    have hsame : (newHosts es merges)[j] = (newHosts es merges)[i] :=
      (beq_iff_eq.mp hjh).trans hh.symm
    have hji := (nodup_newHosts es merges).getElem_inj_iff.mp hsame
    omega

theorem indexOf?_both_eq_none : indexOf? host (kept es merges ++ newcomers es merges) = none ↔
    indexOf? host es = none ∧ host ∉ newHosts es merges := by
  rw [indexOf?_both, Option.or_eq_none_iff, Option.map_eq_none_iff, List.findIdx?_eq_none_iff]
  refine and_congr_right fun _ => ?_
  constructor
  · intro h hmem
    exact absurd (h host hmem) (by simp)
  · intro h k hk
    exact beq_eq_false_iff_ne.mpr fun heq => h (heq ▸ hk)

theorem mapIdx_kept : (kept es merges).mapIdx (fun i e =>
      if indexOf? m.host (kept es merges ++ newcomers es merges) = some i then e.pointedAt m.2
      else e) = kept es (merges ++ [m]) := by
  rw [kept_snoc]
  refine List.ext_getElem? fun i => ?_
  rw [List.getElem?_mapIdx, List.getElem?_mapIdx]
  by_cases hi : i < es.length
  · simp only [indexOf?_both_of_lt hi]
  · rw [List.getElem?_eq_none (by rw [length_kept]; omega)]
    rfl

theorem mapIdx_newcomers : (newcomers es merges).mapIdx (fun i e =>
      if indexOf? m.host (kept es merges ++ newcomers es merges)
        = some (i + (kept es merges).length) then e.pointedAt m.2 else e)
      ++ (if indexOf? m.host (kept es merges ++ newcomers es merges) = none
        then [.ofCredential m.1] else [])
    = newcomers es (merges ++ [m]) := by
  have hfront : (newcomers es merges).mapIdx (fun i e =>
      if indexOf? m.host (kept es merges ++ newcomers es merges)
        = some (i + (kept es merges).length) then e.pointedAt m.2 else e)
      = (newHosts es merges).map (newcomer (merges ++ [m])) := by
    refine List.ext_getElem? fun i => ?_
    rw [List.getElem?_mapIdx, newcomers, List.getElem?_map, List.getElem?_map, length_kept]
    cases hi : (newHosts es merges)[i]? with
    | none => rfl
    | some h =>
        have hhost := (mem_newHosts.mp (List.mem_of_getElem? hi)).1
        simp only [Option.map_some, newcomer_snoc hhost]
        exact congrArg some (if_congr (indexOf?_both_add hi) rfl rfl)
  have hback : (if indexOf? m.host (kept es merges ++ newcomers es merges) = none
      then [.ofCredential m.1] else [])
      = (if indexOf? m.host es = none ∧ m.host ∉ newHosts es merges then [m.host] else []).map
          (newcomer (merges ++ [m])) := by
    by_cases hnew : indexOf? m.host es = none ∧ m.host ∉ newHosts es merges
    · have hfirst : forHost merges m.host = [] :=
        Classical.not_not.mp fun h => hnew.2 (mem_newHosts.mpr ⟨h, hnew.1⟩)
      rw [if_pos hnew, if_pos (indexOf?_both_eq_none.mpr hnew), List.map_singleton,
        newcomer_first hfirst]
    · rw [if_neg hnew, if_neg (mt indexOf?_both_eq_none.mp hnew)]
      rfl
  rw [hfront, hback, ← List.map_append, ← newHosts_snoc]
  rfl

/-- Merging gives the entries that were there and then the new ones. -/
theorem mergeAll_eq (es : List Entry) (merges : List Merge) :
    mergeAll es merges = kept es merges ++ newcomers es merges := by
  induction merges using List.reverseRecOn with
  | nil =>
      have hkept : kept es [] = es := by
        refine List.ext_getElem? fun i => ?_
        rw [kept, List.getElem?_mapIdx]
        exact Option.map_id'
      rw [hkept]
      exact (List.append_nil es).symm
  | append_singleton merges m ih =>
      have hsnoc : mergeAll es (merges ++ [m]) = (merge (mergeAll es merges) m.1 m.2).1 := by
        rw [mergeAll, List.foldl_append]
        rfl
      rw [hsnoc, ih, merge_fst, List.mapIdx_append, List.append_assoc, ← mapIdx_newcomers,
        ← mapIdx_kept]
      rfl

end

/-! ## Outcomes and entries of one host -/

theorem merge_snd_eq_existing {es : List Entry} {c : Credential} {secret : String} {i : Nat} :
    (merge es c secret).2 = .existing i ↔ indexOf? c.host es = some i := by
  unfold merge
  cases indexOf? c.host es <;> simp

theorem merge_snd_eq_appended {es : List Entry} {c : Credential} {secret : String} :
    (merge es c secret).2 = .appended ↔ indexOf? c.host es = none := by
  unfold merge
  cases indexOf? c.host es <;> simp

theorem countP_kept (es : List Entry) (merges : List Merge) (host : String) :
    (kept es merges).countP (·.url = host) = es.countP (·.url = host) := by
  have hcount (l : List Entry) :
      l.countP (fun e => decide (e.url = host)) = (l.map Entry.url).count host := by
    rw [List.count, List.countP_map]
    rfl
  rw [hcount, hcount, map_url_kept]

theorem countP_newcomers (es : List Entry) (merges : List Merge) (host : String) :
    (newcomers es merges).countP (·.url = host) = (newHosts es merges).count host := by
  rw [newcomers, List.countP_map, List.count]
  refine congrArg (List.countP · (newHosts es merges)) (funext fun h => ?_)
  simp only [Function.comp, url_newcomer]
  rfl

/-- A host that is new has no entry in the list, and gets one. -/
theorem countP_mergeAll_le (es : List Entry) (merges : List Merge) (host : String) :
    (mergeAll es merges).countP (·.url = host) ≤ max (es.countP (·.url = host)) 1 := by
  rw [mergeAll_eq, List.countP_append, countP_kept, countP_newcomers]
  by_cases hnew : host ∈ newHosts es merges
  · have hone : (newHosts es merges).count host ≤ 1 :=
      List.nodup_iff_count_le_one.mp (nodup_newHosts es merges) host
    have hnone : es.countP (·.url = host) = 0 := by
      rw [List.countP_eq_zero]
      intro e he
      simpa using indexOf?_eq_none.mp (mem_newHosts.mp hnew).2 e he
    omega
  · rw [List.count_eq_zero_of_not_mem hnew]
    omega

/-- Any sequence of merges, from any list:

* it gives the entries that were there, each pointed at the last secret for its host if it is the
  first with its URL and the host was merged, and behind them one entry for each host that was not
  there, in the order in which they came up;
* each merge finds the first entry of its host among what the earlier ones gave, and appends one if
  there is none;
* so no host gets more entries than it had, or than one. -/
theorem mergeAll_settles (es : List Entry) (merges : List Merge) :
    mergeAll es merges
      = es.mapIdx (keptAt es merges) ++ (newHosts es merges).map (newcomer merges) ∧
    (∀ (earlier : List Merge) (m : Merge),
      (∀ i, (merge (mergeAll es earlier) m.1 m.2).2 = .existing i ↔
        ∃ h : i < (mergeAll es earlier).length, (mergeAll es earlier)[i].url = m.host ∧
          ∀ j (hj : j < i), (mergeAll es earlier)[j].url ≠ m.host) ∧
      ((merge (mergeAll es earlier) m.1 m.2).2 = .appended ↔
        ∀ e ∈ mergeAll es earlier, e.url ≠ m.host)) ∧
    ∀ host, (mergeAll es merges).countP (·.url = host) ≤ max (es.countP (·.url = host)) 1 := by
  refine ⟨mergeAll_eq es merges, fun earlier m => ⟨fun i => ?_, ?_⟩,
    countP_mergeAll_le es merges⟩
  · exact merge_snd_eq_existing.trans indexOf?_eq_some
  · exact merge_snd_eq_appended.trans indexOf?_eq_none

/-- A host that is merged twice ends up with the secret, though its entry came in with the raw
credential. -/
example : mergeAll [] [(guest, "s"), (guest, "t")] = [.plain guest.host "t" "t"] := rfl

end CredRegistry.RepoList
