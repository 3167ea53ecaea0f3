import CredRegistry.Proofs.Service.Site
import CredRegistry.Proofs.Store.Listing

/-!
# What is read was written

A service starts with an empty database and is handed configurations to create and to update, in
any order. The cluster may answer as it likes, so any of these requests may fail after its row is
written. `Submission.posted` says what the list of configurations should be after each request,
without a word about rows, keys or clusters: an accepted create adds to the end of the list, and
an accepted update replaces the member with its id.

`Tells` sets the list beside the database. Each visit keeps that (`Tells.after`), so every run
does, and `reads_reflect_writes` says that the three reads are look-ups in the list.
-/

namespace CredRegistry

open CredRegistry.Cipher

/-! ## The list of configurations -/

/-- What is read of a configuration that was stored for a provider under an id. What says who
owns the repositories is kept in the field of that provider only. -/
def GitOpsConfig.shown (c : GitOpsConfig) (p : Provider) (id : Int) : GitOpsConfig where
  id := some id
  provider := some p
  username := ""
  token := ""
  gitLabGroupId := if p = .gitlab then c.gitLabGroupId else ""
  gitHubOrgId := if p = .gitlab then "" else c.gitHubOrgId
  host := c.host
  active := c.active

/-- A request to store a configuration. -/
inductive Submission where
  | create (c : GitOpsConfig)
  | update (c : GitOpsConfig)

namespace Submission

/-- Is this the create of a configuration that is accepted? -/
def creates : Submission → Bool
  | .create c => (Service.validate c).isOk
  | .update _ => false

/-- The configuration that an accepted update has for an id, and its provider. -/
def change? (id : Int) : Submission → Option (GitOpsConfig × Provider)
  | .create _ => none
  | .update c => if c.id = some id then (Service.validate c).toOption.map (c, ·) else none

/-- The list after a request. There are no ids beyond the last one. -/
def posted (board : List GitOpsConfig) : Submission → List GitOpsConfig
  | .create c =>
      match Service.validate c with
      | .error _ => board
      | .ok p =>
          if board.length < 0x7FFFFFFFFFFFFFFF then board ++ [c.shown p (board.length + 1)]
          else board
  | .update c =>
      match c.id, Service.validate c with
      | some id, .ok p => board.map fun d => if d.id = some id then c.shown p id else d
      | _, _ => board

/-- The list after these requests, from an empty one. -/
def board (requests : List Submission) : List GitOpsConfig := requests.foldl posted []

/-- A request leaves the list as it is, or adds to its end, or replaces the member with an
id. -/
theorem posted_cases (board : List GitOpsConfig) (x : Submission) :
    (posted board x = board ∧ (x.creates = true → 0x7FFFFFFFFFFFFFFF ≤ board.length) ∧
      ∀ id, x.change? id = none) ∨
    (∃ c p, x = .create c ∧ Service.validate c = .ok p ∧ board.length < 0x7FFFFFFFFFFFFFFF ∧
      posted board x = board ++ [c.shown p (board.length + 1)]) ∨
    (∃ c id p, x = .update c ∧ c.id = some id ∧ Service.validate c = .ok p ∧
      posted board x = board.map fun d => if d.id = some id then c.shown p id else d) := by
  cases x with
  | create c =>
      cases hp : Service.validate c with
      | error e =>
          refine .inl ⟨by simp only [posted, hp], fun h => ?_, fun _ => rfl⟩
          simp only [creates, hp] at h
          cases h
      | ok p =>
          by_cases hroom : board.length < 0x7FFFFFFFFFFFFFFF
          · exact .inr (.inl ⟨c, p, rfl, hp, hroom, by simp only [posted, hp, if_pos hroom]⟩)
          · refine .inl ⟨by simp only [posted, hp, if_neg hroom], fun _ => ?_, fun _ => rfl⟩
            omega
  | update c =>
      cases hid : c.id with
      | none =>
          refine .inl ⟨by simp only [posted, hid], fun h => absurd h Bool.false_ne_true, ?_⟩
          intro id
          simp [change?, hid]
      | some id =>
          cases hp : Service.validate c with
          | error e =>
              refine .inl ⟨by simp only [posted, hid, hp],
                fun h => absurd h Bool.false_ne_true, fun id' => ?_⟩
              simp [change?, hp, Except.toOption]
          | ok p => exact .inr (.inr ⟨c, id, p, rfl, hid, hp, by simp only [posted, hid, hp]⟩)

/-- The ids of a list that are the numbers from one on. -/
def Numbered (board : List GitOpsConfig) : Prop :=
  board.map (·.id) = (List.range board.length).map fun n : Nat => some ((n : Int) + 1)

theorem Numbered.posted {board : List GitOpsConfig} (h : Numbered board) (x : Submission) :
    Numbered (posted board x) := by
  rcases posted_cases board x with ⟨hsame, -⟩ | ⟨c, p, -, -, -, happended⟩ |
    ⟨c, id, p, -, -, -, hreplaced⟩
  · rw [hsame]
    exact h
  · rw [happended, Numbered, List.map_append, h, List.length_append, List.length_singleton,
      List.range_succ, List.map_append]
    rfl
  · rw [hreplaced, Numbered, List.length_map, ← h, List.map_map]
    refine List.map_congr_left fun d _ => ?_
    by_cases hd : d.id = some id
    · simp only [Function.comp, hd]
      rfl
    · simp only [Function.comp, if_neg hd]

theorem numbered_board (requests : List Submission) : Numbered (board requests) := by
  have hrun (xs : List Submission) : ∀ b, Numbered b → Numbered (xs.foldl Submission.posted b) := by
    induction xs with
    | nil => exact fun _ h => h
    | cons x xs ih => exact fun b h => ih _ (h.posted x)
  exact hrun requests [] rfl

/-- There is one member for each accepted create, as long as ids are left. -/
theorem length_board (requests : List Submission) :
    (board requests).length = min (requests.countP creates) 0x7FFFFFFFFFFFFFFF := by
  have hrun (xs : List Submission) : ∀ b : List GitOpsConfig, b.length ≤ 0x7FFFFFFFFFFFFFFF →
      (xs.foldl posted b).length = min (b.length + xs.countP creates) 0x7FFFFFFFFFFFFFFF := by
    induction xs with
    | nil => exact fun b hb => (Nat.min_eq_left hb).symm
    | cons x xs ih =>
        intro b hb
        rw [List.foldl_cons, List.countP_cons]
        rcases posted_cases b x with ⟨hsame, hfull, -⟩ | ⟨c, p, rfl, hp, hroom, happended⟩ |
          ⟨c, id, p, rfl, -, -, hreplaced⟩
        · rw [hsame, ih b hb]
          split
          · have := hfull ‹_›
            omega
          · rfl
        · have hcreates : (create c).creates = true := by simp only [creates, hp]; rfl
          have hlength : (b ++ [c.shown p (b.length + 1)]).length = b.length + 1 :=
            List.length_append
          rw [happended, ih _ (by omega), if_pos hcreates, hlength]
          omega
        · have hcreates : ¬(update c).creates = true := Bool.false_ne_true
          rw [hreplaced, ih _ (by simpa using hb), List.length_map, if_neg hcreates,
            Nat.add_zero]
  simpa [board] using hrun requests [] (Nat.zero_le _)

/-- A member is what the last accepted update of its id has made of it. -/
theorem getElem?_posted (later : List Submission) {b : List GitOpsConfig} {n : Nat}
    {c : GitOpsConfig} {p : Provider} (h : b[n]? = some (c.shown p (n + 1))) :
    (later.foldl posted b)[n]? =
      let last := (later.filterMap (change? (n + 1))).getLast?.getD (c, p)
      some (last.1.shown last.2 (n + 1)) := by
  induction later generalizing b c p with
  | nil => exact h
  | cons x later ih =>
      have hn : n < b.length := (List.getElem?_eq_some_iff.mp h).1
      rw [List.foldl_cons]
      rcases posted_cases b x with ⟨hsame, -, hnone⟩ | ⟨c', p', rfl, -, -, happended⟩ |
        ⟨c', id, p', rfl, hid, hp, hreplaced⟩
      · rw [hsame, ih h, List.filterMap_cons_none (hnone _)]
      · rw [happended, ih ((List.getElem?_append_left hn).trans h), List.filterMap_cons_none rfl]
      · rw [hreplaced]
        by_cases hhere : id = n + 1
        · subst hhere
          have hchange : change? (n + 1) (.update c') = some (c', p') := by
            simp only [change?, hid, hp, if_pos]
            rfl
          have hnow : (b.map fun d => if d.id = some (n + 1 : Int) then c'.shown p' (n + 1)
              else d)[n]? = some (c'.shown p' (n + 1)) := by
            rw [List.getElem?_map, h]
            exact congrArg some (if_pos rfl)
          rw [ih hnow, List.filterMap_cons_some hchange, List.getLast?_cons, Option.getD_some]
        · have hchange : change? (n + 1) (.update c') = none := by
            rw [change?, if_neg]
            rw [hid]
            exact fun heq => hhere (Option.some.inj heq)
          have hsame : (b.map fun d => if d.id = some id then c'.shown p' id
              else d)[n]? = some (c.shown p (n + 1)) := by
            rw [List.getElem?_map, h]
            exact congrArg some (if_neg fun heq => hhere (Option.some.inj heq).symm)
          rw [ih hsame, List.filterMap_cons_none hchange]

/-- For each accepted create there is one member, in the order of the creates, which is what the
last accepted update of its id has made of it. -/
theorem getElem?_board {before later : List Submission} {c : GitOpsConfig} {p : Provider}
    (hp : Service.validate c = .ok p) (hroom : (board before).length < 0x7FFFFFFFFFFFFFFF) :
    (board (before ++ .create c :: later))[(board before).length]? =
      let id := ((board before).length : Int) + 1
      let last := (later.filterMap (change? id)).getLast?.getD (c, p)
      some (last.1.shown last.2 id) := by
  rw [board, List.foldl_append, List.foldl_cons]
  refine getElem?_posted later ?_
  change (posted (board before) (.create c))[_]? = _
  simp only [posted, hp, if_pos hroom]
  exact List.getElem?_concat_length

end Submission

/-! ## Visits -/

/-- A request, who hands it in and when, and the cluster that it is met by. -/
structure Visit (σ : Type) where
  submission : Submission
  user : Int
  now : Timestamp
  nonce : Nonce
  respond : Responder σ

/-- What is written fits into a row: the user does, and the year has four digits. -/
structure Visit.Proper {σ : Type} (v : Visit σ) : Prop where
  user : CellRow.IsSmall v.user
  now : v.now.Proper

namespace Service

variable {σ : Type}

/-- The site after a visit. -/
def after (s : Service) (w : Site σ) (v : Visit σ) : Site σ :=
  match v.submission with
  | .create c => (w.perform v.respond v.now v.nonce (s.create c v.user)).2
  | .update c => (w.perform v.respond v.now v.nonce (s.update c v.user)).2

/-- The database holds the credentials that the list is about. -/
def Tells (s : Service) (w : Site σ) (board : List GitOpsConfig) : Prop :=
  ∃ t cs, w.database = ⟨some [1], .present t⟩ ∧ s.store.Lists t cs ∧
    cs.map GitOpsConfig.ofCredential = board

theorem tells_fresh (s : Service) {w : Site σ} (h : w.database = .fresh) : s.Tells w [] :=
  ⟨.empty, [], h, s.store.lists_empty, rfl⟩

theorem ofCredential_drafted (c : GitOpsConfig) (p : Provider) (user : Int) (now : Timestamp)
    (id : Int) : GitOpsConfig.ofCredential { drafted c p user now with id } = c.shown p id := by
  cases p <;> rfl

theorem ofCredential_redrafted (c : GitOpsConfig) (p : Provider) (stored old : Credential)
    (user : Int) (now : Timestamp) :
    GitOpsConfig.ofCredential ((redrafted c p stored user now).withCreationOf old)
      = c.shown p stored.id := by
  cases p <;> rfl

theorem Tells.create {s : Service} {w : Site σ} {board : List GitOpsConfig} (h : s.Tells w board)
    (respond : Responder σ) {now : Timestamp} (nonce : Nonce) (c : GitOpsConfig) {user : Int}
    (huser : CellRow.IsSmall user) (hnow : now.Proper) :
    s.Tells (w.perform respond now nonce (s.create c user)).2
      (Submission.posted board (.create c)) := by
  obtain ⟨t, cs, hdatabase, hlists, rfl⟩ := h
  cases hp : validate c with
  | error e =>
      have hkept := w.database_create_of_refused respond now nonce s c user hp
      exact ⟨t, cs, hkept.trans hdatabase, hlists, by simp only [Submission.posted, hp]⟩
  | ok p =>
      have hwritten := w.database_create respond now nonce s c user hp
      have hdraft : (drafted c p user now).Proper := ⟨huser, hnow, huser, hnow⟩
      rw [hdatabase] at hwritten
      simp only [Submission.posted, hp, List.length_map]
      by_cases hroom : cs.length < 0x7FFFFFFFFFFFFFFF
      · obtain ⟨t', hperform, hlists'⟩ := hlists.create (some [1]) nonce hdraft hroom
        rw [hperform] at hwritten
        refine ⟨t', _, hwritten, hlists', ?_⟩
        rw [if_pos hroom, List.map_append, List.map_singleton, ofCredential_drafted]
      · rw [hlists.create_of_full (some [1]) nonce _ hroom] at hwritten
        exact ⟨t, cs, hwritten, hlists, (if_neg hroom).symm⟩

/-- Overwriting the credentials with an id does to what is shown of them what the update says. -/
theorem map_ofCredential_redrafted (c : GitOpsConfig) (p : Provider) {stored : Credential}
    {id : Int} (hstored : stored.id = id) (user : Int) (now : Timestamp) (cs : List Credential) :
    (cs.map fun old => if old.id = (redrafted c p stored user now).id then
        (redrafted c p stored user now).withCreationOf old else old).map GitOpsConfig.ofCredential
      = (cs.map GitOpsConfig.ofCredential).map fun d =>
        if d.id = some id then c.shown p id else d := by
  rw [List.map_map, List.map_map]
  refine List.map_congr_left fun old _ => ?_
  have hsame : (redrafted c p stored user now).id = id := hstored
  by_cases hold : old.id = id
  · simp only [Function.comp, hsame, if_pos hold, ofCredential_redrafted, hstored]
    exact (if_pos (congrArg some hold)).symm
  · simp only [Function.comp, hsame, if_neg hold]
    exact (if_neg fun heq => hold (Option.some.inj heq)).symm

theorem Tells.update {s : Service} {w : Site σ} {board : List GitOpsConfig} (h : s.Tells w board)
    (respond : Responder σ) {now : Timestamp} (nonce : Nonce) (c : GitOpsConfig) {user : Int}
    (huser : CellRow.IsSmall user) (hnow : now.Proper) :
    s.Tells (w.perform respond now nonce (s.update c user)).2
      (Submission.posted board (.update c)) := by
  obtain ⟨t, cs, hdatabase, hlists, rfl⟩ := h
  cases hid : c.id with
  | none =>
      have hkept := w.database_update_of_refused respond now nonce s c user (.inl hid)
      exact ⟨t, cs, hkept.trans hdatabase, hlists, by simp only [Submission.posted, hid]⟩
  | some id =>
      cases hp : validate c with
      | error e =>
          have hkept := w.database_update_of_refused respond now nonce s c user (.inr ⟨e, hp⟩)
          exact ⟨t, cs, hkept.trans hdatabase, hlists, by simp only [Submission.posted, hid, hp]⟩
      | ok p =>
          have hread := hlists.getById (some [1]) nonce id
          rw [← hdatabase] at hread
          have hwritten := w.database_update respond now nonce s c user hid hp hread
          simp only [Submission.posted, hid, hp]
          cases hfound : cs.find? (·.id = id) with
          | none =>
              rw [hfound] at hwritten
              refine ⟨t, cs, hwritten.trans hdatabase, hlists, ?_⟩
              rw [List.map_map]
              refine List.map_congr_left fun old hold => (if_neg fun heq => ?_).symm
              exact List.find?_eq_none.mp hfound old hold
                (decide_eq_true (Option.some.inj heq))
          | some stored =>
              have hstored : stored.id = id := by simpa using List.find?_some hfound
              have hproper : stored.Proper := hlists.proper (List.mem_of_find?_eq_some hfound)
              have hdraft : (redrafted c p stored user now).Proper :=
                ⟨hproper.createdBy, hproper.createdOn, huser, hnow⟩
              obtain ⟨t', hperform, hlists'⟩ := hlists.update (some [1]) nonce hdraft
              rw [hfound, Option.elim_some, hdatabase, hperform] at hwritten
              exact ⟨t', _, hwritten, hlists',
                map_ofCredential_redrafted c p hstored user now cs⟩

theorem Tells.after {s : Service} {w : Site σ} {board : List GitOpsConfig} (h : s.Tells w board)
    {v : Visit σ} (hv : v.Proper) :
    s.Tells (s.after w v) (Submission.posted board v.submission) := by
  unfold Service.after
  cases v.submission with
  | create c => exact h.create v.respond v.nonce c hv.user hv.now
  | update c => exact h.update v.respond v.nonce c hv.user hv.now

theorem Tells.run {s : Service} {visits : List (Visit σ)} (hproper : ∀ v ∈ visits, v.Proper) :
    ∀ {w : Site σ} {board : List GitOpsConfig}, s.Tells w board →
      s.Tells (visits.foldl s.after w)
        ((visits.map (·.submission)).foldl Submission.posted board) := by
  induction visits with
  | nil => exact id
  | cons v visits ih =>
      intro w board h
      exact ih (fun v' hv' => hproper v' (List.mem_cons_of_mem _ hv'))
        (h.after (hproper v List.mem_cons_self))

/-! ## Reads -/

section

variable {s : Service} {w : Site σ} {board : List GitOpsConfig}

theorem Tells.getAll (h : s.Tells w board) (respond : Responder σ) (now : Timestamp)
    (nonce : Nonce) : (w.perform respond now nonce s.getAll).1 = .ok board := by
  obtain ⟨t, cs, hdatabase, hlists, rfl⟩ := h
  obtain ⟨events, hread⟩ := w.perform_ofStore respond now nonce s.store.getAll
  simp only [Service.getAll, Site.perform_bind, hread]
  rw [hdatabase, hlists.getAll]
  rfl

theorem perform_found {what : String} {task : StoreTask (Except StoreError (Option Credential))}
    {q : Credential → Bool} {q' : GitOpsConfig → Bool} (respond : Responder σ) (now : Timestamp)
    (nonce : Nonce) {cs : List Credential}
    (hread : (w.database.perform nonce task).1 = .ok (cs.find? q))
    (hq : ∀ c, q' (.ofCredential c) = q c) :
    (w.perform respond now nonce (do pure (Service.found what (← ServiceTask.ofStore task)))).1 =
      match (cs.map GitOpsConfig.ofCredential).find? q' with
      | some d => .ok d
      | none => .error (.notFound what) := by
  obtain ⟨events, hstored⟩ := w.perform_ofStore respond now nonce task
  have hfind : (cs.map GitOpsConfig.ofCredential).find? q'
      = (cs.find? q).map GitOpsConfig.ofCredential := by
    rw [List.find?_map]
    exact congrArg (fun f => (cs.find? f).map _) (funext hq)
  rw [Site.perform_bind, hstored, hread, hfind]
  cases cs.find? q <;> rfl

theorem Tells.getById (h : s.Tells w board) (respond : Responder σ) (now : Timestamp)
    (nonce : Nonce) (id : Int) : (w.perform respond now nonce (s.getById id)).1 =
      match board.find? (·.id = some id) with
      | some d => .ok d
      | none => .error (.notFound s!"id {id}") := by
  obtain ⟨t, cs, hdatabase, hlists, rfl⟩ := h
  have hread := hlists.getById (some [1]) nonce id
  rw [← hdatabase] at hread
  refine perform_found respond now nonce hread fun c => decide_eq_decide.mpr ?_
  exact Option.some_inj

theorem Tells.getByProvider (h : s.Tells w board) (respond : Responder σ) (now : Timestamp)
    (nonce : Nonce) (p : Provider) : (w.perform respond now nonce (s.getByProvider p)).1 =
      match board.find? (·.provider = some p) with
      | some d => .ok d
      | none => .error (.notFound s!"provider {p.name}") := by
  obtain ⟨t, cs, hdatabase, hlists, rfl⟩ := h
  have hread := hlists.getByProvider (some [1]) nonce p
  rw [← hdatabase] at hread
  refine perform_found respond now nonce hread fun c => decide_eq_decide.mpr ?_
  exact Option.some_inj

end

/-- The reads of a service show the accepted writes and nothing else, whatever the cluster has
answered. After any run of requests, from an empty database:

* the list of all configurations has one member for each accepted create, as long as there are
  ids, and the ids are the numbers from one on;
* the member that belongs to a create is what the last accepted update of its id has made of it,
  or the create itself, without user name and token (`GitOpsConfig.shown`);
* a look-up by id or by provider gives the first such member of the list, or is refused. -/
theorem reads_reflect_writes (s : Service) {start : Site σ} (hempty : start.database = .fresh)
    {visits : List (Visit σ)} (hproper : ∀ v ∈ visits, v.Proper) :
    let w := visits.foldl s.after start
    let requests := visits.map (·.submission)
    let board := Submission.board requests
    board.length = min (requests.countP Submission.creates) 0x7FFFFFFFFFFFFFFF ∧
    board.map (·.id) = (List.range board.length).map (fun n : Nat => some ((n : Int) + 1)) ∧
    (∀ before c later p, requests = before ++ .create c :: later → validate c = .ok p →
      (Submission.board before).length < 0x7FFFFFFFFFFFFFFF →
      let id := ((Submission.board before).length : Int) + 1
      let last := (later.filterMap (Submission.change? id)).getLast?.getD (c, p)
      board[(Submission.board before).length]? = some (last.1.shown last.2 id)) ∧
    ∀ respond now nonce,
      (w.perform respond now nonce s.getAll).1 = .ok board ∧
      (∀ id, (w.perform respond now nonce (s.getById id)).1 =
        match board.find? (·.id = some id) with
        | some d => .ok d
        | none => .error (.notFound s!"id {id}")) ∧
      (∀ p, (w.perform respond now nonce (s.getByProvider p)).1 =
        match board.find? (·.provider = some p) with
        | some d => .ok d
        | none => .error (.notFound s!"provider {p.name}")) := by
  intro w requests board
  have htells : s.Tells w board := Tells.run hproper (s.tells_fresh hempty)
  refine ⟨Submission.length_board _, Submission.numbered_board _, ?_, fun respond now nonce =>
    ⟨htells.getAll respond now nonce, htells.getById respond now nonce,
      htells.getByProvider respond now nonce⟩⟩
  intro before c later p hrequests hp hroom
  simp only [board, hrequests]
  exact Submission.getElem?_board hp hroom

/-! ### A record that moves -/

/-- A cluster in memory that has no config map, so that no request succeeds. -/
def unprepared : Site Memory := ⟨.fresh, .new "default_cluster", []⟩

/-- A visit at noon to a cluster in memory. -/
def visit (x : Submission) : Visit Memory := ⟨x, 1, noon, zeros, fun q m => m.answer q⟩

/-- A record is created for one provider, a second for another, one without a host, and then the
first moves to the provider of the second. -/
def moving : List (Visit Memory) :=
  [ .create { config with gitHubOrgId := "org" },
    .create { config with provider := some .gitlab, host := "g" },
    .create { config with host := " " },
    .update { config with
      id := some 1, provider := some .gitlab, gitLabGroupId := "group", active := true } ].map visit

/-- The record is found at the provider it has moved to, ahead of the other, and no longer at the
one it has left. -/
theorem moved_record_is_found :
    let w := moving.foldl plain.after unprepared
    (w.perform (fun q m => m.answer q) noon zeros (plain.getByProvider .gitlab)).1
        = .ok { GitOpsConfig.empty with
            id := some 1, provider := some .gitlab, gitLabGroupId := "group", host := "h"
            active := true } ∧
      (w.perform (fun q m => m.answer q) noon zeros (plain.getByProvider .github)).1
        = .error (.notFound "provider GITHUB") := by
  have hproper : ∀ v ∈ moving, v.Proper := by
    intro v hv
    obtain ⟨x, -, rfl⟩ := List.mem_map.mp hv
    exact ⟨(by decide : -0x80000000 ≤ (1 : Int) ∧ (1 : Int) < 0x80000000), proper_noon⟩
  have hempty : unprepared.database = .fresh := rfl
  obtain ⟨-, -, -, hreads⟩ := reads_reflect_writes plain hempty hproper
  have hboard : Submission.board (moving.map (·.submission)) =
      [ { GitOpsConfig.empty with
          id := some 1, provider := some .gitlab, gitLabGroupId := "group", host := "h"
          active := true },
        { GitOpsConfig.empty with id := some 2, provider := some .gitlab, host := "g" } ] := by
    decide +kernel
  obtain ⟨-, -, hprovider⟩ := hreads (fun q m => m.answer q) noon zeros
  have hgitlab := hprovider .gitlab
  have hgithub := hprovider .github
  rw [hboard] at hgitlab hgithub
  exact ⟨hgitlab, hgithub⟩

end Service

end CredRegistry
