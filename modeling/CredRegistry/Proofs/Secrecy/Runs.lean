import CredRegistry.Proofs.Secrecy.Cluster
import CredRegistry.Proofs.Secrecy.Rows

/-!
# Tokens do not leak

The same is done to a service twice, from the same start: requests are handed in, credentials are
read back, and faults are arranged on the cluster. The requests of the two runs differ in their
tokens alone. `tokens_do_not_leak` says that nobody can tell the runs apart who cannot look into
the slots that are made for tokens: every reply, error and report is the same, and so are the
rows, the calls counted and the config maps, but for the columns and texts that
`Database.Alike` and `Stock.ClustersAlike` name.

Each request is coupled with the other (`coupled_create`, `coupled_update`), one turn keeps the
sites alike (`take_alike`), and so does a run.
-/

namespace CredRegistry

open CredRegistry.Cipher CredRegistry.RepoList
open CredRegistry.Yaml (ReadsBack)

/-! ## Turns -/

/-- One thing that is done to a service and its cluster. -/
inductive Act where
  | create (c : GitOpsConfig) (user : Int)
  | update (c : GitOpsConfig) (user : Int)
  | getById (id : Int)
  | getAll
  | getByProvider (p : Provider)
  | refuseUpdates (count : Nat)
  | failSecretRead (e : ClusterError)
  | interleave (count : Nat) (edits : List Edit)

/-- What comes back. -/
inductive Reply where
  | created (result : Except CredentialError GitOpsConfig)
  | updated (result : Except CredentialError Unit)
  | found (result : Except CredentialError GitOpsConfig)
  | listed (result : Except CredentialError (List GitOpsConfig))
  /-- A fault was arranged. -/
  | arranged

/-- Something that is done, and the time and the nonce at hand. -/
structure Turn where
  act : Act
  now : Timestamp
  nonce : Nonce

namespace Act

def request? : Act → Option GitOpsConfig
  | .create c _ => some c
  | .update c _ => some c
  | _ => none

def edits : Act → List Edit
  | .interleave _ edits => edits
  | _ => []

/-- The same act with another token, if one is handed in. -/
def withToken (token : String) : Act → Act
  | .create c user => .create { c with token } user
  | .update c user => .update { c with token } user
  | act => act

end Act

/-- Two turns differ in a token that is handed in, in the nonce, and in the time; no time that
differs is beyond what a row can hold. -/
structure Turn.Alike (t t' : Turn) : Prop where
  act : ∃ token, t'.act = t.act.withToken token
  now : Store.StampsAlike t.now t'.now

/-- Two replies: one and the same, or of requests that were stored and echo their tokens. -/
def Reply.Alike (r r' : Reply) : Prop :=
  r = r' ∨ ∃ c token, r = .created (.ok c) ∧ r' = .created (.ok { c with token })

/-- Carry out work of a service, and wrap up what comes of it. -/
def Turn.reply {α : Type} (t : Turn) (w : Site Memory) (wrap : α → Reply)
    (work : ServiceTask α) : Reply × Site Memory :=
  let (result, w) := w.perform Memory.respond t.now t.nonce work
  (wrap result, w)

namespace Service

/-- What comes of a turn, and the site after it. -/
def take (s : Service) (w : Site Memory) (t : Turn) : Reply × Site Memory :=
  match t.act with
  | .create c user => t.reply w .created (s.create c user)
  | .update c user => t.reply w .updated (s.update c user)
  | .getById id => t.reply w .found (s.getById id)
  | .getAll => t.reply w .listed s.getAll
  | .getByProvider p => t.reply w .found (s.getByProvider p)
  | .refuseUpdates count => (.arranged, { w with cluster := w.cluster.refuseUpdates count })
  | .failSecretRead e => (.arranged, { w with cluster := w.cluster.failSecretRead e })
  | .interleave count edits =>
      (.arranged, { w with cluster := w.cluster.interleave count (rewrite edits) })

/-- The replies to turns taken one after the other, and the site in the end. -/
def run (s : Service) : Site Memory → List Turn → List Reply × Site Memory
  | w, [] => ([], w)
  | w, t :: turns =>
      let (reply, w) := s.take w t
      let (replies, w) := s.run w turns
      (reply :: replies, w)

end Service

/-! ## Requests -/

namespace Service

variable {K : Stock} {s : Service} {T : Twins}

section

variable (hT : T.cluster = K.ClustersAlike)
  (hyaml : ∀ es, K.Arises es → ReadsBack (listValue es))

include hT hyaml

theorem coupled_publish {c c' : Credential} (halike : c.Alike c') (hc : K.Handed c c') :
    T.service.Coupled (Both Eq) (s.publish c) (s.publish c') := by
  have hconnect := Twins.coupled_ofCluster (Stock.coupled_connect hT s.target.cluster)
  have hsecret := Twins.coupled_ofCluster
    (Stock.coupled_ensureSecret hT s.target.space gitOpsSecretName hc)
  have hlist (secret : String) := Twins.coupled_ofCluster
    (Stock.coupled_reconcile hT hyaml s.policy s.target.space s.target.configMap hc secret)
  obtain ⟨token, createdOn, updatedOn, rfl⟩ := halike
  refine hconnect.bind ?_
  rintro _ _ (e | _)
  · exact .note (Pairing.coupled_pure (.error _))
  refine hsecret.bind ?_
  rintro _ _ (e | ⟨rfl⟩)
  · exact Pairing.coupled_pure (.error _)
  refine (hlist _).bind ?_
  rintro _ _ (e | ⟨rfl⟩)
  · exact .note (Pairing.coupled_pure (.error _))
  · exact .note (Pairing.coupled_pure (.ok rfl))

variable (hdatabase : T.database = Database.Alike s.store)
  (hnow : Store.StampsAlike T.now T.now')

include hdatabase hnow

theorem coupled_create {c : GitOpsConfig} {token : String} (hc : K.requests c)
    (hc' : K.requests { c with token }) (user : Int) :
    T.service.Coupled (Both fun d d' => d' = { d with token }) (s.create c user)
      (s.create { c with token } user) := by
  have hvalidate : validate { c with token } = validate c := rfl
  unfold create
  rw [hvalidate]
  cases validate c with
  | error e => exact Pairing.coupled_pure (.error _)
  | ok p =>
      refine Twins.coupled_now.bind ?_
      rintro _ _ ⟨rfl, rfl⟩
      have halike : (drafted c p user T.now).Alike (drafted { c with token } p user T.now') :=
        ⟨token, T.now', T.now', rfl⟩
      refine (Twins.coupled_ofStore (Store.coupled_create hdatabase halike hnow hnow)).bind ?_
      rintro _ _ (e | ⟨id, rfl, rfl⟩)
      · exact Pairing.coupled_pure (.error _)
      have halike' : { drafted c p user T.now with id }.Alike
          { drafted { c with token } p user T.now' with id } := ⟨token, T.now', T.now', rfl⟩
      have hhanded : K.Handed { drafted c p user T.now with id }
          { drafted { c with token } p user T.now' with id } :=
        ⟨c, token, hc, hc', rfl, rfl, rfl, rfl, rfl, rfl⟩
      refine .note ((coupled_publish hT hyaml halike' hhanded).within _ |>.bind ?_)
      rintro _ _ (e | _)
      · exact Pairing.coupled_pure (.error _)
      · exact Pairing.coupled_pure (.ok rfl)

theorem coupled_update {c : GitOpsConfig} {token : String} (hc : K.requests c)
    (hc' : K.requests { c with token }) (user : Int) :
    T.service.Coupled (Both Eq) (s.update c user) (s.update { c with token } user) := by
  have hvalidate : validate { c with token } = validate c := rfl
  unfold update
  rw [hvalidate]
  simp only
  cases c.id with
  | none => exact Pairing.coupled_pure (.error _)
  | some id =>
      cases validate c with
      | error e => exact Pairing.coupled_pure (.error _)
      | ok p =>
          refine (Twins.coupled_ofStore (Store.coupled_getById hdatabase id)).bind ?_
          rintro _ _ (e | (@⟨stored, _, halike⟩ | _))
          · exact Pairing.coupled_pure (.error _)
          · obtain ⟨token', createdOn, updatedOn, rfl⟩ := halike
            refine Twins.coupled_now.bind ?_
            rintro _ _ ⟨rfl, rfl⟩
            -- The two creations may have been read differently, but an update does not write them.
            have halike : (redrafted c p stored user T.now).Alike
                (redrafted { c with token } p { stored with
                  token := token', audit := { stored.audit with createdOn, updatedOn } }
                  user T.now') := ⟨token, createdOn, T.now', rfl⟩
            refine (Twins.coupled_ofStore (Store.coupled_update hdatabase halike hnow)).bind ?_
            rintro _ _ (e | _)
            · exact Pairing.coupled_pure (.error _)
            have hhanded : K.Handed (redrafted c p stored user T.now)
                (redrafted { c with token } p { stored with
                  token := token', audit := { stored.audit with createdOn, updatedOn } }
                  user T.now') := ⟨c, token, hc, hc', rfl, rfl, rfl, rfl, rfl, rfl⟩
            refine .note ((coupled_publish hT hyaml halike hhanded).within _ |>.bind ?_)
            rintro _ _ (e | _)
            · exact Pairing.coupled_pure (.error _)
            · exact Pairing.coupled_pure (.ok rfl)
          · exact Pairing.coupled_pure (.error _)

end

section

variable (hdatabase : T.database = Database.Alike s.store)

include hdatabase

omit hdatabase in
theorem found_alike (what : String) {x y : Except StoreError (Option Credential)}
    (h : Both (Option.Rel Credential.Alike) x y) : found what x = found what y := by
  rcases h with e | (h | _)
  · rfl
  · obtain ⟨token, createdOn, updatedOn, rfl⟩ := h
    rfl
  · rfl

theorem coupled_getById (id : Int) : T.service.Coupled Eq (s.getById id) (s.getById id) := by
  refine (Twins.coupled_ofStore (Store.coupled_getById hdatabase id)).bind fun x y h => ?_
  exact Pairing.coupled_pure (found_alike _ h)

theorem coupled_getByProvider (p : Provider) :
    T.service.Coupled Eq (s.getByProvider p) (s.getByProvider p) := by
  refine (Twins.coupled_ofStore (Store.coupled_getByProvider hdatabase p)).bind fun x y h => ?_
  exact Pairing.coupled_pure (found_alike _ h)

theorem coupled_getAll : T.service.Coupled Eq s.getAll s.getAll := by
  refine (Twins.coupled_ofStore (Store.coupled_getAll hdatabase)).bind ?_
  rintro _ _ (e | hall)
  · exact Pairing.coupled_pure rfl
  · refine Pairing.coupled_pure (congrArg Except.ok ?_)
    induction hall with
    | nil => rfl
    | cons hc _ ih =>
        obtain ⟨token, createdOn, updatedOn, rfl⟩ := hc
        rw [List.map_cons, List.map_cons, ih]
        rfl

end

end Service

/-! ## Runs -/

namespace Stock

/-- What the lists of two runs can be made of, when another writer is there from the start. -/
def ofRuns (start : Site Memory) (armed : List Edit) (turns turns' : List Turn) : Stock where
  texts text := ∃ k map, start.cluster.configMaps.find? k = some map ∧
    map.data.get? listKey = some text
  requests c := ∃ t ∈ turns ++ turns', t.act.request? = some c
  edits edit := edit ∈ armed ∨ ∃ t ∈ turns ++ turns', edit ∈ t.act.edits

/-- What is handed in and what another writer is to do are part of the stock. -/
structure Covers (K : Stock) (t : Turn) : Prop where
  request : ∀ c, t.act.request? = some c → K.requests c
  edits : ∀ edit ∈ t.act.edits, K.edits edit

/-- Sites that cannot be told apart without a look into the slots for tokens. -/
def likeness (K : Stock) (s : Store) : Likeness where
  database := Database.Alike s
  cluster := K.ClustersAlike

def twins (K : Stock) (s : Store) (t t' : Turn) : Twins where
  toLikeness := K.likeness s
  now := t.now
  now' := t'.now
  nonce := t.nonce
  nonce' := t'.nonce

end Stock

namespace Service

variable {K : Stock} {s : Service} {t t' : Turn} {w w' : Site Memory}

theorem reply_alike {α β : Type} {R : α → β → Prop} {work : ServiceTask α} {work' : ServiceTask β}
    {wrap : α → Reply} {wrap' : β → Reply}
    (h : (K.twins s.store t t').service.Coupled R work work')
    (hwrap : ∀ a b, R a b → (wrap a).Alike (wrap' b)) (hw : (K.likeness s.store).Alike w w') :
    (t.reply w wrap work).1.Alike (t'.reply w' wrap' work').1 ∧
      (K.likeness s.store).Alike (t.reply w wrap work).2 (t'.reply w' wrap' work').2 := by
  obtain ⟨hresults, hsites⟩ := h hw
  exact ⟨hwrap _ _ hresults, hsites⟩

theorem take_alike (hyaml : ∀ es, K.Arises es → ReadsBack (listValue es)) (ht : t.Alike t')
    (hcovers : K.Covers t) (hcovers' : K.Covers t') (hw : (K.likeness s.store).Alike w w') :
    (s.take w t).1.Alike (s.take w' t').1 ∧
      (K.likeness s.store).Alike (s.take w t).2 (s.take w' t').2 := by
  obtain ⟨⟨token, hact⟩, hnow⟩ := ht
  obtain ⟨hrequest, hedits⟩ := hcovers
  have hrequest' := hcovers'.request
  have hsame {α : Type} (wrap : α → Reply) (a b : α) (h : a = b) : (wrap a).Alike (wrap b) :=
    .inl (congrArg wrap h)
  unfold take
  rw [hact] at hrequest' ⊢
  generalize t.act = act at hrequest hedits hrequest'
  cases act with
  | create c user =>
      refine reply_alike (coupled_create rfl hyaml rfl hnow (hrequest c rfl)
        (hrequest' _ rfl) user) ?_ hw
      rintro _ _ (e | ⟨rfl⟩)
      · exact .inl rfl
      · exact .inr ⟨_, _, rfl, rfl⟩
  | update c user =>
      exact reply_alike (coupled_update rfl hyaml rfl hnow (hrequest c rfl) (hrequest' _ rfl) user)
        (fun _ _ h => hsame .updated _ _ h.eq) hw
  | getById id => exact reply_alike (coupled_getById rfl id) (hsame .found) hw
  | getAll => exact reply_alike (coupled_getAll rfl) (hsame .listed) hw
  | getByProvider p => exact reply_alike (coupled_getByProvider rfl p) (hsame .found) hw
  | refuseUpdates count =>
      exact ⟨.inl rfl, hw.database, { hw.cluster with conflicts := rfl }, hw.events⟩
  | failSecretRead e =>
      exact ⟨.inl rfl, hw.database, { hw.cluster with secretFault := rfl }, hw.events⟩
  | interleave count edits =>
      refine ⟨.inl rfl, hw.database, { hw.cluster with interloper := rfl, fixed := ?_ },
        hw.events⟩
      rintro i ⟨rfl⟩
      exact ⟨edits, rfl, hedits⟩

theorem run_alike (hyaml : ∀ es, K.Arises es → ReadsBack (listValue es)) {turns turns' : List Turn}
    (hturns : List.Forall₂ Turn.Alike turns turns') (hcovers : ∀ t ∈ turns ++ turns', K.Covers t)
    (hw : (K.likeness s.store).Alike w w') :
    List.Forall₂ Reply.Alike (s.run w turns).1 (s.run w' turns').1 ∧
      (K.likeness s.store).Alike (s.run w turns).2 (s.run w' turns').2 := by
  induction hturns generalizing w w' with
  | nil => exact ⟨.nil, hw⟩
  | @cons t t' turns turns' ht hturns ih =>
      have hcovers₁ : K.Covers t := hcovers t (List.mem_append_left _ (List.mem_cons_self ..))
      have hcovers₂ : K.Covers t' := hcovers t' (List.mem_append_right _ (List.mem_cons_self ..))
      obtain ⟨hreply, hw'⟩ := take_alike hyaml ht hcovers₁ hcovers₂ hw
      obtain ⟨hreplies, hend⟩ := ih (fun u hu => hcovers u (by
        rcases List.mem_append.mp hu with hu | hu
        · exact List.mem_append_left _ (List.mem_cons_of_mem _ hu)
        · exact List.mem_append_right _ (List.mem_cons_of_mem _ hu))) hw'
      exact ⟨.cons hreply hreplies, hend⟩

/-- Two runs that differ in the tokens handed in cannot be told apart by their replies, by what
is reported, or by the rows and the cluster, as long as nobody looks into the slots for tokens. -/
theorem tokens_do_not_leak (s : Service) (start : Site Memory) (armed : List Edit)
    {turns turns' : List Turn} (hturns : List.Forall₂ Turn.Alike turns turns')
    (harmed : ∀ i ∈ start.cluster.interloper, i.write = rewrite armed)
    (hyaml : ∀ es, (Stock.ofRuns start armed turns turns').Arises es → ReadsBack (listValue es)) :
    let K := Stock.ofRuns start armed turns turns'
    let w := (s.run start turns).2
    let w' := (s.run start turns').2
    List.Forall₂ Reply.Alike (s.run start turns).1 (s.run start turns').1 ∧
      w.events = w'.events ∧
      Database.Alike s.store w.database w'.database ∧
      K.ClustersAlike w.cluster w'.cluster ∧
      ∀ k, Option.Rel (fun map map' => map.version = map'.version ∧
          Both (List.Forall₂ K.EntriesAlike) (decode (listText map)) (decode (listText map')))
        (w.cluster.configMaps.find? k) (w'.cluster.configMaps.find? k) := by
  have hstart : ((Stock.ofRuns start armed turns turns').likeness s.store).Alike start start := by
    refine ⟨Database.Alike.refl s.store start.database, .refl ?_ ?_, rfl⟩
    · exact fun k map text hmap htext => ⟨k, map, hmap, htext⟩
    · exact fun i hi => ⟨armed, harmed i hi, fun edit hedit => .inl hedit⟩
  obtain ⟨hreplies, hdatabase, hcluster, hevents⟩ := run_alike hyaml hturns
    (fun t ht => ⟨fun c hc => ⟨t, ht, hc⟩, fun edit hedit => .inr ⟨t, ht, hedit⟩⟩) hstart
  refine ⟨hreplies, hevents, hdatabase, hcluster, fun k => ?_⟩
  rcases rel_cases (hcluster.configMaps k) with ⟨hx, hx'⟩ | ⟨map, map', hx, hx', hmaps⟩
  · rw [hx, hx']
    exact .none
  · rw [hx, hx']
    have hlists := Stock.decode_alike hmaps.data.listText
    exact .some ⟨hmaps.version, hlists.mono fun _ _ h => h.entries⟩

/-! ### Two tokens -/

/-- An empty config map on a cluster, and no row. -/
def vacant : Site Memory where
  database := .fresh
  cluster := (Memory.new "default_cluster").perform (.store ⟨"devtroncd", "argocd-cm", none, ∅⟩)
  events := []

def soon : Timestamp := ⟨17000, 43201, 0⟩

def withToken (token : String) : GitOpsConfig := { config with id := some 1, token }

/-- A configuration is stored while another writer comes in for the same host; then it is
overwritten and read back. -/
def script (token : String) (now : Timestamp) : List Turn :=
  [⟨.interleave 1 [.put "note" "seen", .merge (drafted (withToken "t") .github 1 noon) "s"], now,
      zeros⟩,
    ⟨.create (withToken token) 1, now, zeros⟩,
    ⟨.update (withToken token) 1, now, zeros⟩,
    ⟨.getAll, now, zeros⟩]

/-- The lists that can come about: the entry is there with one token or the other, or was pointed
at the other secret. -/
def scriptLists : List (List Entry) :=
  [[], [(withToken "t").entry], [(withToken "u").entry], [(withToken "t").entry.repoint "s"]]

/-- What the lists of the two runs can be made of. -/
def scriptStock : Stock := .ofRuns vacant [] (script "t" noon) (script "u" soon)

theorem edits_script {edit : Edit} (h : scriptStock.edits edit) : edit = .put "note" "seen" ∨
    edit = .merge (drafted (withToken "t") .github 1 noon) "s" := by
  simpa [scriptStock, Stock.ofRuns, script, Act.edits] using h

theorem requests_script {c : GitOpsConfig} (h : scriptStock.requests c) :
    c = withToken "t" ∨ c = withToken "u" := by
  simpa [scriptStock, Stock.ofRuns, script, Act.request?, eq_comm] using h

/-- Nobody puts a list into the map. -/
theorem known_script {text : String} (h : scriptStock.Known text) : text = "" := by
  rcases h with hblank | ⟨k, map, hmap, htext⟩ | hedit
  · exact hblank
  · change Objects.find? (Objects.put _ _ _) k = _ at hmap
    rw [Objects.find?_put] at hmap
    split at hmap
    · cases hmap
      cases htext
    · cases hmap
  · rcases edits_script hedit with hput | hmerge
    · exact absurd (Edit.put.inj hput).1 (by decide : listKey ≠ "note")
    · cases hmerge

theorem mem_scriptLists {es : List Entry} (h : scriptStock.Arises es) : es ∈ scriptLists := by
  induction h with
  | read htext hread =>
      cases known_script htext
      cases hread
      decide
  | @appended es c hes hc hnew ih =>
      have happend : ∀ es ∈ scriptLists, indexOf? "h" es = none →
          es ++ [(withToken "t").entry] ∈ scriptLists ∧
            es ++ [(withToken "u").entry] ∈ scriptLists := by decide
      rcases requests_script hc with rfl | rfl
      · exact (happend es ih hnew).1
      · exact (happend es ih hnew).2
  | @merged es c secret hes hedit ih =>
      have hmerge : ∀ es ∈ scriptLists,
          (merge es (drafted (withToken "t") .github 1 noon) "s").1 ∈ scriptLists := by decide
      rcases edits_script hedit with hput | hsame
      · cases hput
      · cases hsame
        exact hmerge es ih

/-- The runs with two tokens, at two times, look the same. -/
theorem two_tokens_look_alike :
    List.Forall₂ Reply.Alike (plain.run vacant (script "t" noon)).1
        (plain.run vacant (script "u" soon)).1 ∧
      (plain.run vacant (script "t" noon)).2.events
        = (plain.run vacant (script "u" soon)).2.events := by
  have hsoon : soon.Proper := ⟨by decide, by decide, by decide, by decide⟩
  have hstamps : Store.StampsAlike noon soon := .inr ⟨proper_noon, hsoon⟩
  have hturns : List.Forall₂ Turn.Alike (script "t" noon) (script "u" soon) :=
    .cons ⟨⟨"u", rfl⟩, hstamps⟩ <| .cons ⟨⟨"u", rfl⟩, hstamps⟩ <|
      .cons ⟨⟨"u", rfl⟩, hstamps⟩ <| .cons ⟨⟨"u", rfl⟩, hstamps⟩ .nil
  have hback : ∀ es ∈ scriptLists, ReadsBack (listValue es) := by decide +kernel
  obtain ⟨hreplies, hevents, -⟩ := tokens_do_not_leak plain vacant [] hturns nofun
    fun es hes => hback es (mem_scriptLists hes)
  exact ⟨hreplies, hevents⟩

/-- Each token is in the secret that its run has created. -/
example :
    let unlisted : Site Memory := { vacant with cluster := .new "default_cluster" }
    let password (token : String) : Option String :=
      ((plain.run unlisted [⟨.create (withToken token) 1, noon, zeros⟩]).2.cluster.secret?
        "devtroncd" gitOpsSecretName).bind fun x => x.data.get? passwordKey
    password "t" = some "t" ∧ password "u" = some "u" := by
  decide +kernel

end Service

end CredRegistry
