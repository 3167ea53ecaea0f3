import CredRegistry.Proofs.Service.Bustle
import CredRegistry.Proofs.Store.Listing

/-!
# What success of a request guarantees

A request writes a row, makes sure of the secret and reconciles the list, each on its own and
while others may be at work on the cluster. `success_guarantees` says what is there when all of
that has succeeded (`Delivered`): the credential in its row, the secret, and an entry for the
host in the list, right after the last access to the config map (`Listing`).

Nothing is assumed of what is in the database. Of the cluster it is assumed that the list that is
written can be read again, and for the secret alone that nobody else writes it meanwhile.
-/

namespace CredRegistry

open CredRegistry.Cipher CredRegistry.RepoList
open CredRegistry.Yaml (ReadsBack)

/-- The entry that is made for a configuration if its host has none: its references are named by
the raw user name and token. -/
def GitOpsConfig.entry (c : GitOpsConfig) : Entry where
  url := c.host
  usernameSecret := some (.to c.username "username")
  passwordSecret := some (.to c.token "password")
  extra := ∅

/-! ## The list -/

/-- What the list is right after an access to its config map: it has an entry for the host that
was read and is as it was, or a new one at its end. -/
structure Listing (space name : String) (c : GitOpsConfig) (x : Exchange) : Prop where
  read_or_appended : ∃ map es, x.after.configMap? space name = some map ∧
    decode (listText map) = .ok es ∧
    ((x.call = .getConfigMap space name ∧ x.before.configMap? space name = some map ∧
        ∃ e ∈ es, e.url = c.host) ∨
      (x.isAccepted = true ∧ ∃ old es₀, x.before.configMap? space name = some old ∧
        decode (listText old) = .ok es₀ ∧ (∀ e ∈ es₀, e.url ≠ c.host) ∧ es = es₀ ++ [c.entry]))

/-- Every list that was met by these calls can be written with the entry of a configuration, and
read again. -/
def Readable (space name : String) (c : GitOpsConfig) (calls : List Exchange) : Prop :=
  ∀ x ∈ calls, ∀ map es, x.before.configMap? space name = some map →
    decode (listText map) = .ok es → ReadsBack (listValue (es ++ [c.entry]))

instance (space name : String) (c : GitOpsConfig) (calls : List Exchange) :
    Decidable (Readable space name c calls) :=
  decidable_of_iff (calls.all fun x =>
    match (x.before.configMap? space name).map fun map => decode (listText map) with
    | some (.ok es) => decide (ReadsBack (listValue (es ++ [c.entry])))
    | _ => true) <| by
    rw [List.all_eq_true]
    refine forall₂_congr fun x _ => ⟨fun h map es hmap hes => ?_, fun h => ?_⟩
    · simpa only [hmap, Option.map_some, hes, decide_eq_true_eq] using h
    · cases hmap : x.before.configMap? space name with
      | none => rfl
      | some map =>
          cases hes : decode (listText map) with
          | error e => simp only [Option.map_some, hes]
          | ok es => simpa only [Option.map_some, hes, decide_eq_true_eq] using h map es hmap hes

theorem listing_of_replaced {r : Call} {space name : String} {c : GitOpsConfig} {x : Exchange}
    (hentry : r.entry = c.entry) (hyaml : Readable space name c [x]) (hx : x.isAccepted = true)
    (h : Replaced r space name x) : Listing space name c x := by
  obtain ⟨old, es, map, hold, hes, hhost, hafter, -, hdecode⟩ := h.stored fun old es hold hes =>
    hentry ▸ hyaml x (List.mem_singleton_self x) old es hold hes
  have hurl : r.host = c.host := congrArg Entry.url hentry
  rw [hentry] at hdecode
  refine ⟨map, _, hafter, hdecode, .inr ⟨hx, old, es, hold, hes, ?_, rfl⟩⟩
  exact fun e he => hurl ▸ hhost e he

theorem listing_of_read {space name : String} {c : GitOpsConfig} {m : Memory} {map : ConfigMap}
    {es : List Entry} (hmap : m.configMap? space name = some map)
    (hes : decode (listText map) = .ok es) (hhost : ∃ e ∈ es, e.url = c.host) :
    Listing space name c ⟨.getConfigMap space name, m⟩ := by
  have hafter : (m.getConfigMap space name).2.configMap? space name = some map :=
    (m.configMap?_getConfigMap ..).trans hmap
  exact ⟨map, es, hafter, hes, .inl ⟨rfl, hmap, hhost⟩⟩

/-- The last call of a reconcile that has succeeded leaves an entry for the host. -/
theorem listing_of_ended {r : Call} {space name : String} {c : GitOpsConfig} {o : Reconciled}
    {calls : List Exchange} (hentry : r.entry = c.entry) (hyaml : Readable space name c calls)
    (h : Ended r space name calls (.ok o)) :
    ∃ earlier x, calls = earlier ++ [x] ∧ Listing space name c x := by
  obtain ⟨attempts, written⟩ := o
  cases written with
  | true =>
      obtain ⟨-, earlier, x, rfl, -, haccepted, hreplaced⟩ := h
      refine ⟨earlier, x, rfl, listing_of_replaced hentry (fun y hy => ?_) haccepted hreplaced⟩
      exact hyaml y (List.mem_append_right _ hy)
  | false =>
      obtain ⟨-, -, earlier, m, map, es, rfl, hmap, hes, hhost⟩ := h
      have hurl : r.host = c.host := congrArg Entry.url hentry
      exact ⟨earlier, _, rfl, listing_of_read hmap hes (hurl ▸ hhost)⟩

/-! ## The cluster -/

namespace Bustle

variable {s : Service} {kept : Credential} {b b' : Bustle}

/-- What the three steps leave on the cluster when they have succeeded. -/
theorem brought (hm : b.memory.Sound) (h : Site.Brings respond s kept b b') {c : GitOpsConfig}
    (hentry : Entry.ofCredential kept = c.entry)
    (hyaml : Readable s.target.space s.target.configMap c b'.log) :
    (b.Spares (s.target.space, gitOpsSecretName) →
      b'.memory.secret? s.target.space gitOpsSecretName = some
        ((b.memory.secret? s.target.space gitOpsSecretName).getD
          (.holding s.target.space gitOpsSecretName c.username c.token))) ∧
      ∃ earlier x, b'.log = b.log ++ earlier ++ [x] ∧
        Listing s.target.space s.target.configMap c x := by
  obtain ⟨connected, provided, ref, r, hconnect, hensure, hreconcile⟩ := h
  obtain rfl : (respond (.connect s.target.cluster) b).2 = connected := congrArg Prod.snd hconnect
  have hsound : provided.memory.Sound := by
    have hconnected : (respond (.connect s.target.cluster) b).2.memory.Sound :=
      sound_carry hm (ClusterTask.connect s.target.cluster)
    have hcarried := sound_carry hconnected
      (ClusterTask.ensureSecret s.target.space gitOpsSecretName kept.username kept.token)
    rwa [hensure] at hcarried
  obtain ⟨before, hbefore⟩ : ∃ before, provided.log = b.log ++ before := by
    obtain ⟨calls, hcalls⟩ := log_carry (respond (.connect s.target.cluster) b).2
      (ClusterTask.ensureSecret s.target.space gitOpsSecretName kept.username kept.token)
    rw [hensure] at hcalls
    exact ⟨⟨.connect s.target.cluster, b.met⟩ :: calls, hcalls.trans (List.append_assoc ..)⟩
  obtain ⟨calls, hlog, -, hended, hkept⟩ := reconciled hsound hreconcile
  refine ⟨fun hspares => ?_, ?_⟩
  · have hfound : b.met.secret? s.target.space gitOpsSecretName
        = b.memory.secret? s.target.space gitOpsSecretName := hspares.find?_met
    have hsecret := ensured (hspares.respond _ b) hensure
    have hspares' : provided.Spares (s.target.space, gitOpsSecretName) := by
      have hcarried := (hspares.respond (.connect s.target.cluster) b).carry
        (ClusterTask.ensureSecret s.target.space gitOpsSecretName kept.username kept.token)
      rwa [hensure] at hcarried
    have husername : kept.username = c.username := by
      have h := congrArg Entry.usernameSecret hentry
      exact congrArg SecretKeyRef.name (Option.some.inj h)
    have htoken : kept.token = c.token := by
      have h := congrArg Entry.passwordSecret hentry
      exact congrArg SecretKeyRef.name (Option.some.inj h)
    rw [Memory.secret?, hkept _ hspares', ← husername, ← htoken, ← hfound]
    exact hsecret
  · have hcalls : Readable s.target.space s.target.configMap c calls := fun x hx =>
      hyaml x (hlog ▸ List.mem_append_right _ hx)
    obtain ⟨earlier, x, rfl, hlisting⟩ := listing_of_ended
      (r := ⟨s.policy.maxAttempts, kept, ref.name⟩) hentry hcalls hended
    refine ⟨before ++ earlier, x, ?_, hlisting⟩
    rw [hlog, hbefore]
    simp only [List.append_assoc]

end Bustle

/-! ## Requests -/

namespace Service

/-- What a request leaves behind when it has succeeded: the credential that it has written can
be looked up; the secret is the one that was there before, or else it holds what the request
says, if nobody else writes it meanwhile; and the list has an entry for the host right after the
last call. -/
structure Delivered (s : Service) (c : GitOpsConfig) (kept : Credential)
    (w w' : Site Bustle) : Prop where
  stored : ∀ nonce, (w'.database.perform nonce (s.store.getById kept.id)).1 = .ok (some kept)
  secret : w.cluster.Spares (s.target.space, gitOpsSecretName) →
    w'.cluster.memory.secret? s.target.space gitOpsSecretName = some
      ((w.cluster.memory.secret? s.target.space gitOpsSecretName).getD
        (.holding s.target.space gitOpsSecretName c.username c.token))
  listed : ∃ earlier x, w'.cluster.log = w.cluster.log ++ earlier ++ [x] ∧
    Listing s.target.space s.target.configMap c x

variable (s : Service) (w : Site Bustle) (c : GitOpsConfig) {user : Int} {now : Timestamp}
  (nonce : Nonce)

theorem create_delivered (hm : w.cluster.memory.Reachable)
    (huser : CellRow.IsSmall user) (hnow : now.Proper) {d : GitOpsConfig}
    (h : (w.perform Bustle.respond now nonce (s.create c user)).1 = .ok d)
    (hyaml : Readable s.target.space s.target.configMap c
      (w.perform Bustle.respond now nonce (s.create c user)).2.cluster.log) :
    ∃ p id, c.provider = some p ∧ d = { c with id := some id } ∧
      s.Delivered c { drafted c p user now with id } w
        (w.perform Bustle.respond now nonce (s.create c user)).2 := by
  obtain ⟨p, stored, hp, hcreated, hd, hbrings⟩ := w.create_ok Bustle.respond now nonce s h
  have hdraft : (drafted c p user now).Proper := ⟨huser, hnow, huser, hnow⟩
  have hdatabase := w.database_create Bustle.respond now nonce s c user hp
  have hstored (nonce' : Nonce) := Store.getById_of_create hdraft hcreated nonce'
  have hsame : stored = { drafted c p user now with id := stored.id } := (hstored nonce).1
  have hentry : Entry.ofCredential stored = c.entry := by
    rw [hsame]
    rfl
  obtain ⟨hsecret, hlisted⟩ := Bustle.brought hm.sound hbrings hentry hyaml
  refine ⟨p, stored.id, (complete_of_validate hp).1, hd, ?_, hsecret, hlisted⟩
  intro nonce'
  rw [hdatabase, ← hsame]
  exact (hstored nonce').2

theorem update_delivered (hm : w.cluster.memory.Reachable)
    (huser : CellRow.IsSmall user) (hnow : now.Proper)
    (h : (w.perform Bustle.respond now nonce (s.update c user)).1 = .ok ())
    (hyaml : Readable s.target.space s.target.configMap c
      (w.perform Bustle.respond now nonce (s.update c user)).2.cluster.log) :
    ∃ p stored, c.provider = some p ∧ c.id = some stored.id ∧
      (w.database.perform nonce (s.store.getById stored.id)).1 = .ok (some stored) ∧
      s.Delivered c (redrafted c p stored user now) w
        (w.perform Bustle.respond now nonce (s.update c user)).2 := by
  obtain ⟨id, p, stored, hid, hp, hfound, hbrings⟩ := w.update_ok Bustle.respond now nonce s h
  have hstored : stored.id = id := Store.id_of_getById hfound
  have hdatabase := w.database_update Bustle.respond now nonce s c user hid hp hfound
  obtain ⟨hsecret, hlisted⟩ := Bustle.brought hm.sound hbrings rfl hyaml
  refine ⟨p, stored, (complete_of_validate hp).1, hid.trans (congrArg some hstored.symm),
    hstored ▸ hfound, ?_, hsecret, hlisted⟩
  intro nonce'
  have hread := Store.getById_of_update hfound (c := redrafted c p stored user now) hstored huser
    hnow nonce nonce'
  rw [hdatabase, Option.elim_some, show (redrafted c p stored user now).id = id from hstored,
    hread]
  rfl

/-- Whatever else is done to the cluster and whatever fails on the way, a request that succeeds
has done all it was for. -/
theorem success_guarantees (hm : w.cluster.memory.Reachable)
    (huser : CellRow.IsSmall user) (hnow : now.Proper) :
    (∀ d, (w.perform Bustle.respond now nonce (s.create c user)).1 = .ok d →
      Readable s.target.space s.target.configMap c
        (w.perform Bustle.respond now nonce (s.create c user)).2.cluster.log →
      ∃ p id, c.provider = some p ∧ d = { c with id := some id } ∧
        s.Delivered c { drafted c p user now with id } w
          (w.perform Bustle.respond now nonce (s.create c user)).2) ∧
    ((w.perform Bustle.respond now nonce (s.update c user)).1 = .ok () →
      Readable s.target.space s.target.configMap c
        (w.perform Bustle.respond now nonce (s.update c user)).2.cluster.log →
      ∃ p stored, c.provider = some p ∧ c.id = some stored.id ∧
        (w.database.perform nonce (s.store.getById stored.id)).1 = .ok (some stored) ∧
        s.Delivered c (redrafted c p stored user now) w
          (w.perform Bustle.respond now nonce (s.update c user)).2) :=
  ⟨fun _ h hyaml => create_delivered s w c nonce hm huser hnow h hyaml,
    fun h hyaml => update_delivered s w c nonce hm huser hnow h hyaml⟩

/-! ### Requests among others -/

/-- A cluster with an empty config map, and another writer that comes in at the first update. -/
def busy : Site Bustle where
  database := (bare 1).database
  cluster :=
    { memory := (Memory.new "default_cluster").perform (.store ⟨"devtroncd", "argocd-cm", none, ∅⟩)
      others := [[], [], [], [.interleave 1 (·.insert listKey "- url: g\n")]]
      log := [] }
  events := []

/-- A configuration for the row that is there, or for a new one. -/
def request : GitOpsConfig := { config with id := some 1, username := "ann", token := "t" }

/-- Both requests succeed in their second attempt, and nobody else writes the secret. -/
theorem delivered_among_others :
    busy.cluster.Spares (plain.target.space, gitOpsSecretName) ∧
      (∃ kept, plain.Delivered request kept busy
        (busy.perform Bustle.respond noon zeros (plain.create request 1)).2) ∧
      ∃ kept, plain.Delivered request kept busy
        (busy.perform Bustle.respond noon zeros (plain.update request 1)).2 := by
  have hspares : busy.cluster.Spares (plain.target.space, gitOpsSecretName) := by
    intro deeds hdeeds d hd
    simp only [busy, List.mem_cons, List.not_mem_nil, or_false] at hdeeds
    rcases hdeeds with rfl | rfl | rfl | rfl
    · cases hd
    · cases hd
    · cases hd
    · rw [List.mem_singleton.mp hd]
      exact not_false
  have hreachable : busy.cluster.memory.Reachable :=
    ⟨"default_cluster", [.store ⟨"devtroncd", "argocd-cm", none, ∅⟩], rfl⟩
  have huser : CellRow.IsSmall 1 := by
    unfold CellRow.IsSmall
    decide
  obtain ⟨hcreate, hupdate⟩ :=
    success_guarantees plain busy request zeros hreachable huser proper_noon
  have hcreated : (busy.perform Bustle.respond noon zeros (plain.create request 1)).1.isOk := by
    decide +kernel
  have hupdated : (busy.perform Bustle.respond noon zeros (plain.update request 1)).1.isOk := by
    decide +kernel
  refine ⟨hspares, ?_, ?_⟩
  · cases h : (busy.perform Bustle.respond noon zeros (plain.create request 1)).1 with
    | error e =>
        rw [h] at hcreated
        cases hcreated
    | ok d =>
        obtain ⟨p, id, -, -, hdelivered⟩ := hcreate d h (by decide +kernel)
        exact ⟨_, hdelivered⟩
  · cases h : (busy.perform Bustle.respond noon zeros (plain.update request 1)).1 with
    | error e =>
        rw [h] at hupdated
        cases hupdated
    | ok d =>
        obtain ⟨p, stored, -, -, -, hdelivered⟩ := hupdate h (by decide +kernel)
        exact ⟨_, hdelivered⟩

end Service

end CredRegistry
