import RealmConvergence.Proofs.Service.History
import RealmConvergence.Proofs.Service.Linked

/-!
# Service accounts over time

A client is given a user when it is stored with its service account on, and when the service account
is switched on and there is no user yet. Nothing takes the user away again: switching the service
account off leaves it where it is. So whether a client has a user tells that its service account
was on at some time, not that it is on (`serviceUser_ne_none_iff`), and the same is true of the user
that the service tells when it is asked for one (`tells_account_iff`).

What the induction on a history needs of a step is where a client comes from (`ComesFrom`). It stood
under its identifier before, or its identifier is a new one; so a client that went with its realm
does not come back, and what was once so of an identifier is so of one client.
-/

set_option autoImplicit false

namespace RealmConvergence.Service

/-! ## Clients and their accounts -/

/-- The service account of a client is on. -/
def StoredClient.AccountOn (client : StoredClient) : Prop :=
  client.record.serviceAccountsEnabled = some true

/-- The client under an internal identifier. -/
def Store.clientAt? (store : Store) (realm key : String) : Option StoredClient :=
  (store.realms.get? realm).bind (·.clients.get? key)

/-- There is a client under the internal identifier, and its service account is on. -/
def AccountOn (service : Service) (realm key : String) : Prop :=
  ∃ client, service.store.clientAt? realm key = some client ∧ client.AccountOn

/-- A client is given a user exactly if it has none and needs one. -/
theorem openAccount_ne_none_iff {needed : Prop} [Decidable needed] {user clientId : String}
    {serviceUser : Option String} {users : Table UserRecord} :
    (openAccount needed user clientId serviceUser users).1 ≠ none ↔
      serviceUser ≠ none ∨ needed := by
  unfold openAccount
  split
  · next opens => exact ⟨fun _ => .inr opens.1, fun _ => Option.some_ne_none user⟩
  · next settled =>
    refine ⟨.inl, ?_⟩
    rintro (has | isNeeded) nobody
    · exact has nobody
    · exact settled ⟨isNeeded, Option.isNone_iff_eq_none.2 nobody⟩

theorem StoredClient.HasUser.ne_none_iff {client : StoredClient} (hasUser : client.HasUser) :
    client.serviceUser ≠ none ↔ client.serviceUser ≠ none ∨ client.AccountOn := by
  refine ⟨.inl, ?_⟩
  rintro (has | on)
  · exact has
  · exact hasUser on

/-! ## Where a client comes from -/

/-- Where a client comes from that stands under an internal identifier after something happened, and
whether it has a user then. -/
inductive ComesFrom (drawn : Nat) (before : Option StoredClient) (key : String)
    (client : StoredClient) : Prop where
  /-- It was there before. It has a user if it had one before or its service account is on. -/
  | kept {old : StoredClient} (there : before = some old)
      (user : client.serviceUser ≠ none ↔ old.serviceUser ≠ none ∨ client.AccountOn)
  /-- It is new, and so is its identifier. It has a user if its service account is on. -/
  | new (free : ¬IsDrawn drawn "client" key)
      (user : client.serviceUser ≠ none ↔ client.AccountOn)

namespace StoredRealm

variable {held : StoredRealm} {drawn : Nat} {key : String} {client : StoredClient}

/-- A client of a linked realm comes from itself where nothing happens to it. -/
theorem Linked.comesFrom_self (linked : held.Linked) (there : held.clients.get? key = some client) :
    ComesFrom drawn (held.clients.get? key) key client :=
  .kept there (linked.opened key client there).ne_none_iff

/-- Where one client is put, each client comes from itself or from where the one put does. -/
theorem Linked.comesFrom_putClient (linked : held.Linked) {place : String} {put : StoredClient}
    {users : Table UserRecord} (comes : ComesFrom drawn (held.clients.get? place) place put)
    (present : (held.putClient place put users).clients.get? key = some client) :
    ComesFrom drawn (held.clients.get? key) key client := by
  simp only [StoredRealm.putClient, Table.get?_insert] at present
  split at present
  · next same =>
    cases present
    exact same ▸ comes
  · exact linked.comesFrom_self present

/-- **A change keeps the users of clients**, and gives one to a client that needs it. -/
theorem Change.comesFrom {realm : String} {count : Nat} {after : StoredRealm}
    (change : held.Change drawn realm count after) (linked : held.Linked)
    (present : after.clients.get? key = some client) :
    ComesFrom drawn (held.clients.get? key) key client := by
  cases change with
  | settings | newRole | describedRole | attached | seededComposite | granted =>
      exact linked.comesFrom_self present
  | newClient named unknown isKey isStored isAccount =>
      subst isKey isStored isAccount
      refine linked.comesFrom_putClient (.new (IsDrawn.fresh (Nat.lt_succ_self _)) ?_) present
      exact openAccount_ne_none_iff.trans (or_iff_right (not_not_intro rfl))
  | changedClient there isChanged isAccount =>
      subst isChanged isAccount
      exact linked.comesFrom_putClient (.kept there openAccount_ne_none_iff) present
  | newSecret there | newClientRole there | describedClientRole there =>
      refine linked.comesFrom_putClient (.kept there ?_) present
      exact (linked.opened _ _ there).ne_none_iff

end StoredRealm

namespace Store

variable {store : Store} {realm key : String} {client : StoredClient}

theorem clientAt?_eq_some_iff : store.clientAt? realm key = some client ↔
    ∃ held, store.realms.get? realm = some held ∧ held.clients.get? key = some client :=
  Option.bind_eq_some_iff

theorem Linked.comesFrom_self (linked : store.Linked)
    (there : store.clientAt? realm key = some client) :
    ComesFrom store.drawn (store.clientAt? realm key) key client := by
  obtain ⟨held, found, present⟩ := clientAt?_eq_some_iff.1 there
  exact .kept there ((linked realm held found).opened key client present).ne_none_iff

/-- The one client of a realm that was started has a new identifier and no user. -/
theorem comesFrom_startRealm {name : String} {enabled : Bool} {attributes : Table String}
    {before : Option StoredClient}
    (there : (store.startRealm name enabled attributes).clientAt? name key = some client) :
    ComesFrom store.drawn before key client := by
  obtain ⟨held, found, present⟩ := clientAt?_eq_some_iff.1 there
  unfold startRealm at found
  dsimp only at found
  split at found <;> simp only [putRealm, Table.get?_insert_self] at found <;> cases found
  · rw [Table.get?_insert] at present
    split at present
    · next same =>
      cases present
      subst same
      refine .new (IsDrawn.fresh (Nat.lt_succ_self _)) ⟨fun has => absurd rfl has, fun on => ?_⟩
      cases on
    · cases present
  · cases present

/-- **A step keeps the users of clients**, and gives one to a client that needs it. -/
theorem Step.comesFrom {after : Store} (step : store.Step after) (linked : store.Linked)
    (there : after.clientAt? realm key = some client) :
    ComesFrom store.drawn (store.clientAt? realm key) key client := by
  cases step with
  | drew count => exact linked.comesFrom_self there
  | started name enabled attributes =>
      by_cases same : realm = name
      · subst same
        exact comesFrom_startRealm there
      · rw [clientAt?, startRealm_elsewhere name enabled attributes same] at there
        exact linked.comesFrom_self there
  | @changed name before made count found change =>
      by_cases same : realm = name
      · subst same
        obtain ⟨held, madeSo, present⟩ := clientAt?_eq_some_iff.1 there
        rw [putRealm_realms_get?_self] at madeSo
        cases madeSo
        rw [clientAt?, found, Option.bind_some]
        exact change.comesFrom (linked realm before found) present
      · rw [clientAt?, putRealm_realms_get?, if_neg same] at there
        exact linked.comesFrom_self there

/-- The identifier of a client has been drawn. -/
theorem Sound.isDrawn_of_clientAt? (sound : store.Sound)
    (there : store.clientAt? realm key = some client) : IsDrawn store.drawn "client" key := by
  obtain ⟨held, found, present⟩ := clientAt?_eq_some_iff.1 there
  exact ((sound realm held found).clients.each key client present).keyDrawn

end Store

/-! ## Over a whole history -/

variable {history : List Happening} {realm key : String} {client : StoredClient}

theorem comesFrom_undergo {service : Service} (reachable : service.Reachable)
    {happening : Happening}
    (there : (service.undergo happening).store.clientAt? realm key = some client) :
    ComesFrom service.store.drawn (service.store.clientAt? realm key) key client := by
  rcases step_undergo service happening with step | same
  · exact step.comesFrom reachable.linked there
  · rw [same] at there
    exact reachable.linked.comesFrom_self there

/-- Whatever was under an identifier at some time, the identifier has been drawn. -/
theorem isDrawn_of_atSomeTime (wasOn : AtSomeTime history (·.AccountOn realm key)) :
    IsDrawn (ofHistory history).store.drawn "client" key := by
  obtain ⟨earlier, before, client, there, -⟩ := wasOn
  exact ((reachable_ofHistory earlier).sound.isDrawn_of_clientAt? there).mono
    (drawn_le_of_earlier before)

/-- **A client has a user exactly if its service account was on at some time.** -/
theorem serviceUser_ne_none_iff
    (there : (ofHistory history).store.clientAt? realm key = some client) :
    client.serviceUser ≠ none ↔ AtSomeTime history (·.AccountOn realm key) := by
  induction history using List.reverseRecOn generalizing client with
  | nil => cases there
  | append_singleton history happening ih =>
      have isOn : (ofHistory (history ++ [happening])).AccountOn realm key ↔ client.AccountOn := by
        refine ⟨?_, fun on => ⟨client, there, on⟩⟩
        rintro ⟨other, otherThere, on⟩
        cases there.symm.trans otherThere
        exact on
      rw [atSomeTime_append_singleton, isOn]
      rw [ofHistory_append_singleton] at there
      cases comesFrom_undergo (reachable_ofHistory history) there with
      | kept before user => rw [user, ih before]
      | new free user =>
          -- the identifier is new, so nothing was under it earlier
          rw [user, or_iff_right]
          exact fun wasOn => free (isDrawn_of_atSomeTime wasOn)

/-! ## What the service tells -/

/-- **The user of a client is told exactly if its service account was on at some time**, and
otherwise there is no such user to be found. That the service account is on is enough, but it is
what decides only for a client whose service account was never on or still is. -/
theorem tells_account_iff (faultless : (ofHistory history).faults .getServiceAccountUser = none)
    (there : (ofHistory history).store.clientAt? realm key = some client) :
    client.record.id = some key ∧
    ((∃ user, ((ofHistory history).answer (.getServiceAccountUser realm key)).1 = .ok user) ↔
      AtSomeTime history (·.AccountOn realm key)) ∧
    (¬AtSomeTime history (·.AccountOn realm key) →
      ((ofHistory history).answer (.getServiceAccountUser realm key)).1 =
        .error (.notFound s!"service account of client '{key}'")) ∧
    (((∃ user, ((ofHistory history).answer (.getServiceAccountUser realm key)).1 = .ok user) ↔
        client.AccountOn) ↔
      (AtSomeTime history (·.AccountOn realm key) → client.AccountOn)) := by
  have reachable := reachable_ofHistory history
  obtain ⟨held, found, present⟩ := Store.clientAt?_eq_some_iff.1 there
  have hasUser := serviceUser_ne_none_iff there
  have replies : ((ofHistory history).answer (.getServiceAccountUser realm key)).1 =
      ((ofHistory history).store.answer (.getServiceAccountUser realm key)).1 := by
    rw [answer_eq, respond_of_faultless faultless]
  have untold (never : ¬AtSomeTime history (·.AccountOn realm key)) :
      ((ofHistory history).answer (.getServiceAccountUser realm key)).1 =
        .error (.notFound s!"service account of client '{key}'") := by
    have nobody : client.serviceUser = none := not_not.1 (mt hasUser.1 never)
    rw [replies, Store.answer_getServiceAccountUser_of_none found present nobody]
  have told : (∃ user, ((ofHistory history).answer (.getServiceAccountUser realm key)).1 =
      .ok user) ↔ AtSomeTime history (·.AccountOn realm key) := by
    constructor
    · rintro ⟨user, replied⟩
      by_contra never
      rw [untold never] at replied
      cases replied
    · intro wasOn
      obtain ⟨user, own⟩ := Option.ne_none_iff_exists'.1 (hasUser.2 wasOn)
      obtain ⟨account, known⟩ := Option.isSome_iff_exists.1
        ((reachable.linked realm held found).accounts key client user present own)
      exact ⟨account, by rw [replies, Store.answer_getServiceAccountUser found present own known]⟩
  refine ⟨((reachable.sound realm held found).clients.each key client present).ownId, told, untold,
    ?_⟩
  rw [told]
  exact ⟨Iff.mp, fun stays => ⟨stays, fun on => atSomeTime_of_now ⟨client, there, on⟩⟩⟩

/-- Two clients are stored with their service accounts off. One is switched on, while the service is
told not to answer for users, and off again. -/
def switchedOnAndOff : List Happening :=
  [.prepared (.realm "school" true ∅),
    .prepared (.client "school" { clientId := some "reporting" }),
    .asked (.createClient "school" { clientId := some "portal" }),
    .failing .getServiceAccountUser (.api 500 "down"),
    .asked (.updateClient "school" "client-000007" { serviceAccountsEnabled := some true }),
    .faultsCleared,
    .asked (.updateClient "school" "client-000007" { serviceAccountsEnabled := some false })]

/-- Of two clients whose service accounts are off, the user is told of the one whose was on. -/
theorem tells_account_iff_switched :
    (ofHistory switchedOnAndOff).faults .getServiceAccountUser = none ∧
      (AtSomeTime switchedOnAndOff (·.AccountOn "school" "client-000007") ∧
        ∃ user, ((ofHistory switchedOnAndOff).answer
          (.getServiceAccountUser "school" "client-000007")).1 = .ok user) ∧
      ¬AtSomeTime switchedOnAndOff (·.AccountOn "school" "client-000010") ∧
      ((ofHistory switchedOnAndOff).answer (.getServiceAccountUser "school" "client-000010")).1 =
        .error (.notFound "service account of client 'client-000010'") := by
  have faultless : (ofHistory switchedOnAndOff).faults .getServiceAccountUser = none := rfl
  have stored : ((ofHistory switchedOnAndOff).store.clientAt? "school" "client-000007").isSome ∧
      ((ofHistory switchedOnAndOff).store.clientAt? "school" "client-000010").isSome := by
    decide +kernel
  obtain ⟨reporting, reportingThere⟩ := Option.isSome_iff_exists.1 stored.1
  obtain ⟨portal, portalThere⟩ := Option.isSome_iff_exists.1 stored.2
  obtain ⟨-, reportingTold, -⟩ := tells_account_iff faultless reportingThere
  obtain ⟨-, portalTold, portalUntold, -⟩ := tells_account_iff faultless portalThere
  have wasOn : AtSomeTime switchedOnAndOff (·.AccountOn "school" "client-000007") := by
    refine ⟨switchedOnAndOff.take 5, List.take_prefix _ _, ?_⟩
    have known : ((ofHistory (switchedOnAndOff.take 5)).store.clientAt? "school"
        "client-000007").map (·.record.serviceAccountsEnabled) = some (some true) := by
      decide +kernel
    exact Option.map_eq_some_iff.1 known
  have neverOn : ¬AtSomeTime switchedOnAndOff (·.AccountOn "school" "client-000010") := by
    intro portalOn
    obtain ⟨user, replied⟩ := portalTold.2 portalOn
    have nobody : ((ofHistory switchedOnAndOff).answer
        (.getServiceAccountUser "school" "client-000010")).1.toOption =
          (none : Option UserRecord) := by
      decide +kernel
    rw [replied] at nobody
    cases nobody
  exact ⟨faultless, ⟨wasOn, reportingTold.2 wasOn⟩, neverOn, portalUntold neverOn⟩

/-- A client is stored with its service account on, which is then switched off. -/
def switchedOff : List Happening :=
  [.prepared (.realm "school" true ∅),
    .prepared (.client "school"
      { clientId := some "reporting", serviceAccountsEnabled := some true }),
    .asked (.updateClient "school" "client-000007" { serviceAccountsEnabled := some false })]

/-- The user of a client is told although the service account of the client is off. -/
theorem account_told_while_off :
    (ofHistory switchedOff).Reachable ∧ (ofHistory switchedOff).faults = .none ∧
      ∃ client user,
        (ofHistory switchedOff).store.clientAt? "school" "client-000007" = some client ∧
          client.record.id = some "client-000007" ∧
          client.record.serviceAccountsEnabled = some false ∧
          ((ofHistory switchedOff).answer (.getServiceAccountUser "school" "client-000007")).1 =
            .ok user := by
  have known : ((ofHistory switchedOff).store.clientAt? "school" "client-000007").map
      (fun client => (client.record.id, client.record.serviceAccountsEnabled)) =
        some (some "client-000007", some false) := by decide +kernel
  obtain ⟨client, there, same⟩ := Option.map_eq_some_iff.1 known
  obtain ⟨ownId, isOff⟩ := Prod.mk.inj same
  exact ⟨reachable_ofHistory switchedOff, rfl, client, serviceAccount "user-000009" "reporting",
    there, ownId, isOff, rfl⟩

end RealmConvergence.Service
