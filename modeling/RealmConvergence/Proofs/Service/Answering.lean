import RealmConvergence.Proofs.Collection.Table
import RealmConvergence.Proofs.Outcome
import RealmConvergence.Service.Answering

/-!
# What a call does to an identity service

A call either only looks (`Store.answer_of_not_mutating`), or it changes the one realm that it names
(`Store.answer_elsewhere`). The attributes of a realm change by the calls on realms alone
(`Store.answer_attributes`).

The calls have one law each. A reading call tells what the realm holds, and under the condition that
the service checks, a writing call succeeds and the realm afterwards is the stated one.
-/

set_option autoImplicit false

namespace RealmConvergence

/-- The realm that a call is about. -/
def AdminCall.realm : AdminCall → String
  | .getRealm realm => realm
  | .createRealm record => record.realm.getD ""
  | .updateRealm realm _ => realm
  | .findClient realm _ => realm
  | .createClient realm _ => realm
  | .updateClient realm _ _ => realm
  | .getClientSecret realm _ => realm
  | .updateClientSecret realm _ _ => realm
  | .getServiceAccountUser realm _ => realm
  | .getRealmRole realm _ => realm
  | .createRealmRole realm _ => realm
  | .updateRealmRole realm _ _ => realm
  | .getRealmRoleComposites realm _ _ => realm
  | .addRealmRoleComposites realm _ _ => realm
  | .getClientRole realm _ _ => realm
  | .createClientRole realm _ _ => realm
  | .updateClientRole realm _ _ _ => realm
  | .assignClientRoles realm _ _ _ => realm

/-- Whether a call sends a record of a realm. -/
def AdminCall.sendsRealm : AdminCall → Bool
  | .createRealm _ => true
  | .updateRealm _ _ => true
  | _ => false

namespace Service.Store

variable {store : Store} {realm : String} {held : StoredRealm}

/-! ## Putting realms -/

@[simp] theorem putRealm_realms_get? (store : Store) (name other : String) (held : StoredRealm) :
    (store.putRealm name held).realms.get? other =
      if other = name then some held else store.realms.get? other :=
  Table.get?_insert store.realms name other held

theorem putRealm_realms_get?_self (store : Store) (name : String) (held : StoredRealm) :
    (store.putRealm name held).realms.get? name = some held :=
  Table.get?_insert_self store.realms name held

theorem edit_elsewhere {α : Type} (change : StoredRealm → Except AdminError (α × StoredRealm))
    {other : String} (different : other ≠ realm) :
    (store.edit realm change).2.realms.get? other = store.realms.get? other := by
  unfold edit
  split
  · rfl
  · split
    · rfl
    · rw [putRealm_realms_get?, if_neg different]

/-- A change that succeeds puts the changed realm. -/
theorem edit_of_ok {α : Type} {change : StoredRealm → Except AdminError (α × StoredRealm)}
    {answer : α} {after : StoredRealm} (found : store.realms.get? realm = some held)
    (changed : change held = .ok (answer, after)) :
    store.edit realm change = (.ok answer, store.putRealm realm after) := by
  simp only [edit, found, changed]

/-- An edit keeps whatever its change keeps of the realm. -/
theorem edit_view {α β : Type} (view : StoredRealm → β)
    {change : StoredRealm → Except AdminError (α × StoredRealm)}
    (keeps : ∀ before answer after, change before = .ok (answer, after) →
      view after = view before) (other : String) :
    ((store.edit realm change).2.realms.get? other).map view =
      (store.realms.get? other).map view := by
  by_cases same : other = realm
  · subst same
    unfold edit
    split
    · rfl
    · next before present =>
      split
      · rfl
      · next answer after made =>
        simp only [putRealm_realms_get?, if_true, present, Option.map_some,
          keeps before answer after made]
  · rw [edit_elsewhere change same]

/-! ## Calls in general -/

/-- A call that does not write leaves everything as it is. -/
theorem answer_of_not_mutating {call : AdminCall} (reads : call.operation.isMutating = false) :
    (store.answer call).2 = store := by
  cases call with
  | getServiceAccountUser realm client =>
      simp only [answer, read]
      split <;> rfl
  | getRealmRoleComposites realm role client =>
      simp only [answer, read]
      split <;> rfl
  | getRealm | findClient | getClientSecret | getRealmRole | getClientRole => rfl
  | createRealm | updateRealm | createClient | updateClient | updateClientSecret
  | createRealmRole | updateRealmRole | addRealmRoleComposites | createClientRole
  | updateClientRole | assignClientRoles => cases reads

theorem startRealm_elsewhere (name : String) (enabled : Bool) (attributes : Table String)
    {other : String} (different : other ≠ name) :
    (store.startRealm name enabled attributes).realms.get? other = store.realms.get? other := by
  unfold startRealm
  split
  · show (store.putRealm name _).realms.get? other = _
    rw [putRealm_realms_get?, if_neg different]
  · rw [putRealm_realms_get?, if_neg different]

/-- A call leaves every realm alone but the one that it is about. -/
theorem answer_elsewhere (store : Store) (call : AdminCall) {other : String}
    (different : other ≠ call.realm) :
    (store.answer call).2.realms.get? other = store.realms.get? other := by
  cases call with
  | getRealm | findClient | getClientSecret | getRealmRole | getClientRole
  | getServiceAccountUser | getRealmRoleComposites => rw [answer_of_not_mutating rfl]
  | createRealm record =>
      simp only [answer]
      split
      · rfl
      · split
        · rfl
        · exact startRealm_elsewhere _ _ _ different
  | createClient realm record =>
      simp only [answer, addClient]
      split
      · rfl
      · exact edit_elsewhere _ different
  | createRealmRole realm record =>
      simp only [answer, addRealmRole]
      split
      · rfl
      · exact edit_elsewhere _ different
  | createClientRole realm client record =>
      simp only [answer, addClientRole]
      split
      · rfl
      · exact edit_elsewhere _ different
  | updateRealm | updateClient | updateClientSecret | updateRealmRole | addRealmRoleComposites
  | updateClientRole | assignClientRoles => exact edit_elsewhere _ different

/-- A call that sends no record of a realm changes no realm's attributes. -/
theorem answer_attributes (store : Store) {call : AdminCall} (sendsNone : call.sendsRealm = false)
    (name : String) :
    ((store.answer call).2.realms.get? name).map StoredRealm.attributes =
      (store.realms.get? name).map StoredRealm.attributes := by
  cases call with
  | getRealm | findClient | getClientSecret | getRealmRole | getClientRole
  | getServiceAccountUser | getRealmRoleComposites => rw [answer_of_not_mutating rfl]
  | createRealm | updateRealm => cases sendsNone
  | createClient realm record =>
      simp only [answer, addClient]
      split
      · rfl
      · refine edit_view _ (fun before client after made => ?_) name
        split at made
        · cases made
        · split at made <;> cases made <;> rfl
  | updateClient realm client record =>
      refine edit_view _ (fun before answer after made => ?_) name
      split at made
      · cases made
      · dsimp only at made
        split at made <;> cases made <;> rfl
  | updateClientSecret realm client secret =>
      refine edit_view _ (fun before answer after made => ?_) name
      split at made <;> cases made
      rfl
  | createRealmRole realm record =>
      simp only [answer, addRealmRole]
      split
      · rfl
      · refine edit_view _ (fun before answer after made => ?_) name
        obtain ⟨roles, -, same⟩ := exists_of_map_eq_ok made
        cases same
        rfl
  | updateRealmRole realm role record =>
      refine edit_view _ (fun before answer after made => ?_) name
      split at made <;> cases made
      rfl
  | addRealmRoleComposites realm role added =>
      refine edit_view _ (fun before answer after made => ?_) name
      split at made
      · cases made
      · obtain ⟨roleIds, -, same⟩ := exists_of_map_eq_ok made
        cases same
        rfl
  | createClientRole realm client record =>
      simp only [answer, addClientRole]
      split
      · rfl
      · refine edit_view _ (fun before answer after made => ?_) name
        split at made
        · cases made
        · obtain ⟨roles, -, same⟩ := exists_of_map_eq_ok made
          cases same
          rfl
  | updateClientRole realm client role record =>
      refine edit_view _ (fun before answer after made => ?_) name
      split at made
      · cases made
      · split at made <;> cases made
        rfl
  | assignClientRoles realm user client granted =>
      refine edit_view _ (fun before answer after made => ?_) name
      split at made
      · obtain ⟨roleIds, -, same⟩ := exists_of_map_eq_ok made
        cases same
        rfl
      · cases made

end Service.Store

/-! ## What reading calls tell -/

namespace Service.Store

variable {store : Store} {realm key : String} {held : StoredRealm} {stored : StoredClient}

theorem answer_getRealm_of_absent (absent : store.realms.get? realm = none) :
    store.answer (.getRealm realm) = (.ok none, store) := by
  simp only [answer, absent, Option.map_none]

theorem answer_getRealm (found : store.realms.get? realm = some held) :
    store.answer (.getRealm realm) = (.ok (some (held.record realm)), store) := by
  simp only [answer, found, Option.map_some]

/-- A client is told without its secret. -/
theorem answer_findClient (found : store.realms.get? realm = some held) (clientId : String) :
    store.answer (.findClient realm clientId) =
      (.ok ((held.client? clientId).map fun known => { known.2.record with secret := none }),
        store) := by
  simp only [answer, found, Option.bind_some]

theorem answer_getClientSecret (found : store.realms.get? realm = some held)
    (client : held.clients.get? key = some stored) :
    store.answer (.getClientSecret realm key) = (.ok stored.record.secret, store) := by
  simp only [answer, found, client, Option.bind_some]

/-- The user of a client is told. -/
theorem answer_getServiceAccountUser {user : String} {account : UserRecord}
    (found : store.realms.get? realm = some held) (client : held.clients.get? key = some stored)
    (own : stored.serviceUser = some user) (there : held.users.get? user = some account) :
    store.answer (.getServiceAccountUser realm key) = (.ok account, store) := by
  simp only [answer, read, found, client, own, there, Option.bind_some]

/-- Of a client without a user, none is told. -/
theorem answer_getServiceAccountUser_of_none (found : store.realms.get? realm = some held)
    (client : held.clients.get? key = some stored) (nobody : stored.serviceUser = none) :
    store.answer (.getServiceAccountUser realm key) =
      (.error (.notFound s!"service account of client '{key}'"), store) := by
  simp only [answer, read, found, client, nobody, Option.bind_some, Option.bind_none]

theorem answer_getRealmRole (found : store.realms.get? realm = some held) (role : String) :
    store.answer (.getRealmRole realm role) = (.ok (held.roles.get? role), store) := by
  simp only [answer, found, Option.bind_some]

theorem answer_getClientRole (found : store.realms.get? realm = some held)
    (client : held.clients.get? key = some stored) (role : String) :
    store.answer (.getClientRole realm key role) = (.ok (stored.roles.get? role), store) := by
  simp only [answer, found, client, Option.bind_some]

/-- A role tells those of a client's roles that come with it. -/
theorem answer_getRealmRoleComposites {role : String} {known : RoleRecord}
    (found : store.realms.get? realm = some held) (there : held.roles.get? role = some known)
    (client : String) :
    store.answer (.getRealmRoleComposites realm role client) =
      (.ok (held.rolesOfClient client (held.compositesOf role)), store) := by
  simp only [answer, read, found, Table.contains_eq_isSome, there, Option.isSome_some, if_true]

end Service.Store

/-! ## What writing calls make of a realm -/

namespace Service

/-- The user of a client and the users of its realm, after the client was given a user if it needs
one and has none. -/
def openAccount (needed : Prop) [Decidable needed] (user clientId : String)
    (serviceUser : Option String) (users : Table UserRecord) : Option String × Table UserRecord :=
  if needed ∧ serviceUser.isNone then (some user, users.insert user (serviceAccount user clientId))
  else (serviceUser, users)

/-- A realm with a client put under an internal identifier, and with these users. -/
def StoredRealm.putClient (held : StoredRealm) (key : String) (client : StoredClient)
    (users : Table UserRecord) : StoredRealm :=
  { held with clients := held.clients.insert key client, users }

namespace Store

variable {store : Store} {realm : String} {held : StoredRealm}

theorem answer_createRealm {record : RealmRecord} {name : String}
    (named : record.realm = some name) (nonempty : name ≠ "")
    (absent : store.realms.get? name = none) :
    store.answer (.createRealm record) =
      (.ok (), store.startRealm name (record.enabled.getD false) (record.attributes.getD ∅)) := by
  have notEmpty : name.isEmpty = false := by simpa using nonempty
  simp only [answer, named, Option.getD_some, notEmpty, Table.contains, absent, Option.isSome_none,
    Bool.false_eq_true, if_false]

/-- A realm that was started has its settings and no roles, mappings or grants, and none of its
clients has a service account. -/
theorem startRealm_realms_get? (store : Store) (name : String) (enabled : Bool)
    (attributes : Table String) :
    ∃ clients, (store.startRealm name enabled attributes).realms.get? name =
        some { enabled, attributes, clients } ∧
      ∀ key client, clients.get? key = some client →
        client.record.serviceAccountsEnabled ≠ some true := by
  unfold startRealm
  split
  · refine ⟨Table.insert ∅ (managementClient store.drawn).1 (managementClient store.drawn).2, ?_,
      ?_⟩
    · show (store.putRealm name _).realms.get? name = _
      rw [putRealm_realms_get?, if_pos rfl]
    · intro key client present
      rw [Table.get?_insert] at present
      split at present
      · cases present
        exact fun never => nomatch never
      · cases present
  · exact ⟨∅, by rw [putRealm_realms_get?, if_pos rfl], fun _ _ never => nomatch never⟩

theorem answer_updateRealm {record : RealmRecord} (found : store.realms.get? realm = some held) :
    store.answer (.updateRealm realm record) =
      (.ok (), store.putRealm realm (updatedRealm held record)) := by
  simp only [answer]
  exact edit_of_ok found rfl

/-- A client whose public identifier is free is stored under a new internal one. -/
theorem answer_createClient {record : ClientRecord} {clientId : String}
    (found : store.realms.get? realm = some held) (named : record.clientId = some clientId)
    (unknown : held.client? clientId = none) :
    let key := identifier "client" (store.drawn + 1)
    let stored := newClientRecord key (identifier "generated-secret" (store.drawn + 2)) record
    let account := openAccount (stored.serviceAccountsEnabled = some true)
      (identifier "user" (store.drawn + 3)) clientId none held.users
    store.answer (.createClient realm record) =
      (.ok key, { store with drawn := store.drawn + 3 }.putRealm realm
        (held.putClient key { record := stored, serviceUser := account.1 } account.2)) := by
  intro key stored account
  simp only [answer, addClient, named]
  refine edit_of_ok found ?_
  simp only [unknown, Option.isSome_none, Bool.false_eq_true, if_false]
  by_cases enabled : stored.serviceAccountsEnabled = some true
  · have opened : account = (some _, held.users.insert _ _) := if_pos ⟨enabled, rfl⟩
    rw [opened]
    exact if_pos enabled
  · have kept : account = (none, held.users) := if_neg fun needed => enabled needed.1
    rw [kept]
    exact if_neg enabled

/-- A change of a stored client opens an account for it where it needs one. -/
theorem answer_updateClient {key : String} {stored : StoredClient}
    (found : store.realms.get? realm = some held) (client : held.clients.get? key = some stored)
    (record : ClientRecord) :
    let changed := updatedClient stored.record record
    let account := openAccount (changed.serviceAccountsEnabled = some true)
      (identifier "user" (store.drawn + 1)) (changed.clientId.getD "") stored.serviceUser held.users
    store.answer (.updateClient realm key record) =
      (.ok (), { store with drawn := store.drawn + 1 }.putRealm realm
        (held.putClient key { stored with record := changed, serviceUser := account.1 }
          account.2)) := by
  intro changed account
  simp only [answer]
  refine edit_of_ok found ?_
  simp only [client]
  by_cases needed : changed.serviceAccountsEnabled = some true ∧ stored.serviceUser.isNone
  · have opened : account = (some _, held.users.insert _ _) := if_pos needed
    rw [opened]
    exact if_pos needed
  · have kept : account = (stored.serviceUser, held.users) := if_neg needed
    rw [kept]
    exact if_neg needed

theorem answer_updateClientSecret {key : String} {stored : StoredClient}
    (found : store.realms.get? realm = some held) (client : held.clients.get? key = some stored)
    (secret : String) :
    store.answer (.updateClientSecret realm key secret) =
      (.ok (), store.putRealm realm (held.putClient key
        { stored with record := { stored.record with secret := some secret } } held.users)) := by
  simp only [answer]
  refine edit_of_ok found ?_
  simp only [client, StoredRealm.putClient]

theorem answer_createRealmRole {record : RoleRecord} {name : String}
    (found : store.realms.get? realm = some held) (named : record.name = some name)
    (unknown : held.roles.get? name = none) :
    let role := newRole (identifier "role" (store.drawn + 1)) name realm false record
    store.answer (.createRealmRole realm record) =
      (.ok (), { store with drawn := store.drawn + 1 }.putRealm realm
        { held with roles := held.roles.insert name role }) := by
  intro role
  simp only [answer, addRealmRole, named]
  refine edit_of_ok found ?_
  simp only [addTo, Table.contains, unknown, Option.isSome_none, Bool.false_eq_true, if_false,
    Except.map, draw, role]

theorem answer_updateRealmRole {role : String} {record stored : RoleRecord}
    (found : store.realms.get? realm = some held) (there : held.roles.get? role = some stored) :
    store.answer (.updateRealmRole realm role record) =
      (.ok (), store.putRealm realm { held with
        roles := held.roles.insert role (updatedRole stored record) }) := by
  simp only [answer]
  refine edit_of_ok found ?_
  simp only [there]

theorem answer_createClientRole {key name : String} {record : RoleRecord} {owner : StoredClient}
    (found : store.realms.get? realm = some held) (client : held.clients.get? key = some owner)
    (named : record.name = some name) (unknown : owner.roles.get? name = none) :
    let role := newRole (identifier "role" (store.drawn + 1)) name key true record
    store.answer (.createClientRole realm key record) =
      (.ok (), { store with drawn := store.drawn + 1 }.putRealm realm (held.putClient key
        { owner with roles := owner.roles.insert name role } held.users)) := by
  intro role
  simp only [answer, addClientRole, named]
  refine edit_of_ok found ?_
  simp only [client, addTo, Table.contains, unknown, Option.isSome_none, Bool.false_eq_true,
    if_false, Except.map, draw, StoredRealm.putClient, role]

theorem answer_updateClientRole {key role : String} {record stored : RoleRecord}
    {owner : StoredClient} (found : store.realms.get? realm = some held)
    (client : held.clients.get? key = some owner) (there : owner.roles.get? role = some stored) :
    store.answer (.updateClientRole realm key role record) =
      (.ok (), store.putRealm realm (held.putClient key
        { owner with roles := owner.roles.insert role (updatedRole stored record) }
        held.users)) := by
  simp only [answer]
  refine edit_of_ok found ?_
  simp only [client, there, StoredRealm.putClient]

/-- Roles that the realm knows by their identifiers can all come with a role. -/
theorem compositeIds_eq_ok {added : List RoleRecord} {held : StoredRealm}
    (known : ∀ role ∈ added, ∃ roleId, role.id = some roleId ∧ (held.clientRole? roleId).isSome) :
    compositeIds held added = .ok (added.filterMap (·.id)) := by
  induction added with
  | nil => rfl
  | cons role rest ih =>
      obtain ⟨roleId, identified, isKnown⟩ := known role List.mem_cons_self
      have others := ih fun other member => known other (List.mem_cons_of_mem _ member)
      simp only [compositeIds, identified, isKnown, if_true, others, Except.map,
        List.filterMap_cons]

theorem answer_addRealmRoleComposites {role : String} {stored : RoleRecord}
    {added : List RoleRecord} (found : store.realms.get? realm = some held)
    (there : held.roles.get? role = some stored)
    (known : ∀ role ∈ added, ∃ roleId, role.id = some roleId ∧ (held.clientRole? roleId).isSome) :
    store.answer (.addRealmRoleComposites realm role added) =
      (.ok (), store.putRealm realm { held with
        composites := held.composites.insert role
          ((held.compositesOf role).insertAll (added.filterMap (·.id)))
        roles := held.roles.insert role { stored with composite := some true } }) := by
  simp only [answer]
  refine edit_of_ok found ?_
  simp only [there, compositeIds_eq_ok known, Except.map]

/-- The identifiers that are granted are those of the roles asked for. -/
theorem eq_of_grantIds_eq_ok {client : String} {granted : List RoleRecord} {held : StoredRealm}
    {roleIds : List String} (checked : grantIds held client granted = .ok roleIds) :
    roleIds = granted.map fun role => role.id.getD "" := by
  induction granted generalizing roleIds with
  | nil =>
      cases checked
      rfl
  | cons role rest ih =>
      simp only [grantIds] at checked
      split at checked
      · split at checked
        · obtain ⟨others, checkedRest, same⟩ := exists_of_map_eq_ok checked
          rw [← same, ih checkedRest, List.map_cons]
        · cases checked
      · cases checked

/-- Granting roles fails, with everything as it was, or adds them to the grants of the user. -/
theorem answer_assignClientRoles {user client : String} {granted : List RoleRecord}
    (found : store.realms.get? realm = some held) :
    (∃ problem, store.answer (.assignClientRoles realm user client granted) =
        (.error problem, store)) ∨
      store.answer (.assignClientRoles realm user client granted) =
        (.ok (), store.putRealm realm { held with
          grants := held.grants.insert user
            ((held.grantsOf user).insertAll (granted.map fun role => role.id.getD "")) }) := by
  simp only [answer, edit, found]
  by_cases known : held.users.contains user
  · cases checked : grantIds held client granted with
    | error problem => exact .inl ⟨problem, by simp only [known, if_true, Except.map]⟩
    | ok roleIds =>
        refine .inr ?_
        rw [← eq_of_grantIds_eq_ok checked]
        simp only [known, if_true, Except.map]
  · refine .inl ⟨.notFound s!"user '{user}'", ?_⟩
    simp only [known, Bool.false_eq_true, if_false]

end Store

end Service

end RealmConvergence
