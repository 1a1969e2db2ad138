import RealmConvergence.Proofs.Service.Reachable

/-!
# What can happen to a realm

All that a call can do to a realm that is there is one of few changes (`StoredRealm.Change`), each
with the condition that the service checks for it and with how many identifiers it draws. Preparing
a realm adds one more, a mapping for a role that need not be there. A store takes a step
(`Store.Step`) when it draws identifiers, starts a realm or changes one.

Every call is a step, whatever becomes of it (`Store.step_answer`), and so is everything that can be
prepared (`Store.step_prepare`). So whatever a step keeps holds of all stores that can be reached
(`Reachable.keeps`).
-/

set_option autoImplicit false

namespace RealmConvergence.Service

/-! ## Changes of a realm -/

/-- What can be made of a realm of this name when so many identifiers have been drawn, and how many
are drawn for it. -/
inductive StoredRealm.Change (drawn : Nat) (realm : String) (held : StoredRealm) :
    (count : Nat) → StoredRealm → Prop where
  /-- The settings change. -/
  | settings (record : RealmRecord) : Change drawn realm held 0 (updatedRealm held record)
  /-- A client is stored whose public identifier is free. -/
  | newClient {record stored : ClientRecord} {clientId key : String}
      {account : Option String × Table UserRecord}
      (named : record.clientId = some clientId) (unknown : held.client? clientId = none)
      (isKey : key = identifier "client" (drawn + 1))
      (isStored : stored = newClientRecord key (identifier "generated-secret" (drawn + 2)) record)
      (isAccount : account = openAccount (stored.serviceAccountsEnabled = some true)
        (identifier "user" (drawn + 3)) clientId none held.users) :
      Change drawn realm held 3
        (held.putClient key { record := stored, serviceUser := account.1 } account.2)
  /-- A client is changed, and given a user if it needs one and has none. -/
  | changedClient {key : String} {stored : StoredClient} {record changed : ClientRecord}
      {account : Option String × Table UserRecord} (there : held.clients.get? key = some stored)
      (isChanged : changed = updatedClient stored.record record)
      (isAccount : account = openAccount (changed.serviceAccountsEnabled = some true)
        (identifier "user" (drawn + 1)) (changed.clientId.getD "") stored.serviceUser held.users) :
      Change drawn realm held 1 (held.putClient key
        { stored with record := changed, serviceUser := account.1 } account.2)
  /-- A client is given a secret. -/
  | newSecret {key : String} {stored : StoredClient} (there : held.clients.get? key = some stored)
      (secret : String) :
      Change drawn realm held 0 (held.putClient key
        { stored with record := { stored.record with secret := some secret } } held.users)
  /-- A role of the realm is stored whose name is free. -/
  | newRole {record role : RoleRecord} {name : String} (named : record.name = some name)
      (free : held.roles.get? name = none)
      (isRole : role = Service.newRole (identifier "role" (drawn + 1)) name realm false record) :
      Change drawn realm held 1 { held with roles := held.roles.insert name role }
  /-- A role of the realm is described. -/
  | describedRole {name : String} {stored : RoleRecord} (there : held.roles.get? name = some stored)
      (record : RoleRecord) :
      Change drawn realm held 0
        { held with roles := held.roles.insert name (updatedRole stored record) }
  /-- A role of a client is stored whose name is free. -/
  | newClientRole {key name : String} {owner : StoredClient} {record role : RoleRecord}
      (there : held.clients.get? key = some owner) (named : record.name = some name)
      (free : owner.roles.get? name = none)
      (isRole : role = Service.newRole (identifier "role" (drawn + 1)) name key true record) :
      Change drawn realm held 1
        (held.putClient key { owner with roles := owner.roles.insert name role } held.users)
  /-- A role of a client is described. -/
  | describedClientRole {key name : String} {owner : StoredClient} {stored : RoleRecord}
      (there : held.clients.get? key = some owner) (has : owner.roles.get? name = some stored)
      (record : RoleRecord) :
      Change drawn realm held 0 (held.putClient key
        { owner with roles := owner.roles.insert name (updatedRole stored record) } held.users)
  /-- Roles that the realm knows come with a role that is there. -/
  | attached {role : String} {stored : RoleRecord} {added : List RoleRecord}
      {roleIds : List String} (there : held.roles.get? role = some stored)
      (known : compositeIds held added = .ok roleIds) :
      Change drawn realm held 0 { held with
        composites := held.composites.insert role ((held.compositesOf role).insertAll roleIds)
        roles := held.roles.insert role { stored with composite := some true } }
  /-- A role that the realm knows comes with a role that need not be there. -/
  | seededComposite {role name roleId key : String} {owner : StoredClient} {stored : RoleRecord}
      (there : held.clients.get? key = some owner) (has : owner.roles.get? name = some stored)
      (identified : stored.id = some roleId) :
      Change drawn realm held 0 { held with
        composites := held.composites.insert role ((held.compositesOf role).insert roleId) }
  /-- Roles of one client are granted to a user. -/
  | granted {user client : String} {roles : List RoleRecord} {roleIds : List String}
      (there : (held.users.get? user).isSome) (known : grantIds held client roles = .ok roleIds) :
      Change drawn realm held 0 { held with
        grants := held.grants.insert user ((held.grantsOf user).insertAll roleIds) }

/-! ## Steps of a store -/

/-- What can happen to a store at once. -/
inductive Store.Step (store : Store) : Store → Prop where
  /-- Identifiers are drawn, perhaps none. -/
  | drew (count : Nat) : Step store { store with drawn := store.drawn + count }
  /-- A realm is started, perhaps in the place of another one. -/
  | started (name : String) (enabled : Bool) (attributes : Table String) :
      Step store (store.startRealm name enabled attributes)
  /-- A realm is changed. -/
  | changed {realm : String} {before after : StoredRealm} {count : Nat}
      (present : store.realms.get? realm = some before)
      (change : before.Change store.drawn realm count after) :
      Step store ({ store with drawn := store.drawn + count }.putRealm realm after)

namespace Store

variable {store : Store}

theorem Step.rest (store : Store) : store.Step store := .drew 0

/-- A realm that is there after a step was there before, is a new one with no roles and users of its
own, or is what a change made of one that was there. -/
theorem Step.origin {after : Store} (step : store.Step after) {realm : String} {held : StoredRealm}
    (present : after.realms.get? realm = some held) :
    store.realms.get? realm = some held ∨
      (∃ enabled attributes clients, held = { enabled, attributes, clients }) ∨
      ∃ before count, store.realms.get? realm = some before ∧
        before.Change store.drawn realm count held := by
  cases step with
  | drew count => exact .inl present
  | started name enabled attributes =>
      unfold startRealm at present
      dsimp only at present
      split at present <;> simp only [putRealm, Table.get?_insert] at present <;> split at present
      · exact .inr (.inl ⟨_, _, _, (Option.some.inj present).symm⟩)
      · exact .inl present
      · exact .inr (.inl ⟨_, _, _, (Option.some.inj present).symm⟩)
      · exact .inl present
  | @changed name before made count there change =>
      simp only [putRealm, Table.get?_insert] at present
      split at present
      · next same =>
        cases present
        subst same
        exact .inr (.inr ⟨before, count, there, change⟩)
      · exact .inl present

/-- An edit after identifiers were drawn is a step if what it makes of the realm is a change. -/
theorem step_edit {α : Type} (count : Nat) {realm : String}
    {change : StoredRealm → Except AdminError (α × StoredRealm)}
    (changes : ∀ before answer after, store.realms.get? realm = some before →
      change before = .ok (answer, after) → before.Change store.drawn realm count after) :
    store.Step ({ store with drawn := store.drawn + count }.edit realm change).2 := by
  unfold edit
  split
  · exact .drew count
  · next before present =>
    split
    · exact .drew count
    · next answer after made => exact .changed present (changes before answer after present made)

theorem step_addClient (store : Store) (realm : String) (record : ClientRecord) :
    store.Step (store.addClient realm record).2 := by
  unfold addClient
  split
  · exact .rest store
  · next clientId named =>
    refine step_edit 3 fun before answer after present made => ?_
    split at made
    · cases made
    · next unknown =>
      have free : before.client? clientId = none := by simpa using unknown
      dsimp only at made
      split at made
      · next needed =>
        cases made
        exact .newClient named free rfl rfl (if_pos ⟨needed, rfl⟩).symm
      · next closed =>
        cases made
        exact .newClient named free rfl rfl (if_neg fun needed => closed needed.1).symm

theorem step_changeClient (store : Store) (realm client : String) (record : ClientRecord) :
    store.Step (store.changeClient realm client record).2 := by
  unfold changeClient
  refine step_edit 1 fun before answer after present made => ?_
  split at made
  · cases made
  · next stored there =>
    dsimp only at made
    split at made
    · next needed =>
      cases made
      exact .changedClient there rfl (if_pos needed).symm
    · next settled =>
      cases made
      exact .changedClient there rfl (if_neg settled).symm

/-- A role was put among others because its name was free. -/
theorem addTo_eq_ok {roles after : Table RoleRecord} {name : String} {role : RoleRecord}
    (added : addTo roles name role = .ok after) :
    roles.get? name = none ∧ after = roles.insert name role := by
  unfold addTo at added
  split at added
  · cases added
  · next free =>
    cases added
    exact ⟨by simpa [Table.contains] using free, rfl⟩

theorem step_addRealmRole (store : Store) (realm : String) (record : RoleRecord) :
    store.Step (store.addRealmRole realm record).2 := by
  unfold addRealmRole
  split
  · exact .rest store
  · next name named =>
    refine step_edit 1 fun before answer after present made => ?_
    obtain ⟨roles, added, same⟩ := exists_of_map_eq_ok made
    cases same
    obtain ⟨free, rfl⟩ := addTo_eq_ok added
    exact .newRole named free rfl

theorem step_addClientRole (store : Store) (realm client : String) (record : RoleRecord) :
    store.Step (store.addClientRole realm client record).2 := by
  unfold addClientRole
  split
  · exact .rest store
  · next name named =>
    refine step_edit 1 fun before answer after present made => ?_
    split at made
    · cases made
    · next owner there =>
      obtain ⟨roles, added, same⟩ := exists_of_map_eq_ok made
      cases same
      obtain ⟨free, rfl⟩ := addTo_eq_ok added
      exact .newClientRole there named free rfl

/-- **A call is a step, whatever becomes of it.** -/
theorem step_answer (store : Store) (call : AdminCall) : store.Step (store.answer call).2 := by
  cases call with
  | getRealm | findClient | getClientSecret | getRealmRole | getClientRole
  | getServiceAccountUser | getRealmRoleComposites =>
      rw [answer_of_not_mutating rfl]
      exact .rest store
  | createRealm record =>
      simp only [answer]
      split
      · exact .rest store
      · split
        · exact .rest store
        · exact .started _ _ _
  | updateRealm realm record =>
      refine step_edit 0 fun before answer after present made => ?_
      cases made
      exact .settings record
  | createClient realm record => exact step_addClient store realm record
  | updateClient realm client record => exact step_changeClient store realm client record
  | updateClientSecret realm client secret =>
      refine step_edit 0 fun before answer after present made => ?_
      split at made
      · cases made
      · next stored there =>
        cases made
        exact .newSecret there secret
  | createRealmRole realm record => exact step_addRealmRole store realm record
  | updateRealmRole realm role record =>
      refine step_edit 0 fun before answer after present made => ?_
      split at made
      · cases made
      · next stored there =>
        cases made
        exact .describedRole there record
  | addRealmRoleComposites realm role added =>
      refine step_edit 0 fun before answer after present made => ?_
      split at made
      · cases made
      · next stored there =>
        obtain ⟨roleIds, known, same⟩ := exists_of_map_eq_ok made
        cases same
        exact .attached there known
  | createClientRole realm client record => exact step_addClientRole store realm client record
  | updateClientRole realm client role record =>
      refine step_edit 0 fun before answer after present made => ?_
      split at made
      · cases made
      · next owner there =>
        split at made
        · cases made
        · next stored has =>
          cases made
          exact .describedClientRole there has record
  | assignClientRoles realm user client granted =>
      refine step_edit 0 fun before answer after present made => ?_
      split at made
      · next there =>
        obtain ⟨roleIds, known, same⟩ := exists_of_map_eq_ok made
        cases same
        exact .granted there known
      · cases made

/-- **Preparing what a store holds is a step, whether it succeeds or not.** -/
theorem step_prepare (store : Store) (seeding : Seeding) : store.Step (store.prepare seeding) := by
  cases seeding with
  | realm name enabled attributes => exact .started name enabled attributes
  | client realm record => exact step_addClient store realm record
  | realmRole realm role description =>
      exact step_addRealmRole store realm { name := some role, description }
  | clientRole realm clientId role description =>
      simp only [prepare, seedClientRole]
      split
      · exact .rest store
      · next client _ => exact step_addClientRole store realm client _
  | composite realm realmRole clientId role =>
      simp only [prepare, seedComposite]
      split
      · exact .rest store
      · next held present =>
        split
        · exact .rest store
        · next roleId found =>
          obtain ⟨stored, has, identified⟩ := Option.bind_eq_some_iff.1 found
          obtain ⟨⟨key, owner⟩, known, hasRole⟩ := Option.bind_eq_some_iff.1 has
          have there := (StoredRealm.get?_of_client? known).1
          exact .changed present (.seededComposite there hasRole identified)

end Store

/-- **What holds of an empty store and is kept by every step holds of all stores that can be
reached.** Whether new realms come with a client to administer them does not matter to it. -/
theorem Reachable.keeps {kept : Store → Prop} (new : kept {})
    (withoutManagement : ∀ store, kept store → kept { store with providesManagement := false })
    (step : ∀ store after, kept store → store.Step after → kept after) {service : Service}
    (reachable : service.Reachable) : kept service.store := by
  induction reachable with
  | new => exact new
  | withoutManagement _ ih => exact withoutManagement _ ih
  | @talked service α conversation _ ih =>
      rw [talk_store]
      have keeps (call : AdminCall) (store : Store) (_ : True) (held : kept store) :
          kept (respond service.faults call store).2 :=
        respond_keeps kept held (step store _ held (store.step_answer call))
      exact conversation.asksOnly_true.run_keeps keeps ih
  | seeded seeding _ ih => exact step _ _ ih (Store.step_prepare _ seeding)
  | failing _ _ _ ih => exact ih
  | faultsCleared _ ih => exact ih
  | callsCleared _ ih => exact ih

end RealmConvergence.Service
