import RealmConvergence.Proofs.Service.Reachable

/-!
# What the parts of an identity service refer to

Inside a realm, composite mappings and grants refer to roles of clients by internal identifiers,
grants stand under identifiers of users, and a client names its own user. In a service that can be
reached nothing of this dangles and nothing is shared: every identifier refers to what is there, no
two clients have one public identifier, no two clients have one user, and a client with a service
account has a user for it (`StoredRealm.Linked`).

Every call keeps the realms of a sound store so (`Store.Linked.answer`), and hence everything that
can happen to a service does (`Reachable.linked`).
-/

set_option autoImplicit false

namespace RealmConvergence.Service

/-! ## Linked realms -/

/-- If a client has a service account, it has a user for it. -/
def StoredClient.HasUser (client : StoredClient) : Prop :=
  client.record.serviceAccountsEnabled = some true → client.serviceUser ≠ none

/-- Nothing in a realm refers to what is not there, and clients share neither their public
identifiers nor their users. -/
structure StoredRealm.Linked (held : StoredRealm) : Prop where
  clientIds : ∀ key other client otherClient, held.clients.get? key = some client →
    held.clients.get? other = some otherClient →
      otherClient.record.clientId = client.record.clientId → other = key
  accounts : ∀ key client user, held.clients.get? key = some client →
    client.serviceUser = some user → (held.users.get? user).isSome
  opened : ∀ key client, held.clients.get? key = some client → client.HasUser
  owners : ∀ key other client otherClient user, held.clients.get? key = some client →
    held.clients.get? other = some otherClient → client.serviceUser = some user →
      otherClient.serviceUser = some user → other = key
  composites : ∀ role roleId, (held.compositesOf role).contains roleId = true →
    ∃ key name, HasRole held.clients key name roleId
  grants : ∀ user roleId, (held.grantsOf user).contains roleId = true →
    (held.users.get? user).isSome ∧ ∃ key name, HasRole held.clients key name roleId

/-- A store whose realms are linked. -/
def Store.Linked (store : Store) : Prop :=
  ∀ name held, store.realms.get? name = some held → held.Linked

/-- Every role that some client has, a client has afterwards. -/
def KeepsRoles (before after : Table StoredClient) : Prop :=
  ∀ key name roleId, HasRole before key name roleId → HasRole after key name roleId

theorem keepsRoles_insert {clients : Table StoredClient} {key : String} {client : StoredClient}
    (keeps : ∀ stored name role roleId, clients.get? key = some stored →
      stored.roles.get? name = some role → role.id = some roleId →
        ∃ kept, client.roles.get? name = some kept ∧ kept.id = some roleId) :
    KeepsRoles clients (clients.insert key client) := by
  rintro other name roleId ⟨owner, role, present, there, identified⟩
  by_cases same : other = key
  · subst same
    obtain ⟨kept, thereAfter, identifiedAfter⟩ :=
      keeps owner name role roleId present there identified
    exact ⟨client, kept, Table.get?_insert_self _ _ _, thereAfter, identifiedAfter⟩
  · refine ⟨owner, role, ?_, there, identified⟩
    rw [Table.get?_insert, if_neg same]
    exact present

namespace StoredRealm

variable {held : StoredRealm}

/-- A client that is there is found by its public identifier, though perhaps another one. -/
theorem client?_ne_none {key clientId : String} {client : StoredClient}
    (present : held.clients.get? key = some client)
    (named : client.record.clientId = some clientId) : held.client? clientId ≠ none := by
  intro unknown
  have unwanted := Table.unwanted_of_find?_eq_none unknown present
  rw [named, beq_self_eq_true] at unwanted
  cases unwanted

/-- **In a linked realm a client is found by its public identifier.** -/
theorem Linked.client?_eq_some_iff (linked : held.Linked) {key clientId : String}
    {client : StoredClient} :
    held.client? clientId = some (key, client) ↔
      held.clients.get? key = some client ∧ client.record.clientId = some clientId := by
  refine ⟨get?_of_client?, fun ⟨present, named⟩ => ?_⟩
  cases known : held.client? clientId with
  | none => exact absurd known (client?_ne_none present named)
  | some entry =>
      obtain ⟨other, found⟩ := entry
      obtain ⟨otherPresent, otherNamed⟩ := get?_of_client? known
      have same := linked.clientIds key other client found present otherPresent
        (otherNamed.trans named.symm)
      subst same
      rw [present] at otherPresent
      cases otherPresent
      rfl

/-- The user of a client has been drawn. -/
theorem Linked.isDrawn_of_account (linked : held.Linked) {drawn : Nat} (sound : held.Sound drawn)
    {key user : String} {client : StoredClient} (present : held.clients.get? key = some client)
    (has : client.serviceUser = some user) : IsDrawn drawn "user" user := by
  obtain ⟨record, there⟩ := Option.isSome_iff_exists.1 (linked.accounts key client user present has)
  exact (sound.users user record there).2

/-! ## Changes that keep a realm linked -/

/-- A realm in which a client was put is linked, if the client has neither the public identifier nor
the user of another one, and keeps the roles of the one in whose place it is. -/
theorem Linked.putClient (linked : held.Linked) {key : String} {client : StoredClient}
    {users : Table UserRecord}
    (ownClientId : ∀ other stored, held.clients.get? other = some stored →
      stored.record.clientId = client.record.clientId → other = key)
    (account : ∀ user, client.serviceUser = some user → (users.get? user).isSome)
    (hasUser : client.HasUser)
    (ownUser : ∀ other stored user, held.clients.get? other = some stored →
      client.serviceUser = some user → stored.serviceUser = some user → other = key)
    (keepsRoles : KeepsRoles held.clients (held.clients.insert key client))
    (keepsUsers : ∀ user, (held.users.get? user).isSome → (users.get? user).isSome) :
    (held.putClient key client users).Linked where
  clientIds one other found otherFound present otherPresent same := by
    simp only [StoredRealm.putClient, Table.get?_insert] at present otherPresent
    split at present <;> split at otherPresent
    · next isKey otherIsKey => exact otherIsKey.trans isKey.symm
    · next isKey _ =>
      cases present
      exact (ownClientId other otherFound otherPresent same).trans isKey.symm
    · next _ otherIsKey =>
      cases otherPresent
      exact otherIsKey.trans (ownClientId one found present same.symm).symm
    · exact linked.clientIds one other found otherFound present otherPresent same
  accounts one found user present has := by
    simp only [StoredRealm.putClient, Table.get?_insert] at present
    split at present
    · cases present
      exact account user has
    · exact keepsUsers user (linked.accounts one found user present has)
  opened one found present := by
    simp only [StoredRealm.putClient, Table.get?_insert] at present
    split at present
    · cases present
      exact hasUser
    · exact linked.opened one found present
  owners one other found otherFound user present otherPresent has otherHas := by
    simp only [StoredRealm.putClient, Table.get?_insert] at present otherPresent
    split at present <;> split at otherPresent
    · next isKey otherIsKey => exact otherIsKey.trans isKey.symm
    · next isKey _ =>
      cases present
      exact (ownUser other otherFound user otherPresent has otherHas).trans isKey.symm
    · next _ otherIsKey =>
      cases otherPresent
      exact otherIsKey.trans (ownUser one found user present otherHas has).symm
    · exact linked.owners one other found otherFound user present otherPresent has otherHas
  composites role roleId attached := by
    obtain ⟨owner, name, has⟩ := linked.composites role roleId attached
    exact ⟨owner, name, keepsRoles owner name roleId has⟩
  grants user roleId granted := by
    obtain ⟨there, owner, name, has⟩ := linked.grants user roleId granted
    exact ⟨keepsUsers user there, owner, name, keepsRoles owner name roleId has⟩

/-- A client may be put in the place of one with the same identifiers and user, if it keeps its
roles. -/
theorem Linked.putClient_over (linked : held.Linked) {key : String} {stored client : StoredClient}
    (present : held.clients.get? key = some stored)
    (sameId : client.record.clientId = stored.record.clientId)
    (sameUser : client.serviceUser = stored.serviceUser) (hasUser : client.HasUser)
    (keeps : ∀ name role roleId, stored.roles.get? name = some role → role.id = some roleId →
      ∃ kept, client.roles.get? name = some kept ∧ kept.id = some roleId) :
    (held.putClient key client held.users).Linked := by
  refine linked.putClient ?_ ?_ hasUser ?_ (keepsRoles_insert ?_) fun _ there => there
  · intro other otherFound otherPresent same
    exact linked.clientIds key other stored otherFound present otherPresent (same.trans sameId)
  · intro user has
    exact linked.accounts key stored user present (sameUser ▸ has)
  · intro other otherFound user otherPresent has otherHas
    exact linked.owners key other stored otherFound user present otherPresent (sameUser ▸ has)
      otherHas
  · intro before name role roleId beforePresent there identified
    rw [present] at beforePresent
    cases beforePresent
    exact keeps name role roleId there identified

/-- A client under a free identifier may be put in a realm where nobody has its public identifier,
with a user of its own or none. -/
theorem Linked.putClient_new (linked : held.Linked) {drawn : Nat} (sound : held.Sound drawn)
    {key clientId : String} {client : StoredClient} (free : held.clients.get? key = none)
    (named : client.record.clientId = some clientId) (unknown : held.client? clientId = none)
    {users : Table UserRecord}
    (account : ∀ user, client.serviceUser = some user →
      (users.get? user).isSome ∧ ¬IsDrawn drawn "user" user)
    (hasUser : client.HasUser)
    (keepsUsers : ∀ user, (held.users.get? user).isSome → (users.get? user).isSome) :
    (held.putClient key client users).Linked := by
  refine linked.putClient ?_ (fun user has => (account user has).1) hasUser ?_
    (keepsRoles_insert ?_) keepsUsers
  · intro other stored present same
    exact absurd unknown (client?_ne_none present (same.trans named))
  · intro other stored user present has otherHas
    exact absurd (linked.isDrawn_of_account sound present otherHas) (account user has).2
  · intro stored name role roleId present
    rw [free] at present
    cases present

/-- A realm stays linked when roles that some client has come with a role of the realm. -/
theorem Linked.attach (linked : held.Linked) {role : String} {roleIds : List String}
    (known : ∀ roleId ∈ roleIds, ∃ key name, HasRole held.clients key name roleId)
    (roles : Table RoleRecord) :
    StoredRealm.Linked { held with
      composites := held.composites.insert role ((held.compositesOf role).insertAll roleIds)
      roles } where
  clientIds := linked.clientIds
  accounts := linked.accounts
  opened := linked.opened
  owners := linked.owners
  composites other roleId attached := by
    rcases contains_insert_insertAll_iff.1 attached with old | ⟨-, isNew⟩
    · exact linked.composites other roleId old
    · exact known roleId isNew
  grants := linked.grants

/-- A realm stays linked when a user is granted roles that some client has. -/
theorem Linked.grant (linked : held.Linked) {user : String} {roleIds : List String}
    (there : (held.users.get? user).isSome)
    (known : ∀ roleId ∈ roleIds, ∃ key name, HasRole held.clients key name roleId) :
    StoredRealm.Linked { held with
      grants := held.grants.insert user ((held.grantsOf user).insertAll roleIds) } where
  clientIds := linked.clientIds
  accounts := linked.accounts
  opened := linked.opened
  owners := linked.owners
  composites := linked.composites
  grants other roleId granted := by
    rcases contains_insert_insertAll_iff.1 granted with old | ⟨isUser, isNew⟩
    · exact linked.grants other roleId old
    · exact ⟨isUser ▸ there, known roleId isNew⟩

/-- What a realm refers to does not depend on its settings and its own roles. -/
theorem Linked.withSettings (linked : held.Linked) (enabled : Bool) (attributes : Table String)
    (roles : Table RoleRecord) : StoredRealm.Linked { held with enabled, attributes, roles } where
  clientIds := linked.clientIds
  accounts := linked.accounts
  opened := linked.opened
  owners := linked.owners
  composites := linked.composites
  grants := linked.grants

/-- A realm with a single client and nothing else is linked. -/
theorem linked_single (enabled : Bool) (attributes : Table String) (key : String)
    {client : StoredClient} (noUser : client.serviceUser = none) (hasUser : client.HasUser) :
    StoredRealm.Linked { enabled, attributes, clients := Table.insert ∅ key client } where
  clientIds one other found otherFound present otherPresent _ := by
    rw [Table.get?_insert] at present otherPresent
    split at present
    · split at otherPresent
      · next isKey otherIsKey => exact otherIsKey.trans isKey.symm
      · cases otherPresent
    · cases present
  accounts one found user present has := by
    rw [Table.get?_insert] at present
    split at present
    · cases present
      rw [noUser] at has
      cases has
    · cases present
  opened one found present := by
    rw [Table.get?_insert] at present
    split at present
    · cases present
      exact hasUser
    · cases present
  owners one other found otherFound user present _ has := by
    rw [Table.get?_insert] at present
    split at present
    · cases present
      rw [noUser] at has
      cases has
    · cases present
  composites role roleId attached := by cases attached
  grants user roleId granted := by cases granted

/-- A realm without clients and anything else is linked. -/
theorem linked_empty (enabled : Bool) (attributes : Table String) :
    StoredRealm.Linked { enabled, attributes } where
  clientIds _ _ _ _ present := by cases present
  accounts _ _ _ present := by cases present
  opened _ _ present := by cases present
  owners _ _ _ _ _ present := by cases present
  composites _ _ attached := by cases attached
  grants _ _ granted := by cases granted

/-- A role that is known by its identifier is one that some client has. -/
theorem exists_hasRole {roleId : String} (known : (held.clientRole? roleId).isSome) :
    ∃ key name, HasRole held.clients key name roleId := by
  obtain ⟨⟨key, role⟩, found⟩ := Option.isSome_iff_exists.1 known
  obtain ⟨client, name, present, there, identified⟩ := hasRole_of_clientRole? found
  exact ⟨key, name, client, role, present, there, identified⟩

/-- Identifiers that pass the check for composites are those of roles that some client has. -/
theorem hasRole_of_compositeIds {added : List RoleRecord} {roleIds : List String}
    (checked : compositeIds held added = .ok roleIds) :
    ∀ roleId ∈ roleIds, ∃ key name, HasRole held.clients key name roleId := by
  induction added generalizing roleIds with
  | nil =>
      cases checked
      exact fun roleId member => by cases member
  | cons role rest ih =>
      simp only [compositeIds] at checked
      split at checked
      · cases checked
      · split at checked
        · next known =>
          obtain ⟨others, checkedRest, rfl⟩ := exists_of_map_eq_ok checked
          exact List.forall_mem_cons.2 ⟨exists_hasRole known, ih checkedRest⟩
        · cases checked

/-- Identifiers that pass the check for grants are those of roles that some client has. -/
theorem hasRole_of_grantIds {client : String} {granted : List RoleRecord} {roleIds : List String}
    (checked : grantIds held client granted = .ok roleIds) :
    ∀ roleId ∈ roleIds, ∃ key name, HasRole held.clients key name roleId := by
  induction granted generalizing roleIds with
  | nil =>
      cases checked
      exact fun roleId member => by cases member
  | cons role rest ih =>
      simp only [grantIds] at checked
      split at checked
      · next known =>
        split at checked
        · obtain ⟨others, checkedRest, rfl⟩ := exists_of_map_eq_ok checked
          exact List.forall_mem_cons.2
            ⟨exists_hasRole (Option.isSome_of_eq_some known), ih checkedRest⟩
        · cases checked
      · cases checked

end StoredRealm

/-! ## Calls keep stores linked -/

namespace Store.Linked

variable {store : Store}

theorem putRealm (linked : store.Linked) {name : String} {held : StoredRealm}
    (fits : held.Linked) : (store.putRealm name held).Linked := by
  intro other found present
  rw [putRealm_realms_get?] at present
  split at present
  · cases present
    exact fits
  · exact linked other found present

/-- An edit keeps a store linked if what its change makes is linked. -/
theorem edit {α : Type} (linked : store.Linked) {realm : String}
    {change : StoredRealm → Except AdminError (α × StoredRealm)}
    (changes : ∀ before answer after, store.realms.get? realm = some before →
      change before = .ok (answer, after) → after.Linked) :
    (store.edit realm change).2.Linked := by
  unfold Store.edit
  split
  · exact linked
  · next before present =>
    split
    · exact linked
    · next answer after made => exact linked.putRealm (changes before answer after present made)

theorem startRealm (linked : store.Linked) (name : String) (enabled : Bool)
    (attributes : Table String) : (store.startRealm name enabled attributes).Linked := by
  unfold Store.startRealm
  split
  · have hasUser : (managementClient store.drawn).2.HasUser := fun never => nomatch never
    exact linked.putRealm (StoredRealm.linked_single enabled attributes _ rfl hasUser)
  · exact linked.putRealm (StoredRealm.linked_empty enabled attributes)

theorem addClient (linked : store.Linked) (sound : store.Sound) (realm : String)
    (record : ClientRecord) : (store.addClient realm record).2.Linked := by
  unfold Store.addClient
  split
  · exact linked
  · next clientId named =>
    have drawnLinked : Store.Linked { store with drawn := store.drawn + 3 } := linked
    refine drawnLinked.edit fun before answer after present made => ?_
    have old := sound realm before present
    have free := old.client_free (Nat.lt_succ_self _)
    have userIsNew : ¬IsDrawn store.drawn "user" (identifier "user" (store.drawn + 3)) :=
      IsDrawn.fresh (by omega)
    split at made
    · cases made
    · next unknown =>
      have unknownClient : before.client? clientId = none := by simpa using unknown
      dsimp only at made
      split at made
      · cases made
        refine (linked realm before present).putClient_new old free named unknownClient ?_
          (fun _ never => nomatch never) ?_
        · intro user has
          cases has
          exact ⟨by rw [Table.get?_insert_self]; rfl, userIsNew⟩
        · intro user there
          rw [Table.get?_insert]
          split
          · rfl
          · exact there
      · next closed =>
        cases made
        exact (linked realm before present).putClient_new old free named unknownClient
          (fun user has => by cases has) (fun enabled => absurd enabled closed)
          fun user there => there

/-- A realm stays linked when a client of it is changed and is given a user where it has none. -/
theorem changeClient (linked : store.Linked) (sound : store.Sound) (realm client : String)
    (record : ClientRecord) : (store.changeClient realm client record).2.Linked := by
  unfold Store.changeClient
  have drawnLinked : Store.Linked { store with drawn := store.drawn + 1 } := linked
  refine drawnLinked.edit fun before answer after present made => ?_
  have old := linked realm before present
  split at made
  · cases made
  · next stored held =>
    have sameRoles (changed : ClientRecord) (serviceUser : Option String) :
        KeepsRoles before.clients
          (before.clients.insert client { stored with record := changed, serviceUser }) := by
      refine keepsRoles_insert fun other name role roleId otherPresent there identified => ?_
      rw [held] at otherPresent
      cases otherPresent
      exact ⟨role, there, identified⟩
    dsimp only at made
    split at made
    · cases made
      refine old.putClient ?_ ?_ (fun _ never => nomatch never) ?_ (sameRoles _ _) ?_
      · exact fun other found otherPresent same =>
          old.clientIds client other stored found held otherPresent same
      · intro user has
        cases has
        rw [Table.get?_insert_self]
        rfl
      · intro other found user otherPresent has otherHas
        cases has
        exact absurd (old.isDrawn_of_account (sound realm before present) otherPresent otherHas)
          (IsDrawn.fresh (Nat.lt_succ_self _))
      · intro user there
        rw [Table.get?_insert]
        split
        · rfl
        · exact there
    · next settled =>
      cases made
      refine old.putClient_over held rfl rfl (fun enabled nobody => settled ⟨enabled, ?_⟩)
        fun name role roleId there identified => ⟨role, there, identified⟩
      rw [show stored.serviceUser = none from nobody]
      rfl

theorem addRealmRole (linked : store.Linked) (realm : String) (record : RoleRecord) :
    (store.addRealmRole realm record).2.Linked := by
  unfold Store.addRealmRole
  split
  · exact linked
  · have drawnLinked : Store.Linked { store with drawn := store.drawn + 1 } := linked
    refine drawnLinked.edit fun before answer after present made => ?_
    obtain ⟨roles, -, same⟩ := exists_of_map_eq_ok made
    cases same
    exact (linked realm before present).withSettings _ _ roles

theorem addClientRole (linked : store.Linked) (realm client : String) (record : RoleRecord) :
    (store.addClientRole realm client record).2.Linked := by
  unfold Store.addClientRole
  split
  · exact linked
  · next name named =>
    have drawnLinked : Store.Linked { store with drawn := store.drawn + 1 } := linked
    refine drawnLinked.edit fun before answer after present made => ?_
    split at made
    · cases made
    · next owner held =>
      obtain ⟨roles, added, same⟩ := exists_of_map_eq_ok made
      cases same
      unfold addTo at added
      split at added
      · cases added
      · next free =>
        cases added
        have old := linked realm before present
        refine old.putClient_over held rfl rfl (old.opened client owner held) ?_
        intro other role roleId there identified
        have different : other ≠ name := by
          rintro rfl
          exact free (Option.isSome_of_eq_some there)
        refine ⟨role, ?_, identified⟩
        rw [Table.get?_insert, if_neg different]
        exact there

/-- **A call keeps the realms of a sound store linked.** -/
theorem answer (linked : store.Linked) (sound : store.Sound) (call : AdminCall) :
    (store.answer call).2.Linked := by
  cases call with
  | getRealm | findClient | getClientSecret | getRealmRole | getClientRole
  | getServiceAccountUser | getRealmRoleComposites =>
      rw [answer_of_not_mutating rfl]
      exact linked
  | createRealm record =>
      simp only [Store.answer]
      split
      · exact linked
      · split
        · exact linked
        · exact linked.startRealm _ _ _
  | updateRealm realm record =>
      refine linked.edit fun before answer after present made => ?_
      cases made
      exact (linked realm before present).withSettings _ _ before.roles
  | createClient realm record => exact linked.addClient sound realm record
  | updateClient realm client record => exact linked.changeClient sound realm client record
  | updateClientSecret realm client secret =>
      refine linked.edit fun before answer after present made => ?_
      split at made
      · cases made
      · next stored held =>
        cases made
        have old := linked realm before present
        exact old.putClient_over held rfl rfl (old.opened client stored held)
          fun name role roleId there identified => ⟨role, there, identified⟩
  | createRealmRole realm record => exact linked.addRealmRole realm record
  | updateRealmRole realm role record =>
      refine linked.edit fun before answer after present made => ?_
      split at made
      · cases made
      · cases made
        exact (linked realm before present).withSettings _ _ _
  | addRealmRoleComposites realm role added =>
      refine linked.edit fun before answer after present made => ?_
      split at made
      · cases made
      · obtain ⟨roleIds, checked, same⟩ := exists_of_map_eq_ok made
        cases same
        exact (linked realm before present).attach (StoredRealm.hasRole_of_compositeIds checked) _
  | createClientRole realm client record => exact linked.addClientRole realm client record
  | updateClientRole realm client role record =>
      refine linked.edit fun before answer after present made => ?_
      split at made
      · cases made
      · next owner held =>
        split at made
        · cases made
        · next stored there =>
          cases made
          have old := linked realm before present
          refine old.putClient_over held rfl rfl (old.opened client owner held) ?_
          intro name other roleId otherThere identified
          rw [Table.get?_insert]
          split
          · next same =>
            subst same
            rw [there] at otherThere
            cases otherThere
            exact ⟨_, rfl, identified⟩
          · exact ⟨other, otherThere, identified⟩
  | assignClientRoles realm user client granted =>
      refine linked.edit fun before answer after present made => ?_
      split at made
      · next known =>
        obtain ⟨roleIds, checked, same⟩ := exists_of_map_eq_ok made
        cases same
        exact (linked realm before present).grant known (StoredRealm.hasRole_of_grantIds checked)
      · cases made

/-- A talk keeps the realms of a sound store linked. -/
theorem run (linked : store.Linked) (sound : store.Sound) {α : Type} (faults : Faults)
    (conversation : Talk α) : (conversation.run (respond faults) store).2.Linked := by
  have keeps (call : AdminCall) (before : Store) (_ : True)
      (held : before.Linked ∧ before.Sound) :
      (respond faults call before).2.Linked ∧ (respond faults call before).2.Sound :=
    respond_keeps (fun later => later.Linked ∧ later.Sound) held
      ⟨held.1.answer held.2 call, held.2.answer call⟩
  exact (conversation.asksOnly_true.run_keeps keeps ⟨linked, sound⟩).1

theorem prepare (linked : store.Linked) (sound : store.Sound) (seeding : Seeding) :
    (store.prepare seeding).Linked := by
  cases seeding with
  | realm name enabled attributes => exact linked.startRealm name enabled attributes
  | client realm record => exact linked.addClient sound realm record
  | realmRole realm role description =>
      exact linked.addRealmRole realm { name := some role, description }
  | clientRole realm clientId role description =>
      simp only [Store.prepare, Store.seedClientRole]
      split
      · exact linked
      · next client _ => exact linked.addClientRole realm client _
  | composite realm realmRole clientId role =>
      simp only [Store.prepare, Store.seedComposite]
      split
      · exact linked
      · next held present =>
        split
        · exact linked
        · next roleId found =>
          obtain ⟨record, there, identified⟩ := Option.bind_eq_some_iff.1 found
          obtain ⟨⟨key, owner⟩, known, roleThere⟩ := Option.bind_eq_some_iff.1 there
          have has : ∃ key name, HasRole held.clients key name roleId :=
            ⟨key, role, owner, record, (StoredRealm.get?_of_client? known).1, roleThere, identified⟩
          have only : ∀ other ∈ [roleId], ∃ key name, HasRole held.clients key name other :=
            List.forall_mem_singleton.2 has
          exact linked.putRealm ((linked realm held present).attach only held.roles)

end Store.Linked

/-- **In what can be reached, nothing dangles.** -/
theorem Reachable.linked {service : Service} (reachable : service.Reachable) :
    service.store.Linked := by
  induction reachable with
  | new =>
      intro name held found
      cases found
  | withoutManagement _ ih => exact ih
  | talked conversation before ih =>
      rw [talk_store]
      exact ih.run before.sound _ conversation
  | seeded seeding before ih => exact ih.prepare before.sound seeding
  | failing _ _ _ ih => exact ih
  | faultsCleared _ ih => exact ih
  | callsCleared _ ih => exact ih

end RealmConvergence.Service
