import RealmConvergence.Proofs.Service.Answering

/-!
# What an identity service always holds

Internal identifiers come from one counter, so a new one is the identifier of nothing that is there
(`IsDrawn.fresh`). A store is sound when clients and users stand under their own identifiers, all of
these have been drawn, clients have the fields that the service fills in, roles of clients stand
under their own names, and no two of them in one realm share an identifier.

Every call keeps a store sound (`Store.Sound.answer`). In a sound store a role of a client is found
by its identifier (`StoredRealm.Sound.clientRole?_of_hasRole`).
-/

set_option autoImplicit false

namespace RealmConvergence.Service

/-! ## Internal identifiers -/

/-- The digits of a number with zeros before them still write that number. -/
theorem sixDigits_injective {first second : Nat} (same : sixDigits first = sixDigits second) :
    first = second := by
  have value (number : Nat) :
      Nat.ofDigitChars 10 (sixDigits number).toList 0 = number := by
    simp only [sixDigits, String.toList_ofList, Nat.ofDigitChars_append,
      Nat.ofDigitChars_replicate_zero, Nat.mul_zero, Nat.ofDigitChars_ten_toDigits]
  rw [← value first, same, value second]

/-- Identifiers of one sort differ with their numbers. -/
theorem identifier_injective {sort : String} {first second : Nat}
    (same : identifier sort first = identifier sort second) : first = second := by
  apply sixDigits_injective
  have texts := congrArg String.toList same
  simp only [identifier, toString, String.toList_append, List.append_assoc] at texts
  exact String.toList_injective (List.append_cancel_left (List.append_cancel_left texts))

/-- An identifier of a sort whose number is one of the first `drawn`. -/
def IsDrawn (drawn : Nat) (sort text : String) : Prop :=
  ∃ number, number ≤ drawn ∧ text = identifier sort number

namespace IsDrawn

variable {drawn more : Nat} {sort text : String}

theorem mono (fewer : drawn ≤ more) (isDrawn : IsDrawn drawn sort text) :
    IsDrawn more sort text := by
  obtain ⟨number, bound, same⟩ := isDrawn
  exact ⟨number, Nat.le_trans bound fewer, same⟩

/-- An identifier with a later number has not been drawn. -/
theorem fresh {number : Nat} (later : drawn < number) :
    ¬IsDrawn drawn sort (identifier sort number) := by
  rintro ⟨other, bound, same⟩
  rw [identifier_injective same] at later
  omega

end IsDrawn

/-! ## Sound clients, users and realms -/

/-- A client as the service keeps it under an internal identifier. -/
structure StoredClient.Sound (drawn : Nat) (key : String) (client : StoredClient) : Prop where
  ownId : client.record.id = some key
  keyDrawn : IsDrawn drawn "client" key
  protocol : client.record.protocol.isSome
  publicClient : client.record.publicClient.isSome
  serviceAccounts : client.record.serviceAccountsEnabled.isSome
  roles : ∀ name role, client.roles.get? name = some role →
    role.name = some name ∧ ∃ roleId, role.id = some roleId ∧ IsDrawn drawn "role" roleId

/-- A client has a role of this name with this identifier. -/
def HasRole (clients : Table StoredClient) (key name roleId : String) : Prop :=
  ∃ client role, clients.get? key = some client ∧ client.roles.get? name = some role ∧
    role.id = some roleId

/-- Sound clients, no two of whose roles share an identifier. -/
structure ClientsSound (drawn : Nat) (clients : Table StoredClient) : Prop where
  each : ∀ key client, clients.get? key = some client → client.Sound drawn key
  roleIds : ∀ key name other otherName roleId, HasRole clients key name roleId →
    HasRole clients other otherName roleId → key = other ∧ name = otherName

/-- Users stand under their own identifiers. -/
def UsersSound (drawn : Nat) (users : Table UserRecord) : Prop :=
  ∀ key user, users.get? key = some user → user.id = some key ∧ IsDrawn drawn "user" key

/-- A realm with sound clients and users. -/
structure StoredRealm.Sound (drawn : Nat) (held : StoredRealm) : Prop where
  clients : ClientsSound drawn held.clients
  users : UsersSound drawn held.users

/-- No client stands under an identifier that has not been drawn. -/
theorem StoredRealm.Sound.client_free {drawn number : Nat} {held : StoredRealm}
    (sound : held.Sound drawn) (later : drawn < number) :
    held.clients.get? (identifier "client" number) = none := by
  rw [Option.eq_none_iff_forall_ne_some]
  intro client there
  exact IsDrawn.fresh later (sound.clients.each _ client there).keyDrawn

/-- A store whose realms are sound. -/
def Store.Sound (store : Store) : Prop :=
  ∀ name held, store.realms.get? name = some held → held.Sound store.drawn

section Monotone

variable {drawn more : Nat} (fewer : drawn ≤ more)
include fewer

theorem StoredClient.Sound.mono {key : String} {client : StoredClient}
    (sound : client.Sound drawn key) : client.Sound more key where
  ownId := sound.ownId
  keyDrawn := sound.keyDrawn.mono fewer
  protocol := sound.protocol
  publicClient := sound.publicClient
  serviceAccounts := sound.serviceAccounts
  roles name role found := by
    obtain ⟨named, roleId, identified, isDrawn⟩ := sound.roles name role found
    exact ⟨named, roleId, identified, isDrawn.mono fewer⟩

theorem ClientsSound.mono {clients : Table StoredClient} (sound : ClientsSound drawn clients) :
    ClientsSound more clients where
  each key client found := (sound.each key client found).mono fewer
  roleIds := sound.roleIds

theorem UsersSound.mono {users : Table UserRecord} (sound : UsersSound drawn users) :
    UsersSound more users := by
  intro key user found
  obtain ⟨ownId, isDrawn⟩ := sound key user found
  exact ⟨ownId, isDrawn.mono fewer⟩

theorem StoredRealm.Sound.mono {held : StoredRealm} (sound : held.Sound drawn) :
    held.Sound more :=
  ⟨sound.clients.mono fewer, sound.users.mono fewer⟩

end Monotone

theorem clientsSound_empty (drawn : Nat) : ClientsSound drawn ∅ where
  each _ _ found := by cases found
  roleIds _ _ _ _ _ first := by
    obtain ⟨client, role, found, -⟩ := first
    cases found

theorem usersSound_empty (drawn : Nat) : UsersSound drawn ∅ := by
  intro key user found
  cases found

/-! ## Putting clients, roles and users -/

section Putting

variable {drawn more : Nat}

/-- Identifiers of roles have been drawn. -/
theorem ClientsSound.isDrawn_of_hasRole {clients : Table StoredClient}
    (sound : ClientsSound drawn clients) {key name roleId : String}
    (has : HasRole clients key name roleId) : IsDrawn drawn "role" roleId := by
  obtain ⟨owner, role, present, there, identified⟩ := has
  obtain ⟨-, ownId, identifiedSo, isDrawn⟩ := (sound.each key owner present).roles name role there
  rw [identified] at identifiedSo
  cases identifiedSo
  exact isDrawn

/-- A role that is there after a client was put was there before, or is one of that client. -/
theorem hasRole_of_insert {clients : Table StoredClient} {key other name roleId : String}
    {client : StoredClient} (has : HasRole (clients.insert key client) other name roleId) :
    HasRole clients other name roleId ∨ (other = key ∧ ∃ role,
      client.roles.get? name = some role ∧ role.id = some roleId) := by
  obtain ⟨owner, role, present, there, identified⟩ := has
  rw [Table.get?_insert] at present
  split at present
  · next same =>
    cases present
    exact .inr ⟨same, role, there, identified⟩
  · exact .inl ⟨owner, role, present, there, identified⟩

/-- A client can be put whose roles the one before had, or whose one other role has a new
identifier. -/
theorem ClientsSound.insert {clients : Table StoredClient} (sound : ClientsSound drawn clients)
    (fewer : drawn ≤ more) {key : String} {client : StoredClient} (fits : client.Sound more key)
    (newName : String)
    (roles : ∀ name role roleId, client.roles.get? name = some role → role.id = some roleId →
      HasRole clients key name roleId ∨ (name = newName ∧ ¬IsDrawn drawn "role" roleId)) :
    ClientsSound more (clients.insert key client) where
  each other found present := by
    rw [Table.get?_insert] at present
    split at present
    · next same =>
      cases present
      exact same ▸ fits
    · exact (sound.each other found present).mono fewer
  roleIds := by
    -- A role afterwards was there before, or is the new one, whose identifier nothing had.
    have origin {other name roleId : String}
        (has : HasRole (clients.insert key client) other name roleId) :
        HasRole clients other name roleId ∨
          (other = key ∧ name = newName ∧ ¬IsDrawn drawn "role" roleId) := by
      rcases hasRole_of_insert has with old | ⟨same, role, there, identified⟩
      · exact .inl old
      · rcases roles name role roleId there identified with old | new
        · exact .inl (same ▸ old)
        · exact .inr ⟨same, new⟩
    intro first name second otherName roleId firstHas secondHas
    rcases origin firstHas with oldFirst | ⟨firstKey, firstName, firstNew⟩
    · rcases origin secondHas with oldSecond | ⟨-, -, secondNew⟩
      · exact sound.roleIds first name second otherName roleId oldFirst oldSecond
      · exact absurd (sound.isDrawn_of_hasRole oldFirst) secondNew
    · rcases origin secondHas with oldSecond | ⟨secondKey, secondName, -⟩
      · exact absurd (sound.isDrawn_of_hasRole oldSecond) firstNew
      · exact ⟨firstKey.trans secondKey.symm, firstName.trans secondName.symm⟩

/-- A client can be put whose roles have the identifiers of the one before. -/
theorem ClientsSound.insert_of_same_roles {clients : Table StoredClient}
    (sound : ClientsSound drawn clients) (fewer : drawn ≤ more) {key : String}
    {client stored : StoredClient} (fits : client.Sound more key)
    (present : clients.get? key = some stored) (same : client.roles = stored.roles) :
    ClientsSound more (clients.insert key client) := by
  refine sound.insert fewer fits "" fun name role roleId there identified => ?_
  rw [same] at there
  exact .inl ⟨stored, role, present, there, identified⟩

theorem UsersSound.insert {users : Table UserRecord} (sound : UsersSound drawn users)
    (fewer : drawn ≤ more) {key clientId : String} (isDrawn : IsDrawn more "user" key) :
    UsersSound more (users.insert key (serviceAccount key clientId)) := by
  intro other user found
  rw [Table.get?_insert] at found
  split at found
  · next same =>
    cases found
    exact ⟨same ▸ rfl, same ▸ isDrawn⟩
  · exact sound.mono fewer other user found

end Putting

/-! ## New realms -/

/-- The roles of a management client are the listed ones, numbered in order. -/
theorem managementClient_role {drawn : Nat} {name : String} {role : RoleRecord}
    (found : (managementClient drawn).2.roles.get? name = some role) :
    ∃ position, position < managementRoles.length ∧ managementRoles[position]? = some name ∧
      role.name = some name ∧ role.id = some (identifier "role" (drawn + 2 + position)) := by
  have member := Table.mem_of_get?_ofList found
  obtain ⟨position, bound, same⟩ := List.mem_mapIdx.1 member
  obtain ⟨sameName, sameRole⟩ := Prod.mk.inj same
  refine ⟨position, bound, ?_, ?_, ?_⟩
  · rw [← sameName, List.getElem?_eq_getElem bound]
  · rw [← sameRole, ← sameName]
  · rw [← sameRole]

theorem managementClient_sound (drawn : Nat) :
    (managementClient drawn).2.Sound (drawn + 1 + managementRoles.length)
      (managementClient drawn).1 where
  ownId := rfl
  keyDrawn := ⟨drawn + 1, by omega, rfl⟩
  protocol := rfl
  publicClient := rfl
  serviceAccounts := rfl
  roles name role found := by
    obtain ⟨position, bound, -, named, identified⟩ := managementClient_role found
    exact ⟨named, _, identified, drawn + 2 + position, by omega, rfl⟩

theorem clientsSound_management (drawn : Nat) :
    ClientsSound (drawn + 1 + managementRoles.length)
      (Table.insert ∅ (managementClient drawn).1 (managementClient drawn).2) where
  each key client found := by
    rw [Table.get?_insert] at found
    split at found
    · next same =>
      cases found
      exact same ▸ managementClient_sound drawn
    · cases found
  roleIds first name second otherName roleId firstHas secondHas := by
    have placed {key name : String} (has : HasRole
        (Table.insert ∅ (managementClient drawn).1 (managementClient drawn).2) key name roleId) :
        key = (managementClient drawn).1 ∧ ∃ position, managementRoles[position]? = some name ∧
          roleId = identifier "role" (drawn + 2 + position) := by
      obtain ⟨client, role, present, there, identified⟩ := has
      rw [Table.get?_insert] at present
      split at present
      · next same =>
        cases present
        obtain ⟨position, -, listed, -, numbered⟩ := managementClient_role there
        rw [identified] at numbered
        exact ⟨same, position, listed, Option.some.inj numbered⟩
      · cases present
    obtain ⟨firstKey, firstPosition, firstListed, firstNumbered⟩ := placed firstHas
    obtain ⟨secondKey, secondPosition, secondListed, secondNumbered⟩ := placed secondHas
    have numbers := identifier_injective (firstNumbered.symm.trans secondNumbered)
    have positions : firstPosition = secondPosition := by omega
    rw [positions, secondListed] at firstListed
    exact ⟨firstKey.trans secondKey.symm, (Option.some.inj firstListed).symm⟩

namespace Store.Sound

variable {store : Store}

/-- Drawing identifiers keeps a store sound. -/
theorem draw (sound : store.Sound) (count : Nat) :
    Store.Sound { store with drawn := store.drawn + count } := by
  intro name held found
  exact (sound name held found).mono (Nat.le_add_right _ _)

theorem putRealm (sound : store.Sound) {name : String} {held : StoredRealm}
    (fits : held.Sound store.drawn) : (store.putRealm name held).Sound := by
  intro other found present
  rw [putRealm_realms_get?] at present
  split at present
  · cases present
    exact fits
  · exact sound other found present

/-- An edit keeps a store sound if what its change makes is sound. -/
theorem edit {α : Type} (sound : store.Sound) {realm : String}
    {change : StoredRealm → Except AdminError (α × StoredRealm)}
    (changes : ∀ before answer after, store.realms.get? realm = some before →
      change before = .ok (answer, after) → after.Sound store.drawn) :
    (store.edit realm change).2.Sound := by
  unfold Store.edit
  split
  · exact sound
  · next before present =>
    split
    · exact sound
    · next answer after made => exact sound.putRealm (changes before answer after present made)

theorem startRealm (sound : store.Sound) (name : String) (enabled : Bool)
    (attributes : Table String) : (store.startRealm name enabled attributes).Sound := by
  unfold Store.startRealm
  split
  · have drawnFirst := sound.draw (1 + managementRoles.length)
    rw [← Nat.add_assoc] at drawnFirst
    exact drawnFirst.putRealm
      ⟨clientsSound_management store.drawn, usersSound_empty _⟩
  · exact sound.putRealm ⟨clientsSound_empty _, usersSound_empty _⟩

end Store.Sound

/-! ## Changed clients and roles -/

section Changes

variable {drawn more : Nat} {key : String} {stored : StoredClient}

theorem newClientRecord_sound {generatedSecret : String} {record : ClientRecord}
    (isDrawn : IsDrawn more "client" key) (serviceUser : Option String) :
    StoredClient.Sound more key
      { record := newClientRecord key generatedSecret record, serviceUser } where
  ownId := rfl
  keyDrawn := isDrawn
  protocol := rfl
  publicClient := rfl
  serviceAccounts := rfl
  roles _ _ found := by cases found

theorem updatedClient_sound (sound : stored.Sound drawn key) (fewer : drawn ≤ more)
    (record : ClientRecord) (serviceUser : Option String) :
    StoredClient.Sound more key
      { stored with record := updatedClient stored.record record, serviceUser } where
  ownId := sound.ownId
  keyDrawn := sound.keyDrawn.mono fewer
  protocol := by
    simp only [updatedClient, Option.isSome_or, sound.protocol, Bool.or_true]
  publicClient := by
    simp only [updatedClient, Option.isSome_or, sound.publicClient, Bool.or_true]
  serviceAccounts := by
    simp only [updatedClient, Option.isSome_or, sound.serviceAccounts, Bool.or_true]
  roles := (sound.mono fewer).roles

/-- A role of a client under its name, with an identifier that has been drawn. -/
theorem StoredClient.Sound.insertRole (sound : stored.Sound drawn key) (fewer : drawn ≤ more)
    {name roleId : String} {role : RoleRecord} (named : role.name = some name)
    (identified : role.id = some roleId) (isDrawn : IsDrawn more "role" roleId) :
    StoredClient.Sound more key { stored with roles := stored.roles.insert name role } where
  ownId := sound.ownId
  keyDrawn := sound.keyDrawn.mono fewer
  protocol := sound.protocol
  publicClient := sound.publicClient
  serviceAccounts := sound.serviceAccounts
  roles other found there := by
    rw [Table.get?_insert] at there
    split at there
    · next same =>
      cases there
      exact ⟨same ▸ named, roleId, identified, isDrawn⟩
    · exact (sound.mono fewer).roles other found there

end Changes

namespace Store.Sound

variable {store : Store}

theorem addClient (sound : store.Sound) (realm : String) (record : ClientRecord) :
    (store.addClient realm record).2.Sound := by
  unfold Store.addClient
  split
  · exact sound
  · refine (sound.draw 3).edit fun before answer after present made => ?_
    have fewer : store.drawn ≤ store.drawn + 3 := by omega
    have old := sound realm before present
    have newKey : IsDrawn (store.drawn + 3) "client" (identifier "client" (store.drawn + 1)) :=
      ⟨_, by omega, rfl⟩
    have put (client : StoredClient) (fits : client.Sound (store.drawn + 3)
        (identifier "client" (store.drawn + 1))) (noRoles : client.roles = ∅) :
        ClientsSound (store.drawn + 3)
          (before.clients.insert (identifier "client" (store.drawn + 1)) client) := by
      refine old.clients.insert fewer fits "" fun name role roleId there => ?_
      rw [noRoles] at there
      cases there
    split at made
    · cases made
    · dsimp only at made
      split at made
      · cases made
        exact ⟨put _ (newClientRecord_sound newKey _) rfl,
          old.users.insert fewer ⟨_, Nat.le_refl _, rfl⟩⟩
      · cases made
        exact ⟨put _ (newClientRecord_sound newKey _) rfl, old.users.mono fewer⟩

theorem changeClient (sound : store.Sound) (realm client : String) (record : ClientRecord) :
    (store.changeClient realm client record).2.Sound := by
  unfold Store.changeClient
  refine (sound.draw 1).edit fun before answer after present made => ?_
  have fewer : store.drawn ≤ store.drawn + 1 := by omega
  have old := sound realm before present
  split at made
  · cases made
  · next stored held =>
    have put (serviceUser : Option String) : ClientsSound (store.drawn + 1)
        (before.clients.insert client
          { stored with record := updatedClient stored.record record, serviceUser }) :=
      old.clients.insert_of_same_roles fewer
        (updatedClient_sound (old.clients.each client stored held) fewer record serviceUser)
        held rfl
    dsimp only at made
    split at made
    · cases made
      exact ⟨put _, old.users.insert fewer ⟨_, Nat.le_refl _, rfl⟩⟩
    · cases made
      exact ⟨put _, old.users.mono fewer⟩

theorem addRealmRole (sound : store.Sound) (realm : String) (record : RoleRecord) :
    (store.addRealmRole realm record).2.Sound := by
  unfold Store.addRealmRole
  split
  · exact sound
  · refine (sound.draw 1).edit fun before answer after present made => ?_
    obtain ⟨roles, -, same⟩ := exists_of_map_eq_ok made
    cases same
    exact ⟨(sound.draw 1 realm before present).clients, (sound.draw 1 realm before present).users⟩

theorem addClientRole (sound : store.Sound) (realm client : String) (record : RoleRecord) :
    (store.addClientRole realm client record).2.Sound := by
  unfold Store.addClientRole
  split
  · exact sound
  · next name named =>
    refine (sound.draw 1).edit fun before answer after present made => ?_
    have fewer : store.drawn ≤ store.drawn + 1 := by omega
    have old := sound realm before present
    split at made
    · cases made
    · next owner held =>
      obtain ⟨roles, added, same⟩ := exists_of_map_eq_ok made
      cases same
      unfold addTo at added
      split at added
      · cases added
      · cases added
        refine ⟨old.clients.insert fewer ?_ name ?_, old.users.mono fewer⟩
        · exact (old.clients.each client owner held).insertRole fewer rfl rfl
            ⟨_, Nat.le_refl _, rfl⟩
        · intro other role roleId there identified
          rw [Table.get?_insert] at there
          split at there
          · next isNew =>
            cases there
            cases identified
            exact .inr ⟨isNew, IsDrawn.fresh (Nat.lt_succ_self _)⟩
          · exact .inl ⟨owner, role, held, there, identified⟩

/-- A described role keeps its identifier. -/
theorem describeClientRole (sound : store.Sound) {realm client role : String}
    {before : StoredRealm} {owner : StoredClient} {stored : RoleRecord}
    (present : store.realms.get? realm = some before)
    (held : before.clients.get? client = some owner) (there : owner.roles.get? role = some stored)
    (record : RoleRecord) :
    ClientsSound store.drawn (before.clients.insert client
      { owner with roles := owner.roles.insert role (updatedRole stored record) }) := by
  have old := sound realm before present
  have fits := old.clients.each client owner held
  obtain ⟨named, roleId, identified, isDrawn⟩ := fits.roles role stored there
  refine old.clients.insert (Nat.le_refl _)
    (fits.insertRole (Nat.le_refl _) named identified isDrawn) "" ?_
  intro other found otherId thereAfter identifiedAfter
  rw [Table.get?_insert] at thereAfter
  split at thereAfter
  · next same =>
    cases thereAfter
    exact .inl ⟨owner, stored, held, same ▸ there, identifiedAfter⟩
  · exact .inl ⟨owner, found, held, thereAfter, identifiedAfter⟩

/-- **A call keeps a store sound.** -/
theorem answer (sound : store.Sound) (call : AdminCall) : (store.answer call).2.Sound := by
  cases call with
  | getRealm | findClient | getClientSecret | getRealmRole | getClientRole
  | getServiceAccountUser | getRealmRoleComposites =>
      rw [answer_of_not_mutating rfl]
      exact sound
  | createRealm record =>
      simp only [Store.answer]
      split
      · exact sound
      · split
        · exact sound
        · exact sound.startRealm _ _ _
  | updateRealm realm record =>
      refine sound.edit fun before answer after present made => ?_
      cases made
      exact ⟨(sound realm before present).clients, (sound realm before present).users⟩
  | createClient realm record => exact sound.addClient realm record
  | updateClient realm client record => exact sound.changeClient realm client record
  | updateClientSecret realm client secret =>
      refine sound.edit fun before answer after present made => ?_
      have old := sound realm before present
      split at made
      · cases made
      · next stored held =>
        cases made
        have fits := old.clients.each client stored held
        exact ⟨old.clients.insert_of_same_roles (Nat.le_refl _)
          ⟨fits.ownId, fits.keyDrawn, fits.protocol, fits.publicClient, fits.serviceAccounts,
            fits.roles⟩ held rfl, old.users⟩
  | createRealmRole realm record => exact sound.addRealmRole realm record
  | updateRealmRole realm role record =>
      refine sound.edit fun before answer after present made => ?_
      split at made
      · cases made
      · cases made
        exact ⟨(sound realm before present).clients, (sound realm before present).users⟩
  | addRealmRoleComposites realm role added =>
      refine sound.edit fun before answer after present made => ?_
      split at made
      · cases made
      · obtain ⟨roleIds, -, same⟩ := exists_of_map_eq_ok made
        cases same
        exact ⟨(sound realm before present).clients, (sound realm before present).users⟩
  | createClientRole realm client record => exact sound.addClientRole realm client record
  | updateClientRole realm client role record =>
      refine sound.edit fun before answer after present made => ?_
      split at made
      · cases made
      · next owner held =>
        split at made
        · cases made
        · next stored there =>
          cases made
          exact ⟨sound.describeClientRole present held there record,
            (sound realm before present).users⟩
  | assignClientRoles realm user client granted =>
      refine sound.edit fun before answer after present made => ?_
      split at made
      · obtain ⟨roleIds, -, same⟩ := exists_of_map_eq_ok made
        cases same
        exact ⟨(sound realm before present).clients, (sound realm before present).users⟩
      · cases made

end Store.Sound

/-! ## Finding roles by their identifiers -/

namespace StoredRealm

variable {held : StoredRealm} {key roleId : String} {role : RoleRecord}

/-- A role found by an identifier belongs to the client found with it. -/
theorem hasRole_of_clientRole? (found : held.clientRole? roleId = some (key, role)) :
    ∃ client name, held.clients.get? key = some client ∧ client.roles.get? name = some role ∧
      role.id = some roleId := by
  obtain ⟨entry, member, foundThere⟩ := List.exists_of_findSome?_eq_some found
  obtain ⟨foundRole, foundIn, same⟩ := Option.map_eq_some_iff.1 foundThere
  cases same
  obtain ⟨name, there⟩ := Table.mem_values_iff.1 (List.mem_of_find?_eq_some foundIn)
  have identified := List.find?_some foundIn
  exact ⟨entry.2, name, Table.mem_toList_iff.1 member, there, by simpa using identified⟩

/-- **In a sound realm a role of a client is found by its identifier.** -/
theorem Sound.clientRole?_of_hasRole {drawn : Nat} (sound : held.Sound drawn)
    {client : StoredClient} {name : String} (present : held.clients.get? key = some client)
    (there : client.roles.get? name = some role) (identified : role.id = some roleId) :
    held.clientRole? roleId = some (key, role) := by
  have known : (held.clientRole? roleId).isSome := by
    rw [clientRole?, List.findSome?_isSome_iff]
    refine ⟨(key, client), Table.mem_toList_iff.2 present, ?_⟩
    rw [Option.isSome_map, List.find?_isSome]
    exact ⟨role, Table.mem_values_iff.2 ⟨name, there⟩, by simpa using identified⟩
  obtain ⟨⟨other, found⟩, foundSo⟩ := Option.isSome_iff_exists.1 known
  obtain ⟨owner, otherName, ownerPresent, otherThere, otherIdentified⟩ :=
    hasRole_of_clientRole? foundSo
  obtain ⟨sameKey, sameName⟩ := sound.clients.roleIds key name other otherName roleId
    ⟨client, role, present, there, identified⟩
    ⟨owner, found, ownerPresent, otherThere, otherIdentified⟩
  subst sameKey sameName
  rw [present] at ownerPresent
  cases ownerPresent
  rw [there] at otherThere
  cases otherThere
  exact foundSo

/-- In a sound realm, the roles of a client under some names are found by their identifiers. -/
theorem Sound.clientRole?_of_mem_filterMap {drawn : Nat} (sound : held.Sound drawn)
    {client : StoredClient} (present : held.clients.get? key = some client) {names : List String}
    (member : role ∈ names.filterMap client.roles.get?) :
    ∃ roleId, role.id = some roleId ∧ held.clientRole? roleId = some (key, role) := by
  obtain ⟨name, -, there⟩ := List.mem_filterMap.1 member
  obtain ⟨-, roleId, identified, -⟩ := (sound.clients.each key client present).roles name role there
  exact ⟨roleId, identified, sound.clientRole?_of_hasRole present there identified⟩

/-- The roles of a client among identifiers are those found by one of them. -/
theorem mem_rolesOfClient_iff {roleIds : NameSet} :
    role ∈ held.rolesOfClient key roleIds ↔
      ∃ roleId, roleIds.contains roleId = true ∧ held.clientRole? roleId = some (key, role) := by
  simp only [rolesOfClient, List.mem_map, List.mem_filter, List.mem_filterMap,
    NameSet.mem_toList_iff, Prod.exists, beq_iff_eq]
  constructor
  · rintro ⟨other, found, ⟨⟨foundId, member, foundSo⟩, same⟩, rfl⟩
    exact ⟨foundId, member, same ▸ foundSo⟩
  · rintro ⟨foundId, member, foundSo⟩
    exact ⟨key, role, ⟨⟨foundId, member, foundSo⟩, rfl⟩, rfl⟩

/-- A client found by its public identifier stands under the found internal one. -/
theorem get?_of_client? {clientId : String} {client : StoredClient}
    (found : held.client? clientId = some (key, client)) :
    held.clients.get? key = some client ∧ client.record.clientId = some clientId := by
  obtain ⟨present, wanted⟩ := Table.get?_of_find? found
  exact ⟨present, by simpa using wanted⟩

/-- In a sound realm the client found tells its internal identifier. -/
theorem Sound.ownId_of_client? {drawn : Nat} {clientId : String} {client : StoredClient}
    (sound : held.Sound drawn) (found : held.client? clientId = some (key, client)) :
    client.record.id = some key :=
  (sound.clients.each key client (get?_of_client? found).1).ownId

/-- A client that is stored under a free internal identifier is found by its public one, where that
was free; other clients are found as before. -/
theorem client?_putClient_new {clientId : String} {client : StoredClient}
    (unknown : held.client? clientId = none) (free : held.clients.get? key = none)
    (named : client.record.clientId = some clientId) (users : Table UserRecord) (other : String) :
    (held.putClient key client users).client? other =
      if other = clientId then some (key, client) else held.client? other := by
  unfold client? putClient
  split
  · next same =>
    subst same
    exact Table.find?_insert_of_missing (by rw [named, beq_self_eq_true]) unknown
  · next different =>
    refine Table.find?_insert_of_unwanted ?_ fun old there => ?_
    · rw [named, beq_eq_false_iff_ne]
      exact fun same => different (Option.some.inj same).symm
    · rw [free] at there
      cases there

/-- A client that is stored in its own place is found there; other clients are found as before. -/
theorem client?_putClient {clientId : String} {stored client : StoredClient}
    (found : held.client? clientId = some (key, stored))
    (same : client.record.clientId = stored.record.clientId) (users : Table UserRecord)
    (other : String) :
    (held.putClient key client users).client? other =
      if other = clientId then some (key, client) else held.client? other := by
  obtain ⟨present, named⟩ := get?_of_client? found
  unfold client? putClient
  split
  · next isSame =>
    subst isSame
    exact Table.find?_insert_of_found (by rw [same, named, beq_self_eq_true]) found
  · next different =>
    have unwanted : (stored.record.clientId == some other) = false := by
      rw [named, beq_eq_false_iff_ne]
      exact fun isSame => different (Option.some.inj isSame).symm
    refine Table.find?_insert_of_unwanted (by rw [same, unwanted]) fun old there => ?_
    rw [present] at there
    cases there
    exact unwanted

end StoredRealm

end RealmConvergence.Service
