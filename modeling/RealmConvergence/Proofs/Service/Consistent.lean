import RealmConvergence.Proofs.Service.Identifying
import RealmConvergence.Proofs.Service.Linked

/-!
# A service that can be reached is consistent

What stands in a realm stands under what it says of itself, everything that can have an internal
identifier has one, and what a realm refers to is there (`StoredRealm.Consistent`). Across all
realms no identifier is that of two things.

All of this holds whatever was done to a service, in whatever order, and whether it succeeded or not
(`Reachable.store_consistent`): a realm may have been replaced, an operation told to fail,
identifiers drawn for what was then not stored.
-/

set_option autoImplicit false

namespace RealmConvergence.Service

/-! ## Roles under their names -/

/-- Roles stand under their own names and have identifiers. -/
def StandUnderNames (roles : Table RoleRecord) : Prop :=
  ∀ name role, roles.get? name = some role → role.name = some name ∧ ∃ id, role.id = some id

theorem standUnderNames_empty : StandUnderNames ∅ := by
  intro name role found
  cases found

theorem StandUnderNames.insert {roles : Table RoleRecord} (stand : StandUnderNames roles)
    {name : String} {role : RoleRecord} (named : role.name = some name)
    (identified : ∃ id, role.id = some id) : StandUnderNames (roles.insert name role) := by
  intro other found there
  rw [Table.get?_insert] at there
  split at there
  · next same =>
    cases there
    exact ⟨same ▸ named, identified⟩
  · exact stand other found there

/-- A change keeps the roles of the realm under their names. -/
theorem StoredRealm.Change.standUnderNames {drawn count : Nat} {realm : String}
    {held after : StoredRealm} (change : held.Change drawn realm count after)
    (stand : StandUnderNames held.roles) : StandUnderNames after.roles := by
  cases change with
  | settings | newClient | changedClient | newSecret | newClientRole | describedClientRole
  | seededComposite | granted => exact stand
  | newRole named free isRole =>
      subst isRole
      exact stand.insert rfl ⟨_, rfl⟩
  | describedRole there record =>
      obtain ⟨named, identified⟩ := stand _ _ there
      exact stand.insert named identified
  | attached there known =>
      obtain ⟨named, identified⟩ := stand _ _ there
      exact stand.insert named identified

/-- The roles of all realms stand under their names. -/
def Store.RolesStand (store : Store) : Prop :=
  ∀ realm held, store.realms.get? realm = some held → StandUnderNames held.roles

theorem Store.Step.rolesStand {store after : Store} (step : store.Step after)
    (stand : store.RolesStand) : after.RolesStand := by
  intro realm held present
  rcases step.origin present with old | ⟨_, _, _, rfl⟩ | ⟨before, _, old, change⟩
  · exact stand realm held old
  · exact standUnderNames_empty
  · exact change.standUnderNames (stand realm before old)

/-- **In a service that can be reached the roles of realms stand under their names.** -/
theorem Reachable.rolesStand {service : Service} (reachable : service.Reachable) :
    service.store.RolesStand :=
  reachable.keeps (fun _ _ found => nomatch found) (fun _ stand => stand)
    fun _ _ stand step => step.rolesStand stand

/-! ## Consistent realms -/

/-- Whether a part is there. -/
def StoredRealm.Has (held : StoredRealm) : Part → Prop
  | .client key => ∃ client, held.clients.get? key = some client
  | .role name => ∃ role, held.roles.get? name = some role
  | .clientRole key name => ∃ client role, held.clients.get? key = some client ∧
      client.roles.get? name = some role
  | .user key => ∃ user, held.users.get? key = some user

/-- Everything in a realm stands under what it says of itself, and what the realm refers to is
there. -/
structure StoredRealm.Consistent (held : StoredRealm) : Prop where
  /-- Clients stand under their internal identifiers. -/
  ownId : ∀ key client, held.clients.get? key = some client → client.record.id = some key
  /-- Users stand under theirs. -/
  ownUserId : ∀ key user, held.users.get? key = some user → user.id = some key
  /-- Roles of the realm stand under their names. -/
  ownName : ∀ name role, held.roles.get? name = some role → role.name = some name
  /-- Roles of clients stand under theirs. -/
  ownNameOnClient : ∀ key client name role, held.clients.get? key = some client →
    client.roles.get? name = some role → role.name = some name
  /-- No two clients have one public identifier. -/
  clientIds : ∀ key other client otherClient, held.clients.get? key = some client →
    held.clients.get? other = some otherClient →
      client.record.clientId = otherClient.record.clientId → key = other
  /-- What comes with a role is a role of some client. -/
  composites : ∀ role roleId, (held.compositesOf role).contains roleId = true →
    ∃ key name, HasRole held.clients key name roleId
  /-- What is granted to a user is a role of some client. -/
  grants : ∀ user roleId, (held.grantsOf user).contains roleId = true →
    ∃ key name, HasRole held.clients key name roleId
  /-- A client with a service account has a user, and the user is there. -/
  accounts : ∀ key client, held.clients.get? key = some client →
    client.record.serviceAccountsEnabled = some true →
      ∃ user record, client.serviceUser = some user ∧ held.users.get? user = some record
  /-- No two clients have one user. -/
  owners : ∀ key other client otherClient user, held.clients.get? key = some client →
    held.clients.get? other = some otherClient → client.serviceUser = some user →
      otherClient.serviceUser = some user → key = other

/-- All realms are consistent, everything that is there has an identifier, and no two things have
the same one, in whatever realms. -/
structure Store.Consistent (store : Store) : Prop where
  realms : ∀ name held, store.realms.get? name = some held → held.Consistent
  identified : ∀ name held part, store.realms.get? name = some held → held.Has part →
    ∃ id, held.idOf? part = some id
  apart : ∀ realm other part otherPart id, idAt? store.realms realm part = some id →
    idAt? store.realms other otherPart = some id → realm = other ∧ part = otherPart

namespace StoredRealm

variable {held : StoredRealm} {drawn : Nat}

/-- What is there in a sound realm has an identifier, if the roles of the realm have theirs. -/
theorem Sound.exists_idOf? (sound : held.Sound drawn) (stand : StandUnderNames held.roles)
    {part : Part} (there : held.Has part) : ∃ id, held.idOf? part = some id := by
  cases part with
  | client key =>
      obtain ⟨client, present⟩ := there
      exact ⟨key, Option.bind_eq_some_iff.2
        ⟨client, present, (sound.clients.each key client present).ownId⟩⟩
  | role name =>
      obtain ⟨role, present⟩ := there
      obtain ⟨id, identified⟩ := (stand name role present).2
      exact ⟨id, Option.bind_eq_some_iff.2 ⟨role, present, identified⟩⟩
  | clientRole key name =>
      obtain ⟨client, role, present, has⟩ := there
      obtain ⟨-, id, identified, -⟩ := (sound.clients.each key client present).roles name role has
      exact ⟨id, Option.bind_eq_some_iff.2
        ⟨client, present, Option.bind_eq_some_iff.2 ⟨role, has, identified⟩⟩⟩
  | user key =>
      obtain ⟨user, present⟩ := there
      exact ⟨key, Option.bind_eq_some_iff.2 ⟨user, present, (sound.users key user present).1⟩⟩

/-- A sound realm is consistent if nothing in it dangles and its roles stand under their names. -/
theorem Linked.consistent (linked : held.Linked) (sound : held.Sound drawn)
    (stand : StandUnderNames held.roles) : held.Consistent where
  ownId key client present := (sound.clients.each key client present).ownId
  ownUserId key user present := (sound.users key user present).1
  ownName name role present := (stand name role present).1
  ownNameOnClient key client name role present has :=
    ((sound.clients.each key client present).roles name role has).1
  clientIds key other client otherClient present otherPresent same :=
    (linked.clientIds key other client otherClient present otherPresent same.symm).symm
  composites := linked.composites
  grants user roleId granted := (linked.grants user roleId granted).2
  accounts key client present needed := by
    obtain ⟨user, has⟩ := Option.ne_none_iff_exists'.1 (linked.opened key client present needed)
    obtain ⟨record, there⟩ :=
      Option.isSome_iff_exists.1 (linked.accounts key client user present has)
    exact ⟨user, record, has, there⟩
  owners key other client otherClient user present otherPresent has otherHas :=
    (linked.owners key other client otherClient user present otherPresent has otherHas).symm

end StoredRealm

/-- **A service that can be reached is consistent.** -/
theorem Reachable.store_consistent {service : Service} (reachable : service.Reachable) :
    service.store.Consistent where
  realms name held present :=
    (reachable.linked name held present).consistent (reachable.sound name held present)
      (reachable.rolesStand name held present)
  identified name held _ present there :=
    (reachable.sound name held present).exists_idOf? (reachable.rolesStand name held present) there
  apart := reachable.identifiersApart.apart

/-- A service that is prepared step by step can be reached. -/
theorem Reachable.seededAll {service : Service} (before : service.Reachable)
    (seedings : List Seeding) :
    Reachable { service with store := seedings.foldl Store.prepare service.store } := by
  induction seedings generalizing service with
  | nil => exact before
  | cons seeding rest ih => exact ih (.seeded seeding before)

/-- What is prepared for a school: a client with a service account and a role, and a role of the
realm that the role of the client comes with. -/
def schoolSeedings : List Seeding :=
  [.realm "school" true ∅,
    .client "school" { clientId := some "reporting", serviceAccountsEnabled := some true },
    .clientRole "school" "reporting" "VIEW_REPORTS" none,
    .realmRole "school" "TEACHER" none,
    .composite "school" "TEACHER" "reporting" "VIEW_REPORTS"]

/-- A service that was prepared for a school and failed to grant a role. -/
def preparedSchool : Service :=
  let prepared : Service := { store := schoolSeedings.foldl Store.prepare {} }
  ((prepared.failOn .assignClientRoles (.api 500 "down")).talk
    (.ask (.assignClientRoles "school" "user-000009" "client-000007"
      [{ id := some "role-000010" }]) .conclude)).2

/-- A client with a service account, its role and its user have identifiers of their own, and a role
of the realm comes with it, when the service was prepared so. -/
theorem preparedSchool_consistent :
    preparedSchool.Reachable ∧
      idAt? preparedSchool.store.realms "school" (.client "client-000007") = some "client-000007" ∧
      idAt? preparedSchool.store.realms "school" (.clientRole "client-000007" "VIEW_REPORTS") =
        some "role-000010" ∧
      idAt? preparedSchool.store.realms "school" (.role "TEACHER") = some "role-000011" ∧
      preparedSchool.store.compositeNames "school" "TEACHER" "reporting" =
        NameSet.ofList ["VIEW_REPORTS"] ∧
      preparedSchool.store.Consistent := by
  have prepared : Reachable { store := schoolSeedings.foldl Store.prepare {} } :=
    Reachable.new.seededAll schoolSeedings
  have reached : preparedSchool.Reachable := (prepared.failing _ _).talked _
  exact ⟨reached, by decide +kernel, by decide +kernel, by decide +kernel, by decide +kernel,
    reached.store_consistent⟩

end RealmConvergence.Service
