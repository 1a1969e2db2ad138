import Mathlib.Logic.Function.Basic
import RealmConvergence.Proofs.Service.Linked
import RealmConvergence.Proofs.Service.Naming

/-!
# Realms as they are seen by name

Internal identifiers are drawn as they come, so what two runs make of a realm can differ in
identifiers that mean the same. A view of a realm (`StoredRealm.view`) tells everything by name:
clients under their public identifiers, roles under their names, and mappings and grants by the
names of the roles that they refer to. Identifiers drawn after some point are not told, and neither
are the secrets of some clients; both are chosen with a `Lens`.

What is put into a realm shows in its view as the same change made by name (`view_putClient`,
`view_attach`, `view_grant`). That a new identifier does not show rests on sound and linked realms:
it is the identifier of nothing that is there.
-/

set_option autoImplicit false

namespace RealmConvergence.Service

/-! ## What is looked at -/

instance (drawn : Nat) (sort text : String) : Decidable (IsDrawn drawn sort text) :=
  decidable_of_iff (text ∈ (List.range (drawn + 1)).map (identifier sort)) <| by
    simp only [IsDrawn, List.mem_map, List.mem_range, Nat.lt_succ_iff, eq_comm]

/-- A way to look at realms: how many identifiers had been drawn when the last one was that is told,
and the clients whose secrets are not told. -/
structure Lens where
  /-- How many of the first identifiers are told. -/
  drawn : Nat
  /-- The public identifiers of clients whose secrets are hidden. -/
  hidden : String → Bool

namespace Lens

/-- An identifier, if it is told. -/
def identifier? (lens : Lens) (sort : String) (text : Option String) : Option String :=
  text.filter fun text => IsDrawn lens.drawn sort text

/-- A client as it is seen. -/
def client (lens : Lens) (record : ClientRecord) : ClientRecord :=
  { record with
    id := lens.identifier? "client" record.id
    secret := if record.clientId.any lens.hidden then none else record.secret }

/-- A role of a realm as it is seen. -/
def realmRole (lens : Lens) (role : RoleRecord) : RoleRecord :=
  { role with id := lens.identifier? "role" role.id }

/-- A role of a client as it is seen. -/
def clientRole (lens : Lens) (role : RoleRecord) : RoleRecord :=
  { role with
    id := lens.identifier? "role" role.id
    containerId := lens.identifier? "client" role.containerId }

/-- A user as it is seen. -/
def user (lens : Lens) (user : UserRecord) : UserRecord :=
  { user with id := lens.identifier? "user" user.id }

variable {lens : Lens}

@[simp] theorem identifier?_identifier? (sort : String) (text : Option String) :
    lens.identifier? sort (lens.identifier? sort text) = lens.identifier? sort text := by
  simp only [identifier?, Option.filter_filter, Bool.and_self]

/-- A new identifier is not told. -/
theorem identifier?_new {sort : String} {number : Nat} (later : lens.drawn < number) :
    lens.identifier? sort (some (identifier sort number)) = none := by
  simp only [identifier?, Option.filter_some, IsDrawn.fresh later, decide_false,
    Bool.false_eq_true, if_false]

/-- A client that is changed is seen to be changed so. -/
theorem client_updatedClient (record change : ClientRecord) :
    lens.client (updatedClient (lens.client record) change) =
      lens.client (updatedClient record change) := by
  unfold client updatedClient
  cases record.clientId.any lens.hidden <;>
    simp only [identifier?_identifier?, if_true, if_false, Bool.false_eq_true]

/-- A client without a secret is seen so, whether or not its secret is hidden. -/
theorem client_of_noSecret {record : ClientRecord} (noSecret : record.secret = none) :
    lens.client record = { record with id := lens.identifier? "client" record.id } := by
  unfold client
  rw [noSecret, ite_self]

/-- A client that is given a secret is seen to be given it. -/
theorem client_withSecret (record : ClientRecord) (secret : Option String) :
    lens.client { lens.client record with secret } = lens.client { record with secret } := by
  unfold client
  simp only [identifier?_identifier?]

end Lens

/-! ## Views -/

/-- A client as it is seen, with its user and its roles by name. -/
structure ClientView where
  /-- The client itself. -/
  record : ClientRecord
  /-- The user that belongs to it. -/
  user : Option UserRecord := none
  /-- Its roles, by name. -/
  roles : String → Option RoleRecord := fun _ => none

/-- A realm as it is seen by name. -/
@[ext] structure RealmView where
  /-- Whether the realm accepts sign-ins. -/
  enabled : Bool
  /-- Attributes. -/
  attributes : Table String
  /-- Clients, by public identifier. -/
  clients : String → Option ClientView
  /-- Roles, by name. -/
  roles : String → Option RoleRecord
  /-- Which role of a client, by the client's public identifier and the role's name, comes with a
  role. -/
  attached : String → String → String → Prop
  /-- Which role of a client, by the client's public identifier and the role's name, is granted to
  the user of a client. -/
  granted : String → String → String → Prop

/-- A client as it is seen among users. -/
def StoredClient.view (lens : Lens) (users : Table UserRecord) (client : StoredClient) :
    ClientView where
  record := lens.client client.record
  user := (client.serviceUser.bind users.get?).map lens.user
  roles name := (client.roles.get? name).map lens.clientRole

namespace StoredRealm

/-- The identifier of a client's role. -/
def roleId? (held : StoredRealm) (clientId name : String) : Option String :=
  (held.client? clientId).bind fun found => (found.2.roles.get? name).bind (·.id)

/-- The identifier of a client's user. -/
def account? (held : StoredRealm) (clientId : String) : Option String :=
  (held.client? clientId).bind (·.2.serviceUser)

/-- A client has a role of this name, by the client's public identifier, and the role's own
identifier is among these. -/
def Lists (held : StoredRealm) (roleIds : NameSet) (clientId name : String) : Prop :=
  ∃ roleId, held.roleId? clientId name = some roleId ∧ roleIds.contains roleId = true

/-- A realm as it is seen by name. -/
def view (lens : Lens) (held : StoredRealm) : RealmView where
  enabled := held.enabled
  attributes := held.attributes
  clients clientId := (held.client? clientId).map fun found => found.2.view lens held.users
  roles name := (held.roles.get? name).map lens.realmRole
  attached role := held.Lists (held.compositesOf role)
  granted account clientId name := ∃ user, held.account? account = some user ∧
    held.Lists (held.grantsOf user) clientId name

theorem view_client_of_known {lens : Lens} {held : StoredRealm} {key clientId : String}
    {stored : StoredClient} (known : held.client? clientId = some (key, stored)) :
    (held.view lens).clients clientId = some (stored.view lens held.users) := by
  simp only [view, known, Option.map_some]

theorem view_client_of_unknown {lens : Lens} {held : StoredRealm} {clientId : String}
    (unknown : held.client? clientId = none) : (held.view lens).clients clientId = none := by
  simp only [view, unknown, Option.map_none]

theorem lists_iff {held : StoredRealm} {roleIds : NameSet} {clientId name : String} :
    held.Lists roleIds clientId name ↔
      ∃ key owner, held.client? clientId = some (key, owner) ∧
        HasRoleAmong held key name roleIds := by
  constructor
  · rintro ⟨roleId, identified, among⟩
    obtain ⟨⟨key, owner⟩, known, ofOwner⟩ := Option.bind_eq_some_iff.1 identified
    obtain ⟨role, there, ownId⟩ := Option.bind_eq_some_iff.1 ofOwner
    exact ⟨key, owner, known, roleId, ⟨owner, role, (get?_of_client? known).1, there, ownId⟩,
      among⟩
  · rintro ⟨key, owner, known, roleId, ⟨other, role, present, there, ownId⟩, among⟩
    cases (get?_of_client? known).1.symm.trans present
    refine ⟨roleId, ?_, among⟩
    rw [roleId?, known, Option.bind_some, there, Option.bind_some, ownId]

/-- A composite mapping or a grant refers to the role with this identifier. -/
def Refers (held : StoredRealm) (roleId : String) : Prop :=
  (∃ role, (held.compositesOf role).contains roleId = true) ∨
    ∃ user, (held.grantsOf user).contains roleId = true

/-- What a realm refers to has been drawn. -/
theorem Linked.isDrawn_of_refers {held : StoredRealm} (linked : held.Linked) {drawn : Nat}
    (sound : held.Sound drawn) {roleId : String} (refers : held.Refers roleId) :
    IsDrawn drawn "role" roleId := by
  rcases refers with ⟨role, attached⟩ | ⟨user, granted⟩
  · obtain ⟨key, name, has⟩ := linked.composites role roleId attached
    exact sound.clients.isDrawn_of_hasRole has
  · obtain ⟨-, key, name, has⟩ := linked.grants user roleId granted
    exact sound.clients.isDrawn_of_hasRole has

/-- Who is granted something has been drawn. -/
theorem Linked.isDrawn_of_granted {held : StoredRealm} (linked : held.Linked) {drawn : Nat}
    (sound : held.Sound drawn) {user roleId : String}
    (granted : (held.grantsOf user).contains roleId = true) : IsDrawn drawn "user" user := by
  obtain ⟨record, there⟩ := Option.isSome_iff_exists.1 (linked.grants user roleId granted).1
  exact (sound.users user record there).2

end StoredRealm

namespace RealmView

/-- A realm that is seen to have another client under a public identifier. -/
def putClient (view : RealmView) (clientId : String) (client : ClientView) : RealmView :=
  { view with clients := Function.update view.clients clientId (some client) }

/-- A realm that is seen to have another role under a name. -/
def putRole (view : RealmView) (name : String) (role : RoleRecord) : RealmView :=
  { view with roles := Function.update view.roles name (some role) }

/-- A client is seen to have a role of this name. -/
def Owns (view : RealmView) (clientId name : String) : Prop :=
  ∃ client, view.clients clientId = some client ∧ (client.roles name).isSome

/-- A realm in which those of a client's roles that it has come with a role. -/
def attach (view : RealmView) (role clientId : String) (names : List String) : RealmView :=
  { view with
    attached := fun other otherId name => view.attached other otherId name ∨
      (other = role ∧ otherId = clientId ∧ name ∈ names ∧ view.Owns clientId name)
    roles := Function.update view.roles role
      ((view.roles role).map fun known => { known with composite := some true }) }

/-- A realm in which those of a client's roles that it has are granted to the user of another. -/
def grant (view : RealmView) (account clientId : String) (names : List String) : RealmView :=
  { view with
    granted := fun other otherId name => view.granted other otherId name ∨
      (other = account ∧ otherId = clientId ∧ name ∈ names ∧ view.Owns clientId name) }

/-- A realm that is seen with the present fields of a record. -/
def updated (view : RealmView) (record : RealmRecord) : RealmView :=
  { view with
    enabled := record.enabled.getD view.enabled
    attributes := view.attributes.override (record.attributes.getD ∅) }

variable {view : RealmView} {clientId name : String}

@[simp] theorem putClient_clients_self (client : ClientView) :
    (view.putClient clientId client).clients clientId = some client :=
  Function.update_self _ _ _

theorem putClient_clients_of_ne {otherId : String} (different : otherId ≠ clientId)
    (client : ClientView) :
    (view.putClient clientId client).clients otherId = view.clients otherId :=
  Function.update_of_ne different _ _

/-- Putting a client that is seen already changes nothing. -/
theorem putClient_self {client : ClientView} (known : view.clients clientId = some client) :
    view.putClient clientId client = view := by
  unfold putClient
  rw [← known, Function.update_eq_self]

/-- Putting a role that is seen already changes nothing. -/
theorem putRole_self {role : RoleRecord} (there : view.roles name = some role) :
    view.putRole name role = view := by
  unfold putRole
  rw [← there, Function.update_eq_self]

end RealmView

/-- A client that is seen with a user of its own, where it needs one. -/
def ClientView.opened (client : ClientView) : ClientView :=
  if client.record.serviceAccountsEnabled = some true ∧ client.user.isNone then
    { client with
      user := some { serviceAccount "" (client.record.clientId.getD "") with id := none } }
  else client

@[simp] theorem ClientView.opened_record (client : ClientView) :
    client.opened.record = client.record := by
  unfold opened
  split <;> rfl

@[simp] theorem ClientView.opened_roles (client : ClientView) :
    client.opened.roles = client.roles := by
  unfold opened
  split <;> rfl

/-! ## What changes show -/

namespace StoredRealm

variable {lens : Lens} {held : StoredRealm} {drawn : Nat} {key clientId : String}
  {stored : StoredClient}

theorem view_putRole (held : StoredRealm) (name : String) (role : RoleRecord) :
    StoredRealm.view lens { held with roles := held.roles.insert name role } =
      (held.view lens).putRole name (lens.realmRole role) := by
  have roles : (fun other => ((held.roles.insert name role).get? other).map lens.realmRole) =
      Function.update (held.view lens).roles name (some (lens.realmRole role)) := by
    funext other
    rw [Table.get?_insert, Function.update_apply]
    split <;> rfl
  simp only [view, RealmView.putRole]
  rw [roles]
  rfl

/-- **A client that is put shows as that client alone**, if the identifiers of its roles and of its
user are as before, as far as mappings and grants refer to them, and other clients keep their
users. -/
theorem view_putClient {client : StoredClient} {users : Table UserRecord}
    (lookup : ∀ other, (held.putClient key client users).client? other =
      if other = clientId then some (key, client) else held.client? other)
    (roleIds : ∀ name roleId, held.Refers roleId →
      ((client.roles.get? name).bind (·.id) = some roleId ↔
        held.roleId? clientId name = some roleId))
    (account : ∀ user roleId, (held.grantsOf user).contains roleId = true →
      (client.serviceUser = some user ↔ held.account? clientId = some user))
    (otherUsers : ∀ other otherKey found, other ≠ clientId →
      held.client? other = some (otherKey, found) →
        found.serviceUser.bind users.get? = found.serviceUser.bind held.users.get?) :
    (held.putClient key client users).view lens =
      (held.view lens).putClient clientId (client.view lens users) := by
  have sameIds (other name roleId : String) (refers : held.Refers roleId) :
      (held.putClient key client users).roleId? other name = some roleId ↔
        held.roleId? other name = some roleId := by
    rw [roleId?, lookup]
    split
    · next same =>
      rw [same, Option.bind_some]
      exact roleIds name roleId refers
    · rfl
  have sameAccount (other user roleId : String)
      (granted : (held.grantsOf user).contains roleId = true) :
      (held.putClient key client users).account? other = some user ↔
        held.account? other = some user := by
    rw [account?, lookup]
    split
    · next same =>
      rw [same, Option.bind_some]
      exact account user roleId granted
    · rfl
  refine RealmView.ext rfl rfl ?_ rfl ?_ ?_
  · funext other
    simp only [view, RealmView.putClient]
    rw [lookup, Function.update_apply]
    split
    · rfl
    · next different =>
      cases known : held.client? other with
      | none => rfl
      | some entry =>
          obtain ⟨otherKey, found⟩ := entry
          simp only [Option.map_some, StoredClient.view, putClient,
            otherUsers other otherKey found different known]
  · funext role other name
    refine propext (exists_congr fun roleId => and_congr_left fun among => ?_)
    exact sameIds other name roleId (.inl ⟨role, among⟩)
  · funext other otherId name
    refine propext (exists_congr fun user => ?_)
    constructor
    · rintro ⟨has, roleId, identified, among⟩
      exact ⟨(sameAccount other user roleId among).1 has, roleId,
        (sameIds otherId name roleId (.inr ⟨user, among⟩)).1 identified, among⟩
    · rintro ⟨has, roleId, identified, among⟩
      exact ⟨(sameAccount other user roleId among).2 has, roleId,
        (sameIds otherId name roleId (.inr ⟨user, among⟩)).2 identified, among⟩

/-- A new client shows as that client alone. -/
theorem view_putClient_new {client : StoredClient} {users : Table UserRecord}
    (linked : held.Linked) (sound : held.Sound drawn) (unknown : held.client? clientId = none)
    (free : held.clients.get? key = none) (named : client.record.clientId = some clientId)
    (noRoles : client.roles = ∅)
    (ownUser : ∀ user, client.serviceUser = some user → ¬IsDrawn drawn "user" user)
    (keepsUsers : ∀ user, IsDrawn drawn "user" user → users.get? user = held.users.get? user) :
    (held.putClient key client users).view lens =
      (held.view lens).putClient clientId (client.view lens users) := by
  refine view_putClient (client?_putClient_new unknown free named users) ?_ ?_ ?_
  · intro name roleId _
    rw [roleId?, unknown, noRoles]
    rfl
  · intro user roleId granted
    rw [account?, unknown]
    have drawnUser := linked.isDrawn_of_granted sound granted
    exact ⟨fun has => absurd drawnUser (ownUser user has), fun never => nomatch never⟩
  · intro other otherKey found _ known
    cases has : found.serviceUser with
    | none => rfl
    | some user =>
        exact keepsUsers user (linked.isDrawn_of_account sound (get?_of_client? known).1 has)

/-- A client in its own place shows as that client alone, if what is new about its roles and its
user has not been drawn before. -/
theorem view_putClient_over {client : StoredClient} {users : Table UserRecord}
    (linked : held.Linked) (sound : held.Sound drawn)
    (known : held.client? clientId = some (key, stored))
    (same : client.record.clientId = stored.record.clientId)
    (roleIds : ∀ name roleId, IsDrawn drawn "role" roleId →
      ((client.roles.get? name).bind (·.id) = some roleId ↔
        (stored.roles.get? name).bind (·.id) = some roleId))
    (account : ∀ user, IsDrawn drawn "user" user →
      (client.serviceUser = some user ↔ stored.serviceUser = some user))
    (keepsUsers : ∀ user, IsDrawn drawn "user" user → users.get? user = held.users.get? user) :
    (held.putClient key client users).view lens =
      (held.view lens).putClient clientId (client.view lens users) := by
  refine view_putClient (client?_putClient known same users) ?_ ?_ ?_
  · intro name roleId refers
    rw [roleId?, known]
    exact roleIds name roleId (linked.isDrawn_of_refers sound refers)
  · intro user roleId granted
    rw [account?, known]
    exact account user (linked.isDrawn_of_granted sound granted)
  · intro other otherKey found _ otherKnown
    cases has : found.serviceUser with
    | none => rfl
    | some user =>
        exact keepsUsers user (linked.isDrawn_of_account sound (get?_of_client? otherKnown).1 has)

/-- The users that have been drawn stay when an account is opened under a later identifier. -/
theorem openAccount_users {number : Nat} (later : drawn < number) (needed : Prop)
    [Decidable needed] (clientId : String) (serviceUser : Option String)
    (users : Table UserRecord) {user : String} (isDrawn : IsDrawn drawn "user" user) :
    (openAccount needed (identifier "user" number) clientId serviceUser users).2.get? user =
      users.get? user := by
  unfold openAccount
  split
  · have different : user ≠ identifier "user" number := by
      rintro rfl
      exact IsDrawn.fresh later isDrawn
    rw [Table.get?_insert, if_neg different]
  · rfl

/-- The user of a client, if it has been drawn, is the one before an account was opened. -/
theorem openAccount_user {number : Nat} (later : drawn < number) (needed : Prop)
    [Decidable needed] (clientId : String) (serviceUser : Option String)
    (users : Table UserRecord) {user : String} (isDrawn : IsDrawn drawn "user" user) :
    (openAccount needed (identifier "user" number) clientId serviceUser users).1 = some user ↔
      serviceUser = some user := by
  unfold openAccount
  split
  · next opens =>
    have nobody : serviceUser = none := Option.isNone_iff_eq_none.1 opens.2
    rw [nobody]
    constructor
    · intro same
      cases same
      exact absurd isDrawn (IsDrawn.fresh later)
    · intro never
      cases never
  · rfl

/-- A client for which an account is opened, where it needs one, is seen with a user of its own. -/
theorem view_openAccount {number : Nat} (later : lens.drawn < number) {record : ClientRecord}
    (named : record.clientId.getD "" = clientId) {users : Table UserRecord}
    (has : ∀ user, stored.serviceUser = some user → (users.get? user).isSome)
    {account : Option String × Table UserRecord}
    (opens : openAccount (record.serviceAccountsEnabled = some true) (identifier "user" number)
      clientId stored.serviceUser users = account) :
    StoredClient.view lens account.2 { stored with record, serviceUser := account.1 } =
      ClientView.opened { stored.view lens users with record := lens.client record } := by
  have sameNeed : stored.serviceUser.isNone = (stored.view lens users).user.isNone := by
    show _ = ((stored.serviceUser.bind users.get?).map lens.user).isNone
    cases own : stored.serviceUser with
    | none => rfl
    | some user =>
        obtain ⟨known, there⟩ := Option.isSome_iff_exists.1 (has user own)
        rw [Option.bind_some, there]
        rfl
  subst opens named
  unfold ClientView.opened openAccount
  by_cases needed : record.serviceAccountsEnabled = some true ∧ stored.serviceUser.isNone
  · rw [if_pos needed, if_pos ⟨needed.1, sameNeed ▸ needed.2⟩]
    simp only [StoredClient.view, Option.bind_some, Table.get?_insert_self, Option.map_some,
      Lens.user, serviceAccount, Lens.client, Lens.identifier?_new later]
  · rw [if_neg needed, if_neg fun seen => needed ⟨seen.1, sameNeed ▸ seen.2⟩]
    rfl

/-! ## Roles that are referred to -/

/-- A client has a role exactly when it is seen to have one. -/
theorem owns_view_iff {name : String} (sound : held.Sound drawn) :
    (held.view lens).Owns clientId name ↔ ∃ roleId, held.roleId? clientId name = some roleId := by
  constructor
  · rintro ⟨client, known, there⟩
    obtain ⟨⟨key, owner⟩, found, rfl⟩ := Option.map_eq_some_iff.1 known
    obtain ⟨role, roleThere⟩ := Option.isSome_iff_exists.1 ((Option.isSome_map).symm.trans there)
    obtain ⟨-, roleId, identified, -⟩ :=
      (sound.clients.each key owner (get?_of_client? found).1).roles name role roleThere
    exact ⟨roleId, by rw [roleId?, found, Option.bind_some, roleThere, Option.bind_some,
      identified]⟩
  · rintro ⟨roleId, identified⟩
    obtain ⟨⟨key, owner⟩, found, ofOwner⟩ := Option.bind_eq_some_iff.1 identified
    obtain ⟨role, there, -⟩ := Option.bind_eq_some_iff.1 ofOwner
    refine ⟨owner.view lens held.users, Option.map_eq_some_iff.2 ⟨_, found, rfl⟩, ?_⟩
    simp only [StoredClient.view, there, Option.map_some, Option.isSome_some]

/-- Roles of clients that share an identifier are the same role. -/
theorem Sound.roleId?_inj (sound : held.Sound drawn) {otherId name otherName roleId : String}
    (identified : held.roleId? clientId name = some roleId)
    (otherIdentified : held.roleId? otherId otherName = some roleId) :
    clientId = otherId ∧ name = otherName := by
  have owner {clientId name : String} (identified : held.roleId? clientId name = some roleId) :
      ∃ key client, held.clients.get? key = some client ∧
        client.record.clientId = some clientId ∧ HasRole held.clients key name roleId := by
    obtain ⟨⟨key, client⟩, found, ofClient⟩ := Option.bind_eq_some_iff.1 identified
    obtain ⟨role, there, ownId⟩ := Option.bind_eq_some_iff.1 ofClient
    obtain ⟨present, named⟩ := get?_of_client? found
    exact ⟨key, client, present, named, client, role, present, there, ownId⟩
  obtain ⟨key, client, present, named, has⟩ := owner identified
  obtain ⟨otherKey, other, otherPresent, otherNamed, otherHas⟩ := owner otherIdentified
  obtain ⟨rfl, rfl⟩ := sound.clients.roleIds key name otherKey otherName roleId has otherHas
  cases present.symm.trans otherPresent
  exact ⟨Option.some.inj (named.symm.trans otherNamed), rfl⟩

/-- These are the identifiers of a client's roles of these names. -/
def RoleIdsOf (held : StoredRealm) (clientId : String) (names roleIds : List String) : Prop :=
  ∀ roleId, roleId ∈ roleIds ↔ ∃ name ∈ names, held.roleId? clientId name = some roleId

/-- A set that gained the identifiers of a client's roles, if it did, lists those roles besides. -/
theorem lists_added_iff (sound : held.Sound drawn) {names roleIds : List String}
    (ids : held.RoleIdsOf clientId names roleIds) {before after : NameSet} {gained : Prop}
    (added : ∀ roleId, after.contains roleId = true ↔
      before.contains roleId = true ∨ (gained ∧ roleId ∈ roleIds)) {otherId name : String} :
    held.Lists after otherId name ↔ held.Lists before otherId name ∨
      (gained ∧ otherId = clientId ∧ name ∈ names ∧ (held.view lens).Owns clientId name) := by
  rw [owns_view_iff sound]
  constructor
  · rintro ⟨roleId, identified, among⟩
    rcases (added roleId).1 among with old | ⟨gains, isNew⟩
    · exact .inl ⟨roleId, identified, old⟩
    · obtain ⟨otherName, listed, otherIdentified⟩ := (ids roleId).1 isNew
      obtain ⟨rfl, rfl⟩ := sound.roleId?_inj identified otherIdentified
      exact .inr ⟨gains, rfl, listed, roleId, identified⟩
  · rintro (⟨roleId, identified, old⟩ | ⟨gains, rfl, listed, roleId, identified⟩)
    · exact ⟨roleId, identified, (added roleId).2 (.inl old)⟩
    · have isNew := (ids roleId).2 ⟨name, listed, identified⟩
      exact ⟨roleId, identified, (added roleId).2 (.inr ⟨gains, isNew⟩)⟩

/-- **Roles that come with a role are seen by their names.** -/
theorem view_attach (sound : held.Sound drawn) {role : String} {known : RoleRecord}
    (there : held.roles.get? role = some known) {names roleIds : List String}
    (ids : held.RoleIdsOf clientId names roleIds) :
    StoredRealm.view lens { held with
        composites := held.composites.insert role ((held.compositesOf role).insertAll roleIds)
        roles := held.roles.insert role { known with composite := some true } } =
      (held.view lens).attach role clientId names := by
  refine RealmView.ext rfl rfl rfl ?_ ?_ rfl
  · funext other
    show ((held.roles.insert role _).get? other).map lens.realmRole = _
    simp only [RealmView.attach, Function.update_apply, Table.get?_insert]
    split
    · show _ = ((held.roles.get? role).map lens.realmRole).map _
      rw [there]
      rfl
    · rfl
  · funext other otherId name
    exact propext (lists_added_iff sound ids fun _ => contains_insert_insertAll_iff)

/-- **Roles that are granted to the user of a client are seen by their names.** -/
theorem view_grant (linked : held.Linked) (sound : held.Sound drawn) {account user : String}
    (ofAccount : held.account? account = some user) {names roleIds : List String}
    (ids : held.RoleIdsOf clientId names roleIds) :
    StoredRealm.view lens { held with
        grants := held.grants.insert user ((held.grantsOf user).insertAll roleIds) } =
      (held.view lens).grant account clientId names := by
  -- No two clients share a user.
  have sameAccount {other : String} (has : held.account? other = some user) : other = account := by
    obtain ⟨⟨key, client⟩, found, own⟩ := Option.bind_eq_some_iff.1 has
    obtain ⟨⟨otherKey, otherClient⟩, otherFound, otherOwn⟩ := Option.bind_eq_some_iff.1 ofAccount
    obtain ⟨present, named⟩ := get?_of_client? found
    obtain ⟨otherPresent, otherNamed⟩ := get?_of_client? otherFound
    obtain rfl := linked.owners key otherKey client otherClient user present otherPresent own
      otherOwn
    cases present.symm.trans otherPresent
    exact Option.some.inj (named.symm.trans otherNamed)
  have gained (other otherId name : String) :
      held.Lists (StoredRealm.grantsOf { held with
        grants := held.grants.insert user ((held.grantsOf user).insertAll roleIds) } other)
          otherId name ↔
        held.Lists (held.grantsOf other) otherId name ∨ (other = user ∧ otherId = clientId ∧
          name ∈ names ∧ (held.view lens).Owns clientId name) :=
    lists_added_iff sound ids fun _ => contains_insert_insertAll_iff
  refine RealmView.ext rfl rfl rfl rfl rfl ?_
  funext other otherId name
  refine propext ⟨?_, ?_⟩
  · rintro ⟨has, ofOther, lists⟩
    rcases (gained has otherId name).1 lists with old | ⟨rfl, isNew⟩
    · exact .inl ⟨has, ofOther, old⟩
    · exact .inr ⟨sameAccount ofOther, isNew⟩
  · rintro (⟨has, ofOther, old⟩ | ⟨rfl, isNew⟩)
    · exact ⟨has, ofOther, (gained has otherId name).2 (.inl old)⟩
    · exact ⟨user, ofAccount, (gained user otherId name).2 (.inr ⟨rfl, isNew⟩)⟩

end StoredRealm

end RealmConvergence.Service
