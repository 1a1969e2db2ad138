import RealmConvergence.Proofs.Service.View

/-!
# What writing calls show

A writing call that succeeds leads to a realm that is seen as the call says it by name
(`Store.Shows`). What it shows depends on what was seen before, and on nothing else: not on how many
identifiers had been drawn, and not on the identifiers that the call carries, as long as they are
those of the things that are meant. There is one such law for each call.
-/

set_option autoImplicit false

namespace RealmConvergence.Service

/-- A role that is new, as it is seen. -/
def newRoleView (name : String) (container : Option String) (ofClient : Bool)
    (description : Option String) : RoleRecord :=
  { name := some name, description, composite := some false, clientRole := some ofClient
    containerId := container }

/-- A client that is new, as it is seen. -/
def Lens.newClient (lens : Lens) (record : ClientRecord) : ClientRecord :=
  lens.client { newClientRecord "" "" record with id := none }

/-- A client is seen so when it is stored first, if the secret that the service makes up for it is
not told. -/
theorem Lens.client_newClientRecord {lens : Lens} {number : Nat} (later : lens.drawn < number)
    {record : ClientRecord} (generated : String)
    (told : record.clientId.any lens.hidden = false →
      record.publicClient.getD false = true ∨ record.secret.isSome = true) :
    lens.client (newClientRecord (identifier "client" number) generated record) =
      lens.newClient record := by
  unfold Lens.newClient Lens.client newClientRecord
  simp only [Lens.identifier?_new later, ClientRecord.mk.injEq, true_and]
  cases isHidden : record.clientId.any lens.hidden with
  | true => exact ⟨rfl, rfl⟩
  | false =>
      refine ⟨rfl, ?_⟩
      rcases told isHidden with isPublic | given
      · simp only [isPublic, if_true]
      · obtain ⟨secret, same⟩ := Option.isSome_iff_exists.1 given
        simp only [same, Option.getD_some]

/-- A client that is seen to have another role under a name. -/
def ClientView.putRole (client : ClientView) (name : String) (role : RoleRecord) : ClientView :=
  { client with roles := Function.update client.roles name (some role) }

/-- Putting a role that is seen already changes nothing. -/
theorem ClientView.putRole_self {client : ClientView} {name : String} {role : RoleRecord}
    (there : client.roles name = some role) : client.putRole name role = client := by
  unfold putRole
  rw [← there, Function.update_eq_self]

/-- The client through which a realm is administered, as it is seen when it is new. -/
def managementView : ClientView where
  record := { (managementClient 0).2.record with id := none }
  roles name := if name ∈ managementRoles then
      some { name := some name, clientRole := some true }
    else none

/-- A realm that is new, as it is seen. -/
def newRealmView (comesWithManagement enabled : Bool) (attributes : Table String) : RealmView where
  enabled := enabled
  attributes := attributes
  clients clientId :=
    if comesWithManagement ∧ clientId = managementClientId then some managementView else none
  roles _ := none
  attached _ _ _ := False
  granted _ _ _ := False

namespace Store

/-- A realm of a store as it is seen by name, if it is there. -/
def view? (lens : Lens) (store : Store) (realm : String) : Option RealmView :=
  (store.realms.get? realm).map (·.view lens)

/-- The call succeeds with this answer, and afterwards the realm is seen so. -/
def Shows (lens : Lens) (store : Store) (realm : String) (call : AdminCall) (answer : call.Answer)
    (view : RealmView) : Prop :=
  ∃ later, store.answer call = (.ok answer, later) ∧ later.view? lens realm = some view

/-- The call succeeds with this answer, and afterwards the realm is seen so and has the client under
this internal identifier. -/
def ShowsClient (lens : Lens) (store : Store) (realm : String) (call : AdminCall)
    (answer : call.Answer) (clientId key : String) (view : RealmView) : Prop :=
  ∃ later after stored, store.answer call = (.ok answer, later) ∧
    later.realms.get? realm = some after ∧ after.client? clientId = some (key, stored) ∧
      after.view lens = view

variable {lens : Lens} {store : Store} {realm key clientId : String} {held : StoredRealm}
  {stored owner : StoredClient}

theorem view?_eq (found : store.realms.get? realm = some held) :
    store.view? lens realm = some (held.view lens) := by
  rw [view?, found, Option.map_some]

theorem view?_putRealm (lens : Lens) (store : Store) (realm : String) (held : StoredRealm) :
    (store.putRealm realm held).view? lens realm = some (held.view lens) :=
  view?_eq (putRealm_realms_get?_self store realm held)

theorem ShowsClient.shows {call : AdminCall} {answer : call.Answer} {view : RealmView}
    (showsClient : store.ShowsClient lens realm call answer clientId key view) :
    store.Shows lens realm call answer view := by
  obtain ⟨later, after, stored, answers, found, -, rfl⟩ := showsClient
  exact ⟨later, answers, view?_eq found⟩

/-! ## Stores that can be read -/

/-- A store whose realms are sound and linked, and that has drawn all that a lens tells. -/
structure Readable (lens : Lens) (store : Store) : Prop where
  sound : store.Sound
  linked : store.Linked
  fewer : lens.drawn ≤ store.drawn

/-- An edit draws nothing and leaves alone what new realms come with. -/
theorem edit_keeps {α : Type} (store : Store) (name : String)
    (change : StoredRealm → Except AdminError (α × StoredRealm)) :
    (store.edit name change).2.drawn = store.drawn ∧
      (store.edit name change).2.providesManagement = store.providesManagement := by
  unfold edit
  split
  · exact ⟨rfl, rfl⟩
  · split <;> exact ⟨rfl, rfl⟩

/-- Numbers that were drawn stay so, and new realms come with what they came with before. -/
theorem answer_keeps (store : Store) (call : AdminCall) :
    store.drawn ≤ (store.answer call).2.drawn ∧
      (store.answer call).2.providesManagement = store.providesManagement := by
  have edited {α : Type} (count : Nat) (name : String)
      (change : StoredRealm → Except AdminError (α × StoredRealm)) :
      store.drawn ≤ (edit { store with drawn := store.drawn + count } name change).2.drawn ∧
        (edit { store with drawn := store.drawn + count } name change).2.providesManagement =
          store.providesManagement := by
    obtain ⟨drawn, provides⟩ := edit_keeps { store with drawn := store.drawn + count } name change
    exact ⟨drawn ▸ Nat.le_add_right _ _, provides⟩
  cases call with
  | getRealm | findClient | getClientSecret | getRealmRole | getClientRole
  | getServiceAccountUser | getRealmRoleComposites =>
      rw [answer_of_not_mutating rfl]
      exact ⟨Nat.le_refl _, rfl⟩
  | createRealm record =>
      simp only [answer]
      split
      · exact ⟨Nat.le_refl _, rfl⟩
      · split
        · exact ⟨Nat.le_refl _, rfl⟩
        · unfold startRealm
          split
          · exact ⟨by show store.drawn ≤ store.drawn + 1 + managementRoles.length; omega, rfl⟩
          · exact ⟨Nat.le_refl _, rfl⟩
  | createClient realm record =>
      simp only [answer, addClient]
      split
      · exact ⟨Nat.le_refl _, rfl⟩
      · exact edited 3 realm _
  | createRealmRole realm record =>
      simp only [answer, addRealmRole]
      split
      · exact ⟨Nat.le_refl _, rfl⟩
      · exact edited 1 realm _
  | createClientRole realm client record =>
      simp only [answer, addClientRole]
      split
      · exact ⟨Nat.le_refl _, rfl⟩
      · exact edited 1 realm _
  | updateClient realm client record => exact edited 1 realm _
  | updateRealm | updateClientSecret | updateRealmRole | addRealmRoleComposites | updateClientRole
  | assignClientRoles => exact edited 0 _ _

theorem Readable.answer (readable : store.Readable lens) (call : AdminCall) :
    (store.answer call).2.Readable lens where
  sound := readable.sound.answer call
  linked := readable.linked.answer readable.sound call
  fewer := Nat.le_trans readable.fewer (answer_keeps store call).1

/-- A talk keeps a store readable. -/
theorem Readable.run (readable : store.Readable lens) {α : Type} (faults : Faults)
    (conversation : Talk α) : (conversation.run (respond faults) store).2.Readable lens := by
  have keeps (call : AdminCall) (before : Store) (_ : True) (held : before.Readable lens) :
      (respond faults call before).2.Readable lens :=
    respond_keeps (Store.Readable lens) held (held.answer call)
  exact conversation.asksOnly_true.run_keeps keeps readable

/-! ## Realms and their roles -/

theorem view_managementClient (lens : Lens) {drawn : Nat} (fewer : lens.drawn ≤ drawn) :
    (managementClient drawn).2.view lens ∅ = managementView := by
  have roles : (fun name => ((managementClient drawn).2.roles.get? name).map lens.clientRole) =
      managementView.roles := by
    funext name
    show _ = if name ∈ managementRoles then _ else _
    cases found : (managementClient drawn).2.roles.get? name with
    | none =>
        have unlisted : name ∉ managementRoles := by
          intro listed
          obtain ⟨position, bound, rfl⟩ := List.mem_iff_getElem.1 listed
          have there : ((managementClient drawn).2.roles.get? managementRoles[position]).isSome :=
            Table.isSome_get?_ofList_iff.2 ⟨_, List.mem_mapIdx.2 ⟨position, bound, rfl⟩⟩
          exact Option.isSome_iff_ne_none.1 there found
        rw [if_neg unlisted]
        rfl
    | some role =>
        obtain ⟨position, bound, same⟩ := List.mem_mapIdx.1 (Table.mem_of_get?_ofList found)
        obtain ⟨rfl, rfl⟩ := Prod.mk.inj same
        rw [if_pos (List.getElem_mem bound), Option.map_some, Lens.clientRole,
          Lens.identifier?_new (by omega), Lens.identifier?_new (Nat.lt_succ_of_le fewer)]
  have record : lens.client (managementClient drawn).2.record = managementView.record := by
    have told : lens.identifier? "client" (managementClient drawn).2.record.id = none :=
      Lens.identifier?_new (Nat.lt_succ_of_le fewer)
    rw [Lens.client_of_noSecret rfl, told]
    rfl
  simp only [StoredClient.view, roles, record]
  rfl

/-- In a realm without clients nothing is listed. -/
theorem view_empty (lens : Lens) (enabled : Bool) (attributes : Table String) :
    StoredRealm.view lens { enabled, attributes } = newRealmView false enabled attributes := by
  refine RealmView.ext rfl rfl ?_ rfl ?_ ?_
  · funext clientId
    simp only [newRealmView, Bool.false_eq_true, false_and, if_false]
    rfl
  · funext role clientId name
    refine propext ⟨?_, False.elim⟩
    rintro ⟨roleId, never, -⟩
    cases never
  · funext account clientId name
    refine propext ⟨?_, False.elim⟩
    rintro ⟨user, never, -⟩
    cases never

/-- **A realm that is started is seen with its settings**, and with the client through which it is
administered, if it comes with one. -/
theorem view?_startRealm (fewer : lens.drawn ≤ store.drawn) (name : String) (enabled : Bool)
    (attributes : Table String) :
    (store.startRealm name enabled attributes).view? lens name =
      some (newRealmView store.providesManagement enabled attributes) := by
  unfold startRealm
  cases store.providesManagement with
  | false =>
      show (store.putRealm name { enabled, attributes }).view? lens name = _
      rw [view?_putRealm, view_empty]
  | true =>
      have unknown : StoredRealm.client? { enabled, attributes } managementClientId = none := rfl
      have shown := @StoredRealm.view_putClient lens { enabled, attributes }
        (managementClient store.drawn).1 managementClientId (managementClient store.drawn).2 ∅
        (StoredRealm.client?_putClient_new unknown rfl rfl ∅) ?_ ?_ ?_
      · show (store.putRealm name _).view? lens name = _
        refine (view?_putRealm lens store name _).trans (congrArg some (shown.trans ?_))
        rw [view_empty, view_managementClient lens fewer]
        refine RealmView.ext rfl rfl ?_ rfl rfl rfl
        funext clientId
        simp only [RealmView.putClient, newRealmView, Function.update_apply, true_and,
          Bool.false_eq_true, false_and, if_false]
      · rintro name roleId (⟨role, never⟩ | ⟨user, never⟩) <;> cases never
      · intro user roleId never
        cases never
      · intro other key found _ never
        cases never

theorem shows_updateRealm (found : store.realms.get? realm = some held) (record : RealmRecord) :
    store.Shows lens realm (.updateRealm realm record) () ((held.view lens).updated record) :=
  ⟨_, answer_updateRealm found, view?_putRealm lens store realm _⟩

theorem shows_createRealmRole (readable : store.Readable lens)
    (found : store.realms.get? realm = some held) {name : String} {description : Option String}
    (unknown : held.roles.get? name = none) :
    store.Shows lens realm (.createRealmRole realm { name := some name, description }) ()
      ((held.view lens).putRole name (newRoleView name (some realm) false description)) := by
  refine ⟨_, answer_createRealmRole found rfl unknown, ?_⟩
  rw [view?_putRealm, StoredRealm.view_putRole, Lens.realmRole, newRole,
    Lens.identifier?_new (Nat.lt_succ_of_le readable.fewer)]
  rfl

theorem shows_updateRealmRole (found : store.realms.get? realm = some held) {role : String}
    {known : RoleRecord} (there : held.roles.get? role = some known) (record : RoleRecord) :
    store.Shows lens realm (.updateRealmRole realm role record) ()
      ((held.view lens).putRole role (updatedRole (lens.realmRole known) record)) := by
  refine ⟨_, answer_updateRealmRole found there, ?_⟩
  rw [view?_putRealm, StoredRealm.view_putRole]
  rfl

/-! ## Identifiers of roles that are named -/

/-- The identifiers of the roles that a client has under these names. -/
theorem roleIdsOf_filterMap (known : held.client? clientId = some (key, owner))
    (names : List String) :
    held.RoleIdsOf clientId names ((names.filterMap owner.roles.get?).filterMap (·.id)) := by
  intro roleId
  simp only [List.mem_filterMap, StoredRealm.roleId?, known, Option.bind_some,
    Option.bind_eq_some_iff]
  constructor
  · rintro ⟨role, ⟨name, listed, there⟩, identified⟩
    exact ⟨name, listed, role, there, identified⟩
  · rintro ⟨name, listed, role, there, identified⟩
    exact ⟨role, ⟨name, listed, there⟩, identified⟩

/-- Roles that are found by their identifiers with one client can be granted as its roles. -/
theorem grantIds_eq_ok {granted : List RoleRecord}
    (ofClient : ∀ role ∈ granted, ∃ roleId, role.id = some roleId ∧
      held.clientRole? roleId = some (key, role)) :
    grantIds held key granted = .ok (granted.filterMap (·.id)) := by
  induction granted with
  | nil => rfl
  | cons role rest ih =>
      obtain ⟨roleId, identified, isRole⟩ := ofClient role List.mem_cons_self
      have others := ih fun other member => ofClient other (List.mem_cons_of_mem _ member)
      simp only [grantIds, identified, Option.getD_some, isRole, if_true, others, Except.map,
        List.filterMap_cons]

/-! ## Mappings -/

/-- Roles of a client that come with a role are seen to do so by their names. -/
theorem shows_addRealmRoleComposites (readable : store.Readable lens)
    (found : store.realms.get? realm = some held)
    (known : held.client? clientId = some (key, owner))
    {role : String} {stored : RoleRecord} (there : held.roles.get? role = some stored)
    (names : List String) :
    store.Shows lens realm
      (.addRealmRoleComposites realm role (names.filterMap owner.roles.get?)) ()
      ((held.view lens).attach role clientId names) := by
  have sound := readable.sound realm held found
  have ofOwner : ∀ added ∈ names.filterMap owner.roles.get?, ∃ roleId, added.id = some roleId ∧
      (held.clientRole? roleId).isSome := by
    intro added member
    obtain ⟨roleId, identified, isRole⟩ :=
      sound.clientRole?_of_mem_filterMap (StoredRealm.get?_of_client? known).1 member
    exact ⟨roleId, identified, Option.isSome_of_eq_some isRole⟩
  refine ⟨_, answer_addRealmRoleComposites found there ofOwner, ?_⟩
  rw [view?_putRealm, StoredRealm.view_attach sound there (roleIdsOf_filterMap known names)]

/-! ## Clients -/

/-- A client with another role under a name is seen so. -/
theorem view_insertRole (users : Table UserRecord) (name : String) (role : RoleRecord) :
    StoredClient.view lens users { owner with roles := owner.roles.insert name role } =
      (owner.view lens users).putRole name (lens.clientRole role) := by
  have roles : (fun other => ((owner.roles.insert name role).get? other).map lens.clientRole) =
      Function.update (owner.view lens users).roles name (some (lens.clientRole role)) := by
    funext other
    rw [Table.get?_insert, Function.update_apply]
    split <;> rfl
  simp only [StoredClient.view, ClientView.putRole]
  rw [roles]
  rfl

section Clients

variable (readable : store.Readable lens) (found : store.realms.get? realm = some held)
include readable found

/-- A client that is created is seen as it was sent, with what the service fills in. -/
theorem shows_createClient {record : ClientRecord}
    (named : record.clientId = some clientId) (unknown : held.client? clientId = none)
    (told : lens.hidden clientId = false →
      record.publicClient.getD false = true ∨ record.secret.isSome = true) :
    ∃ key, store.ShowsClient lens realm (.createClient realm record) key clientId key
      ((held.view lens).putClient clientId
        (ClientView.opened { record := lens.newClient record })) := by
  have free := (readable.sound realm held found).client_free (Nat.lt_succ_self store.drawn)
  have later : store.drawn < store.drawn + 3 := by omega
  refine ⟨_, _, _, _, answer_createClient found named unknown, putRealm_realms_get?_self _ _ _,
    (StoredRealm.client?_putClient_new unknown free named _ _).trans (if_pos rfl), ?_⟩
  refine (StoredRealm.view_putClient_new (readable.linked realm held found)
    (readable.sound realm held found) unknown free named rfl ?_ ?_).trans ?_
  · intro user has isDrawn
    cases (StoredRealm.openAccount_user later _ clientId none held.users isDrawn).1 has
  · exact fun user isDrawn => StoredRealm.openAccount_users later _ clientId none held.users isDrawn
  · rw [← Lens.client_newClientRecord (Nat.lt_succ_of_le readable.fewer)
      (identifier "generated-secret" (store.drawn + 2)) (by simpa [named] using told)]
    refine congrArg ((held.view lens).putClient clientId) ?_
    have ownName : (newClientRecord (identifier "client" (store.drawn + 1))
        (identifier "generated-secret" (store.drawn + 2)) record).clientId.getD "" = clientId := by
      show record.clientId.getD "" = clientId
      rw [named, Option.getD_some]
    have nobody (user : String) (own : (none : Option String) = some user) :
        (held.users.get? user).isSome := nomatch own
    exact @StoredRealm.view_openAccount lens clientId { record := {} } (store.drawn + 3)
      (Nat.lt_of_le_of_lt readable.fewer later) _ ownName held.users nobody _ rfl

/-- A client that is changed is seen with the present fields of the record. -/
theorem shows_updateClient (known : held.client? clientId = some (key, stored))
    (record : ClientRecord) :
    store.ShowsClient lens realm (.updateClient realm key record) () clientId key
      ((held.view lens).putClient clientId
        (ClientView.opened { stored.view lens held.users with
          record := lens.client (updatedClient (lens.client stored.record) record) })) := by
  obtain ⟨present, named⟩ := StoredRealm.get?_of_client? known
  have later := Nat.lt_succ_self store.drawn
  refine ⟨_, _, _, answer_updateClient found present record, putRealm_realms_get?_self _ _ _,
    (StoredRealm.client?_putClient known (by rfl) _ _).trans (if_pos rfl), ?_⟩
  refine (StoredRealm.view_putClient_over (readable.linked realm held found)
    (readable.sound realm held found) known (by rfl) ?_ ?_ ?_).trans ?_
  · exact fun _ _ _ => Iff.rfl
  · exact fun user isDrawn => StoredRealm.openAccount_user later _ _ _ held.users isDrawn
  · exact fun user isDrawn => StoredRealm.openAccount_users later _ _ _ held.users isDrawn
  · rw [Lens.client_updatedClient]
    refine congrArg ((held.view lens).putClient clientId) ?_
    exact StoredRealm.view_openAccount (Nat.lt_of_le_of_lt readable.fewer later) rfl
      (fun user own => (readable.linked realm held found).accounts key stored user present own) rfl

theorem shows_updateClientSecret (known : held.client? clientId = some (key, stored))
    (secret : String) :
    store.Shows lens realm (.updateClientSecret realm key secret) ()
      ((held.view lens).putClient clientId { stored.view lens held.users with
        record := lens.client { lens.client stored.record with secret := some secret } }) := by
  obtain ⟨present, -⟩ := StoredRealm.get?_of_client? known
  refine ⟨_, answer_updateClientSecret found present secret, ?_⟩
  rw [view?_putRealm]
  refine congrArg some ((StoredRealm.view_putClient_over (readable.linked realm held found)
    (readable.sound realm held found) known (by rfl) ?_ ?_ fun _ _ => rfl).trans ?_)
  · exact fun _ _ _ => Iff.rfl
  · exact fun _ _ => Iff.rfl
  · rw [Lens.client_withSecret]
    rfl

/-! ## Roles of clients -/

theorem shows_createClientRole (known : held.client? clientId = some (key, owner)) {name : String}
    {description : Option String} (unknown : owner.roles.get? name = none) :
    store.ShowsClient lens realm (.createClientRole realm key { name := some name, description }) ()
      clientId key ((held.view lens).putClient clientId ((owner.view lens held.users).putRole name
        (newRoleView name (lens.client owner.record).id true description))) := by
  obtain ⟨present, -⟩ := StoredRealm.get?_of_client? known
  refine ⟨_, _, _, answer_createClientRole found present rfl unknown,
    putRealm_realms_get?_self _ _ _,
    (StoredRealm.client?_putClient known (by rfl) _ _).trans (if_pos rfl), ?_⟩
  refine ((StoredRealm.view_putClient_over (readable.linked realm held found)
    (readable.sound realm held found) known (by rfl) ?_ ?_ fun _ _ => rfl).trans ?_)
  · intro other roleId isDrawn
    rw [Table.get?_insert]
    split
    · next same =>
      rw [same, unknown]
      constructor
      · intro identified
        cases identified
        exact absurd isDrawn (IsDrawn.fresh (Nat.lt_succ_self _))
      · intro never
        cases never
    · rfl
  · exact fun _ _ => Iff.rfl
  · rw [view_insertRole, Lens.clientRole, newRole, newRoleView,
      Lens.identifier?_new (Nat.lt_succ_of_le readable.fewer), Lens.client,
      (readable.sound realm held found).ownId_of_client? known]

theorem shows_updateClientRole (known : held.client? clientId = some (key, owner)) {role : String}
    {stored : RoleRecord} (there : owner.roles.get? role = some stored) (record : RoleRecord) :
    store.ShowsClient lens realm (.updateClientRole realm key role record) () clientId key
      ((held.view lens).putClient clientId ((owner.view lens held.users).putRole role
        (updatedRole (lens.clientRole stored) record))) := by
  obtain ⟨present, -⟩ := StoredRealm.get?_of_client? known
  refine ⟨_, _, _, answer_updateClientRole found present there, putRealm_realms_get?_self _ _ _,
    (StoredRealm.client?_putClient known (by rfl) _ _).trans (if_pos rfl), ?_⟩
  refine ((StoredRealm.view_putClient_over (readable.linked realm held found)
    (readable.sound realm held found) known (by rfl) ?_ ?_ fun _ _ => rfl).trans ?_)
  · intro other roleId _
    rw [Table.get?_insert]
    split
    · next same =>
      rw [same, there]
      rfl
    · rfl
  · exact fun _ _ => Iff.rfl
  · rw [view_insertRole]
    rfl

/-! ## Grants -/

/-- Roles of a client that are granted to the user of another are seen so by their names. -/
theorem shows_assignClientRoles {account user : String}
    (ofAccount : held.account? account = some user)
    (known : held.client? clientId = some (key, owner)) (names : List String) :
    store.Shows lens realm
      (.assignClientRoles realm user key (names.filterMap owner.roles.get?)) ()
      ((held.view lens).grant account clientId names) := by
  have sound := readable.sound realm held found
  have ofOwner : ∀ added ∈ names.filterMap owner.roles.get?, ∃ roleId, added.id = some roleId ∧
      held.clientRole? roleId = some (key, added) := fun added member =>
    sound.clientRole?_of_mem_filterMap (StoredRealm.get?_of_client? known).1 member
  obtain ⟨⟨accountKey, client⟩, accountKnown, own⟩ := Option.bind_eq_some_iff.1 ofAccount
  have there : held.users.contains user = true :=
    (readable.linked realm held found).accounts accountKey client user
      (StoredRealm.get?_of_client? accountKnown).1 own
  have answered : store.answer
      (.assignClientRoles realm user key (names.filterMap owner.roles.get?)) =
      (.ok (), store.putRealm realm { held with
        grants := held.grants.insert user ((held.grantsOf user).insertAll
          ((names.filterMap owner.roles.get?).filterMap (·.id))) }) := by
    simp only [answer]
    refine edit_of_ok found ?_
    simp only [there, if_true, grantIds_eq_ok ofOwner, Except.map]
  refine ⟨_, answered, ?_⟩
  rw [view?_putRealm, StoredRealm.view_grant (readable.linked realm held found) sound ofAccount
    (roleIdsOf_filterMap known names)]

end Clients

end Store

end RealmConvergence.Service
