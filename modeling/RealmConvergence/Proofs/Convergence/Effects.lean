import RealmConvergence.Proofs.Convergence.Attaching
import RealmConvergence.Proofs.Service.Showing

/-!
# What a run makes of a realm, by name

Without faults, what each part of a run makes of a realm is told by name alone: for each item there
is an effect on the view of the realm (`clientEffect`, `realmRoleEffect`, `clientRoleEffect`,
`compositeEffect`, `markerEffect`), and the part for the item comes to its end with the realm seen
so (`makes_convergeClient` and its companions). Identifiers do not matter to it, nor how many were
drawn.

A client of a blueprint may be the one that owns the roles for service accounts. So a grant is part
of the effect of the client that is granted them, and depends on what is seen of another one.
-/

set_option autoImplicit false

namespace RealmConvergence.Convergence

open Service

/-! ## Effects -/

/-- The roles that let a service account look after users are all there. -/
def CanGrant (view : RealmView) : Prop :=
  ∀ name ∈ serviceAccountRoles, view.Owns managementClientId name

/-- The user of a client is granted the roles that look after users, if that is needed and they are
there. -/
def grantEffect (needed : Bool) (account : String) (view : RealmView) : RealmView :=
  { view with
    granted := fun other otherId name => view.granted other otherId name ∨
      ((needed = true ∧ CanGrant view) ∧ other = account ∧ otherId = managementClientId ∧
        name ∈ serviceAccountRoles) }

/-- A client after it was brought to its desired state. -/
def clientAfter (lens : Lens) (desired : Blueprint.Client) : Option ClientView → ClientView
  | none => ClientView.opened { record := lens.newClient (newClient desired) }
  | some client => ClientView.opened { client with
      record := lens.client (updatedClient client.record
        { clientPatch client.record desired with secret := desired.secret }) }

/-- Whether a client gets a service account when it is brought to its desired state. -/
def opensAccount (desired : Blueprint.Client) : Option ClientView → Bool
  | none => desired.serviceAccount
  | some client => enablesServiceAccount (clientPatch client.record desired)

/-- What bringing a client to its desired state makes of a realm. -/
def clientEffect (lens : Lens) (view : RealmView) (desired : Blueprint.Client) : RealmView :=
  let current := view.clients desired.clientId
  grantEffect (opensAccount desired current) desired.clientId
    (view.putClient desired.clientId (clientAfter lens desired current))

/-- A role after it was brought to its desired state. -/
def roleAfter (name : String) (container : Option String) (ofClient : Bool)
    (description : Option String) : Option RoleRecord → RoleRecord
  | none => newRoleView name container ofClient description
  | some role => updatedRole role { description }

/-- What bringing a role of the realm to its desired state makes of the realm. -/
def realmRoleEffect (realm : String) (view : RealmView) (desired : Blueprint.Role) : RealmView :=
  view.putRole desired.name
    (roleAfter desired.name (some realm) false desired.description (view.roles desired.name))

/-- A client after a role of it was brought to its desired state. -/
def ownerAfter (desired : Blueprint.ClientRole) (owner : ClientView) : ClientView :=
  owner.putRole desired.name
    (roleAfter desired.name owner.record.id true desired.description (owner.roles desired.name))

/-- What bringing a role of a client to its desired state makes of a realm. -/
def clientRoleEffect (view : RealmView) (desired : Blueprint.ClientRole) : RealmView :=
  { view with
    clients := Function.update view.clients desired.clientId
      ((view.clients desired.clientId).map (ownerAfter desired)) }

/-- A mapping lists a role that could come with its role of the realm, and does not. -/
def Missing (view : RealmView) (mapping : Blueprint.Composite) : Prop :=
  (view.roles mapping.realmRole).isSome ∧ ∃ name ∈ mapping.clientRoles.toList,
    view.Owns mapping.clientId name ∧ ¬view.attached mapping.realmRole mapping.clientId name

open Classical in
/-- What bringing a composite mapping to its desired state makes of a realm. -/
noncomputable def compositeEffect (view : RealmView) (mapping : Blueprint.Composite) : RealmView :=
  if Missing view mapping then
    view.attach mapping.realmRole mapping.clientId mapping.clientRoles.toList
  else view

/-- What marking a realm as finished makes of it. -/
def markerEffect (view : RealmView) : RealmView :=
  if markerIsSet (view.attributes.get? initializedMarker) then view
  else view.updated { attributes := some (view.attributes.insert initializedMarker "true") }

/-! ## Parts that come to their end -/

variable {lens : Lens} {store : Store} {realm key : String} {held : StoredRealm}
  {stored owner : StoredClient} {view : RealmView}

/-- Without faults, the part comes to its end, and then the realm is seen so. -/
def Makes (lens : Lens) (realm : String) (part : Part Findings) (store : Store)
    (view : RealmView) : Prop :=
  Reaches Faults.none part store fun outcome later =>
    (∃ found, outcome = .ok found) ∧ later.view? lens realm = some view

theorem makes_pure (found : store.realms.get? realm = some held) (value : Findings)
    (same : held.view lens = view) : Makes lens realm (pure value) store view :=
  reaches_pure ⟨⟨value, rfl⟩, (Store.view?_eq found).trans (congrArg some same)⟩

/-- Without faults, a call that is answered leads to what follows its answer. -/
theorem reaches_answered {ε α : Type} {explain : AdminError → ε} {call : AdminCall}
    {next : call.Answer → ExceptT ε Talk α} {goal : Except ε α → Store → Prop}
    {answer : call.Answer} {later : Store} (answers : store.answer call = (.ok answer, later))
    (goesOn : Reaches Faults.none (next answer) later goal) :
    Reaches Faults.none (explained explain call >>= next) store goal :=
  reaches_explained_bind answers (fun _ faulty => absurd rfl (ne_none_of_faulty faulty)) goesOn

theorem makes_answered {explain : AdminError → Failure} {call : AdminCall}
    {next : call.Answer → Part Findings} {answer : call.Answer} {later : Store}
    (answers : store.answer call = (.ok answer, later))
    (goesOn : Makes lens realm (next answer) later view) :
    Makes lens realm (explained explain call >>= next) store view :=
  reaches_answered answers goesOn

/-- A write shows what it makes of a realm. -/
theorem makes_shows {explain : AdminError → Failure} {call : AdminCall} {answer : call.Answer}
    {value : Findings} (shows' : store.Shows lens realm call answer view) :
    Makes lens realm (explained explain call >>= fun _ => pure value) store view := by
  obtain ⟨later, answers, seen⟩ := shows'
  exact makes_answered answers (reaches_pure ⟨⟨value, rfl⟩, seen⟩)

/-- A part and the next one make of a realm what the next one makes of what the first made. -/
theorem Makes.bind {part : Part Findings} {next : Findings → Part Findings} {between : RealmView}
    (first : Makes lens realm part store between) (readable : store.Readable lens)
    (goesOn : ∀ value later after, later.Readable lens → later.realms.get? realm = some after →
      after.view lens = between → Makes lens realm (next value) later view) :
    Makes lens realm (part >>= next) store view := by
  refine (first.and (show Reaches Faults.none part store fun _ later => later.Readable lens from
    readable.run Faults.none part.run)).bind ?_ ?_
  · rintro failure later ⟨⟨⟨_, never⟩, -⟩, -⟩
    cases never
  · rintro value later ⟨⟨-, seen⟩, readableLater⟩
    obtain ⟨after, found, same⟩ := Option.map_eq_some_iff.1 seen
    exact goesOn value later after readableLater found same

/-! ## Third and fourth pass -/

/-- A role without a new description is seen as it is brought to its desired state. -/
theorem updatedRole_of_described {role : RoleRecord} {description : Option String}
    (described : newDescription? role description = none) :
    updatedRole role { description } = role := by
  have told := newDescription?_eq_none_iff.1 described
  cases description with
  | none => rfl
  | some text =>
      have same := told text rfl
      cases role
      cases same
      rfl

theorem makes_convergeRealmRole (desired : Blueprint.Role) (readable : store.Readable lens)
    (found : store.realms.get? realm = some held) :
    Makes lens realm (convergeRealmRole realm desired) store
      (realmRoleEffect realm (held.view lens) desired) := by
  refine makes_answered (Store.answer_getRealmRole found desired.name) ?_
  have current : (held.view lens).roles desired.name =
      (held.roles.get? desired.name).map lens.realmRole := rfl
  unfold realmRoleEffect
  rw [current]
  cases there : held.roles.get? desired.name with
  | none => exact makes_shows (Store.shows_createRealmRole readable found there)
  | some role =>
      dsimp only [Option.map_some, roleAfter]
      cases differs : newDescription? role desired.description with
      | none =>
          have same : updatedRole (lens.realmRole role) { description := desired.description } =
              lens.realmRole role := updatedRole_of_described differs
          refine makes_pure found _ (RealmView.putRole_self ?_).symm
          rw [same, current, there]
          rfl
      | some description =>
          rw [eq_of_newDescription?_eq_some differs]
          exact makes_shows (Store.shows_updateRealmRole found there _)

/-- The role of an absent client has no effect. -/
theorem clientRoleEffect_of_absent {desired : Blueprint.ClientRole}
    (absent : view.clients desired.clientId = none) : clientRoleEffect view desired = view := by
  refine RealmView.ext rfl rfl ?_ rfl rfl rfl
  rw [clientRoleEffect, absent, Option.map_none, ← absent]
  exact Function.update_eq_self _ _

theorem clientRoleEffect_of_seen {desired : Blueprint.ClientRole} {owner : ClientView}
    (seen : view.clients desired.clientId = some owner) :
    clientRoleEffect view desired =
      view.putClient desired.clientId (ownerAfter desired owner) := by
  rw [clientRoleEffect, seen]
  rfl

theorem makes_convergeClientRole {desired : Blueprint.ClientRole} (readable : store.Readable lens)
    (found : store.realms.get? realm = some held)
    (known : held.client? desired.clientId = some (key, owner)) :
    Makes lens realm (convergeClientRole realm key desired) store
      (clientRoleEffect (held.view lens) desired) := by
  obtain ⟨present, -⟩ := StoredRealm.get?_of_client? known
  refine makes_answered (Store.answer_getClientRole found present desired.name) ?_
  have seen : (held.view lens).clients desired.clientId = some (owner.view lens held.users) :=
    StoredRealm.view_client_of_known known
  have current : (owner.view lens held.users).roles desired.name =
      (owner.roles.get? desired.name).map lens.clientRole := rfl
  rw [clientRoleEffect_of_seen seen, ownerAfter, current]
  cases there : owner.roles.get? desired.name with
  | none => exact makes_shows (Store.shows_createClientRole readable found known there).shows
  | some role =>
      dsimp only [Option.map_some, roleAfter]
      cases differs : newDescription? role desired.description with
      | none =>
          have same : updatedRole (lens.clientRole role) { description := desired.description } =
              lens.clientRole role := updatedRole_of_described differs
          refine makes_pure found _ (Eq.symm ?_)
          rw [same, ClientView.putRole_self (by rw [current, there]; rfl),
            RealmView.putClient_self seen]
      | some description =>
          rw [eq_of_newDescription?_eq_some differs]
          exact makes_shows (Store.shows_updateClientRole readable found known there _).shows

/-! ## Parts one after the other -/

section ForEach

variable {α : Type} {subjects : List α} {part : α → Part Findings}
  {effect : RealmView → α → RealmView}

/-- **Parts that come to their ends one by one come there one after the other**, and the realm is
seen as their effects make it in turn, from every realm with a property that edits keep. -/
theorem makes_forEach (itemsOf : α → List Item) (kept : StoredRealm → Prop)
    (keeps : ∀ item before after, Edit item before after → kept before → kept after)
    (works : ∀ subject ∈ subjects, ∀ store held, store.Sound →
      store.realms.get? realm = some held → kept held →
        Reaches Faults.none (part subject) store
          (Works Faults.none realm (itemsOf subject) held))
    (each : ∀ subject ∈ subjects, ∀ store held, store.Readable lens →
      store.realms.get? realm = some held → kept held →
        Makes lens realm (part subject) store (effect (held.view lens) subject)) :
    ∀ store held, store.Readable lens → store.realms.get? realm = some held → kept held →
      Makes lens realm (forEach subjects part) store (subjects.foldl effect (held.view lens)) := by
  induction subjects with
  | nil => exact fun store held _ found _ => makes_pure found _ rfl
  | cons subject rest ih =>
      intro store held readable found holds
      have first := each subject List.mem_cons_self store held readable found holds
      have worked := works subject List.mem_cons_self store held readable.sound found holds
      refine ((first.and worked).and
        (show Reaches Faults.none (part subject) store fun _ later => later.Readable lens from
          readable.run Faults.none (part subject).run)).bind ?_ ?_
      · rintro failure later ⟨⟨⟨⟨_, never⟩, -⟩, -⟩, -⟩
        cases never
      · rintro value later ⟨⟨⟨-, seen⟩, after, foundLater, edits, -⟩, readableLater⟩
        rw [Store.view?_eq foundLater, Option.some.injEq] at seen
        have others := ih (fun other member => works other (List.mem_cons_of_mem _ member))
          (fun other member => each other (List.mem_cons_of_mem _ member)) later after readableLater
          foundLater (edits.keep (fun item _ => keeps item) holds)
        rw [seen] at others
        exact others.bind readableLater fun _ _ _ _ foundLast same => makes_pure foundLast _ same

end ForEach

/-- The roles of an absent client have no effect. -/
theorem foldl_clientRoleEffect_of_absent {clientId : String} {roles : List Blueprint.ClientRole}
    (owned : ∀ role ∈ roles, role.clientId = clientId) (absent : view.clients clientId = none) :
    roles.foldl clientRoleEffect view = view := by
  induction roles with
  | nil => rfl
  | cons role rest ih =>
      have gone : view.clients role.clientId = none := by
        rwa [owned role List.mem_cons_self]
      rw [List.foldl_cons, clientRoleEffect_of_absent gone]
      exact ih fun other member => owned other (List.mem_cons_of_mem _ member)

/-- **Bringing the roles of one client to their desired states has the effects of all of them.** -/
theorem makes_convergeClientRoles {group : String × List Blueprint.ClientRole}
    (owned : ∀ role ∈ group.2, role.clientId = group.1) (readable : store.Readable lens)
    (found : store.realms.get? realm = some held) :
    Makes lens realm (convergeClientRoles realm group) store
      (group.2.foldl clientRoleEffect (held.view lens)) := by
  refine makes_answered (Store.answer_findClient found group.1) ?_
  cases known : held.client? group.1 with
  | none =>
      refine makes_pure found _ (foldl_clientRoleEffect_of_absent owned ?_).symm
      exact StoredRealm.view_client_of_unknown known
  | some entry =>
      obtain ⟨key, owner⟩ := entry
      dsimp only [Option.map_some, Option.bind_some]
      rw [(readable.sound realm held found).ownId_of_client? known]
      refine makes_forEach (fun role => [.clientRole role])
        (fun before => ∃ owner, before.client? group.1 = some (key, owner)) ?_ ?_ ?_ store held
        readable found ⟨owner, known⟩
      · rintro item before after edit ⟨owner, there⟩
        obtain ⟨kept, thereAfter, -⟩ := edit.client? there
        exact ⟨kept, thereAfter⟩
      · rintro role listed store held _ found ⟨owner, there⟩
        rw [← owned role listed] at there
        exact works_convergeClientRole found there
      · rintro role listed store held readable found ⟨owner, there⟩
        rw [← owned role listed] at there
        exact makes_convergeClientRole readable found there

/-! ## Second pass -/

theorem grantEffect_of_needless {account : String} : grantEffect false account view = view := by
  refine RealmView.ext rfl rfl rfl rfl rfl ?_
  funext other otherId name
  simp only [grantEffect, Bool.false_eq_true, false_and, or_false]

theorem grantEffect_of_not_canGrant {needed : Bool} {account : String} (cannot : ¬CanGrant view) :
    grantEffect needed account view = view := by
  refine RealmView.ext rfl rfl rfl rfl rfl ?_
  funext other otherId name
  simp only [grantEffect, cannot, and_false, false_and, or_false]

theorem grantEffect_of_canGrant {account : String} (can : CanGrant view) :
    grantEffect true account view = view.grant account managementClientId serviceAccountRoles := by
  refine RealmView.ext rfl rfl rfl rfl rfl ?_
  funext other otherId name
  simp only [grantEffect, RealmView.grant, can, true_and, and_true]
  refine propext (or_congr_right (and_congr_right fun _ => and_congr_right fun _ => ?_))
  exact ⟨fun listed => ⟨listed, can name listed⟩, And.left⟩

/-- The roles that are read are those of the client, if it has them all. -/
theorem reaches_readRoles_owned (found : store.realms.get? realm = some held)
    (present : held.clients.get? key = some owner) (names : List String) :
    Reaches Faults.none (readRoles realm key names) store fun outcome later => later = store ∧
      match outcome with
      | .ok roles => roles = names.filterMap owner.roles.get? ∧
          ∀ name ∈ names, (owner.roles.get? name).isSome
      | .error _ => ∃ name ∈ names, owner.roles.get? name = none := by
  induction names with
  | nil => exact reaches_pure ⟨rfl, rfl, fun _ member => nomatch member⟩
  | cons name rest ih =>
      refine reaches_answered (Store.answer_getClientRole found present name) ?_
      cases there : owner.roles.get? name with
      | none => exact reaches_throw ⟨rfl, name, List.mem_cons_self, there⟩
      | some role =>
          show Reaches Faults.none (readRoles realm key rest >>= fun others =>
            pure (role :: others)) store _
          refine ih.bind ?_ ?_
          · rintro failure later ⟨rfl, other, listed, absent⟩
            exact ⟨rfl, other, List.mem_cons_of_mem _ listed, absent⟩
          · rintro others later ⟨rfl, rfl, owned⟩
            refine reaches_pure ⟨rfl, (List.filterMap_cons_some there).symm, ?_⟩
            exact List.forall_mem_cons.2 ⟨Option.isSome_of_eq_some there, owned⟩

/-- The roles that look after users can be granted when the client that owns them has them all. -/
theorem canGrant_iff : CanGrant (held.view lens) ↔ ∃ key owner,
    held.client? managementClientId = some (key, owner) ∧
      ∀ name ∈ serviceAccountRoles, (owner.roles.get? name).isSome := by
  constructor
  · intro can
    obtain ⟨client, seen, -⟩ := can "manage-users" (by decide)
    obtain ⟨⟨key, owner⟩, known, rfl⟩ := Option.map_eq_some_iff.1 seen
    refine ⟨key, owner, known, fun name listed => ?_⟩
    obtain ⟨other, otherSeen, there⟩ := can name listed
    cases seen.symm.trans otherSeen
    simpa only [StoredClient.view, Option.isSome_map] using there
  · rintro ⟨key, owner, known, there⟩ name listed
    refine ⟨_, StoredRealm.view_client_of_known known, ?_⟩
    simpa only [StoredClient.view, Option.isSome_map] using there name listed

/-- **A grant has its effect**: the user of the client is granted the roles if they are there, and
if they are not the grant fails and nothing happens. -/
theorem reaches_grantRoles_effect {clientId user : String} (readable : store.Readable lens)
    (found : store.realms.get? realm = some held)
    (known : held.client? clientId = some (key, stored)) (own : stored.serviceUser = some user) :
    Reaches Faults.none (grantRoles realm key) store fun outcome later =>
      (outcome.isOk = true ↔ CanGrant (held.view lens)) ∧
        later.view? lens realm = some (grantEffect true clientId (held.view lens)) := by
  obtain ⟨present, -⟩ := StoredRealm.get?_of_client? known
  have sound := readable.sound realm held found
  have stays {failure : GrantFailure} (cannot : ¬CanGrant (held.view lens)) :
      ((Except.error failure : Except GrantFailure Unit).isOk = true ↔ CanGrant (held.view lens)) ∧
        store.view? lens realm = some (grantEffect true clientId (held.view lens)) := by
    refine ⟨⟨(nomatch ·), fun can => absurd can cannot⟩, ?_⟩
    rw [grantEffect_of_not_canGrant cannot, Store.view?_eq found]
  obtain ⟨account, there⟩ := Option.isSome_iff_exists.1
    ((readable.linked realm held found).accounts key stored user present own)
  refine reaches_answered (Store.answer_getServiceAccountUser found present own there) ?_
  rw [(sound.users user account there).1]
  show Reaches Faults.none (explained _ _ >>= _) store _
  refine reaches_answered (Store.answer_findClient found managementClientId) ?_
  cases management : held.client? managementClientId with
  | none =>
      refine reaches_throw (stays fun can => ?_)
      obtain ⟨ownerKey, owner, managementKnown, -⟩ := canGrant_iff.1 can
      rw [management] at managementKnown
      cases managementKnown
  | some entry =>
      obtain ⟨ownerKey, owner⟩ := entry
      show Reaches Faults.none (expect _ owner.record.id >>= _) store _
      rw [sound.ownId_of_client? management]
      show Reaches Faults.none (readRoles realm ownerKey serviceAccountRoles >>= _) store _
      refine Reaches.bind
        (reaches_readRoles_owned found (StoredRealm.get?_of_client? management).1 _) ?_ ?_
      · rintro failure later ⟨rfl, name, listed, absent⟩
        refine stays fun can => ?_
        obtain ⟨otherKey, other, otherKnown, owned⟩ := canGrant_iff.1 can
        cases management.symm.trans otherKnown
        exact absurd absent (Option.isSome_iff_ne_none.1 (owned name listed))
      · rintro roles later ⟨rfl, rfl, owned⟩
        have can : CanGrant (held.view lens) := canGrant_iff.2 ⟨ownerKey, owner, management, owned⟩
        have ofAccount : held.account? clientId = some user := by
          rw [StoredRealm.account?, known, Option.bind_some, own]
        obtain ⟨last, answers, seen⟩ := Store.shows_assignClientRoles readable found ofAccount
          management serviceAccountRoles
        refine reaches_explained (fun _ faulty => absurd rfl (ne_none_of_faulty faulty)) fun _ => ?_
        rw [answers, grantEffect_of_canGrant can]
        exact ⟨⟨fun _ => can, fun _ => rfl⟩, seen⟩

/-- What follows the writing of a client has the effect of a grant, if that is needed. -/
theorem makes_grantIf {clientId : String} (readable : store.Readable lens)
    (found : store.realms.get? realm = some held)
    (known : held.client? clientId = some (key, stored)) {needed : Bool}
    (opened : needed = true → stored.serviceUser ≠ none) (findings : Findings) :
    Makes lens realm (if needed then do
        let granted ← tolerate (grantToServiceAccount realm key clientId)
        pure (findings ++ granted)
      else pure findings) store (grantEffect needed clientId (held.view lens)) := by
  cases needed with
  | false => exact makes_pure found findings grantEffect_of_needless.symm
  | true =>
      obtain ⟨user, own⟩ := Option.ne_none_iff_exists'.1 (opened rfl)
      have tolerated : Reaches Faults.none
          (tolerate (grantToServiceAccount realm key clientId)) store fun outcome later =>
            (∃ found, outcome = .ok found) ∧
              later.view? lens realm = some (grantEffect true clientId (held.view lens)) := by
        apply reaches_tolerate
        rw [grantToServiceAccount, Dialogue.run_andThen]
        exact ⟨⟨_, rfl⟩, (reaches_grantRoles_effect readable found known own).2⟩
      refine tolerated.bind ?_ ?_
      · rintro failure later ⟨⟨_, never⟩, -⟩
        cases never
      · rintro granted later ⟨-, seen⟩
        exact reaches_pure ⟨⟨_, rfl⟩, seen⟩

/-- A client that is seen with a service account has a user. -/
theorem serviceUser_ne_none_of_seen {clientId : String} {client : ClientView}
    (readable : store.Readable lens) (found : store.realms.get? realm = some held)
    (known : held.client? clientId = some (key, stored))
    (seen : (held.view lens).clients clientId = some client)
    (enabled : client.record.serviceAccountsEnabled = some true) : stored.serviceUser ≠ none := by
  cases (StoredRealm.view_client_of_known known).symm.trans seen
  exact (readable.linked realm held found).opened key stored (StoredRealm.get?_of_client? known).1
    enabled

/-- A client that has a user where it needs one gets no other. -/
theorem opened_view (readable : store.Readable lens) (found : store.realms.get? realm = some held)
    (present : held.clients.get? key = some stored) {record : ClientRecord}
    (same : record.serviceAccountsEnabled = stored.record.serviceAccountsEnabled) :
    ClientView.opened { stored.view lens held.users with record } =
      { stored.view lens held.users with record } := by
  unfold ClientView.opened
  refine if_neg fun ⟨enabled, nobody⟩ => ?_
  have linked := readable.linked realm held found
  obtain ⟨user, own⟩ :=
    Option.ne_none_iff_exists'.1 (linked.opened key stored present (same ▸ enabled))
  have there := linked.accounts key stored user present own
  simp only [StoredClient.view, own, Option.bind_some, Option.isNone_map] at nobody
  exact Option.isSome_iff_ne_none.1 there (Option.isNone_iff_eq_none.1 nobody)

section Clients

variable {desired : Blueprint.Client}

theorem clientEffect_of_seen {current : Option ClientView}
    (seen : view.clients desired.clientId = current) :
    clientEffect lens view desired = grantEffect (opensAccount desired current) desired.clientId
      (view.putClient desired.clientId (clientAfter lens desired current)) := by
  rw [clientEffect, seen]

/-- To a client that keeps its secret, the desired one brings nothing new. -/
theorem updatedClient_sentSecret {record : ClientRecord} {rotates : Bool}
    (kept : rotates = false → KeepsSecret record desired) (patch : ClientRecord) :
    updatedClient record { patch with secret := sentSecret desired rotates } =
      updatedClient record { patch with secret := desired.secret } := by
  cases rotates with
  | true => rfl
  | false =>
      cases given : desired.secret with
      | none => rfl
      | some secret =>
          simp only [updatedClient, sentSecret, Bool.false_eq_true, if_false, Option.none_or,
            Option.some_or, kept rfl secret given]

/-- A client that is there is seen as its patch makes it, with the secret that is sent along. -/
theorem clientAfter_of_known {rotates : Bool}
    (kept : rotates = false → KeepsSecret stored.record desired) :
    clientAfter lens desired (some (stored.view lens held.users)) =
      ClientView.opened { stored.view lens held.users with
        record := lens.client (updatedClient stored.record
          { clientPatch stored.record desired with secret := sentSecret desired rotates }) } := by
  rw [updatedClient_sentSecret kept, ← Lens.client_updatedClient]
  rfl

/-- Creating an absent client has its effect. -/
theorem makes_createClient (readable : store.Readable lens)
    (found : store.realms.get? realm = some held) (unknown : held.client? desired.clientId = none)
    (told : lens.hidden desired.clientId = false →
      desired.isPublic = true ∨ desired.secret.isSome = true) :
    Makes lens realm (createClient realm desired) store
      (clientEffect lens (held.view lens) desired) := by
  obtain ⟨key, later, after, stored, answers, foundLater, known, seen⟩ :=
    @Store.shows_createClient lens store realm desired.clientId held readable found
      (newClient desired) rfl unknown told
  have readableLater := readable.answer (.createClient realm (newClient desired))
  rw [answers] at readableLater
  rw [clientEffect_of_seen (StoredRealm.view_client_of_unknown unknown), clientAfter, ← seen]
  refine makes_answered answers (makes_grantIf readableLater foundLater known (fun needed => ?_) _)
  have after : (StoredRealm.view lens after).clients desired.clientId =
      some (ClientView.opened { record := lens.newClient (newClient desired) }) := by
    rw [seen]
    exact RealmView.putClient_clients_self _
  refine serviceUser_ne_none_of_seen readableLater foundLater known after ?_
  rw [ClientView.opened_record]
  exact congrArg some needed

/-- Changing a client that differs has its effect. -/
theorem makes_updateClient {rotates : Bool} (readable : store.Readable lens)
    (found : store.realms.get? realm = some held)
    (known : held.client? desired.clientId = some (key, stored))
    (kept : rotates = false → KeepsSecret stored.record desired) :
    Makes lens realm (updateClient realm key desired (clientPatch stored.record desired) rotates)
      store (clientEffect lens (held.view lens) desired) := by
  obtain ⟨later, after, changed, answers, foundLater, knownLater, seen⟩ :=
    Store.shows_updateClient readable found known
      { clientPatch stored.record desired with secret := sentSecret desired rotates }
  have readableLater := readable.answer (.updateClient realm key
    { clientPatch stored.record desired with secret := sentSecret desired rotates })
  rw [answers] at readableLater
  rw [Lens.client_updatedClient, ← clientAfter_of_known kept] at seen
  have present : (held.view lens).clients desired.clientId = some (stored.view lens held.users) :=
    StoredRealm.view_client_of_known known
  have after : (StoredRealm.view lens after).clients desired.clientId =
      some (clientAfter lens desired (some (stored.view lens held.users))) := by
    rw [seen]
    exact RealmView.putClient_clients_self _
  unfold updateClient
  rw [clientEffect_of_seen present, patch_eq_withSentSecret, ← seen]
  refine makes_answered answers (makes_grantIf readableLater foundLater knownLater ?_ _)
  intro needed
  refine serviceUser_ne_none_of_seen readableLater foundLater knownLater after ?_
  rw [clientAfter_of_known kept, ClientView.opened_record]
  have enables := eq_of_beq needed
  simp only [Lens.client, updatedClient, enables, Option.some_or]

/-- Giving a client that fits its new secret has the effect of the client. -/
theorem makes_rotateSecret {rotates : Bool} (readable : store.Readable lens)
    (found : store.realms.get? realm = some held)
    (known : held.client? desired.clientId = some (key, stored))
    (fits : Fits stored.record desired)
    (kept : rotates = false → KeepsSecret stored.record desired) :
    Makes lens realm (rotateSecret realm key desired rotates) store
      (clientEffect lens (held.view lens) desired) := by
  obtain ⟨isThere, -⟩ := StoredRealm.get?_of_client? known
  have present : (held.view lens).clients desired.clientId = some (stored.view lens held.users) :=
    StoredRealm.view_client_of_known known
  have patchSeen : clientPatch (stored.view lens held.users).record desired = {} :=
    show clientPatch stored.record desired = {} from clientPatch_of_fits fits
  have needless : opensAccount desired (some (stored.view lens held.users)) = false := by
    rw [opensAccount, patchSeen]
    rfl
  rw [clientEffect_of_seen present, needless, grantEffect_of_needless, clientAfter_of_known kept,
    clientPatch_of_fits fits]
  have leaves (findings : Findings) (unsent : sentSecret desired rotates = none) :
      Makes lens realm (pure findings) store ((held.view lens).putClient desired.clientId
        (ClientView.opened { stored.view lens held.users with
          record := lens.client (updatedClient stored.record
            { secret := sentSecret desired rotates }) })) := by
    rw [unsent]
    refine makes_pure found findings (RealmView.putClient_self ?_).symm
    refine present.trans (congrArg some ?_)
    exact (opened_view readable found isThere (by rfl)).symm
  unfold rotateSecret
  cases rotates with
  | false => exact leaves _ rfl
  | true =>
      cases given : desired.secret with
      | none => exact leaves _ given
      | some secret =>
          have sent : sentSecret desired true = some secret := given
          rw [opened_view readable found isThere (by rfl), sent]
          have shown := Store.shows_updateClientSecret readable found known secret
          rw [Lens.client_withSecret] at shown
          exact makes_shows shown

/-- **Bringing a client to its desired state has its effect**, if its secret is hidden where the
service makes it up. -/
theorem makes_convergeClient (desired : Blueprint.Client) (readable : store.Readable lens)
    (found : store.realms.get? realm = some held)
    (told : held.client? desired.clientId = none → lens.hidden desired.clientId = false →
      desired.isPublic = true ∨ desired.secret.isSome = true) :
    Makes lens realm (convergeClient realm desired) store
      (clientEffect lens (held.view lens) desired) := by
  refine makes_answered (Store.answer_findClient found desired.clientId) ?_
  cases known : held.client? desired.clientId with
  | none => exact makes_createClient readable found known (told known)
  | some entry =>
      obtain ⟨key, stored⟩ := entry
      obtain ⟨present, -⟩ := StoredRealm.get?_of_client? known
      dsimp only [Option.map_some]
      rw [(readable.sound realm held found).ownId_of_client? known]
      refine (reaches_secretDiffers found present).bind ?_ ?_
      · rintro failure later ⟨rfl, faulty⟩
        exact absurd rfl faulty
      · rintro rotates later ⟨rfl, kept⟩
        show Makes lens realm (if (changedFields (clientPatch stored.record desired)).isEmpty then
          rotateSecret realm key desired rotates
          else updateClient realm key desired (clientPatch stored.record desired) rotates) _ _
        split
        · next nothing =>
          have fits := changedFields_clientPatch_eq_nil_iff.1 (List.isEmpty_iff.1 nothing)
          exact makes_rotateSecret readable found known fits kept
        · exact makes_updateClient readable found known kept

end Clients

/-! ## Fifth and sixth pass -/

section Composite

variable {mapping : Blueprint.Composite}

theorem attached_view_iff {realmRole clientId name : String} {role : RoleRecord}
    (known : held.client? clientId = some (key, owner))
    (there : owner.roles.get? name = some role) :
    (held.view lens).attached realmRole clientId name ↔ Attached held realmRole role := by
  show held.Lists (held.compositesOf realmRole) clientId name ↔ _
  simp only [StoredRealm.Lists, StoredRealm.roleId?, known, there, Option.bind_some, Attached]

/-- Something is missing from a mapping exactly when it is not settled. -/
theorem missing_iff : Missing (held.view lens) mapping ↔ ¬Settled (.composite mapping) held := by
  constructor
  · rintro ⟨roleThere, name, listed, ⟨client, seen, owned⟩, lacks⟩ settled
    obtain ⟨⟨key, owner⟩, known, rfl⟩ := Option.map_eq_some_iff.1 seen
    obtain ⟨role, there⟩ := Option.isSome_iff_exists.1 (Option.isSome_map.symm.trans owned)
    refine lacks ((attached_view_iff known there).2 ?_)
    exact settled key owner (Option.isSome_map.symm.trans roleThere) known name role
      (NameSet.mem_toList_iff.1 listed) there
  · intro unsettled
    obtain ⟨key, owner, name, role, roleThere, known, wanted, there, lacks⟩ :=
      exists_of_not_settled unsettled
    refine ⟨Option.isSome_map.trans roleThere, name, NameSet.mem_toList_iff.2 wanted,
      ⟨_, StoredRealm.view_client_of_known known, ?_⟩, fun attached => ?_⟩
    · simp only [StoredClient.view, there, Option.map_some, Option.isSome_some]
    · exact lacks ((attached_view_iff known there).1 attached)

theorem compositeEffect_of_settled (settled : Settled (.composite mapping) held) :
    compositeEffect (held.view lens) mapping = held.view lens :=
  if_neg fun missing => missing_iff.1 missing settled

/-- What is attached already may be listed or left out. -/
theorem attach_congr {role clientId : String} {names others : List String}
    (same : ∀ name, view.Owns clientId name → ¬view.attached role clientId name →
      (name ∈ names ↔ name ∈ others)) :
    view.attach role clientId names = view.attach role clientId others := by
  refine RealmView.ext rfl rfl rfl rfl ?_ rfl
  funext other otherId name
  simp only [RealmView.attach]
  refine propext (or_congr_right' fun lacks => ?_)
  constructor
  · rintro ⟨rfl, rfl, listed, owned⟩
    exact ⟨rfl, rfl, (same name owned lacks).1 listed, owned⟩
  · rintro ⟨rfl, rfl, listed, owned⟩
    exact ⟨rfl, rfl, (same name owned lacks).2 listed, owned⟩

/-- Attaching the roles that are missing from a mapping has the effect of the mapping. -/
theorem makes_attachRoles {stored : RoleRecord} (readable : store.Readable lens)
    (found : store.realms.get? realm = some held)
    (roleThere : held.roles.get? mapping.realmRole = some stored)
    (known : held.client? mapping.clientId = some (key, owner)) :
    Makes lens realm (attachRoles realm key mapping
        (mapping.clientRoles.missingFrom (presentNames held key mapping.realmRole)))
      store (compositeEffect (held.view lens) mapping) := by
  obtain ⟨present, -⟩ := StoredRealm.get?_of_client? known
  have sound := readable.sound realm held found
  refine (reaches_resolveRoles found present _).bind ?_ ?_
  · rintro failure later ⟨rfl, faulty⟩
    exact absurd rfl faulty
  rintro ⟨resolved, findings⟩ later ⟨rfl, rfl, -⟩
  dsimp only
  have settles := settled_composite_iff sound roleThere known
  split
  · next nothing =>
    refine makes_pure found _ (compositeEffect_of_settled (settles.2 ?_)).symm
    exact List.filterMap_eq_nil_iff.1 (List.isEmpty_iff.1 nothing)
  · next something =>
    have missing : Missing (held.view lens) mapping := by
      refine missing_iff.2 fun settled => something (List.isEmpty_iff.2 ?_)
      exact List.filterMap_eq_nil_iff.2 (settles.1 settled)
    rw [compositeEffect, if_pos missing]
    have shown := Store.shows_addRealmRoleComposites readable found known roleThere
      (mapping.clientRoles.missingFrom (presentNames held key mapping.realmRole))
    rw [attach_congr] at shown
    exact makes_shows shown
    rintro name ⟨client, seen, owned⟩ lacks
    cases (StoredRealm.view_client_of_known known).symm.trans seen
    obtain ⟨role, there⟩ := Option.isSome_iff_exists.1 (Option.isSome_map.symm.trans owned)
    rw [attached_view_iff known there, ← presentNames_contains_iff sound present there,
      Bool.not_eq_true] at lacks
    simp only [NameSet.mem_missingFrom_iff, NameSet.mem_toList_iff, lacks, and_true]

/-- **Bringing a composite mapping to its desired state has its effect.** -/
theorem makes_convergeComposite (mapping : Blueprint.Composite) (readable : store.Readable lens)
    (found : store.realms.get? realm = some held) :
    Makes lens realm (convergeComposite realm mapping) store
      (compositeEffect (held.view lens) mapping) := by
  have leaves (settled : Settled (.composite mapping) held) (findings : Findings) :
      Makes lens realm (pure findings) store (compositeEffect (held.view lens) mapping) :=
    makes_pure found findings (compositeEffect_of_settled settled).symm
  refine makes_answered (Store.answer_getRealmRole found mapping.realmRole) ?_
  cases roleThere : held.roles.get? mapping.realmRole with
  | none =>
      refine leaves (fun key owner isThere => ?_) _
      rw [roleThere] at isThere
      cases isThere
  | some stored =>
      show Makes lens realm (explained _ _ >>= _) store _
      refine makes_answered (Store.answer_findClient found mapping.clientId) ?_
      cases known : held.client? mapping.clientId with
      | none =>
          refine leaves (fun key owner _ there => ?_) _
          rw [known] at there
          cases there
      | some entry =>
          obtain ⟨key, owner⟩ := entry
          have sound := readable.sound realm held found
          dsimp only [Option.map_some, Option.bind_some]
          rw [sound.ownId_of_client? known]
          refine makes_answered (Store.answer_getRealmRoleComposites found roleThere key) ?_
          show Makes lens realm (if (mapping.clientRoles.missingFrom
              (presentNames held key mapping.realmRole)).isEmpty then _ else _) store _
          split
          · next nothing =>
            refine leaves ((settled_composite_iff sound roleThere known).2 ?_) _
            rw [List.isEmpty_iff.1 nothing]
            exact fun name member => nomatch member
          · exact makes_attachRoles readable found roleThere known

end Composite

/-- **Marking a realm has its effect.** -/
theorem makes_markerPass (found : store.realms.get? realm = some held) :
    Makes lens realm (markerPass realm) store (markerEffect (held.view lens)) := by
  refine makes_answered (Store.answer_getRealm found) ?_
  unfold markerEffect
  show Makes lens realm (if markerIsSet (held.attributes.get? initializedMarker) then _ else _)
    store (if markerIsSet (held.attributes.get? initializedMarker) then _ else _)
  split
  · exact makes_pure found _ rfl
  · exact makes_shows (Store.shows_updateRealm found _)

end RealmConvergence.Convergence
