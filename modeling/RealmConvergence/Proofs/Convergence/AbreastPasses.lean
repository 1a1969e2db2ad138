import RealmConvergence.Proofs.Convergence.Abreast
import RealmConvergence.Proofs.Service.SeenSame

/-!
# Passes abreast of themselves

Every part of a run, made alone and made amid calls about other realms, is abreast of itself: the
calls are of the same operations, the outcomes agree, and the realm is viewed alike
(`abreast_realmPass`, `abreast_convergeClient`, `abreast_convergeRealmRole`,
`abreast_convergeClientRoles`, `abreast_convergeComposite`, `abreast_markerPass`). The two sides
carry different internal identifiers as soon as something was drawn in between. So each lemma is
about two of them, under which both sides have what has the same name.

What a part decides, it decides by what is seen: whether a role is there, what a client is missing,
which roles are attached. Secrets are compared with the desired ones, so they have to be told by
then, and the ones that the service makes up have to be hidden (`abreast_convergeClient`).
-/

set_option autoImplicit false

namespace RealmConvergence.Convergence

open Service

variable {lens : Lens} {faults : Faults} {realm key twinKey : String} {store twin : Store}
  {held twinHeld : StoredRealm} {stored twinStored owner twinOwner : StoredClient}

/-! ## The same thing on both sides -/

/-- A client of one realm is there in its twin, and seen alike. -/
theorem exists_twinClient {clientId : String} (same : held.view lens = twinHeld.view lens)
    (known : held.client? clientId = some (key, stored)) :
    ∃ twinKey twinStored, twinHeld.client? clientId = some (twinKey, twinStored) ∧
      stored.view lens held.users = twinStored.view lens twinHeld.users := by
  have seen : (held.view lens).clients clientId = some (stored.view lens held.users) :=
    StoredRealm.view_client_of_known known
  rw [same] at seen
  obtain ⟨⟨twinKey, twinStored⟩, twinKnown, twinSeen⟩ := Option.map_eq_some_iff.1 seen
  exact ⟨twinKey, twinStored, twinKnown, twinSeen.symm⟩

theorem twinClient_of_unknown {clientId : String} (same : held.view lens = twinHeld.view lens)
    (unknown : held.client? clientId = none) : twinHeld.client? clientId = none := by
  have seen : (held.view lens).clients clientId = none :=
    StoredRealm.view_client_of_unknown unknown
  rw [same] at seen
  exact Option.map_eq_none_iff.1 seen

theorem view_eq_of_twinClient {clientId : String} (same : held.view lens = twinHeld.view lens)
    (known : held.client? clientId = some (key, stored))
    (twinKnown : twinHeld.client? clientId = some (twinKey, twinStored)) :
    stored.view lens held.users = twinStored.view lens twinHeld.users := by
  obtain ⟨otherKey, other, otherKnown, alike⟩ := exists_twinClient same known
  cases twinKnown.symm.trans otherKnown
  exact alike

theorem exists_twinRole {name : String} {role : RoleRecord}
    (same : held.view lens = twinHeld.view lens) (there : held.roles.get? name = some role) :
    ∃ twinRole, twinHeld.roles.get? name = some twinRole ∧
      lens.realmRole role = lens.realmRole twinRole := by
  have seen : (held.view lens).roles name = some (lens.realmRole role) :=
    congrArg (Option.map lens.realmRole) there
  rw [same] at seen
  obtain ⟨twinRole, twinThere, twinSeen⟩ := Option.map_eq_some_iff.1 seen
  exact ⟨twinRole, twinThere, twinSeen.symm⟩

theorem twinRole_of_absent {name : String} (same : held.view lens = twinHeld.view lens)
    (absent : held.roles.get? name = none) : twinHeld.roles.get? name = none := by
  have seen : (held.view lens).roles name = none :=
    congrArg (Option.map lens.realmRole) absent
  rw [same] at seen
  exact Option.map_eq_none_iff.1 seen

section Owner

variable (same : owner.view lens held.users = twinOwner.view lens twinHeld.users)
include same

theorem record_eq_of_client_eq : lens.client owner.record = lens.client twinOwner.record :=
  congrArg ClientView.record same

theorem exists_twinClientRole {name : String} {role : RoleRecord}
    (there : owner.roles.get? name = some role) :
    ∃ twinRole, twinOwner.roles.get? name = some twinRole ∧
      lens.clientRole role = lens.clientRole twinRole := by
  have seen : (owner.view lens held.users).roles name = some (lens.clientRole role) :=
    congrArg (Option.map lens.clientRole) there
  rw [same] at seen
  obtain ⟨twinRole, twinThere, twinSeen⟩ := Option.map_eq_some_iff.1 seen
  exact ⟨twinRole, twinThere, twinSeen.symm⟩

theorem twinClientRole_of_absent {name : String} (absent : owner.roles.get? name = none) :
    twinOwner.roles.get? name = none := by
  have seen : (owner.view lens held.users).roles name = none :=
    congrArg (Option.map lens.clientRole) absent
  rw [same] at seen
  exact Option.map_eq_none_iff.1 seen

/-- Roles that are resolved by the same names are the same but for their identifiers. -/
theorem map_filterMap_roles (names : List String) :
    (names.filterMap owner.roles.get?).map lens.clientRole =
      (names.filterMap twinOwner.roles.get?).map lens.clientRole := by
  have alike (name : String) : (owner.roles.get? name).map lens.clientRole =
      (twinOwner.roles.get? name).map lens.clientRole :=
    congrFun (congrArg ClientView.roles same) name
  rw [List.map_filterMap, List.map_filterMap]
  exact congrArg (fun look => names.filterMap look) (funext alike)

/-- What a client is missing is seen. -/
theorem clientPatch_eq_of_client_eq (desired : Blueprint.Client) :
    clientPatch owner.record desired = clientPatch twinOwner.record desired := by
  show clientPatch (lens.client owner.record) desired =
    clientPatch (lens.client twinOwner.record) desired
  rw [record_eq_of_client_eq same]

/-- A secret that is told is the same on both sides. -/
theorem secret_eq_of_client_eq {clientId : String} (named : owner.record.clientId = some clientId)
    (twinNamed : twinOwner.record.clientId = some clientId)
    (told : lens.hidden clientId = false) : owner.record.secret = twinOwner.record.secret := by
  have seen (record : ClientRecord) (named : record.clientId = some clientId) :
      (lens.client record).secret = record.secret := by
    simp only [Lens.client, named, Option.any_some, told, Bool.false_eq_true, if_false]
  rw [← seen _ named, ← seen _ twinNamed, record_eq_of_client_eq same]

end Owner

/-- A client is stored under its own identifier. -/
theorem Twins.ownId {place : Option StoredRealm} {clientId : String}
    (twins : Twins lens realm store twin (some held) place)
    (known : held.client? clientId = some (key, stored)) : stored.record.id = some key :=
  (twins.readable.sound realm held twins.there).ownId_of_client? known

theorem Twins.twinOwnId {place : Option StoredRealm} {clientId : String}
    (twins : Twins lens realm store twin place (some twinHeld))
    (twinKnown : twinHeld.client? clientId = some (twinKey, twinStored)) :
    twinStored.record.id = some twinKey :=
  (twins.twinReadable.sound realm twinHeld twins.twinThere).ownId_of_client? twinKnown

/-! ## First and sixth pass -/

theorem record_eq_of_view_eq (same : held.view lens = twinHeld.view lens) (name : String) :
    held.record name = twinHeld.record name := by
  have enabled : held.enabled = twinHeld.enabled := congrArg RealmView.enabled same
  have attributes : held.attributes = twinHeld.attributes := congrArg RealmView.attributes same
  rw [StoredRealm.record, StoredRealm.record, enabled, attributes]

theorem abreast_markerPass (twins : Twins lens realm store twin (some held) (some twinHeld)) :
    Abreast lens faults realm (markerPass realm) (markerPass realm) store twin Same := by
  refine abreast_reads twins rfl (fun _ found => Store.answer_getRealm found)
    (fun _ found => Store.answer_getRealm found) fun between twins => ?_
  rw [record_eq_of_view_eq twins.view_eq]
  dsimp only
  split
  · exact abreast_pure_same twins trivial
  · refine abreast_writes twins rfl (Store.shows_updateRealm twins.there _)
      (fun _ twins => Store.shows_updateRealm twins.twinThere _) ?_
    rw [twins.view_eq]

theorem abreast_realmPass {desired : Blueprint.Realm} (nonempty : desired.name ≠ "")
    {place twinPlace : Option StoredRealm}
    (twins : Twins lens desired.name store twin place twinPlace) :
    Abreast lens faults desired.name (realmPass desired) (realmPass desired) store twin Same := by
  cases place with
  | none =>
      have absent : twinPlace = none := Option.map_eq_none_iff.1 twins.alike.symm
      subst absent
      refine abreast_reads twins rfl (fun _ absent => Store.answer_getRealm_of_absent absent)
        (fun _ absent => Store.answer_getRealm_of_absent absent) fun between twins => ?_
      refine abreast_writes twins rfl
        ⟨_, Store.answer_createRealm rfl nonempty twins.there,
          Store.view?_startRealm twins.readable.fewer _ _ _⟩
        (fun between twins => ⟨_, Store.answer_createRealm rfl nonempty twins.twinThere, ?_⟩) rfl
      rw [Store.view?_startRealm twins.twinReadable.fewer, twins.provides]
  | some held =>
      obtain ⟨twinHeld, rfl, -⟩ := twins.exists_held
      refine abreast_reads twins rfl (fun _ found => Store.answer_getRealm found)
        (fun _ found => Store.answer_getRealm found) fun between twins => ?_
      rw [record_eq_of_view_eq twins.view_eq]
      dsimp only
      split
      · exact abreast_pure_same twins trivial
      · refine abreast_writes twins rfl (Store.shows_updateRealm twins.there _)
          (fun _ twins => Store.shows_updateRealm twins.twinThere _) ?_
        rw [twins.view_eq]

/-! ## Grants -/

section Grants

variable {clientId : String}

theorem abreast_readRoles (known : held.client? clientId = some (key, owner))
    (twinKnown : twinHeld.client? clientId = some (twinKey, twinOwner)) (names : List String)
    (twins : Twins lens realm store twin (some held) (some twinHeld)) :
    Abreast lens faults realm (readRoles realm key names) (readRoles realm twinKey names) store twin
      fun roles twinRoles place twinPlace => roles = names.filterMap owner.roles.get? ∧
        twinRoles = names.filterMap twinOwner.roles.get? ∧ place = some held ∧
          twinPlace = some twinHeld := by
  obtain ⟨present, -⟩ := StoredRealm.get?_of_client? known
  obtain ⟨twinPresent, -⟩ := StoredRealm.get?_of_client? twinKnown
  induction names generalizing twin with
  | nil => exact abreast_pure twins ⟨rfl, rfl, rfl, rfl⟩
  | cons name rest ih =>
      refine abreast_reads twins rfl
        (fun _ found => Store.answer_getClientRole found present name)
        (fun _ found => Store.answer_getClientRole found twinPresent name)
        fun between twins => ?_
      have sameClient := view_eq_of_twinClient twins.view_eq known twinKnown
      cases there : owner.roles.get? name with
      | none =>
          rw [twinClientRole_of_absent sameClient there]
          exact abreast_throw twins
      | some role =>
          obtain ⟨twinRole, twinThere, -⟩ := exists_twinClientRole sameClient there
          rw [twinThere]
          show Abreast lens faults realm
            (readRoles realm key rest >>= fun others => pure (role :: others))
            (readRoles realm twinKey rest >>= fun others => pure (twinRole :: others)) store between
            _
          refine (ih twins).bind ?_
          rintro others twinOthers later twinLater place twinPlace twins ⟨rfl, rfl, rfl, rfl⟩
          exact abreast_pure twins ⟨(List.filterMap_cons_some there).symm,
            (List.filterMap_cons_some twinThere).symm, rfl, rfl⟩

/-- Granting the roles that were read to the user of a client is the last step of a grant. -/
theorem abreast_assignRoles {user twinUser ownerKey twinOwnerKey : String}
    (twins : Twins lens realm store twin (some held) (some twinHeld))
    (known : held.client? clientId = some (key, stored))
    (twinKnown : twinHeld.client? clientId = some (twinKey, twinStored))
    (own : stored.serviceUser = some user) (twinOwn : twinStored.serviceUser = some twinUser)
    (management : held.client? managementClientId = some (ownerKey, owner))
    (twinManagement : twinHeld.client? managementClientId = some (twinOwnerKey, twinOwner)) :
    Abreast lens faults realm
      (attemptGrant .assign (.assignClientRoles realm user ownerKey
        (serviceAccountRoles.filterMap owner.roles.get?)))
      (attemptGrant .assign (.assignClientRoles realm twinUser twinOwnerKey
        (serviceAccountRoles.filterMap twinOwner.roles.get?))) store twin Same := by
  have ofAccount : held.account? clientId = some user := by
    rw [StoredRealm.account?, known, Option.bind_some, own]
  have twinOfAccount : twinHeld.account? clientId = some twinUser := by
    rw [StoredRealm.account?, twinKnown, Option.bind_some, twinOwn]
  let assign := AdminCall.assignClientRoles realm user ownerKey
    (serviceAccountRoles.filterMap owner.roles.get?)
  let twinAssign := AdminCall.assignClientRoles realm twinUser twinOwnerKey
    (serviceAccountRoles.filterMap twinOwner.roles.get?)
  have assigned : Abreast lens faults realm
      (explained GrantFailure.assign assign >>= fun _ => pure ())
      (explained GrantFailure.assign twinAssign >>= fun _ => pure ()) store twin Same := by
    refine abreast_writes twins rfl
      (Store.shows_assignClientRoles twins.readable twins.there ofAccount management
        serviceAccountRoles)
      (fun _ twins => Store.shows_assignClientRoles twins.twinReadable twins.twinThere
        twinOfAccount twinManagement serviceAccountRoles) ?_
    rw [twins.view_eq]
  have last : (explained GrantFailure.assign assign >>= fun _ => pure ()) =
      explained GrantFailure.assign assign := bind_pure _
  have twinLast : (explained GrantFailure.assign twinAssign >>= fun _ => pure ()) =
      explained GrantFailure.assign twinAssign := bind_pure _
  rw [last, twinLast] at assigned
  exact assigned

theorem abreast_grantRoles {user twinUser : String}
    (twins : Twins lens realm store twin (some held) (some twinHeld))
    (known : held.client? clientId = some (key, stored))
    (twinKnown : twinHeld.client? clientId = some (twinKey, twinStored))
    (own : stored.serviceUser = some user) (twinOwn : twinStored.serviceUser = some twinUser) :
    Abreast lens faults realm (grantRoles realm key) (grantRoles realm twinKey) store twin
      Same := by
  obtain ⟨present, -⟩ := StoredRealm.get?_of_client? known
  obtain ⟨twinPresent, -⟩ := StoredRealm.get?_of_client? twinKnown
  have sound := twins.readable.sound realm held twins.there
  have twinSound := twins.twinReadable.sound realm twinHeld twins.twinThere
  obtain ⟨account, there⟩ := Option.isSome_iff_exists.1
    ((twins.readable.linked realm held twins.there).accounts key stored user present own)
  obtain ⟨twinAccount, twinThere⟩ := Option.isSome_iff_exists.1
    ((twins.twinReadable.linked realm twinHeld twins.twinThere).accounts twinKey twinStored twinUser
      twinPresent twinOwn)
  refine abreast_reads twins rfl
    (fun _ found => Store.answer_getServiceAccountUser found present own there)
    (fun _ found => Store.answer_getServiceAccountUser found twinPresent twinOwn twinThere)
    fun between twins => ?_
  rw [(sound.users user account there).1, (twinSound.users twinUser twinAccount twinThere).1]
  show Abreast lens faults realm (explained _ _ >>= _) (explained _ _ >>= _) store between Same
  refine abreast_reads twins rfl (fun _ found => Store.answer_findClient found managementClientId)
    (fun _ found => Store.answer_findClient found managementClientId) fun between twins => ?_
  cases management : held.client? managementClientId with
  | none =>
      rw [twinClient_of_unknown twins.view_eq management]
      exact abreast_throw twins
  | some entry =>
      obtain ⟨ownerKey, owner⟩ := entry
      obtain ⟨twinOwnerKey, twinOwner, twinManagement, -⟩ :=
        exists_twinClient twins.view_eq management
      rw [twinManagement]
      show Abreast lens faults realm (expect _ owner.record.id >>= _)
        (expect _ twinOwner.record.id >>= _) store between Same
      rw [sound.ownId_of_client? management, twinSound.ownId_of_client? twinManagement]
      show Abreast lens faults realm (readRoles realm ownerKey serviceAccountRoles >>= _)
        (readRoles realm twinOwnerKey serviceAccountRoles >>= _) store between Same
      refine (abreast_readRoles management twinManagement serviceAccountRoles twins).bind ?_
      rintro roles twinRoles later twinLater place twinPlace twins ⟨rfl, rfl, rfl, rfl⟩
      exact abreast_assignRoles twins known twinKnown own twinOwn management twinManagement

/-- What follows the writing of a client is abreast, if the client is seen with a service account
where it needs one. -/
theorem abreast_grantIf {needed : Bool}
    (twins : Twins lens realm store twin (some held) (some twinHeld))
    (known : held.client? clientId = some (key, stored))
    (twinKnown : twinHeld.client? clientId = some (twinKey, twinStored))
    (opened : needed = true →
      (stored.view lens held.users).record.serviceAccountsEnabled = some true)
    (findings : Findings) :
    Abreast lens faults realm (if needed then do
        let granted ← tolerate (grantToServiceAccount realm key clientId)
        pure (findings ++ granted)
      else pure findings) (if needed then do
        let granted ← tolerate (grantToServiceAccount realm twinKey clientId)
        pure (findings ++ granted)
      else pure findings) store twin Same := by
  cases needed with
  | false => exact abreast_pure_same twins trivial
  | true =>
      have enabled := opened rfl
      have twinEnabled := opened rfl
      rw [view_eq_of_twinClient twins.view_eq known twinKnown] at twinEnabled
      obtain ⟨present, -⟩ := StoredRealm.get?_of_client? known
      obtain ⟨twinPresent, -⟩ := StoredRealm.get?_of_client? twinKnown
      obtain ⟨user, own⟩ := Option.ne_none_iff_exists'.1
        ((twins.readable.linked realm held twins.there).opened key stored present enabled)
      obtain ⟨twinUser, twinOwn⟩ := Option.ne_none_iff_exists'.1
        ((twins.twinReadable.linked realm twinHeld twins.twinThere).opened twinKey twinStored
          twinPresent twinEnabled)
      refine abreast_tolerate findings (abreast_grantRoles twins known twinKnown own twinOwn) ?_
      refine (reaches_grantRoles twins.readable.sound twins.there present).mono ?_
      rintro outcome later (rfl | ⟨-, after, rfl, -⟩)
      · exact ⟨held, twins.there⟩
      · exact ⟨after, Store.putRealm_realms_get?_self store realm after⟩

end Grants

/-! ## Second pass -/

section Clients

variable {desired : Blueprint.Client}

theorem abreast_secretDiffers (twins : Twins lens realm store twin (some held) (some twinHeld))
    (known : held.client? desired.clientId = some (key, stored))
    (twinKnown : twinHeld.client? desired.clientId = some (twinKey, twinStored))
    (told : desired.secret.isSome = true → lens.hidden desired.clientId = false) :
    Abreast lens faults realm (secretDiffers realm key desired)
      (secretDiffers realm twinKey desired) store twin fun rotates twinRotates place twinPlace =>
        rotates = twinRotates ∧ place = some held ∧ twinPlace = some twinHeld := by
  obtain ⟨present, named⟩ := StoredRealm.get?_of_client? known
  obtain ⟨twinPresent, twinNamed⟩ := StoredRealm.get?_of_client? twinKnown
  unfold secretDiffers
  cases given : desired.secret with
  | none => exact abreast_pure twins ⟨rfl, rfl, rfl⟩
  | some secret =>
      refine abreast_reads twins rfl (fun _ found => Store.answer_getClientSecret found present)
        (fun _ found => Store.answer_getClientSecret found twinPresent) fun between twins => ?_
      have sameClient := view_eq_of_twinClient twins.view_eq known twinKnown
      rw [secret_eq_of_client_eq sameClient named twinNamed (told (by rw [given]; rfl))]
      exact abreast_pure twins ⟨rfl, rfl, rfl⟩

/-- A client that is absent on both sides is created on both. -/
theorem abreast_createClient (twins : Twins lens realm store twin (some held) (some twinHeld))
    (unknown : held.client? desired.clientId = none)
    (twinUnknown : twinHeld.client? desired.clientId = none)
    (told : lens.hidden desired.clientId = false →
      desired.isPublic = true ∨ desired.secret.isSome = true) :
    Abreast lens faults realm (createClient realm desired) (createClient realm desired) store twin
      Same := by
  refine abreast_call twins rfl fun between twins => ?_
  obtain ⟨key, later, after, stored, answers, found, known, seen⟩ :=
    @Store.shows_createClient lens store realm desired.clientId held twins.readable twins.there
      (newClient desired) rfl unknown told
  obtain ⟨twinKey, twinLater, twinAfter, twinStored, twinAnswers, twinFound, twinKnown, twinSeen⟩ :=
    @Store.shows_createClient lens between realm desired.clientId twinHeld twins.twinReadable
      twins.twinThere (newClient desired) rfl twinUnknown told
  have sameView : after.view lens = twinAfter.view lens := by
    rw [seen, twinSeen, twins.view_eq]
  refine ⟨key, twinKey, later, twinLater, answers, twinAnswers,
    abreast_grantIf (twins.answer answers twinAnswers found twinFound sameView) known twinKnown
      (fun needed => ?_) _⟩
  have created : (after.view lens).clients desired.clientId = some (stored.view lens after.users) :=
    StoredRealm.view_client_of_known known
  rw [seen, RealmView.putClient_clients_self, Option.some_inj] at created
  rw [← created, ClientView.opened_record]
  exact congrArg some needed

/-- A client that differs is changed on both sides. -/
theorem abreast_updateClient {rotates : Bool}
    (twins : Twins lens realm store twin (some held) (some twinHeld))
    (known : held.client? desired.clientId = some (key, stored))
    (twinKnown : twinHeld.client? desired.clientId = some (twinKey, twinStored)) :
    Abreast lens faults realm
      (updateClient realm key desired (clientPatch stored.record desired) rotates)
      (updateClient realm twinKey desired (clientPatch stored.record desired) rotates) store twin
      Same := by
  have sameClient := view_eq_of_twinClient twins.view_eq known twinKnown
  unfold updateClient
  rw [patch_eq_withSentSecret]
  refine abreast_showsClient twins rfl
    (Store.shows_updateClient twins.readable twins.there known _)
    (fun _ twins => Store.shows_updateClient twins.twinReadable twins.twinThere twinKnown _) ?_ ?_
  · rw [twins.view_eq, sameClient, record_eq_of_client_eq sameClient]
  · intro later twinLater after twinAfter changed twinChanged twins seen known twinKnown
    refine abreast_grantIf twins known twinKnown (fun needed => ?_) _
    have shown : (after.view lens).clients desired.clientId =
        some (changed.view lens after.users) := StoredRealm.view_client_of_known known
    rw [seen, RealmView.putClient_clients_self, Option.some_inj] at shown
    have enables := eq_of_beq needed
    rw [← shown, ClientView.opened_record]
    simp only [Lens.client, updatedClient, enables, Option.some_or]

/-- A client that is otherwise as desired gets its new secret on both sides. -/
theorem abreast_rotateSecret {rotates : Bool}
    (twins : Twins lens realm store twin (some held) (some twinHeld))
    (known : held.client? desired.clientId = some (key, stored))
    (twinKnown : twinHeld.client? desired.clientId = some (twinKey, twinStored)) :
    Abreast lens faults realm (rotateSecret realm key desired rotates)
      (rotateSecret realm twinKey desired rotates) store twin Same := by
  unfold rotateSecret
  dsimp only
  split
  · next secret given =>
    refine abreast_writes twins rfl
      (Store.shows_updateClientSecret twins.readable twins.there known secret)
      (fun _ twins => Store.shows_updateClientSecret twins.twinReadable twins.twinThere twinKnown
        secret) ?_
    have sameClient := view_eq_of_twinClient twins.view_eq known twinKnown
    rw [twins.view_eq, sameClient, record_eq_of_client_eq sameClient]
  · exact abreast_pure_same twins trivial

/-- **Bringing a client to its desired state is abreast of itself**, if its secret is hidden where
the service makes it up, and told where it is compared. -/
theorem abreast_convergeClient (twins : Twins lens realm store twin (some held) (some twinHeld))
    (discreet : held.client? desired.clientId = none → lens.hidden desired.clientId = false →
      desired.isPublic = true ∨ desired.secret.isSome = true)
    (told : desired.secret.isSome = true → lens.hidden desired.clientId = false) :
    Abreast lens faults realm (convergeClient realm desired) (convergeClient realm desired) store
      twin Same := by
  refine abreast_reads twins rfl (fun _ found => Store.answer_findClient found desired.clientId)
    (fun _ found => Store.answer_findClient found desired.clientId) fun between twins => ?_
  cases known : held.client? desired.clientId with
  | none =>
      have twinUnknown := twinClient_of_unknown twins.view_eq known
      rw [twinUnknown]
      exact abreast_createClient twins known twinUnknown (discreet known)
  | some entry =>
      obtain ⟨key, stored⟩ := entry
      obtain ⟨twinKey, twinStored, twinKnown, sameClient⟩ :=
        exists_twinClient twins.view_eq known
      rw [twinKnown]
      dsimp only [Option.map_some]
      rw [twins.ownId known, twins.twinOwnId twinKnown]
      refine (abreast_secretDiffers twins known twinKnown told).bind ?_
      rintro rotates twinRotates later twinLater place twinPlace twins ⟨rfl, rfl, rfl⟩
      show Abreast lens faults realm
        (if (changedFields (clientPatch stored.record desired)).isEmpty then
          rotateSecret realm key desired rotates
          else updateClient realm key desired (clientPatch stored.record desired) rotates)
        (if (changedFields (clientPatch twinStored.record desired)).isEmpty then
          rotateSecret realm twinKey desired rotates
          else updateClient realm twinKey desired (clientPatch twinStored.record desired) rotates)
        later twinLater Same
      rw [← clientPatch_eq_of_client_eq sameClient]
      split
      · exact abreast_rotateSecret twins known twinKnown
      · exact abreast_updateClient twins known twinKnown

end Clients

/-! ## Third and fourth pass -/

/-- Whether a description is missing is seen. -/
theorem newDescription?_eq_of_realmRole_eq {role twinRole : RoleRecord}
    (same : lens.realmRole role = lens.realmRole twinRole) (desired : Option String) :
    newDescription? role desired = newDescription? twinRole desired := by
  show newDescription? (lens.realmRole role) desired =
    newDescription? (lens.realmRole twinRole) desired
  rw [same]

theorem newDescription?_eq_of_clientRole_eq {role twinRole : RoleRecord}
    (same : lens.clientRole role = lens.clientRole twinRole) (desired : Option String) :
    newDescription? role desired = newDescription? twinRole desired := by
  show newDescription? (lens.clientRole role) desired =
    newDescription? (lens.clientRole twinRole) desired
  rw [same]

theorem abreast_convergeRealmRole (desired : Blueprint.Role)
    (twins : Twins lens realm store twin (some held) (some twinHeld)) :
    Abreast lens faults realm (convergeRealmRole realm desired) (convergeRealmRole realm desired)
      store twin Same := by
  refine abreast_reads twins rfl (fun _ found => Store.answer_getRealmRole found desired.name)
    (fun _ found => Store.answer_getRealmRole found desired.name) fun between twins => ?_
  cases there : held.roles.get? desired.name with
  | none =>
      have twinThere := twinRole_of_absent twins.view_eq there
      rw [twinThere]
      refine abreast_writes twins rfl
        (Store.shows_createRealmRole twins.readable twins.there there)
        (fun _ twins => Store.shows_createRealmRole twins.twinReadable twins.twinThere twinThere) ?_
      rw [twins.view_eq]
  | some role =>
      obtain ⟨twinRole, twinThere, sameRole⟩ := exists_twinRole twins.view_eq there
      rw [twinThere]
      dsimp only
      rw [newDescription?_eq_of_realmRole_eq sameRole]
      cases newDescription? twinRole desired.description with
      | none => exact abreast_pure_same twins trivial
      | some description =>
          refine abreast_writes twins rfl (Store.shows_updateRealmRole twins.there there _)
            (fun _ twins => Store.shows_updateRealmRole twins.twinThere twinThere _) ?_
          rw [twins.view_eq, sameRole]

/-- A client stands under this internal identifier. -/
def Stands (clientId key : String) (held : StoredRealm) : Prop :=
  ∃ client, held.client? clientId = some (key, client)

theorem abreast_convergeClientRole {desired : Blueprint.ClientRole}
    (twins : Twins lens realm store twin (some held) (some twinHeld))
    (known : held.client? desired.clientId = some (key, owner))
    (twinKnown : twinHeld.client? desired.clientId = some (twinKey, twinOwner)) :
    Abreast lens faults realm (convergeClientRole realm key desired)
      (convergeClientRole realm twinKey desired) store twin
      (SameAnd fun held twinHeld =>
        Stands desired.clientId key held ∧ Stands desired.clientId twinKey twinHeld) := by
  obtain ⟨present, -⟩ := StoredRealm.get?_of_client? known
  obtain ⟨twinPresent, -⟩ := StoredRealm.get?_of_client? twinKnown
  refine abreast_reads twins rfl
    (fun _ found => Store.answer_getClientRole found present desired.name)
    (fun _ found => Store.answer_getClientRole found twinPresent desired.name)
    fun between twins => ?_
  have sameClient := view_eq_of_twinClient twins.view_eq known twinKnown
  have settled (found : Findings) : Abreast lens faults realm (pure found : Part Findings)
      (pure found) store between (SameAnd fun held twinHeld =>
        Stands desired.clientId key held ∧ Stands desired.clientId twinKey twinHeld) :=
    abreast_pure_same twins ⟨⟨owner, known⟩, twinOwner, twinKnown⟩
  cases there : owner.roles.get? desired.name with
  | none =>
      have twinThere := twinClientRole_of_absent sameClient there
      rw [twinThere]
      refine abreast_showsClient twins rfl
        (Store.shows_createClientRole twins.readable twins.there known there)
        (fun _ twins => Store.shows_createClientRole twins.twinReadable twins.twinThere twinKnown
          twinThere) ?_ ?_
      · rw [twins.view_eq, sameClient, record_eq_of_client_eq sameClient]
      · exact fun later twinLater after twinAfter stored twinStored twins _ known twinKnown =>
          abreast_pure_same twins ⟨⟨stored, known⟩, twinStored, twinKnown⟩
  | some role =>
      obtain ⟨twinRole, twinThere, sameRole⟩ := exists_twinClientRole sameClient there
      rw [twinThere]
      dsimp only
      rw [newDescription?_eq_of_clientRole_eq sameRole]
      cases newDescription? twinRole desired.description with
      | none => exact settled _
      | some description =>
          refine abreast_showsClient twins rfl
            (Store.shows_updateClientRole twins.readable twins.there known there _)
            (fun _ twins => Store.shows_updateClientRole twins.twinReadable twins.twinThere
              twinKnown twinThere _) ?_ ?_
          · rw [twins.view_eq, sameRole, sameClient]
          · exact fun later twinLater after twinAfter stored twinStored twins _ known twinKnown =>
              abreast_pure_same twins ⟨⟨stored, known⟩, twinStored, twinKnown⟩

theorem abreast_convergeClientRoles {group : String × List Blueprint.ClientRole}
    (owned : ∀ role ∈ group.2, role.clientId = group.1)
    (twins : Twins lens realm store twin (some held) (some twinHeld)) :
    Abreast lens faults realm (convergeClientRoles realm group) (convergeClientRoles realm group)
      store twin Same := by
  refine abreast_reads twins rfl (fun _ found => Store.answer_findClient found group.1)
    (fun _ found => Store.answer_findClient found group.1) fun between twins => ?_
  cases known : held.client? group.1 with
  | none =>
      rw [twinClient_of_unknown twins.view_eq known]
      exact abreast_pure_same twins trivial
  | some entry =>
      obtain ⟨key, owner⟩ := entry
      obtain ⟨twinKey, twinOwner, twinKnown, -⟩ := exists_twinClient twins.view_eq known
      rw [twinKnown]
      dsimp only [Option.map_some, Option.bind_some]
      rw [twins.ownId known, twins.twinOwnId twinKnown]
      -- The client stays under its internal identifiers on both sides.
      refine (abreast_forEach (fun held twinHeld =>
        Stands group.1 key held ∧ Stands group.1 twinKey twinHeld) ?_ store between held twinHeld
        twins ⟨⟨owner, known⟩, twinOwner, twinKnown⟩).same
      rintro role listed store twin held twinHeld twins ⟨⟨owner, known⟩, twinOwner, twinKnown⟩
      rw [← owned role listed] at known twinKnown ⊢
      exact abreast_convergeClientRole twins known twinKnown

/-! ## Fifth pass -/

section Composite

variable {mapping : Blueprint.Composite}

theorem abreast_resolveRoles (known : held.client? mapping.clientId = some (key, owner))
    (twinKnown : twinHeld.client? mapping.clientId = some (twinKey, twinOwner))
    (names : List String) (twins : Twins lens realm store twin (some held) (some twinHeld)) :
    Abreast lens faults realm (resolveRoles realm key mapping names)
      (resolveRoles realm twinKey mapping names) store twin
      fun resolved twinResolved place twinPlace =>
        resolved.1 = names.filterMap owner.roles.get? ∧
          twinResolved.1 = names.filterMap twinOwner.roles.get? ∧
            resolved.2 = twinResolved.2 ∧ place = some held ∧ twinPlace = some twinHeld := by
  obtain ⟨present, -⟩ := StoredRealm.get?_of_client? known
  obtain ⟨twinPresent, -⟩ := StoredRealm.get?_of_client? twinKnown
  induction names generalizing twin with
  | nil => exact abreast_pure twins ⟨rfl, rfl, rfl, rfl, rfl⟩
  | cons name rest ih =>
      refine abreast_reads twins rfl
        (fun _ found => Store.answer_getClientRole found present name)
        (fun _ found => Store.answer_getClientRole found twinPresent name)
        fun between twins => ?_
      have sameClient := view_eq_of_twinClient twins.view_eq known twinKnown
      refine (ih twins).bind ?_
      rintro ⟨others, found⟩ ⟨twinOthers, twinFound⟩ later twinLater place twinPlace twins
        ⟨rfl, rfl, rfl, rfl, rfl⟩
      cases there : owner.roles.get? name with
      | none =>
          have twinThere := twinClientRole_of_absent sameClient there
          rw [twinThere]
          exact abreast_pure twins ⟨(List.filterMap_cons_none there).symm,
            (List.filterMap_cons_none twinThere).symm, rfl, rfl, rfl⟩
      | some role =>
          obtain ⟨twinRole, twinThere, -⟩ := exists_twinClientRole sameClient there
          rw [twinThere]
          exact abreast_pure twins ⟨(List.filterMap_cons_some there).symm,
            (List.filterMap_cons_some twinThere).symm, rfl, rfl, rfl⟩

theorem abreast_attachRoles {stored twinStored : RoleRecord}
    (twins : Twins lens realm store twin (some held) (some twinHeld))
    (there : held.roles.get? mapping.realmRole = some stored)
    (twinThere : twinHeld.roles.get? mapping.realmRole = some twinStored)
    (known : held.client? mapping.clientId = some (key, owner))
    (twinKnown : twinHeld.client? mapping.clientId = some (twinKey, twinOwner))
    (names : List String) :
    Abreast lens faults realm (attachRoles realm key mapping names)
      (attachRoles realm twinKey mapping names) store twin Same := by
  refine (abreast_resolveRoles known twinKnown names twins).bind ?_
  rintro ⟨resolved, found⟩ ⟨twinResolved, twinFound⟩ later twinLater place twinPlace twins
    ⟨rfl, rfl, rfl, rfl, rfl⟩
  have same := map_filterMap_roles (view_eq_of_twinClient twins.view_eq known twinKnown) names
  have sameEmpty : (names.filterMap owner.roles.get?).isEmpty =
      (names.filterMap twinOwner.roles.get?).isEmpty := by
    have mapped := congrArg List.isEmpty same
    rwa [List.isEmpty_map, List.isEmpty_map] at mapped
  have sameNames : (names.filterMap owner.roles.get?).map RoleRecord.nameText =
      (names.filterMap twinOwner.roles.get?).map RoleRecord.nameText := by
    have mapped := congrArg (List.map RoleRecord.nameText) same
    rwa [List.map_map, List.map_map] at mapped
  dsimp only
  rw [sameEmpty, sameNames]
  split
  · exact abreast_pure_same twins trivial
  · refine abreast_writes twins rfl
      (Store.shows_addRealmRoleComposites twins.readable twins.there known there names)
      (fun _ twins => Store.shows_addRealmRoleComposites twins.twinReadable twins.twinThere
        twinKnown twinThere names) ?_
    rw [twins.view_eq]

/-- The names that come with a role of the realm are those that are seen attached to it. -/
theorem presentNames_contains_iff_attached {drawn : Nat} {realmRole clientId name : String}
    (sound : held.Sound drawn) (known : held.client? clientId = some (key, owner)) :
    (presentNames held key realmRole).contains name = true ↔
      (held.view lens).attached realmRole clientId name := by
  obtain ⟨present, -⟩ := StoredRealm.get?_of_client? known
  constructor
  · intro shown
    obtain ⟨role, there, attached⟩ := exists_of_presentNames_contains sound present shown
    exact (attached_view_iff known there).2 attached
  · intro attached
    obtain ⟨roleId, identified, among⟩ := attached
    rw [StoredRealm.roleId?, known, Option.bind_some] at identified
    obtain ⟨role, there, ownId⟩ := Option.bind_eq_some_iff.1 identified
    exact (presentNames_contains_iff sound present there).2 ⟨roleId, ownId, among⟩

/-- The same names come with a role on both sides. -/
theorem presentNames_eq_of_view_eq {drawn twinDrawn : Nat} {clientId : String}
    (sound : held.Sound drawn) (twinSound : twinHeld.Sound twinDrawn)
    (same : held.view lens = twinHeld.view lens)
    (known : held.client? clientId = some (key, owner))
    (twinKnown : twinHeld.client? clientId = some (twinKey, twinOwner)) (realmRole : String) :
    presentNames held key realmRole = presentNames twinHeld twinKey realmRole := by
  refine NameSet.ext_contains fun name => Bool.eq_iff_iff.2 ?_
  rw [presentNames_contains_iff_attached sound known,
    presentNames_contains_iff_attached twinSound twinKnown, same]

theorem abreast_convergeComposite (mapping : Blueprint.Composite)
    (twins : Twins lens realm store twin (some held) (some twinHeld)) :
    Abreast lens faults realm (convergeComposite realm mapping) (convergeComposite realm mapping)
      store twin Same := by
  refine abreast_reads twins rfl
    (fun _ found => Store.answer_getRealmRole found mapping.realmRole)
    (fun _ found => Store.answer_getRealmRole found mapping.realmRole) fun between twins => ?_
  cases there : held.roles.get? mapping.realmRole with
  | none =>
      rw [twinRole_of_absent twins.view_eq there]
      exact abreast_pure_same twins trivial
  | some role =>
      obtain ⟨twinRole, twinThere, -⟩ := exists_twinRole twins.view_eq there
      rw [twinThere]
      show Abreast lens faults realm (explained _ _ >>= _) (explained _ _ >>= _) store between Same
      refine abreast_reads twins rfl (fun _ found => Store.answer_findClient found mapping.clientId)
        (fun _ found => Store.answer_findClient found mapping.clientId) fun between twins => ?_
      cases known : held.client? mapping.clientId with
      | none =>
          rw [twinClient_of_unknown twins.view_eq known]
          exact abreast_pure_same twins trivial
      | some entry =>
          obtain ⟨key, owner⟩ := entry
          obtain ⟨twinKey, twinOwner, twinKnown, -⟩ := exists_twinClient twins.view_eq known
          have sound := twins.readable.sound realm held twins.there
          have twinSound := twins.twinReadable.sound realm twinHeld twins.twinThere
          rw [twinKnown]
          dsimp only [Option.map_some, Option.bind_some]
          rw [sound.ownId_of_client? known, twinSound.ownId_of_client? twinKnown]
          refine abreast_reads twins rfl
            (fun _ found => Store.answer_getRealmRoleComposites found there key)
            (fun _ found => Store.answer_getRealmRoleComposites found twinThere twinKey)
            fun between twins => ?_
          have samePresent :=
            presentNames_eq_of_view_eq sound twinSound twins.view_eq known twinKnown
          let missing := mapping.clientRoles.missingFrom
            (presentNames held key mapping.realmRole)
          let twinMissing := mapping.clientRoles.missingFrom
            (presentNames twinHeld twinKey mapping.realmRole)
          have sameMissing : missing = twinMissing :=
            congrArg mapping.clientRoles.missingFrom (samePresent mapping.realmRole)
          show Abreast lens faults realm
            (if missing.isEmpty then _ else attachRoles realm key mapping missing)
            (if twinMissing.isEmpty then _ else attachRoles realm twinKey mapping twinMissing)
            store between Same
          rw [← sameMissing]
          split
          · exact abreast_pure_same twins trivial
          · exact abreast_attachRoles twins there twinThere known twinKnown _

end Composite

/-! ## The passes after the first -/

section Passes

variable {blueprint : Blueprint}
  (twins : Twins lens blueprint.realm.name store twin (some held) (some twinHeld))
include twins

/-- The second pass keeps the lens discreet, and is abreast of itself. -/
theorem abreast_clientPass (discreet : Discreet lens blueprint held)
    (told : ∀ desired ∈ blueprint.clients, desired.secret.isSome = true →
      lens.hidden desired.clientId = false) :
    Abreast lens faults blueprint.realm.name (clientPass blueprint) (clientPass blueprint) store
      twin Same := by
  refine (abreast_forEach (fun held _ => Discreet lens blueprint held) ?_ store twin held twinHeld
    twins discreet).same
  intro desired listed store twin held twinHeld twins discreet
  have keeps : Reaches faults (convergeClient blueprint.realm.name desired) store
      fun outcome later => ∀ value, outcome = .ok value → ∀ after,
        later.realms.get? blueprint.realm.name = some after → Discreet lens blueprint after := by
    refine (works_convergeClient desired twins.readable.sound twins.there).mono ?_
    rintro outcome later ⟨after, found, edits, -⟩ value - other isOther
    cases found.symm.trans isOther
    exact edits.keep (fun item _ before next edit discreet => discreet.of_edit edit) discreet
  have both : Abreast lens faults blueprint.realm.name (convergeClient blueprint.realm.name desired)
      (convergeClient blueprint.realm.name desired) store twin
      fun value twinValue place twinPlace => Same value twinValue place twinPlace ∧
        ∀ after, place = some after → Discreet lens blueprint after :=
    (abreast_convergeClient twins (discreet desired listed) (told desired listed)).and_reaches keeps
  refine both.mono ?_
  rintro value twinValue place twinPlace ⟨⟨same, held, twinHeld, rfl, rfl, -⟩, discreet⟩
  exact ⟨same, held, twinHeld, rfl, rfl, discreet held rfl⟩

theorem abreast_realmRolePass :
    Abreast lens faults blueprint.realm.name (realmRolePass blueprint) (realmRolePass blueprint)
      store twin Same :=
  abreast_forEach _ (fun desired _ _ _ _ _ twins _ => abreast_convergeRealmRole desired twins)
    store twin held twinHeld twins trivial

theorem abreast_clientRolePass :
    Abreast lens faults blueprint.realm.name (clientRolePass blueprint) (clientRolePass blueprint)
      store twin Same :=
  abreast_forEach _ (fun _ listed _ _ _ _ twins _ =>
    abreast_convergeClientRoles (Blueprint.owner_of_mem_clientRoleGroups listed) twins)
    store twin held twinHeld twins trivial

theorem abreast_compositePass :
    Abreast lens faults blueprint.realm.name (compositePass blueprint) (compositePass blueprint)
      store twin Same :=
  abreast_forEach _ (fun mapping _ _ _ _ _ twins _ => abreast_convergeComposite mapping twins)
    store twin held twinHeld twins trivial

/-- **The passes after the first are abreast of themselves.** -/
theorem abreast_laterPasses (discreet : Discreet lens blueprint held)
    (told : ∀ desired ∈ blueprint.clients, desired.secret.isSome = true →
      lens.hidden desired.clientId = false) (realm : Findings) :
    Abreast lens faults blueprint.realm.name (laterPasses blueprint realm)
      (laterPasses blueprint realm) store twin Same := by
  refine (abreast_clientPass twins discreet told).bind_same ?_
  intro clients store twin held twinHeld twins _
  refine (abreast_realmRolePass twins).bind_same ?_
  intro realmRoles store twin held twinHeld twins _
  refine (abreast_clientRolePass twins).bind_same ?_
  intro clientRoles store twin held twinHeld twins _
  refine (abreast_compositePass twins).bind_same ?_
  intro composites store twin held twinHeld twins _
  refine (abreast_markerPass twins).bind_same ?_
  exact fun marker store twin held twinHeld twins _ => abreast_pure_same twins trivial

end Passes

end RealmConvergence.Convergence
