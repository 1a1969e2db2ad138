import RealmConvergence.Proofs.Collection.Place
import RealmConvergence.Proofs.Convergence.Working

/-!
# The second pass at work

Bringing a client to its desired state works for that client (`works_convergeClient`), from every
sound store: an absent client is created under a free internal identifier, a client that differs is
patched with its new secret sent along, and a client that fits gets its new secret alone. The grant
to its service account is all or nothing (`reaches_grantRoles_all`), and adds roles that look after
users and nothing else (`reaches_grantRoles`).
-/

set_option autoImplicit false

namespace RealmConvergence.Convergence

open Service

variable {faults : Faults} {store : Store} {realm key : String} {held : StoredRealm}
  {stored : StoredClient}

/-! ## Grants -/

/-- A call that grants alone make is told to fail, or one that reads the roles to be granted. -/
def GrantsFail (faults : Faults) : Prop :=
  faults .getServiceAccountUser ≠ none ∨ faults .getClientRole ≠ none ∨
    faults .assignClientRoles ≠ none

/-- The user of a client was granted roles that look after users. -/
def Granted (held : StoredRealm) (stored : StoredClient) (after : StoredRealm) : Prop :=
  ∃ user roleIds, stored.serviceUser = some user ∧
    (∀ roleId ∈ roleIds, ManagementRole held roleId) ∧
    after = { held with
      grants := held.grants.insert user ((held.grantsOf user).insertAll roleIds) }

/-- A role of a client under a name. -/
def roleOf? (store : Store) (realm key name : String) : Option RoleRecord :=
  ((store.realms.get? realm).bind (·.clients.get? key)).bind (·.roles.get? name)

/-- The roles that are read are roles of the client, one for each name asked for. -/
theorem reaches_readRoles {owner : String} (names : List String) :
    Reaches faults (readRoles realm owner names) store fun outcome later => later = store ∧
      ∀ roles, outcome = .ok roles → (names ≠ [] → faults .getClientRole = none) ∧
        List.Forall₂ (fun name role => roleOf? store realm owner name = some role) names roles := by
  induction names with
  | nil =>
      refine reaches_pure ⟨rfl, fun roles none => ⟨fun impossible => absurd rfl impossible, ?_⟩⟩
      cases none
      exact .nil
  | cons name rest ih =>
      have stops (failure : GrantFailure) : store = store ∧ ∀ roles : List RoleRecord,
          Except.error failure = .ok roles → (name :: rest ≠ [] → faults .getClientRole = none) ∧
            List.Forall₂ (fun other role => roleOf? store realm owner other = some role)
              (name :: rest) roles :=
        ⟨rfl, fun roles impossible => by cases impossible⟩
      refine reaches_explained_reads rfl stops fun answer faultless replied => ?_
      refine reaches_expect_bind (stops _) fun role there => ?_
      refine ih.bind ?_ ?_
      · rintro failure later ⟨rfl, -⟩
        exact stops failure
      · rintro others later ⟨rfl, known⟩
        refine reaches_pure ⟨rfl, fun roles same => ⟨fun _ => faultless, ?_⟩⟩
        cases same
        subst there
        exact .cons (Except.ok.inj replied) (known others rfl).2

/-- A client that is found without its secret stands under the identifier that it tells. -/
theorem findClient_eq_ok {clientId : String} {record : ClientRecord} (sound : store.Sound)
    (found : store.realms.get? realm = some held)
    (replied : (store.answer (.findClient realm clientId)).1 = .ok (some record)) :
    ∃ key stored, held.client? clientId = some (key, stored) ∧ record.id = some key ∧
      record = { stored.record with secret := none } := by
  have looked : (held.client? clientId).map (fun found =>
      { found.2.record with secret := none }) = some record := by
    have answered := Except.ok.inj replied
    rw [found] at answered
    exact answered
  obtain ⟨⟨key, stored⟩, there, same⟩ := Option.map_eq_some_iff.1 looked
  subst same
  exact ⟨key, stored, there, (sound realm held found).ownId_of_client? there, rfl⟩

/-- The user that is told for a client is the client's own. -/
theorem getServiceAccountUser_eq_ok {user : UserRecord} {userId : String} (sound : store.Sound)
    (found : store.realms.get? realm = some held) (client : held.clients.get? key = some stored)
    (replied : (store.answer (.getServiceAccountUser realm key)).1 = .ok user)
    (identified : user.id = some userId) : stored.serviceUser = some userId := by
  simp only [Store.answer, Store.read, found, client, Option.bind_some] at replied
  split at replied
  · next told looked =>
    cases replied
    obtain ⟨own, isOwn, there⟩ := Option.bind_eq_some_iff.1 looked
    obtain ⟨ownId, -⟩ := (sound realm held found).users own user there
    rw [isOwn, ← ownId, identified]
  · cases replied

/-- These are the identifiers of the roles that a service account is granted, all of them. -/
def ServiceRoleIds (held : StoredRealm) (roleIds : List String) : Prop :=
  ∃ ownerKey owner, held.client? managementClientId = some (ownerKey, owner) ∧
    List.Forall₂ (HasRole held.clients ownerKey) serviceAccountRoles roleIds

theorem ServiceRoleIds.manages {roleIds : List String} (all : ServiceRoleIds held roleIds) :
    ∀ roleId ∈ roleIds, ManagementRole held roleId := by
  intro roleId member
  obtain ⟨ownerKey, owner, management, related⟩ := all
  obtain ⟨present, named⟩ := StoredRealm.get?_of_client? management
  obtain ⟨name, wanted, other, role, otherPresent, there, identified⟩ :=
    exists_of_forall₂_of_mem related member
  cases present.symm.trans otherPresent
  exact ⟨ownerKey, owner, name, role, present, named, wanted, there, identified⟩

/-- **A grant is all or nothing**: if it succeeds the user of the client has been granted all the
roles, none of its calls having been told to fail, and otherwise it does nothing. -/
theorem reaches_grantRoles_all (sound : store.Sound) (found : store.realms.get? realm = some held)
    (client : held.clients.get? key = some stored) :
    Reaches faults (grantRoles realm key) store fun outcome later => match outcome with
      | .ok _ => ¬GrantsFail faults ∧ ∃ user roleIds, stored.serviceUser = some user ∧
          ServiceRoleIds held roleIds ∧ later = store.putRealm realm { held with
            grants := held.grants.insert user ((held.grantsOf user).insertAll roleIds) }
      | .error _ => later = store := by
  refine reaches_explained_reads rfl (fun _ => rfl) fun user userFaultless userReplied => ?_
  refine reaches_expect_bind rfl fun userId userIdentified => ?_
  refine reaches_explained_reads rfl (fun _ => rfl) fun answer _ ownerReplied => ?_
  refine reaches_expect_bind rfl fun owner isOwner => ?_
  subst isOwner
  refine reaches_expect_bind rfl fun ownerId ownerIdentified => ?_
  refine (reaches_readRoles serviceAccountRoles).bind ?_ ?_
  · rintro failure later ⟨rfl, -⟩
    exact rfl
  · rintro roles later ⟨rfl, read⟩
    obtain ⟨rolesFaultless, known⟩ := read roles rfl
    -- The user is the client's own, and the roles are those of the management client.
    have isServiceUser : stored.serviceUser = some userId :=
      getServiceAccountUser_eq_ok sound found client userReplied userIdentified
    obtain ⟨ownerKey, management, managementFound, ownId, -⟩ :=
      findClient_eq_ok sound found ownerReplied
    rw [ownerIdentified] at ownId
    cases ownId
    obtain ⟨present, -⟩ := StoredRealm.get?_of_client? managementFound
    have all : ServiceRoleIds held (roles.map fun role => role.id.getD "") := by
      refine ⟨ownerId, management, managementFound, List.forall₂_map_right_iff.2 ?_⟩
      refine known.imp fun name role isRole => ?_
      simp only [roleOf?, found, present, Option.bind_some] at isRole
      obtain ⟨-, ownRoleId, identified, -⟩ :=
        ((sound realm held found).clients.each ownerId management present).roles name role isRole
      refine ⟨management, role, present, isRole, ?_⟩
      rw [identified, Option.getD_some]
    refine reaches_explained (fun _ _ => rfl) fun assignFaultless => ?_
    rcases Store.answer_assignClientRoles found with ⟨problem, refused⟩ | granted
    · rw [refused]
      exact rfl
    · rw [granted]
      refine ⟨?_, userId, _, isServiceUser, all, rfl⟩
      rintro (fails | fails | fails)
      · exact fails userFaultless
      · exact fails (rolesFaultless (List.cons_ne_nil _ _))
      · exact fails assignFaultless

/-- A grant does nothing, or gives the user of the client roles that look after users. It does
nothing if one of its calls is told to fail. -/
theorem reaches_grantRoles (sound : store.Sound) (found : store.realms.get? realm = some held)
    (client : held.clients.get? key = some stored) :
    Reaches faults (grantRoles realm key) store fun _ later =>
      later = store ∨ (¬GrantsFail faults ∧
        ∃ after, later = store.putRealm realm after ∧ Granted held stored after) := by
  refine (reaches_grantRoles_all sound found client).mono fun outcome later reached => ?_
  cases outcome with
  | error failure => exact .inl reached
  | ok _ =>
      obtain ⟨succeeds, user, roleIds, account, all, rfl⟩ := reached
      exact .inr ⟨succeeds, _, rfl, user, roleIds, account, all.manages, rfl⟩

/-- A grant is an edit for its client, and leaves the client settled. -/
theorem Granted.edits {desired : Blueprint.Client} {after : StoredRealm}
    (granted : Granted held stored after)
    (client : held.client? desired.clientId = some (key, stored))
    (settled : Settled (.client desired) held) :
    Edits [.client desired] held after ∧ Settled (.client desired) after := by
  obtain ⟨user, roleIds, account, manages, rfl⟩ := granted
  exact ⟨(Edit.granted client account manages).edits List.mem_cons_self, settled⟩

/-- What follows the writing of a client works for it: a tolerated grant, or nothing. -/
theorem works_grantIf {desired : Blueprint.Client} (sound : store.Sound)
    (found : store.realms.get? realm = some held)
    (client : held.client? desired.clientId = some (key, stored))
    (settled : Settled (.client desired) held) (needed : Bool) (findings : Findings) :
    Reaches faults (if needed then do
        let granted ← tolerate (grantToServiceAccount realm key desired.clientId)
        pure (findings ++ granted)
      else pure findings) store (Works faults realm [.client desired] held) := by
  cases needed with
  | false => exact works_settled found settled findings
  | true =>
      have tolerated : Reaches faults
          (tolerate (grantToServiceAccount realm key desired.clientId)) store
          (Works faults realm [.client desired] held) := by
        apply reaches_tolerate
        rw [grantToServiceAccount, Dialogue.run_andThen]
        have reached : Reaches faults (grantRoles realm key) store _ :=
          reaches_grantRoles sound found (StoredRealm.get?_of_client? client).1
        unfold Reaches at reached
        generalize (grantRoles realm key).run.run (respond faults) store = came at reached
        obtain ⟨outcome, later⟩ := came
        rcases reached with rfl | ⟨-, after, rfl, granted⟩
        · exact ⟨held, found, .refl, List.forall_mem_singleton.2 settled⟩
        · obtain ⟨edits, settledAfter⟩ := granted.edits client settled
          exact ⟨after, Store.putRealm_realms_get?_self store realm after, edits,
            List.forall_mem_singleton.2 settledAfter⟩
      exact tolerated.bind (fun _ _ stop => stop) fun _ _ finish => finish

/-! ## Clients -/

/-- Opening an account under a later identifier keeps every user. -/
theorem keepsUsers_openAccount (sound : store.Sound) (found : store.realms.get? realm = some held)
    {number : Nat} (later : store.drawn < number) (needed : Prop) [Decidable needed]
    (clientId : String) (serviceUser : Option String) :
    KeepsUsers held.users
      (openAccount needed (identifier "user" number) clientId serviceUser held.users).2 := by
  intro other user there
  unfold openAccount
  split
  · have different : other ≠ identifier "user" number := by
      rintro rfl
      exact IsDrawn.fresh later ((sound realm held found).users _ user there).2
    rw [Table.get?_insert, if_neg different]
    exact there
  · exact there

/-- A client keeps its user when an account is opened for it. -/
theorem openAccount_keepsUser (needed : Prop) [Decidable needed] (userId clientId user : String)
    (users : Table UserRecord) {serviceUser : Option String} (has : serviceUser = some user) :
    (openAccount needed userId clientId serviceUser users).1 = some user := by
  subst has
  unfold openAccount
  split
  · next opens => cases opens.2
  · rfl

/-- An absent client is created as desired. -/
theorem answer_createClient_settles {desired : Blueprint.Client} (sound : store.Sound)
    (found : store.realms.get? realm = some held) (unknown : held.client? desired.clientId = none) :
    ∃ key later after stored,
      store.answer (.createClient realm (newClient desired)) = (.ok key, later) ∧
      later.realms.get? realm = some after ∧ Edit (.client desired) held after ∧
      after.grants = held.grants ∧ after.client? desired.clientId = some (key, stored) ∧
      Fits stored.record desired ∧ KeepsSecret stored.record desired := by
  have named : (newClient desired).clientId = some desired.clientId := rfl
  have free := (sound realm held found).client_free (Nat.lt_succ_self _)
  have answers := Store.answer_createClient found named unknown
  refine ⟨_, _, _, _, answers, Store.putRealm_realms_get?_self _ _ _,
    Edit.clientAdded unknown free ?_, rfl,
    (StoredRealm.client?_putClient_new unknown free named _ _).trans (if_pos rfl),
    fits_newClientRecord _ _ desired, keepsSecret_newClientRecord _ _ desired⟩
  exact keepsUsers_openAccount sound found (by omega) _ _ _

/-- Creating an absent client works for it. -/
theorem works_createClient {desired : Blueprint.Client} (sound : store.Sound)
    (found : store.realms.get? realm = some held) (unknown : held.client? desired.clientId = none) :
    Reaches faults (createClient realm desired) store
      (Works faults realm [.client desired] held) := by
  obtain ⟨key, later, after, stored, answers, foundLater, edit, -, client, fits, keepsSecret⟩ :=
    answer_createClient_settles sound found unknown
  have soundLater := sound.answer (.createClient realm (newClient desired))
  rw [answers] at soundLater
  exact works_edit found answers edit (works_grantIf soundLater foundLater client
    ⟨key, stored, client, fits, keepsSecret⟩ desired.serviceAccount _)

/-- A stored client is patched as desired. -/
theorem answer_updateClient_settles {desired : Blueprint.Client} {rotates : Bool}
    (sound : store.Sound) (found : store.realms.get? realm = some held)
    (client : held.client? desired.clientId = some (key, stored))
    (kept : rotates = false → KeepsSecret stored.record desired) :
    ∃ later after changed,
      store.answer (.updateClient realm key
        { clientPatch stored.record desired with secret := sentSecret desired rotates }) =
          (.ok (), later) ∧
      later.realms.get? realm = some after ∧ Edit (.client desired) held after ∧
      after.client? desired.clientId = some (key, changed) ∧ Fits changed.record desired ∧
      KeepsSecret changed.record desired := by
  have answers := Store.answer_updateClient found (StoredRealm.get?_of_client? client).1
    { clientPatch stored.record desired with secret := sentSecret desired rotates }
  refine ⟨_, _, _, answers, Store.putRealm_realms_get?_self _ _ _,
    Edit.clientChanged client (sentSecret_given desired rotates) ?_ ?_,
    (StoredRealm.client?_putClient client (by rfl) _ _).trans (if_pos rfl),
    fits_updatedClient _ desired _, keepsSecret_updatedClient kept⟩
  · exact fun user has => openAccount_keepsUser _ _ _ user _ has
  · exact keepsUsers_openAccount sound found (Nat.lt_succ_self _) _ _ _

/-- Changing a client that differs works for it. -/
theorem works_updateClient {desired : Blueprint.Client} {rotates : Bool} (sound : store.Sound)
    (found : store.realms.get? realm = some held)
    (client : held.client? desired.clientId = some (key, stored))
    (kept : rotates = false → KeepsSecret stored.record desired) :
    Reaches faults (updateClient realm key desired (clientPatch stored.record desired) rotates)
      store (Works faults realm [.client desired] held) := by
  obtain ⟨later, after, changed, answers, foundLater, edit, clientLater, fits, keepsSecret⟩ :=
    answer_updateClient_settles sound found client kept
  have soundLater := sound.answer (.updateClient realm key
    { clientPatch stored.record desired with secret := sentSecret desired rotates })
  rw [answers] at soundLater
  unfold updateClient
  rw [patch_eq_withSentSecret]
  exact works_edit found answers edit (works_grantIf soundLater foundLater clientLater
    ⟨key, changed, clientLater, fits, keepsSecret⟩ _ _)

/-- A client that fits is given its new secret. -/
theorem answer_updateClientSecret_settles {desired : Blueprint.Client} {secret : String}
    (found : store.realms.get? realm = some held)
    (client : held.client? desired.clientId = some (key, stored))
    (fits : Fits stored.record desired)
    (given : desired.secret = some secret) :
    ∃ later after, store.answer (.updateClientSecret realm key secret) = (.ok (), later) ∧
      later.realms.get? realm = some after ∧ Edit (.client desired) held after ∧
      Settled (.client desired) after := by
  have answers := Store.answer_updateClientSecret found
    (StoredRealm.get?_of_client? client).1 secret
  refine ⟨_, _, answers, Store.putRealm_realms_get?_self _ _ _, ?_, key, _,
    (StoredRealm.client?_putClient client (by rfl) _ _).trans (if_pos rfl), fits.withSecret, ?_⟩
  · rw [← updatedClient_of_fits fits secret]
    exact .clientChanged client (.inr given.symm) (fun _ has => has) fun _ _ there => there
  · intro other wanted
    rw [given] at wanted
    exact wanted

/-- Giving a client that fits its new secret works for it. -/
theorem works_rotateSecret {desired : Blueprint.Client} {rotates : Bool}
    (found : store.realms.get? realm = some held)
    (client : held.client? desired.clientId = some (key, stored))
    (fits : Fits stored.record desired)
    (kept : rotates = false → KeepsSecret stored.record desired) :
    Reaches faults (rotateSecret realm key desired rotates) store
      (Works faults realm [.client desired] held) := by
  have leaves (keepsSecret : KeepsSecret stored.record desired) (findings : Findings) :
      Reaches faults (pure findings) store (Works faults realm [.client desired] held) := by
    have settled : Settled (.client desired) held := ⟨key, stored, client, fits, keepsSecret⟩
    exact works_settled found settled findings
  unfold rotateSecret
  cases rotates with
  | false => exact leaves (kept rfl) _
  | true =>
      cases given : desired.secret with
      | none =>
          refine leaves (fun secret wanted => ?_) _
          rw [given] at wanted
          cases wanted
      | some secret =>
          obtain ⟨later, after, answers, foundLater, edit, settled⟩ :=
            answer_updateClientSecret_settles found client fits given
          exact works_write found answers foundLater edit settled

/-- Whether the secret of a client differs is found out without a write. -/
theorem reaches_secretDiffers {desired : Blueprint.Client}
    (found : store.realms.get? realm = some held) (client : held.clients.get? key = some stored) :
    Reaches faults (secretDiffers realm key desired) store fun outcome later => later = store ∧
      match outcome with
      | .ok rotates => rotates = false → KeepsSecret stored.record desired
      | .error _ => faults ≠ Faults.none := by
  unfold secretDiffers
  split
  · next none =>
    refine reaches_pure ⟨rfl, fun _ secret given => ?_⟩
    rw [none] at given
    cases given
  · next secret given =>
    refine reaches_explained_bind rfl (fun _ faulty => ⟨rfl, ne_none_of_faulty faulty⟩) ?_
    refine reaches_pure ⟨rfl, fun same other wanted => ?_⟩
    rw [given] at wanted
    cases wanted
    simpa [found, client] using same

/-- **Bringing a client to its desired state works for it.** -/
theorem works_convergeClient (desired : Blueprint.Client) (sound : store.Sound)
    (found : store.realms.get? realm = some held) :
    Reaches faults (convergeClient realm desired) store
      (Works faults realm [.client desired] held) := by
  have answers := Store.answer_findClient found desired.clientId
  cases known : held.client? desired.clientId with
  | none =>
      rw [known] at answers
      refine reaches_explained_bind answers (fun _ faulty => works_stopped found faulty) ?_
      exact works_createClient sound found known
  | some entry =>
      obtain ⟨key, stored⟩ := entry
      rw [known] at answers
      refine reaches_explained_bind answers (fun _ faulty => works_stopped found faulty) ?_
      obtain ⟨present, -⟩ := StoredRealm.get?_of_client? known
      have ownId := ((sound realm held found).clients.each key stored present).ownId
      dsimp only [Option.map_some]
      rw [ownId]
      refine (reaches_secretDiffers found present).bind ?_ ?_
      · rintro failure later ⟨rfl, faulty⟩
        exact ⟨held, found, .refl, faulty⟩
      · rintro rotates later ⟨rfl, kept⟩
        show Reaches faults (if (changedFields (clientPatch stored.record desired)).isEmpty then
          rotateSecret realm key desired rotates
          else updateClient realm key desired (clientPatch stored.record desired) rotates) _ _
        split
        · next nothing =>
          have fits := changedFields_clientPatch_eq_nil_iff.1 (List.isEmpty_iff.1 nothing)
          exact works_rotateSecret found known fits kept
        · exact works_updateClient sound found known kept

end RealmConvergence.Convergence
