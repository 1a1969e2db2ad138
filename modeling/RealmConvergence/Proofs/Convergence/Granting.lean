import RealmConvergence.Proofs.Convergence.Effects
import RealmConvergence.Proofs.Convergence.Leading
import RealmConvergence.Proofs.Convergence.Opening

/-!
# The grant of a client

A client needs a grant if it is to have a service account and has none (`NeedsAccount`). The turn of
a client that needs none tells of none. The turn of one that does tells of it in a single step:
either the step is updated and the client's user has all the roles, or it is skipped and no user of
the realm has been granted anything (`tellsGrant_convergeClient`). Without faults the grant is made
exactly where the roles are there to be granted.

The client is written before its grant. That leaves all grants as they are, and it neither adds nor
takes roles, so the grant can be made after the write if it could be made before it
(`ownsServiceRoles_iff_of_edits`).
-/

set_option autoImplicit false

namespace RealmConvergence.Convergence

open Service

variable {faults : Faults} {store later : Store} {realm key : String} {held after : StoredRealm}
  {stored : StoredClient} {desired : Blueprint.Client}

/-! ## What grants are about -/

/-- A client is to have a service account and has none. -/
def NeedsAccount (store : Store) (realm : String) (desired : Blueprint.Client) : Prop :=
  desired.serviceAccount = true ∧ ¬HasAccount store realm desired.clientId

/-- The client that administers the realm has the roles that a service account is granted. -/
def OwnsServiceRoles (store : Store) (realm : String) : Prop :=
  ∀ name ∈ serviceAccountRoles, (store.clientRole? realm managementClientId name).isSome

/-- The service account of a client has all the roles that it is to be granted. -/
def HasServiceRoles (store : Store) (realm clientId : String) : Prop :=
  ∀ name ∈ serviceAccountRoles,
    (store.serviceAccountRoleNames realm clientId managementClientId).contains name = true

/-- The identifiers of the roles that a user has been granted, none where the realm is absent. -/
def grantsTo (store : Store) (realm user : String) : NameSet :=
  ((store.realms.get? realm).map (·.grantsOf user)).getD ∅

/-- The steps that tell of the grant of a client. -/
def grantStepsOf (clientId : String) (steps : List Step) : List Step :=
  steps.filter fun step => step.kind == .serviceAccountGrant && step.key == clientId

theorem grantStepsOf_append (clientId : String) (first second : List Step) :
    grantStepsOf clientId (first ++ second) =
      grantStepsOf clientId first ++ grantStepsOf clientId second :=
  List.filter_append ..

theorem grantStepsOf_grantFindings (clientId : String) (outcome : Except GrantFailure Unit) :
    grantStepsOf clientId (grantFindings clientId outcome).steps =
      (grantFindings clientId outcome).steps := by
  refine List.filter_eq_self.2 fun step member => ?_
  cases outcome <;> rcases List.mem_singleton.1 member with rfl <;> exact beq_self_eq_true clientId

theorem grantsTo_of_found (found : store.realms.get? realm = some held) (user : String) :
    grantsTo store realm user = held.grantsOf user := by
  rw [grantsTo, found, Option.map_some, Option.getD_some]

theorem needsAccount_iff (found : store.realms.get? realm = some held) :
    NeedsAccount store realm desired ↔ desired.serviceAccount = true ∧
      ¬∃ key client, held.client? desired.clientId = some (key, client) ∧
        client.record.serviceAccountsEnabled = some true := by
  rw [NeedsAccount, hasAccount_iff found]

theorem ownsServiceRoles_iff (found : store.realms.get? realm = some held) :
    OwnsServiceRoles store realm ↔ ∀ name ∈ serviceAccountRoles,
      ((held.client? managementClientId).bind (·.2.roles.get? name)).isSome := by
  simp only [OwnsServiceRoles, Store.clientRole?, found, Option.bind_some]

/-- The roles can be granted where they are owned, however one looks at the realm. -/
theorem canGrant_iff_owns (lens : Lens) (found : store.realms.get? realm = some held) :
    CanGrant (held.view lens) ↔ OwnsServiceRoles store realm := by
  rw [ownsServiceRoles_iff found]
  refine forall₂_congr fun name _ => ?_
  cases known : held.client? managementClientId with
  | none =>
      simp only [RealmView.Owns, StoredRealm.view_client_of_unknown known, reduceCtorEq, false_and,
        exists_false, Option.bind_none, Option.isSome_none, Bool.false_eq_true]
  | some entry =>
      obtain ⟨key, owner⟩ := entry
      simp only [RealmView.Owns, StoredRealm.view_client_of_known known, Option.some.injEq,
        exists_eq_left', StoredClient.view, Option.isSome_map, Option.bind_some]

/-- The steps that tell of a client's grant: none if no grant is needed, and otherwise a single one,
which says whether the grant is made or nothing is granted. -/
inductive TellsGrant (clientId : String) (needed made nothing : Prop) : List Step → Prop where
  /-- No grant is needed. -/
  | needless (settled : ¬needed) : TellsGrant clientId needed made nothing []
  /-- The grant is made. -/
  | updated {detail : Option String} (isNeeded : needed) (isMade : made) :
      TellsGrant clientId needed made nothing
        [⟨.serviceAccountGrant, clientId, .updated, detail⟩]
  /-- Nothing is granted. -/
  | skipped {detail : Option String} (isNeeded : needed) (isNothing : nothing) :
      TellsGrant clientId needed made nothing
        [⟨.serviceAccountGrant, clientId, .skipped, detail⟩]

theorem TellsGrant.imp {clientId : String} {needed made nothing neededToo madeToo nothingToo : Prop}
    {steps : List Step} (tells : TellsGrant clientId needed made nothing steps)
    (same : needed ↔ neededToo) (makes : made → madeToo) (grantsNone : nothing → nothingToo) :
    TellsGrant clientId neededToo madeToo nothingToo steps := by
  cases tells with
  | needless settled => exact .needless (same.not.1 settled)
  | updated isNeeded isMade => exact .updated (same.1 isNeeded) (makes isMade)
  | skipped isNeeded isNothing => exact .skipped (same.1 isNeeded) (grantsNone isNothing)

/-- **There is a step exactly if a grant is needed**, a single one, and it says what became of the
grant. -/
theorem TellsGrant.spec {clientId : String} {needed made nothing : Prop} {steps : List Step}
    (tells : TellsGrant clientId needed made nothing steps) :
    (steps ≠ [] ↔ needed) ∧ steps.length ≤ 1 ∧ ∀ step ∈ steps,
      step.action = .updated ∧ made ∨ step.action = .skipped ∧ nothing := by
  cases tells with
  | needless settled =>
      exact ⟨⟨fun some => absurd rfl some, fun isNeeded => absurd isNeeded settled⟩, Nat.zero_le 1,
        fun _ never => nomatch never⟩
  | updated isNeeded isMade =>
      exact ⟨⟨fun _ => isNeeded, fun _ => List.cons_ne_nil _ _⟩, Nat.le_refl 1,
        List.forall_mem_singleton.2 (.inl ⟨rfl, isMade⟩)⟩
  | skipped isNeeded isNothing =>
      exact ⟨⟨fun _ => isNeeded, fun _ => List.cons_ne_nil _ _⟩, Nat.le_refl 1,
        List.forall_mem_singleton.2 (.inr ⟨rfl, isNothing⟩)⟩

/-! ## One grant -/

/-- A grant is made: the roles were there to be granted, and the client's user has them. -/
def GrantMade (realm clientId : String) (before later : Store) : Prop :=
  OwnsServiceRoles before realm ∧ HasServiceRoles later realm clientId

/-- A grant fails: no user is granted anything, and without faults the roles were not there. -/
def GrantWithheld (faults : Faults) (realm : String) (before later : Store) : Prop :=
  (faults = .none → ¬OwnsServiceRoles before realm) ∧
    ∀ user, grantsTo later realm user = grantsTo before realm user

/-- Without faults a grant succeeds exactly where the roles are there. -/
theorem reaches_grantRoles_isOk {clientId : String} (sound : store.Sound) (linked : store.Linked)
    (found : store.realms.get? realm = some held)
    (known : held.client? clientId = some (key, stored)) (account : stored.serviceUser ≠ none) :
    Reaches faults (grantRoles realm key) store fun outcome _ =>
      faults = .none → (outcome.isOk = true ↔ OwnsServiceRoles store realm) := by
  rintro rfl
  obtain ⟨user, own⟩ := Option.ne_none_iff_exists'.1 account
  let lens : Lens := { drawn := 0, hidden := fun _ => true }
  have readable : store.Readable lens := ⟨sound, linked, Nat.zero_le _⟩
  have effect : Reaches Faults.none (grantRoles realm key) store _ :=
    reaches_grantRoles_effect readable found known own
  rw [← canGrant_iff_owns lens found]
  exact effect.1

/-- **A grant is made or withheld.** -/
theorem reaches_grantRoles_told {clientId : String} (sound : store.Sound) (linked : store.Linked)
    (found : store.realms.get? realm = some held)
    (known : held.client? clientId = some (key, stored)) (account : stored.serviceUser ≠ none) :
    Reaches faults (grantRoles realm key) store fun outcome later => match outcome with
      | .ok _ => GrantMade realm clientId store later
      | .error _ => GrantWithheld faults realm store later := by
  obtain ⟨present, -⟩ := StoredRealm.get?_of_client? known
  refine (((reaches_grantRoles_all sound found present).and
    (reaches_grantRoles_isOk sound linked found known account)).sound sound).mono ?_
  rintro outcome later ⟨⟨reached, faultless⟩, soundLater⟩
  cases outcome with
  | error failure =>
      cases reached
      exact ⟨fun none can => (nomatch (faultless none).2 can), fun _ => rfl⟩
  | ok _ =>
      obtain ⟨-, user, roleIds, own, ⟨ownerKey, owner, management, all⟩, rfl⟩ := reached
      obtain ⟨ownerPresent, -⟩ := StoredRealm.get?_of_client? management
      constructor
      · rw [ownsServiceRoles_iff found]
        intro name wanted
        obtain ⟨roleId, -, other, role, otherPresent, there, -⟩ :=
          exists_of_forall₂_of_mem all.flip wanted
        cases ownerPresent.symm.trans otherPresent
        rw [management, Option.bind_some, there, Option.isSome_some]
      · intro name wanted
        obtain ⟨roleId, listed, has⟩ := exists_of_forall₂_of_mem all.flip wanted
        rw [serviceAccountRoleNames_contains_iff soundLater
          (Store.putRealm_realms_get?_self store realm _)]
        refine ⟨key, stored, user, ownerKey, owner, known, own, management, roleId, has, ?_⟩
        rw [StoredRealm.grantsOf, Table.get?_insert_self, Option.getD_some,
          NameSet.contains_insertAll, List.contains_iff_mem.2 listed, Bool.true_or]

/-! ## One client -/

/-- Edits for clients neither add nor take roles. -/
theorem Edit.clientRole {item : Item} (edit : Edit item held after) (ofClient : item.pass = 2)
    (clientId name : String) : (after.client? clientId).bind (·.2.roles.get? name) =
      (held.client? clientId).bind (·.2.roles.get? name) := by
  cases edit with
  | realmSet | realmRoleAdded | realmRoleDescribed | clientRoleAdded | clientRoleDescribed
  | compositesAdded | marked => exact absurd ofClient (by simp [Item.pass])
  | clientAdded unknown free _ =>
      rw [StoredRealm.client?_putClient_new unknown free (by rfl)]
      split
      · next same =>
        rw [same, unknown]
        rfl
      · rfl
  | clientChanged found _ _ _ =>
      rw [StoredRealm.client?_putClient found (by rfl)]
      split
      · next same =>
        rw [same, found]
        rfl
      · rfl
  | granted => rfl

/-- Edits for clients leave what can be granted as it is. -/
theorem ownsServiceRoles_iff_of_edits {items : List Item}
    (found : store.realms.get? realm = some held)
    (foundLater : later.realms.get? realm = some after) (edits : Edits items held after)
    (ofClients : ∀ item ∈ items, item.pass = 2) :
    OwnsServiceRoles later realm ↔ OwnsServiceRoles store realm := by
  have keeps (item : Item) (member : item ∈ items) (before next : StoredRealm)
      (edit : Edit item before next)
      (same : ∀ clientId name, (before.client? clientId).bind (·.2.roles.get? name) =
        (held.client? clientId).bind (·.2.roles.get? name)) (clientId name : String) :
      (next.client? clientId).bind (·.2.roles.get? name) =
        (held.client? clientId).bind (·.2.roles.get? name) :=
    (edit.clientRole (ofClients item member) clientId name).trans (same clientId name)
  have same := edits.keep keeps fun _ _ => rfl
  simp only [ownsServiceRoles_iff found, ownsServiceRoles_iff foundLater, same]

/-- What the turn of a client tells of its grant. -/
def TurnTells (faults : Faults) (realm : String) (desired : Blueprint.Client) (before : Store)
    (outcome : Except Failure Findings) (later : Store) : Prop :=
  ∀ found, outcome = .ok found →
    TellsGrant desired.clientId (NeedsAccount before realm desired)
      (GrantMade realm desired.clientId before later) (GrantWithheld faults realm before later)
      (grantStepsOf desired.clientId found.steps)

/-- What follows the writing of a client tells of its grant, if that is needed. -/
theorem tellsGrant_grantIf {before : Store} {written : StoredRealm} {findings : Findings}
    {needed : Bool} (foundBefore : before.realms.get? realm = some held) (sound : store.Sound)
    (linked : store.Linked) (found : store.realms.get? realm = some written)
    (edit : Edit (.client desired) held written) (sameGrants : written.grants = held.grants)
    (known : written.client? desired.clientId = some (key, stored))
    (opened : needed = true → stored.record.serviceAccountsEnabled = some true)
    (isNeeded : needed = true ↔ NeedsAccount before realm desired)
    (silent : grantStepsOf desired.clientId findings.steps = []) :
    Reaches faults (if needed then do
        let granted ← tolerate (grantToServiceAccount realm key desired.clientId)
        pure (findings ++ granted)
      else pure findings) store (TurnTells faults realm desired before) := by
  cases needed with
  | false =>
      refine reaches_pure fun found came => ?_
      cases came
      rw [silent]
      exact .needless fun needs => nomatch isNeeded.2 needs
  | true =>
      have account : stored.serviceUser ≠ none := (linked realm written found).opened key stored
        (StoredRealm.get?_of_client? known).1 (opened rfl)
      have sameOwned : OwnsServiceRoles store realm ↔ OwnsServiceRoles before realm :=
        ownsServiceRoles_iff_of_edits foundBefore found (edit.edits List.mem_cons_self)
          (List.forall_mem_singleton.2 rfl)
      have sameGrantsTo (user : String) :
          grantsTo store realm user = grantsTo before realm user := by
        rw [grantsTo_of_found found, grantsTo_of_found foundBefore, StoredRealm.grantsOf,
          sameGrants, StoredRealm.grantsOf]
      have granting : Reaches faults (grantRoles realm key) store _ :=
        reaches_grantRoles_told sound linked found known account
      unfold Reaches at granting ⊢
      rw [if_pos rfl, run_tolerate_grant, Dialogue.run_andThen]
      generalize (grantRoles realm key).run.run (respond faults) store = came at granting ⊢
      obtain ⟨outcome, later⟩ := came
      rintro told ⟨⟩
      rw [Findings.steps_append, grantStepsOf_append, silent, List.nil_append,
        grantStepsOf_grantFindings]
      cases outcome with
      | ok _ =>
          obtain ⟨owned, shown⟩ := granting
          exact .updated (isNeeded.1 rfl) ⟨sameOwned.1 owned, shown⟩
      | error failure =>
          obtain ⟨faultless, same⟩ := granting
          exact .skipped (isNeeded.1 rfl)
            ⟨fun none => sameOwned.not.1 (faultless none),
              fun user => (same user).trans (sameGrantsTo user)⟩

/-- Giving a client that fits its new secret tells of no grant, and none is needed. -/
theorem tellsGrant_rotateSecret (rotates : Bool) (sound : store.Sound)
    (found : store.realms.get? realm = some held)
    (known : held.client? desired.clientId = some (key, stored))
    (fits : Fits stored.record desired) :
    Reaches faults (rotateSecret realm key desired rotates) store
      (TurnTells faults realm desired store) := by
  have isSound := (sound realm held found).clients.each key stored
    (StoredRealm.get?_of_client? known).1
  have settled : ¬NeedsAccount store realm desired := by
    rw [needsAccount_iff found]
    rintro ⟨wanted, none⟩
    exact none ⟨key, stored, known,
      eq_some_of_getD_eq isSound.serviceAccounts (fits.serviceAccounts.trans wanted)⟩
  have silent : Finds (rotateSecret realm key desired rotates) fun _ found =>
      grantStepsOf desired.clientId found.steps = [] := by
    unfold rotateSecret
    split
    · exact finds_explained_bind fun _ => finds_pure rfl
    · exact finds_pure rfl
  refine (silent.reaches faults store).mono fun outcome later silent found came => ?_
  rw [silent found came]
  exact .needless settled

section Turn

variable (sound : store.Sound) (linked : store.Linked)
  (found : store.realms.get? realm = some held)
include sound linked found

theorem tellsGrant_createClient (unknown : held.client? desired.clientId = none) :
    Reaches faults (createClient realm desired) store (TurnTells faults realm desired store) := by
  obtain ⟨key, later, written, stored, answers, foundLater, edit, sameGrants, known, fits, -⟩ :=
    answer_createClient_settles sound found unknown
  have soundLater := sound.answer (.createClient realm (newClient desired))
  have linkedLater := linked.answer sound (.createClient realm (newClient desired))
  rw [answers] at soundLater linkedLater
  have isSound := (soundLater realm written foundLater).clients.each key stored
    (StoredRealm.get?_of_client? known).1
  refine reaches_explained_bind answers (fun _ _ _ never => nomatch never) ?_
  refine tellsGrant_grantIf found soundLater linkedLater foundLater edit sameGrants known
    (fun needed => ?_) ?_ rfl
  · exact eq_some_of_getD_eq isSound.serviceAccounts (fits.serviceAccounts.trans needed)
  · rw [needsAccount_iff found, unknown]
    refine (and_iff_left ?_).symm
    rintro ⟨_, _, never, -⟩
    cases never

theorem tellsGrant_updateClient {rotates : Bool}
    (known : held.client? desired.clientId = some (key, stored))
    (kept : rotates = false → KeepsSecret stored.record desired) :
    Reaches faults (updateClient realm key desired (clientPatch stored.record desired) rotates)
      store (TurnTells faults realm desired store) := by
  let sent := { clientPatch stored.record desired with secret := sentSecret desired rotates }
  obtain ⟨later, written, changed, answers, foundLater, edit, knownLater, -⟩ :=
    answer_updateClient_settles sound found known kept
  obtain ⟨_, _, _, answersSo, foundSo, sameGrants, knownSo, isChanged⟩ :=
    answer_updateClient_stays found known sent
  cases answers.symm.trans answersSo
  cases foundLater.symm.trans foundSo
  cases knownLater.symm.trans knownSo
  have soundLater := sound.answer (.updateClient realm key sent)
  have linkedLater := linked.answer sound (.updateClient realm key sent)
  rw [answers] at soundLater linkedLater
  unfold updateClient
  rw [patch_eq_withSentSecret]
  refine reaches_explained_bind answers (fun _ _ _ never => nomatch never) ?_
  refine tellsGrant_grantIf found soundLater linkedLater foundLater edit sameGrants knownLater
    (fun enables => ?_) ?_ ?_
  · have isSent : sent.serviceAccountsEnabled = some true := eq_of_beq enables
    rw [isChanged, updatedClient, isSent, Option.some_or]
  · rw [enablesServiceAccount_iff, needsAccount_iff found, known]
    simp
  · cases rotates <;> rfl

/-- **The turn of a client tells of its grant.** -/
theorem tellsGrant_convergeClient :
    Reaches faults (convergeClient realm desired) store (TurnTells faults realm desired store) := by
  have answers := Store.answer_findClient found desired.clientId
  cases known : held.client? desired.clientId with
  | none =>
      rw [known] at answers
      refine reaches_explained_bind answers (fun _ _ _ never => nomatch never) ?_
      exact tellsGrant_createClient sound linked found known
  | some entry =>
      obtain ⟨key, stored⟩ := entry
      rw [known] at answers
      refine reaches_explained_bind answers (fun _ _ _ never => nomatch never) ?_
      dsimp only [Option.map_some]
      rw [(sound realm held found).ownId_of_client? known]
      refine (reaches_secretDiffers found (StoredRealm.get?_of_client? known).1).bind
        (fun _ _ _ _ never => nomatch never) ?_
      rintro rotates later ⟨rfl, kept⟩
      show Reaches faults (if (changedFields (clientPatch stored.record desired)).isEmpty then
          rotateSecret realm key desired rotates
        else updateClient realm key desired (clientPatch stored.record desired) rotates) _ _
      split
      · next nothing =>
        exact tellsGrant_rotateSecret rotates sound found known
          (changedFields_clientPatch_eq_nil_iff.1 (List.isEmpty_iff.1 nothing))
      · exact tellsGrant_updateClient sound linked found known kept

end Turn

end RealmConvergence.Convergence
