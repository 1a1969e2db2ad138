import RealmConvergence.Proofs.Convergence.Attempting
import RealmConvergence.Proofs.Convergence.Converged

/-!
# Service accounts that a run opens

A run grants roles to the user of a client when it creates the client with a service account or
enables one for it, and at no other time. So what a run does to grants is told by the accounts that
it opened (`OpenedFor`): if grants do not fail, those users alone are granted roles
(`KeepsGrants`), and if they fail, those users alone miss what an undisturbed run would have granted
(`Missed`, `attempts_convergeClient`).

Parts for different clients open different accounts, so what either of two parts opened is opened by
both (`OpenedFor.of_first`, `OpenedFor.of_second`).
-/

set_option autoImplicit false

namespace RealmConvergence.Convergence

open Service

variable {ε α β : Type} {faults : Faults} {store later last : Store} {realm key : String}
  {held after : StoredRealm} {stored : StoredClient} {blueprint : Blueprint}

/-! ## Service accounts -/

/-- A client is there, with its service account enabled. -/
def HasAccount (store : Store) (realm clientId : String) : Prop :=
  ∃ record, store.client? realm clientId = some record ∧ record.serviceAccountsEnabled = some true

/-- A client was absent or had no service account, and then has one. -/
def Opens (realm : String) (before after : Store) (clientId : String) : Prop :=
  ¬HasAccount before realm clientId ∧ HasAccount after realm clientId

/-- A user is the one of a client's service account. -/
def IsAccountOf (store : Store) (realm clientId user : String) : Prop :=
  ∃ held key client, store.realms.get? realm = some held ∧
    held.client? clientId = some (key, client) ∧ client.serviceUser = some user

/-- A service account was opened, and this is its user. -/
def OpenedFor (realm : String) (before after : Store) (user : String) : Prop :=
  ∃ clientId, Opens realm before after clientId ∧ IsAccountOf after realm clientId user

/-- A service account was opened for this user, and its grant failed. -/
def Missed (faults : Faults) (realm : String) (before after : Store) (user : String) : Prop :=
  GrantsFail faults ∧ OpenedFor realm before after user

/-- The grants of a realm are kept, unless a service account was opened and its grant succeeded. -/
def KeepsGrants (faults : Faults) (realm : String) (before after : Store) : Prop :=
  ∀ held kept, before.realms.get? realm = some held → after.realms.get? realm = some kept →
    ∀ user, ¬(¬GrantsFail faults ∧ OpenedFor realm before after user) →
      kept.grants.get? user = held.grants.get? user

theorem hasAccount_iff {clientId : String} (found : store.realms.get? realm = some held) :
    HasAccount store realm clientId ↔ ∃ key client, held.client? clientId = some (key, client) ∧
      client.record.serviceAccountsEnabled = some true := by
  unfold HasAccount
  rw [Store.client?, found, Option.bind_some]
  cases held.client? clientId with
  | none =>
      constructor
      · rintro ⟨record, never, -⟩
        cases never
      · rintro ⟨key, client, never, -⟩
        cases never
  | some entry =>
      obtain ⟨key, client⟩ := entry
      constructor
      · rintro ⟨record, same, enabled⟩
        cases same
        exact ⟨key, client, rfl, enabled⟩
      · rintro ⟨otherKey, other, same, enabled⟩
        cases same
        exact ⟨client.record, rfl, enabled⟩

theorem keepsGrants_of_same (found : store.realms.get? realm = some held)
    (foundLater : later.realms.get? realm = some after) (same : after.grants = held.grants) :
    KeepsGrants faults realm store later := by
  intro before kept foundBefore foundKept user _
  cases found.symm.trans foundBefore
  cases foundLater.symm.trans foundKept
  rw [same]

theorem KeepsGrants.refl (faults : Faults) (realm : String) (store : Store) :
    KeepsGrants faults realm store store :=
  fun _ _ found foundKept => keepsGrants_of_same found foundKept
    (congrArg _ (Option.some.inj (foundKept.symm.trans found))) _ _ found foundKept

/-- In a realm that is absent there are no grants to keep. -/
theorem keepsGrants_of_absent (absent : store.realms.get? realm = none) :
    KeepsGrants faults realm store later := by
  intro before _ found
  rw [absent] at found
  cases found

/-- In a realm that was absent no account was open. -/
theorem Missed.of_absent {last : Store} {user : String} (absent : store.realms.get? realm = none)
    (missed : Missed faults realm later last user) : Missed faults realm store last user := by
  obtain ⟨fails, clientId, ⟨-, opened⟩, account⟩ := missed
  refine ⟨fails, clientId, ⟨?_, opened⟩, account⟩
  rintro ⟨record, seen, -⟩
  rw [Store.client?, absent] at seen
  cases seen

/-! ## Clients -/

/-- An attempt at a client differs from the undisturbed one in missed grants at most, and grants
nothing to accounts that were open before. -/
abbrev AttemptsButGrants (faults : Faults) (realm : String) (part : ExceptT ε Talk α)
    (store : Store) : Prop :=
  Attempts faults part store fun later other =>
    later.Alike (Missed faults realm store later) other ∧ KeepsGrants faults realm store later

/-- What becomes of the grant of a client that was written. -/
theorem butGrants_of_written {clientId : String} {needed : Bool} {written : StoredRealm}
    {other : Store} (found : store.realms.get? realm = some held)
    (client : written.client? clientId = some (key, stored))
    (sameGrants : written.grants = held.grants)
    (opens : needed = true → ¬HasAccount store realm clientId ∧
      stored.record.serviceAccountsEnabled = some true)
    (foundLater : later.realms.get? realm = some after)
    (granted : written.Alike (fun user => needed = true ∧ ¬GrantsFail faults ∧
      stored.serviceUser = some user) after)
    (alike : later.Alike (fun user => needed = true ∧ GrantsFail faults ∧
      stored.serviceUser = some user) other) :
    later.Alike (Missed faults realm store later) other ∧ KeepsGrants faults realm store later := by
  obtain ⟨grants, rfl, agree⟩ := granted
  have opened {user : String} (isNeeded : needed = true)
      (account : stored.serviceUser = some user) : OpenedFor realm store later user := by
    obtain ⟨unopened, enabled⟩ := opens isNeeded
    exact ⟨clientId, ⟨unopened, (hasAccount_iff foundLater).2 ⟨key, stored, client, enabled⟩⟩,
      written.withGrants grants, key, stored, foundLater, client, account⟩
  constructor
  · refine alike.mono ?_
    rintro user ⟨isNeeded, fails, account⟩
    exact ⟨fails, opened isNeeded account⟩
  · intro before kept foundBefore foundKept user unopened
    cases found.symm.trans foundBefore
    cases foundLater.symm.trans foundKept
    refine (agree user ?_).trans (congrArg (·.get? user) sameGrants)
    rintro ⟨isNeeded, succeeds, account⟩
    exact unopened ⟨succeeds, opened isNeeded account⟩

theorem attempts_createClient {desired : Blueprint.Client} (sound : store.Sound)
    (found : store.realms.get? realm = some held) (unknown : held.client? desired.clientId = none)
    (findable : faults .findClient = none) :
    AttemptsButGrants faults realm (createClient realm desired) store := by
  have unopened : ¬HasAccount store realm desired.clientId := by
    rw [hasAccount_iff found, unknown]
    rintro ⟨key, client, never, -⟩
    cases never
  obtain ⟨key, later, written, stored, answers, foundLater, -, sameGrants, client, fits, -⟩ :=
    answer_createClient_settles sound found unknown
  have soundLater := sound.answer (.createClient realm (newClient desired))
  rw [answers] at soundLater
  refine attempts_writes fun answer reached came => ?_
  cases answers.symm.trans came
  have present := (StoredRealm.get?_of_client? client).1
  have isSound := (soundLater realm written foundLater).clients.each key stored present
  refine (finishes_grantIf soundLater foundLater present findable desired.serviceAccount
    desired.clientId _).mono ?_
  rintro last other ⟨⟨after, foundLast, granted⟩, alike⟩
  refine butGrants_of_written found client sameGrants (fun needed => ⟨unopened, ?_⟩) foundLast
    granted alike
  exact eq_some_of_getD_eq isSound.serviceAccounts (fits.serviceAccounts.trans needed)

/-- A stored client that is changed stays in its place. -/
theorem answer_updateClient_stays {clientId : String} (found : store.realms.get? realm = some held)
    (client : held.client? clientId = some (key, stored)) (record : ClientRecord) :
    ∃ later after changed, store.answer (.updateClient realm key record) = (.ok (), later) ∧
      later.realms.get? realm = some after ∧ after.grants = held.grants ∧
      after.client? clientId = some (key, changed) ∧
      changed.record = updatedClient stored.record record :=
  ⟨_, _, _, Store.answer_updateClient found (StoredRealm.get?_of_client? client).1 record,
    Store.putRealm_realms_get?_self _ _ _, rfl,
    (StoredRealm.client?_putClient client (by rfl) _ _).trans (if_pos rfl), rfl⟩

theorem attempts_updateClient {desired : Blueprint.Client} (rotates : Bool) (sound : store.Sound)
    (found : store.realms.get? realm = some held)
    (client : held.client? desired.clientId = some (key, stored))
    (findable : faults .findClient = none) :
    AttemptsButGrants faults realm
      (updateClient realm key desired (clientPatch stored.record desired) rotates) store := by
  unfold updateClient
  have sentAccounts : (if rotates then
        { clientPatch stored.record desired with secret := desired.secret }
      else clientPatch stored.record desired).serviceAccountsEnabled =
      (clientPatch stored.record desired).serviceAccountsEnabled := by
    cases rotates <;> rfl
  generalize (if rotates then
      { clientPatch stored.record desired with secret := desired.secret }
    else clientPatch stored.record desired) = sent at sentAccounts
  refine attempts_writes fun answer reached came => ?_
  obtain ⟨later, written, changed, answers, foundLater, sameGrants, clientLater, isChanged⟩ :=
    answer_updateClient_stays found client sent
  have soundLater := sound.answer (.updateClient realm key sent)
  rw [answers] at soundLater
  cases answers.symm.trans came
  have present := (StoredRealm.get?_of_client? clientLater).1
  refine (finishes_grantIf soundLater foundLater present findable
    (enablesServiceAccount (clientPatch stored.record desired)) desired.clientId _).mono ?_
  rintro last other ⟨⟨after, foundLast, granted⟩, alike⟩
  refine butGrants_of_written found clientLater sameGrants (fun needed => ?_) foundLast granted
    alike
  have enables : (clientPatch stored.record desired).serviceAccountsEnabled = some true :=
    eq_of_beq needed
  obtain ⟨-, notEnabled⟩ := enablesServiceAccount_iff.1 needed
  refine ⟨?_, ?_⟩
  · rw [hasAccount_iff found, client]
    rintro ⟨otherKey, other, same, enabled⟩
    cases same
    exact notEnabled enabled
  · rw [isChanged, updatedClient, sentAccounts, enables]
    rfl

theorem attempts_rotateSecret {desired : Blueprint.Client} (rotates : Bool)
    (found : store.realms.get? realm = some held) (present : held.clients.get? key = some stored) :
    AttemptsButGrants faults realm (rotateSecret realm key desired rotates) store := by
  unfold rotateSecret
  split
  · next secret _ =>
    refine attempts_writes fun answer later came => ⟨⟨_, rfl⟩, .refl _ later, ?_⟩
    cases (Store.answer_updateClientSecret found present secret).symm.trans came
    exact keepsGrants_of_same found (Store.putRealm_realms_get?_self store realm _) rfl
  · exact attempts_pure ⟨.refl _ store, .refl faults realm store⟩

/-- Finding out about a secret before an attempt is an attempt. -/
theorem attempts_secretDiffers_bind {desired : Blueprint.Client} {next : Bool → Part α}
    {goal : Store → Store → Prop} (goesOn : ∀ rotates, Attempts faults (next rotates) store goal) :
    Attempts faults (secretDiffers realm key desired >>= next) store goal := by
  unfold secretDiffers
  split
  · exact goesOn false
  · rw [bind_assoc]
    exact attempts_reads rfl fun stored _ _ => goesOn _

/-- **Bringing a client to its desired state is an attempt, missed grants apart.** -/
theorem attempts_convergeClient (desired : Blueprint.Client) (sound : store.Sound)
    (found : store.realms.get? realm = some held) :
    AttemptsButGrants faults realm (convergeClient realm desired) store := by
  refine attempts_reads rfl fun current findable replied => ?_
  cases current with
  | none =>
      have unknown : held.client? desired.clientId = none := by
        have answers := congrArg Prod.fst (Store.answer_findClient found desired.clientId)
        exact Option.map_eq_none_iff.1 (Except.ok.inj (answers.symm.trans replied))
      exact attempts_createClient sound found unknown findable
  | some current =>
      obtain ⟨key, stored, client, ownId, rfl⟩ := findClient_eq_ok sound found replied
      dsimp only at ownId ⊢
      rw [ownId]
      refine attempts_secretDiffers_bind fun rotates => ?_
      show Attempts faults (if (changedFields (clientPatch stored.record desired)).isEmpty then
          rotateSecret realm key desired rotates
        else updateClient realm key desired (clientPatch stored.record desired) rotates) _ _
      split
      · exact attempts_rotateSecret rotates found (StoredRealm.get?_of_client? client).1
      · exact attempts_updateClient rotates sound found client findable

/-! ## Accounts under edits -/

/-- What is seen of a client's service account: the record of the client, and its user. -/
def accountView (held : StoredRealm) (clientId : String) : Option (ClientRecord × Option String) :=
  (held.client? clientId).map fun found => (found.2.record, found.2.serviceUser)

theorem hasAccount_iff_view {clientId : String} (found : store.realms.get? realm = some held) :
    HasAccount store realm clientId ↔ ∃ record user,
      accountView held clientId = some (record, user) ∧
        record.serviceAccountsEnabled = some true := by
  rw [hasAccount_iff found]
  constructor
  · rintro ⟨key, client, known, enabled⟩
    exact ⟨client.record, client.serviceUser, by rw [accountView, known]; rfl, enabled⟩
  · rintro ⟨record, user, seen, enabled⟩
    obtain ⟨⟨key, client⟩, known, same⟩ := Option.map_eq_some_iff.1 seen
    cases same
    exact ⟨key, client, known, enabled⟩

theorem isAccountOf_iff_view {clientId user : String}
    (found : store.realms.get? realm = some held) :
    IsAccountOf store realm clientId user ↔
      ∃ record, accountView held clientId = some (record, some user) := by
  constructor
  · rintro ⟨other, key, client, otherFound, known, account⟩
    cases found.symm.trans otherFound
    exact ⟨client.record, by rw [accountView, known, Option.map_some, account]⟩
  · rintro ⟨record, seen⟩
    obtain ⟨⟨key, client⟩, known, same⟩ := Option.map_eq_some_iff.1 seen
    exact ⟨held, key, client, found, known, congrArg Prod.snd same⟩

/-- An edit for something else keeps what is seen of an account. -/
theorem Edit.accountView {item : Item} {clientId : String} (edit : Edit item held after)
    (other : ∀ desired, item = .client desired → desired.clientId ≠ clientId) :
    accountView after clientId = accountView held clientId := by
  unfold Convergence.accountView
  cases edit with
  | realmSet | granted | realmRoleAdded | realmRoleDescribed | compositesAdded | marked => rfl
  | @clientAdded desired _ _ _ _ _ unknown free _ =>
      rw [StoredRealm.client?_putClient_new unknown free (by rfl), if_neg (other desired rfl).symm]
  | @clientChanged desired _ _ _ _ _ _ there _ _ _ =>
      rw [StoredRealm.client?_putClient there (by rfl), if_neg (other desired rfl).symm]
  | clientRoleAdded there _ | clientRoleDescribed there _ _ =>
      rw [StoredRealm.client?_putClient there (by rfl)]
      split
      · next same =>
        rw [same, there]
        rfl
      · rfl

/-- What is seen of an account changes by edits for its client alone. -/
theorem Edits.exists_client {items : List Item} {clientId : String} (edits : Edits items held after)
    (changed : accountView after clientId ≠ accountView held clientId) :
    ∃ desired, .client desired ∈ items ∧ desired.clientId = clientId := by
  refine Classical.byContradiction fun none => changed ?_
  have keeps (item : Item) (member : item ∈ items) (before next : StoredRealm)
      (edit : Edit item before next)
      (same : accountView before clientId = accountView held clientId) :
      accountView next clientId = accountView held clientId := by
    refine (edit.accountView ?_).trans same
    rintro desired rfl isIt
    exact none ⟨desired, member, isIt⟩
  exact edits.keep keeps rfl

section Order

variable {items others : List Item} {between : StoredRealm} {user : String}

/-- Of two parts for items apart from each other, one keeps what is seen of an account. -/
theorem accountView_kept (first : Edits items held between) (second : Edits others between after)
    (apart : ∀ earlier ∈ items, ∀ later ∈ others, Apart earlier later) (clientId : String) :
    accountView between clientId = accountView held clientId ∨
      accountView after clientId = accountView between clientId := by
  by_cases firstKeeps : accountView between clientId = accountView held clientId
  · exact .inl firstKeeps
  · refine .inr (Classical.byContradiction fun secondChanges => ?_)
    obtain ⟨desired, member, isIt⟩ := first.exists_client firstKeeps
    obtain ⟨other, otherMember, otherIsIt⟩ := second.exists_client secondChanges
    exact apart _ member _ otherMember (isIt.trans otherIsIt.symm)

variable (foundStore : store.realms.get? realm = some held)
  (foundLater : later.realms.get? realm = some between)
  (foundLast : last.realms.get? realm = some after)
  (first : Edits items held between) (second : Edits others between after)
  (apart : ∀ earlier ∈ items, ∀ later ∈ others, Apart earlier later)
include foundStore foundLater foundLast first second apart

/-- What the first part opened is opened by both. -/
theorem OpenedFor.of_first (opened : OpenedFor realm store later user) :
    OpenedFor realm store last user := by
  obtain ⟨clientId, ⟨unopened, opened⟩, account⟩ := opened
  rw [hasAccount_iff_view foundLater] at opened
  rw [isAccountOf_iff_view foundLater] at account
  rcases accountView_kept first second apart clientId with same | same
  · rw [hasAccount_iff_view foundStore, ← same] at unopened
    exact absurd opened unopened
  · rw [← same] at opened account
    exact ⟨clientId, ⟨unopened, (hasAccount_iff_view foundLast).2 opened⟩,
      (isAccountOf_iff_view foundLast).2 account⟩

/-- What the second part opened is opened by both. -/
theorem OpenedFor.of_second (opened : OpenedFor realm later last user) :
    OpenedFor realm store last user := by
  obtain ⟨clientId, ⟨unopened, opened⟩, account⟩ := opened
  rw [hasAccount_iff_view foundLater] at unopened
  rcases accountView_kept first second apart clientId with same | same
  · rw [same, ← hasAccount_iff_view foundStore] at unopened
    exact ⟨clientId, ⟨unopened, opened⟩, account⟩
  · rw [hasAccount_iff_view foundLast, same] at opened
    exact absurd opened unopened

theorem KeepsGrants.trans (keeps : KeepsGrants faults realm store later)
    (keepsOn : KeepsGrants faults realm later last) : KeepsGrants faults realm store last := by
  intro before kept foundBefore foundKept user unopened
  have unopenedFirst : ¬(¬GrantsFail faults ∧ OpenedFor realm store later user) :=
    fun ⟨succeeds, opened⟩ => unopened ⟨succeeds,
      opened.of_first foundStore foundLater foundLast first second apart⟩
  have unopenedSecond : ¬(¬GrantsFail faults ∧ OpenedFor realm later last user) :=
    fun ⟨succeeds, opened⟩ => unopened ⟨succeeds,
      opened.of_second foundStore foundLater foundLast first second apart⟩
  exact (keepsOn between kept foundLater foundKept user unopenedSecond).trans
    (keeps before between foundBefore foundLater user unopenedFirst)

end Order

end RealmConvergence.Convergence
