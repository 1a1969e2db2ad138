import RealmConvergence.Convergence.ClientPatch
import RealmConvergence.Proofs.Collection.Table
import RealmConvergence.Service.Answering

/-!
# Patches bring clients to what is desired

A client fits a declaration when nothing is left to patch (`changedFields_clientPatch_eq_nil_iff`).
A client fits after it was created for the declaration (`fits_newClientRecord`) and after a patch
for the declaration was applied to it, with a new secret or without (`fits_updatedClient`).
-/

set_option autoImplicit false

namespace RealmConvergence.Convergence

open Service (newClientRecord updatedClient)

/-! ## Attributes -/

/-- Every desired attribute is there with its desired value. -/
def Covers (remote desired : Table String) : Prop :=
  ∀ key value, desired.get? key = some value → remote.get? key = some value

theorem changedKeys_eq_nil_iff {remote desired : Table String} :
    changedKeys remote desired = [] ↔ Covers remote desired := by
  simp only [changedKeys, List.map_eq_nil_iff, List.filter_eq_nil_iff, decide_eq_true_eq,
    Prod.forall, Table.mem_toList_iff, ne_eq, Classical.not_not, Covers]

/-- Attributes that are sent over those that were read to make the patch cover what is desired. -/
theorem covers_patched (remote desired : Table String) :
    Covers (remote.override ((patchedAttributes remote desired).getD ∅)) desired := by
  intro key value held
  unfold patchedAttributes
  split
  · next nothing =>
    have covered : Covers remote desired :=
      changedKeys_eq_nil_iff.1 (List.isEmpty_iff.1 nothing)
    rw [Option.getD_none, Table.get?_override, covered key value held]
    rfl
  · rw [Option.getD_some, Table.get?_override, Table.get?_override, held, Option.some_or,
      Option.some_or]

/-- Attributes that are not desired keep their values under a patch. -/
theorem get?_patched_of_unlisted (remote : Table String) {desired : Table String} {key : String}
    (unlisted : desired.get? key = none) :
    (remote.override ((patchedAttributes remote desired).getD ∅)).get? key = remote.get? key := by
  unfold patchedAttributes
  rw [Table.get?_override]
  split
  · rfl
  · rw [Option.getD_some, Table.get?_override, unlisted, Option.none_or, Option.or_self]

theorem patchedAttributes_eq_none_iff {remote desired : Table String} :
    patchedAttributes remote desired = none ↔ Covers remote desired := by
  unfold patchedAttributes
  rw [← changedKeys_eq_nil_iff, ← List.isEmpty_iff]
  split
  · next nothing => simp only [nothing]
  · next something => simp only [something, reduceCtorEq]

/-! ## Single fields -/

section Differing

variable {α : Type} [DecidableEq α]

theorem differing_eq_none_iff {current desired : α} :
    differing current desired = none ↔ current = desired := by
  unfold differing
  split
  · next same => simp only [same]
  · next different => simp only [different, reduceCtorEq]

/-- A field with its patch has the desired value, where an absent field counts as the default. -/
theorem getD_differing_or (current : Option α) (default desired : α) :
    ((differing (current.getD default) desired).or current).getD default = desired := by
  unfold differing
  split
  · next same => rw [Option.none_or, same]
  · rw [Option.some_or, Option.getD_some]

end Differing

/-- A list with its patch has the desired names. -/
theorem ofList_differing_or (current : Option (List String)) (desired : NameSet) :
    NameSet.ofList ((((differing (NameSet.ofList (current.getD [])) desired).map NameSet.toList).or
      current).getD []) = desired := by
  unfold differing
  split
  · next same => rw [Option.map_none, Option.none_or, same]
  · rw [Option.map_some, Option.some_or, Option.getD_some, NameSet.ofList_toList]

/-! ## Clients -/

/-- A client has what its declaration desires, the secret apart. -/
structure Fits (record : ClientRecord) (desired : Blueprint.Client) : Prop where
  protocol : record.protocol.getD defaultProtocol = desired.protocol
  publicClient : record.publicClient.getD false = desired.isPublic
  serviceAccounts : record.serviceAccountsEnabled.getD false = desired.serviceAccount
  redirectUris : record.redirectUriSet = desired.redirectUris
  webOrigins : record.webOriginSet = desired.webOrigins
  attributes : Covers (record.attributes.getD ∅) desired.attributes

/-- A field is not named exactly when it is absent. -/
theorem named_eq_nil_iff {α : Type} (name : String) (value : Option α) :
    (if value.isSome then [name] else []) = [] ↔ value = none := by
  cases value <;> simp

/-- **Nothing is to be patched exactly when the client fits.** -/
theorem changedFields_clientPatch_eq_nil_iff {record : ClientRecord} {desired : Blueprint.Client} :
    changedFields (clientPatch record desired) = [] ↔ Fits record desired := by
  simp only [changedFields, List.append_eq_nil_iff, named_eq_nil_iff]
  simp only [clientPatch, differing_eq_none_iff, Option.map_eq_none_iff,
    patchedAttributes_eq_none_iff]
  constructor
  · rintro ⟨⟨⟨⟨⟨protocol, publicClient⟩, serviceAccounts⟩, redirectUris⟩, webOrigins⟩, attributes⟩
    exact ⟨protocol, publicClient, serviceAccounts, redirectUris, webOrigins, attributes⟩
  · intro fits
    exact ⟨⟨⟨⟨⟨fits.protocol, fits.publicClient⟩, fits.serviceAccounts⟩, fits.redirectUris⟩,
      fits.webOrigins⟩, fits.attributes⟩

/-- The patch of a client that fits is empty. -/
theorem clientPatch_of_fits {record : ClientRecord} {desired : Blueprint.Client}
    (fits : Fits record desired) : clientPatch record desired = {} := by
  simp only [clientPatch, differing_eq_none_iff.2 fits.protocol,
    differing_eq_none_iff.2 fits.publicClient, differing_eq_none_iff.2 fits.serviceAccounts,
    differing_eq_none_iff.2 fits.redirectUris, differing_eq_none_iff.2 fits.webOrigins,
    patchedAttributes_eq_none_iff.2 fits.attributes, Option.map_none]

/-- A patch enables a service account exactly where one is desired and none is enabled. -/
theorem enablesServiceAccount_iff {record : ClientRecord} {desired : Blueprint.Client} :
    enablesServiceAccount (clientPatch record desired) = true ↔
      desired.serviceAccount = true ∧ record.serviceAccountsEnabled ≠ some true := by
  show (differing (record.serviceAccountsEnabled.getD false) desired.serviceAccount == some true) =
    true ↔ _
  generalize record.serviceAccountsEnabled = enabled
  generalize desired.serviceAccount = wanted
  cases wanted <;> rcases enabled with _ | _ | _ <;> decide

/-- A patched client fits, whatever secret is sent along. -/
theorem fits_updatedClient (record : ClientRecord) (desired : Blueprint.Client)
    (secret : Option String) :
    Fits (updatedClient record { clientPatch record desired with secret }) desired where
  protocol := getD_differing_or record.protocol defaultProtocol desired.protocol
  publicClient := getD_differing_or record.publicClient false desired.isPublic
  serviceAccounts := getD_differing_or record.serviceAccountsEnabled false desired.serviceAccount
  redirectUris := ofList_differing_or record.redirectUris desired.redirectUris
  webOrigins := ofList_differing_or record.webOrigins desired.webOrigins
  attributes := by
    have covered := covers_patched (record.attributes.getD ∅) desired.attributes
    simp only [updatedClient, clientPatch]
    cases patched : patchedAttributes (record.attributes.getD ∅) desired.attributes with
    | none => exact patchedAttributes_eq_none_iff.1 patched
    | some sent =>
        rw [patched] at covered
        exact covered

/-- A client that was created for a declaration fits it. -/
theorem fits_newClientRecord (key generatedSecret : String) (desired : Blueprint.Client) :
    Fits (newClientRecord key generatedSecret (newClient desired)) desired where
  protocol := rfl
  publicClient := rfl
  serviceAccounts := rfl
  redirectUris := NameSet.ofList_toList desired.redirectUris
  webOrigins := NameSet.ofList_toList desired.webOrigins
  attributes _ _ held := held

/-! ## Secrets -/

/-- The desired secret, where there is one, is the stored one. -/
def KeepsSecret (record : ClientRecord) (desired : Blueprint.Client) : Prop :=
  ∀ secret, desired.secret = some secret → record.secret = some secret

theorem keepsSecret_newClientRecord (key generatedSecret : String) (desired : Blueprint.Client) :
    KeepsSecret (newClientRecord key generatedSecret (newClient desired)) desired := by
  intro secret given
  simp only [newClientRecord, newClient, given, Option.getD_some]
  split <;> rfl

/-- The secret that is sent along with a patch. -/
def sentSecret (desired : Blueprint.Client) (rotates : Bool) : Option String :=
  if rotates then desired.secret else none

theorem sentSecret_given (desired : Blueprint.Client) (rotates : Bool) :
    sentSecret desired rotates = none ∨ sentSecret desired rotates = desired.secret := by
  cases rotates with
  | false => exact .inl rfl
  | true => exact .inr rfl

/-- A patch tells no secret by itself, so the one that is sent along is all it tells. -/
theorem patch_eq_withSentSecret (record : ClientRecord) (desired : Blueprint.Client)
    (rotates : Bool) :
    (if rotates then { clientPatch record desired with secret := desired.secret }
      else clientPatch record desired) =
      { clientPatch record desired with secret := sentSecret desired rotates } := by
  cases rotates <;> rfl

/-- A patched client has the desired secret, if it is sent along or was there before. -/
theorem keepsSecret_updatedClient {record : ClientRecord} {desired : Blueprint.Client}
    {rotates : Bool} (kept : rotates = false → KeepsSecret record desired) :
    KeepsSecret (updatedClient record
      { clientPatch record desired with secret := sentSecret desired rotates }) desired := by
  intro secret given
  cases rotates with
  | false => exact kept rfl secret given
  | true =>
      simp only [updatedClient, sentSecret, if_true, given, Option.some_or]

/-- A client fits whatever its secret is. -/
theorem Fits.withSecret {record : ClientRecord} {desired : Blueprint.Client}
    (fits : Fits record desired) {secret : Option String} :
    Fits { record with secret } desired where
  protocol := fits.protocol
  publicClient := fits.publicClient
  serviceAccounts := fits.serviceAccounts
  redirectUris := fits.redirectUris
  webOrigins := fits.webOrigins
  attributes := fits.attributes

/-- To a client that fits, a patch with a secret brings that secret alone. -/
theorem updatedClient_of_fits {record : ClientRecord} {desired : Blueprint.Client}
    (fits : Fits record desired) (secret : String) :
    updatedClient record { clientPatch record desired with secret := some secret } =
      { record with secret := some secret } := by
  rw [clientPatch_of_fits fits]
  rfl

end RealmConvergence.Convergence
