import RealmConvergence.Proofs.Convergence.ClientPatch

/-!
# The law of client patches

A patch sends a field of a client exactly if the field differs from what is desired
(`sendsWhatDiffers_clientPatch`). What an absent field counts as is the same for every service, and
lists count as sets. So whatever else would leave nothing to patch sends at least these fields
(`changedFields_sublist_of_settled`).

Services differ in what they make of attributes. One writes those it is sent over those it holds,
another holds those it is sent and no others. A patch carries the attributes that are held already,
so both services come to hold the same (`overwritten_clientPatch_alike`): nothing is left to patch,
and attributes that are not desired stay. The law as a whole is `clientPatch_law`.
-/

set_option autoImplicit false

namespace RealmConvergence.Convergence

open Service (updatedClient)

/-! ## Services -/

/-- What a service makes of attributes that it is sent. -/
inductive Taking where
  /-- They are written over those it holds. -/
  | merging
  /-- They stand in place of those it holds. -/
  | replacing

/-- The attributes that are held after some were sent. -/
def Taking.attributes : Taking → Table String → Table String → Table String
  | .merging, held, sent => held.override sent
  | .replacing, _, sent => sent

/-- A client after an update: every field that was sent stands over the one that was held. -/
def overwritten (taking : Taking) (held sent : ClientRecord) : ClientRecord where
  id := sent.id.or held.id
  clientId := sent.clientId.or held.clientId
  enabled := sent.enabled.or held.enabled
  protocol := sent.protocol.or held.protocol
  publicClient := sent.publicClient.or held.publicClient
  serviceAccountsEnabled := sent.serviceAccountsEnabled.or held.serviceAccountsEnabled
  redirectUris := sent.redirectUris.or held.redirectUris
  webOrigins := sent.webOrigins.or held.webOrigins
  attributes := (sent.attributes.map (taking.attributes (held.attributes.getD ∅))).or
    held.attributes
  secret := sent.secret.or held.secret

/-- An update that does not rename a client overwrites it, and attributes are merged. -/
theorem updatedClient_eq_overwritten {held sent : ClientRecord} (sameId : sent.id = none)
    (sameClientId : sent.clientId = none) :
    updatedClient held sent = overwritten .merging held sent := by
  unfold updatedClient overwritten
  rw [sameId, sameClientId]
  cases sent.attributes <;> rfl

/-! ## What is sent -/

/-- A field is sent exactly if it is wrong, and then as it should be. -/
def SentIf {α : Type} (wrong : Prop) (right : α) (sent : Option α) : Prop :=
  (wrong → sent = some right) ∧ (¬wrong → sent = none)

section SentIf

variable {α β : Type} {wrong : Prop} {right : α} {sent : Option α}

theorem sentIf_differing [DecidableEq α] (current desired : α) :
    SentIf (current ≠ desired) desired (differing current desired) :=
  ⟨fun different => if_neg different,
    fun same => differing_eq_none_iff.2 (Classical.not_not.1 same)⟩

theorem SentIf.map (sends : SentIf wrong right sent) (encode : α → β) :
    SentIf wrong (encode right) (sent.map encode) :=
  ⟨fun isWrong => by rw [sends.1 isWrong, Option.map_some],
    fun isRight => by rw [sends.2 isRight, Option.map_none]⟩

theorem SentIf.congr {faulty : Prop} (sends : SentIf wrong right sent) (same : wrong ↔ faulty) :
    SentIf faulty right sent :=
  propext same ▸ sends

theorem sentIf_patchedAttributes (remote desired : Table String) :
    SentIf (¬Covers remote desired) (remote.override desired)
      (patchedAttributes remote desired) := by
  constructor
  · intro uncovered
    exact if_neg fun nothing => uncovered (changedKeys_eq_nil_iff.1 (List.isEmpty_iff.1 nothing))
  · exact fun covered => patchedAttributes_eq_none_iff.2 (Classical.not_not.1 covered)

theorem SentIf.absent_or (sends : SentIf wrong right sent) : sent = none ∨ sent = some right := by
  by_cases isWrong : wrong
  · exact .inr (sends.1 isWrong)
  · exact .inl (sends.2 isWrong)

end SentIf

/-- A list has the names of a set, in whatever order and however often. -/
def ListsExactly (listed : List String) (names : NameSet) : Prop :=
  ∀ name, name ∈ listed ↔ names.contains name = true

theorem listsExactly_iff {listed : List String} {names : NameSet} :
    ListsExactly listed names ↔ NameSet.ofList listed = names := by
  constructor
  · intro exact
    refine NameSet.ext_contains fun name => ?_
    rw [NameSet.contains_ofList, Bool.eq_iff_iff, List.contains_iff_mem, exact name]
  · rintro rfl name
    rw [NameSet.contains_ofList, List.contains_iff_mem]

/-- A patch sends what differs from the declaration, as the declaration has it, and nothing else. -/
structure SendsWhatDiffers (current : ClientRecord) (desired : Blueprint.Client)
    (patch : ClientRecord) : Prop where
  /-- A client without a protocol has the default one. -/
  protocol : SentIf (current.protocol.getD defaultProtocol ≠ desired.protocol)
    desired.protocol patch.protocol
  /-- A client that does not say so is not public. -/
  publicClient : SentIf (current.publicClient.getD false ≠ desired.isPublic)
    desired.isPublic patch.publicClient
  /-- A client that does not say so has no user of its own. -/
  serviceAccounts : SentIf (current.serviceAccountsEnabled.getD false ≠ desired.serviceAccount)
    desired.serviceAccount patch.serviceAccountsEnabled
  /-- Addresses are compared without their order. -/
  redirectUris : SentIf (¬ListsExactly (current.redirectUris.getD []) desired.redirectUris)
    desired.redirectUris.toList patch.redirectUris
  /-- So are origins. -/
  webOrigins : SentIf (¬ListsExactly (current.webOrigins.getD []) desired.webOrigins)
    desired.webOrigins.toList patch.webOrigins
  /-- Attributes are sent if a desired one is missing or has another value. -/
  attributes : SentIf
    (∃ key value, desired.attributes.get? key = some value ∧
      (current.attributes.getD ∅).get? key ≠ some value)
    ((current.attributes.getD ∅).override desired.attributes) patch.attributes
  /-- The names of the client, whether it is enabled, and its secret are not sent. -/
  nothingElse : patch.id = none ∧ patch.clientId = none ∧ patch.enabled = none ∧
    patch.secret = none

theorem sendsWhatDiffers_clientPatch (current : ClientRecord) (desired : Blueprint.Client) :
    SendsWhatDiffers current desired (clientPatch current desired) where
  protocol := sentIf_differing _ _
  publicClient := sentIf_differing _ _
  serviceAccounts := sentIf_differing _ _
  redirectUris :=
    ((sentIf_differing current.redirectUriSet desired.redirectUris).map NameSet.toList).congr
      (not_congr listsExactly_iff.symm)
  webOrigins :=
    ((sentIf_differing current.webOriginSet desired.webOrigins).map NameSet.toList).congr
      (not_congr listsExactly_iff.symm)
  attributes := (sentIf_patchedAttributes _ _).congr (by
    simp only [Covers, Classical.not_forall, exists_prop, ne_eq])
  nothingElse := ⟨rfl, rfl, rfl, rfl⟩

/-! ## What is named as changed -/

/-- A field is named exactly if it is a member of what is sent. -/
theorem map_fst_wireMember {α : Type} (name : String) (encode : α → Json) (value : Option α) :
    (wireMember name encode value).map Prod.fst = if value.isSome then [name] else [] := by
  cases value <;> rfl

/-- The fields that are named as changed are the members of the patch on the wire, in order. -/
theorem changedFields_clientPatch_eq_members (current : ClientRecord)
    (desired : Blueprint.Client) :
    ∃ members, (clientPatch current desired).toJson = .object members ∧
      members.map Prod.fst = changedFields (clientPatch current desired) := by
  refine ⟨_, rfl, ?_⟩
  obtain ⟨noId, noClientId, unsaid, noSecret⟩ :=
    (sendsWhatDiffers_clientPatch current desired).nothingElse
  simp only [List.map_append, map_fst_wireMember, changedFields, noId, noClientId, unsaid, noSecret,
    Option.isSome_none, Bool.false_eq_true, if_false, List.nil_append, List.append_nil]

theorem changedFields_clientPatch_eq_nil_iff_empty {current : ClientRecord}
    {desired : Blueprint.Client} :
    changedFields (clientPatch current desired) = [] ↔ clientPatch current desired = {} := by
  constructor
  · exact fun nothing => clientPatch_of_fits (changedFields_clientPatch_eq_nil_iff.1 nothing)
  · intro empty
    rw [empty]
    rfl

/-- Where the one field is absent if the other is, its name is listed only if the other's is. -/
theorem named_sublist {α : Type} (name : String) {one other : Option α}
    (absent : other = none → one = none) :
    (if one.isSome then [name] else []).Sublist (if other.isSome then [name] else []) := by
  cases other with
  | none =>
      obtain rfl : one = none := absent rfl
      exact .refl _
  | some value => cases one <;> simp

/-- A field that is not sent stays as it was, so where that is as desired, it was so before. -/
theorem differing_eq_none_of_kept {α β : Type} [DecidableEq β] (read : Option α → β)
    {current sent : Option α} {desired : β} (settled : read (sent.or current) = desired)
    (absent : sent = none) : differing (read current) desired = none := by
  rw [absent, Option.none_or] at settled
  exact differing_eq_none_iff.2 settled

/-- **No patch does with less:** whatever leaves nothing to patch sends every field that the patch
sends. -/
theorem changedFields_sublist_of_settled {taking : Taking} {current sent : ClientRecord}
    {desired : Blueprint.Client} (settled : Fits (overwritten taking current sent) desired) :
    (changedFields (clientPatch current desired)).Sublist (changedFields sent) := by
  have protocol := differing_eq_none_of_kept (·.getD defaultProtocol) settled.protocol
  have publicClient := differing_eq_none_of_kept (·.getD false) settled.publicClient
  have serviceAccounts := differing_eq_none_of_kept (·.getD false) settled.serviceAccounts
  have redirectUris := fun absent => Option.map_eq_none_iff (f := NameSet.toList) |>.2
    (differing_eq_none_of_kept (NameSet.ofList <| ·.getD []) settled.redirectUris absent)
  have webOrigins := fun absent => Option.map_eq_none_iff (f := NameSet.toList) |>.2
    (differing_eq_none_of_kept (NameSet.ofList <| ·.getD []) settled.webOrigins absent)
  have attributes : sent.attributes = none →
      patchedAttributes (current.attributes.getD ∅) desired.attributes = none := by
    intro absent
    have covered := settled.attributes
    simp only [overwritten, absent, Option.map_none, Option.none_or] at covered
    exact patchedAttributes_eq_none_iff.2 covered
  exact (((((named_sublist "protocol" protocol).append
    (named_sublist "publicClient" publicClient)).append
    (named_sublist "serviceAccountsEnabled" serviceAccounts)).append
    (named_sublist "redirectUris" redirectUris)).append
    (named_sublist "webOrigins" webOrigins)).append (named_sublist "attributes" attributes)

/-! ## What a patch leads to -/

section Patched

variable (taking : Taking) (current : ClientRecord) (desired : Blueprint.Client)

/-- Attributes that are held already change nothing when they are written again. -/
theorem override_override (held added : Table String) :
    held.override (held.override added) = held.override added := by
  refine Table.ext_get? fun key => ?_
  rw [Table.get?_override, Table.get?_override, Option.or_assoc, Option.or_self]

/-- **A patched client is the same with every service.** -/
theorem overwritten_clientPatch_alike :
    overwritten taking current (clientPatch current desired) =
      updatedClient current (clientPatch current desired) := by
  rw [updatedClient_eq_overwritten rfl rfl]
  cases taking with
  | merging => rfl
  | replacing =>
      rcases (sendsWhatDiffers_clientPatch current desired).attributes.absent_or with absent | sent
      · simp only [overwritten, absent, Option.map_none, Option.none_or]
      · simp only [overwritten, sent, Option.map_some, Taking.attributes, override_override]

theorem fits_overwritten_clientPatch :
    Fits (overwritten taking current (clientPatch current desired)) desired := by
  rw [overwritten_clientPatch_alike]
  exact fits_updatedClient current desired none

/-- Attributes that are not desired stay. -/
theorem get?_overwritten_of_unlisted {key : String}
    (unlisted : desired.attributes.get? key = none) :
    ((overwritten taking current (clientPatch current desired)).attributes.getD ∅).get? key =
      (current.attributes.getD ∅).get? key := by
  rw [overwritten_clientPatch_alike, updatedClient_eq_overwritten rfl rfl]
  rcases (sendsWhatDiffers_clientPatch current desired).attributes.absent_or with absent | sent
  · simp only [overwritten, absent, Option.map_none, Option.none_or]
  · simp only [overwritten, sent, Option.map_some, Option.some_or, Option.getD_some,
      Taking.attributes, override_override, Table.get?_override, unlisted, Option.none_or]

end Patched

/-! ## The law -/

/-- What the patch of a client for a declaration is like. -/
structure PatchLaw (current : ClientRecord) (desired : Blueprint.Client) : Prop where
  /-- Nothing is named as changed exactly if nothing is sent. -/
  empty : changedFields (clientPatch current desired) = [] ↔ clientPatch current desired = {}
  /-- What is named as changed is what stands in the request. -/
  members : ∃ members, (clientPatch current desired).toJson = .object members ∧
    members.map Prod.fst = changedFields (clientPatch current desired)
  /-- What differs is sent, and nothing else. -/
  sends : SendsWhatDiffers current desired (clientPatch current desired)
  /-- Whatever leaves nothing to patch sends at least as much. -/
  least : ∀ taking sent, clientPatch (overwritten taking current sent) desired = {} →
    (changedFields (clientPatch current desired)).Sublist (changedFields sent)
  /-- The patch leaves nothing to patch. -/
  settles : ∀ taking,
    changedFields (clientPatch (overwritten taking current (clientPatch current desired)) desired) =
      [] ∧ clientPatch (overwritten taking current (clientPatch current desired)) desired = {}
  /-- Attributes that are not desired stay, and none is added to them. -/
  keeps : ∀ taking key, desired.attributes.get? key = none →
    ((overwritten taking current (clientPatch current desired)).attributes.getD ∅).get? key =
      (current.attributes.getD ∅).get? key
  /-- It does not matter what the service makes of attributes. -/
  alike : overwritten .merging current (clientPatch current desired) =
    overwritten .replacing current (clientPatch current desired)
  /-- The service that is modelled merges them. -/
  served : updatedClient current (clientPatch current desired) =
    overwritten .merging current (clientPatch current desired)

/-- **The patch of any client for any declaration sends what differs, the least that leaves nothing
to patch, and loses no attribute, with every service.** -/
theorem clientPatch_law (current : ClientRecord) (desired : Blueprint.Client) :
    PatchLaw current desired where
  empty := changedFields_clientPatch_eq_nil_iff_empty
  members := changedFields_clientPatch_eq_members current desired
  sends := sendsWhatDiffers_clientPatch current desired
  least _ _ nothing := changedFields_sublist_of_settled
    (changedFields_clientPatch_eq_nil_iff.1 (changedFields_clientPatch_eq_nil_iff_empty.2 nothing))
  settles taking := by
    have fits := fits_overwritten_clientPatch taking current desired
    exact ⟨changedFields_clientPatch_eq_nil_iff.2 fits, clientPatch_of_fits fits⟩
  keeps taking _ unlisted := get?_overwritten_of_unlisted taking current desired unlisted
  alike := by rw [overwritten_clientPatch_alike, overwritten_clientPatch_alike]
  served := updatedClient_eq_overwritten rfl rfl

/-- Addresses in another order, one of them twice, and an attribute that is not desired. -/
example : clientPatch
    { redirectUris := some ["/b", "/a", "/b"]
      attributes := some (Table.ofList [("theme", "dark")]) }
    { clientId := "portal", redirectUris := NameSet.ofList ["/a", "/b"] } = {} := by decide

end RealmConvergence.Convergence
