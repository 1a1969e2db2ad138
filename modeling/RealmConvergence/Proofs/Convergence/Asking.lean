import RealmConvergence.Convergence.Run
import RealmConvergence.Proofs.Convergence.Conduct

/-!
# What runs ask

Whoever replies, a run for a blueprint asks about the blueprint's realm alone (`asks_apply`). From
the second pass to the fifth no record of a realm is sent, so the attributes of realms are written
by the first pass and the last (`asks_clientPass`, `asks_realmRolePass`, `asks_clientRolePass`,
`asks_compositePass`). Only the fifth pass adds to composite mappings.

On a service, the other realms therefore stay as they are (`run_elsewhere`).
-/

set_option autoImplicit false

namespace RealmConvergence

/-- Whether a call adds to a composite mapping. -/
def AdminCall.attaches : AdminCall → Bool
  | .addRealmRoleComposites _ _ _ => true
  | _ => false

namespace Convergence

open Service

variable {realm client : String}

/-- The call is about the realm, or about something in it. -/
def About (realm : String) (call : AdminCall) : Prop :=
  call.realm = realm

/-- The call is about something inside the realm, and sends no record of a realm. -/
def Inside (realm : String) (call : AdminCall) : Prop :=
  call.realm = realm ∧ call.sendsRealm = false

/-- The call is inside the realm, and does not add to a composite mapping. -/
def Below (realm : String) (call : AdminCall) : Prop :=
  Inside realm call ∧ call.attaches = false

/-- The call is about the realm, and does not add to a composite mapping. -/
def Aside (realm : String) (call : AdminCall) : Prop :=
  About realm call ∧ call.attaches = false

/-! ## Second pass -/

/-- Reading roles makes calls for single roles alone. -/
theorem asks_readRoles_of {kind : AdminCall → Prop} {owner : String} {names : List String}
    (isKind : ∀ name, kind (.getClientRole realm owner name)) :
    Asks kind (readRoles realm owner names) := by
  induction names with
  | nil => exact asks_pure _
  | cons name rest ih =>
      refine (asks_explained (isKind name)).bind fun _ => ?_
      refine (asks_expect _).bind fun _ => ?_
      exact ih.bind fun _ => asks_pure _

theorem asks_readRoles (owner : String) (names : List String) :
    Asks (Below realm) (readRoles realm owner names) :=
  asks_readRoles_of fun _ => ⟨⟨rfl, rfl⟩, rfl⟩

theorem asks_grantRoles : Asks (Below realm) (grantRoles realm client) := by
  refine (asks_explained ⟨⟨rfl, rfl⟩, rfl⟩).bind fun user => ?_
  refine (asks_expect _).bind fun userId => ?_
  refine (asks_explained ⟨⟨rfl, rfl⟩, rfl⟩).bind fun owner => ?_
  refine (asks_expect _).bind fun _ => ?_
  refine (asks_expect _).bind fun ownerId => ?_
  refine (asks_readRoles ownerId serviceAccountRoles).bind fun granted => ?_
  exact asks_explained ⟨⟨rfl, rfl⟩, rfl⟩

theorem asks_grantIf (needed : Bool) (clientId : String) (findings : Findings) :
    Asks (Below realm) (if needed then do
        let granted ← tolerate (grantToServiceAccount realm client clientId)
        pure (findings ++ granted)
      else pure findings : Part Findings) := by
  cases needed with
  | false => exact asks_pure _
  | true =>
      refine (asks_tolerate ?_).bind fun _ => asks_pure _
      exact Dialogue.AsksOnly.andThen asks_grantRoles fun _ => trivial

theorem asks_createClient (desired : Blueprint.Client) :
    Asks (Below realm) (createClient realm desired) :=
  (asks_explained ⟨⟨rfl, rfl⟩, rfl⟩).bind fun _ => asks_grantIf _ _ _

theorem asks_updateClient (desired : Blueprint.Client) (patch : ClientRecord) (rotates : Bool) :
    Asks (Below realm) (updateClient realm client desired patch rotates) :=
  (asks_explained ⟨⟨rfl, rfl⟩, rfl⟩).bind fun _ => asks_grantIf _ _ _

theorem asks_rotateSecret (desired : Blueprint.Client) (rotates : Bool) :
    Asks (Below realm) (rotateSecret realm client desired rotates) := by
  unfold rotateSecret
  split
  · exact (asks_explained ⟨⟨rfl, rfl⟩, rfl⟩).bind fun _ => asks_pure _
  · exact asks_pure _

theorem asks_secretDiffers (desired : Blueprint.Client) :
    Asks (Below realm) (secretDiffers realm client desired) := by
  unfold secretDiffers
  split
  · exact asks_pure _
  · exact (asks_explained ⟨⟨rfl, rfl⟩, rfl⟩).bind fun _ => asks_pure _

theorem asks_convergeClient (desired : Blueprint.Client) :
    Asks (Below realm) (convergeClient realm desired) := by
  refine (asks_explained ⟨⟨rfl, rfl⟩, rfl⟩).bind fun current => ?_
  dsimp only
  split
  · exact asks_createClient desired
  · split
    · exact asks_throw _
    · refine (asks_secretDiffers desired).bind fun rotates => ?_
      split
      · exact asks_rotateSecret desired rotates
      · exact asks_updateClient desired _ rotates

theorem asks_clientPass (blueprint : Blueprint) :
    Asks (Below blueprint.realm.name) (clientPass blueprint) :=
  asks_forEach fun desired _ => asks_convergeClient desired

/-! ## Third and fourth pass -/

theorem asks_convergeRealmRole (desired : Blueprint.Role) :
    Asks (Below realm) (convergeRealmRole realm desired) := by
  refine (asks_explained ⟨⟨rfl, rfl⟩, rfl⟩).bind fun current => ?_
  split
  · exact (asks_explained ⟨⟨rfl, rfl⟩, rfl⟩).bind fun _ => asks_pure _
  · split
    · exact asks_pure _
    · exact (asks_explained ⟨⟨rfl, rfl⟩, rfl⟩).bind fun _ => asks_pure _

theorem asks_realmRolePass (blueprint : Blueprint) :
    Asks (Below blueprint.realm.name) (realmRolePass blueprint) :=
  asks_forEach fun desired _ => asks_convergeRealmRole desired

theorem asks_convergeClientRole (desired : Blueprint.ClientRole) :
    Asks (Below realm) (convergeClientRole realm client desired) := by
  refine (asks_explained ⟨⟨rfl, rfl⟩, rfl⟩).bind fun current => ?_
  split
  · exact (asks_explained ⟨⟨rfl, rfl⟩, rfl⟩).bind fun _ => asks_pure _
  · split
    · exact asks_pure _
    · exact (asks_explained ⟨⟨rfl, rfl⟩, rfl⟩).bind fun _ => asks_pure _

theorem asks_convergeClientRoles (group : String × List Blueprint.ClientRole) :
    Asks (Below realm) (convergeClientRoles realm group) := by
  refine (asks_explained ⟨⟨rfl, rfl⟩, rfl⟩).bind fun current => ?_
  split
  · exact asks_pure _
  · exact asks_forEach fun desired _ => asks_convergeClientRole desired

theorem asks_clientRolePass (blueprint : Blueprint) :
    Asks (Below blueprint.realm.name) (clientRolePass blueprint) :=
  asks_forEach fun group _ => asks_convergeClientRoles group

/-! ## Fifth pass -/

theorem asks_resolveRoles (mapping : Blueprint.Composite) (names : List String) :
    Asks (Below realm) (resolveRoles realm client mapping names) := by
  induction names with
  | nil => exact asks_pure _
  | cons name rest ih =>
      refine (asks_explained ⟨⟨rfl, rfl⟩, rfl⟩).bind fun found => ?_
      refine ih.bind fun others => ?_
      dsimp only
      split <;> exact asks_pure _

theorem asks_attachRoles (mapping : Blueprint.Composite) (missing : List String) :
    Asks (Inside realm) (attachRoles realm client mapping missing) := by
  refine ((asks_resolveRoles mapping missing).mono fun _ => And.left).bind fun resolved => ?_
  dsimp only
  split
  · exact asks_pure _
  · exact (asks_explained ⟨rfl, rfl⟩).bind fun _ => asks_pure _

theorem asks_convergeComposite (mapping : Blueprint.Composite) :
    Asks (Inside realm) (convergeComposite realm mapping) := by
  refine (asks_explained ⟨rfl, rfl⟩).bind fun role => ?_
  dsimp only
  split
  · exact asks_pure _
  · refine (asks_explained ⟨rfl, rfl⟩).bind fun current => ?_
    split
    · exact asks_pure _
    · refine (asks_explained ⟨rfl, rfl⟩).bind fun attached => ?_
      split
      · exact asks_pure _
      · exact asks_attachRoles mapping _

theorem asks_compositePass (blueprint : Blueprint) :
    Asks (Inside blueprint.realm.name) (compositePass blueprint) :=
  asks_forEach fun mapping _ => asks_convergeComposite mapping

/-! ## Whole runs -/

theorem asks_realmPass (desired : Blueprint.Realm) :
    Asks (Aside desired.name) (realmPass desired) := by
  refine (asks_explained ⟨rfl, rfl⟩).bind fun current => ?_
  dsimp only
  split
  · exact (asks_explained ⟨rfl, rfl⟩).bind fun _ => asks_pure _
  · split
    · exact asks_pure _
    · exact (asks_explained ⟨rfl, rfl⟩).bind fun _ => asks_pure _

theorem asks_markerPass : Asks (Aside realm) (markerPass realm) := by
  refine (asks_explained ⟨rfl, rfl⟩).bind fun current => ?_
  dsimp only
  split
  · exact asks_throw _
  · split
    · exact asks_pure _
    · exact (asks_explained ⟨rfl, rfl⟩).bind fun _ => asks_pure _

/-- **Whoever replies, a run asks about its own realm alone.** -/
theorem asks_apply (blueprint : Blueprint) :
    Asks (About blueprint.realm.name) (apply blueprint) := by
  have below {part : Part Findings} (asks : Asks (Below blueprint.realm.name) part) :
      Asks (About blueprint.realm.name) part := asks.mono fun _ isBelow => isBelow.1.1
  have aside {part : Part Findings} (asks : Asks (Aside blueprint.realm.name) part) :
      Asks (About blueprint.realm.name) part := asks.mono fun _ => And.left
  unfold apply
  split
  · exact asks_throw _
  · refine Asks.bind ?_ fun findings => asks_pure _
    refine (aside (asks_realmPass blueprint.realm)).bind fun _ => ?_
    refine (below (asks_clientPass blueprint)).bind fun _ => ?_
    refine (below (asks_realmRolePass blueprint)).bind fun _ => ?_
    refine (below (asks_clientRolePass blueprint)).bind fun _ => ?_
    refine ((asks_compositePass blueprint).mono fun _ => And.left).bind fun _ => ?_
    exact (aside asks_markerPass).bind fun _ => asks_pure _

/-- A run leaves every other realm of a service as it is. -/
theorem run_elsewhere (blueprint : Blueprint) (faults : Faults) (store : Store) {other : String}
    (different : other ≠ blueprint.realm.name) :
    ((apply blueprint).run.run (respond faults) store).2.realms.get? other =
      store.realms.get? other := by
  have keeps (call : AdminCall) (before : Store) (about : About blueprint.realm.name call)
      (same : before.realms.get? other = store.realms.get? other) :
      (respond faults call before).2.realms.get? other = store.realms.get? other := by
    refine respond_keeps (fun later => later.realms.get? other = store.realms.get? other) same ?_
    have elsewhere : other ≠ call.realm := fun isIt => different (isIt.trans about)
    rw [Store.answer_elsewhere before call elsewhere]
    exact same
  exact Dialogue.AsksOnly.run_keeps keeps (asks_apply blueprint) rfl

end Convergence

end RealmConvergence
