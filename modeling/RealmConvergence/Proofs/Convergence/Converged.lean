import RealmConvergence.Blueprint.Samples
import RealmConvergence.Proofs.Convergence.Run
import RealmConvergence.Service.Inspection

/-!
# Runs converge

Without faults, applying a blueprint without a violation to a service that can be reached comes to
a report, and the service then has everything that the blueprint desires, as it can be seen from
outside (`apply_converges`).
-/

set_option autoImplicit false

namespace RealmConvergence.Convergence

open Service

variable {blueprint : Blueprint} {faults : Faults} {store : Store} {held : StoredRealm}

/-! ## What a blueprint desires, seen from outside -/

/-- A client has every desired field. -/
structure ClientConverged (record : ClientRecord) (desired : Blueprint.Client) : Prop where
  protocol : record.protocol = some desired.protocol
  publicClient : record.publicClient = some desired.isPublic
  serviceAccounts : record.serviceAccountsEnabled = some desired.serviceAccount
  redirectUris : record.redirectUriSet = desired.redirectUris
  webOrigins : record.webOriginSet = desired.webOrigins
  attributes : ∀ key value, desired.attributes.get? key = some value →
    record.attributes.bind (·.get? key) = some value
  secret : ∀ secret, desired.secret = some secret → record.secret = some secret

/-- The service has everything that a blueprint desires, and its realm is marked as finished. -/
structure Converged (blueprint : Blueprint) (store : Store) : Prop where
  realm : ∃ record, store.realm? blueprint.realm.name = some record ∧
    record.enabled = some blueprint.realm.enabled ∧
    (∀ key value, blueprint.realm.managedAttributes.get? key = some value →
      record.attribute? key = some value) ∧
    markerIsSet (record.attribute? initializedMarker) = true
  clients : ∀ desired ∈ blueprint.clients, ∃ record,
    store.client? blueprint.realm.name desired.clientId = some record ∧
      ClientConverged record desired
  realmRoles : ∀ desired ∈ blueprint.realmRoles, ∃ record,
    store.realmRole? blueprint.realm.name desired.name = some record ∧
      ∀ description, desired.description = some description →
        record.description = some description
  clientRoles : ∀ desired ∈ blueprint.clientRoles,
    (store.client? blueprint.realm.name desired.clientId).isSome → ∃ record,
      store.clientRole? blueprint.realm.name desired.clientId desired.name = some record ∧
        ∀ description, desired.description = some description →
          record.description = some description

/-! ## From settled items -/

/-- An absent field counts as its default, so a present one with the desired value holds it. -/
theorem eq_some_of_getD_eq {α : Type} {field : Option α} {default desired : α}
    (present : field.isSome) (same : field.getD default = desired) : field = some desired := by
  obtain ⟨value, rfl⟩ := Option.isSome_iff_exists.1 present
  exact congrArg some same

/-- In a sound realm, a client that fits and keeps its secret has every desired field. -/
theorem clientConverged_of_fits {drawn : Nat} {key : String} {stored : StoredClient}
    {desired : Blueprint.Client} (sound : stored.Sound drawn key)
    (fits : Fits stored.record desired) (keepsSecret : KeepsSecret stored.record desired) :
    ClientConverged stored.record desired where
  protocol := eq_some_of_getD_eq sound.protocol fits.protocol
  publicClient := eq_some_of_getD_eq sound.publicClient fits.publicClient
  serviceAccounts := eq_some_of_getD_eq sound.serviceAccounts fits.serviceAccounts
  redirectUris := fits.redirectUris
  webOrigins := fits.webOrigins
  attributes key value wanted := by
    have covered := fits.attributes key value wanted
    cases present : stored.record.attributes with
    | none =>
        rw [present] at covered
        cases covered
    | some attributes =>
        rw [present] at covered
        exact covered
  secret := keepsSecret

/-- **A sound store in which every item is settled has everything that the blueprint desires.** -/
theorem converged_of_settled (sound : store.Sound)
    (found : store.realms.get? blueprint.realm.name = some held)
    (settled : ∀ item ∈ blueprint.items, Settled item held) : Converged blueprint store where
  realm := by
    obtain ⟨enabled, covers⟩ := settled _ (realm_mem_items_iff.2 rfl)
    refine ⟨held.record blueprint.realm.name, by rw [Store.realm?, found]; rfl,
      congrArg some enabled, covers, settled _ (marker_mem_items blueprint)⟩
  clients desired listed := by
    obtain ⟨key, stored, there, fits, keepsSecret⟩ := settled _ (client_mem_items_iff.2 listed)
    obtain ⟨present, -⟩ := StoredRealm.get?_of_client? there
    refine ⟨stored.record, ?_, clientConverged_of_fits
      ((sound _ held found).clients.each key stored present) fits keepsSecret⟩
    rw [Store.client?, found, Option.bind_some, there]
    rfl
  realmRoles desired listed := by
    obtain ⟨stored, there, described⟩ := settled _ (realmRole_mem_items_iff.2 listed)
    refine ⟨stored, ?_, described⟩
    rw [Store.realmRole?, found, Option.bind_some, there]
  clientRoles desired listed known := by
    rw [Store.client?, found, Option.bind_some, Option.isSome_map] at known
    obtain ⟨⟨key, owner⟩, there⟩ := Option.isSome_iff_exists.1 known
    obtain ⟨stored, roleThere, described⟩ :=
      settled _ (clientRole_mem_items_iff.2 listed) key owner there
    refine ⟨stored, ?_, described⟩
    rw [Store.clientRole?, found, Option.bind_some, there, Option.bind_some, roleThere]

/-- **Runs converge.** Without faults, a blueprint without a violation is applied to a service that
can be reached, and the service then has everything that the blueprint desires. -/
theorem apply_converges {service : Service} (reachable : service.Reachable)
    (faultless : service.faults = .none) (valid : blueprint.validate = .ok ()) :
    ∃ report, (service.talk (apply blueprint).run).1 = .ok report ∧
      Converged blueprint (service.talk (apply blueprint).run).2.store := by
  have sound := reachable.sound
  have reached : Reaches service.faults (apply blueprint) service.store _ :=
    (reaches_apply valid sound).sound sound
  rw [faultless] at reached
  obtain ⟨runs, soundLater⟩ := reached
  obtain ⟨report, after, finished, found, settled⟩ := runs.finished
  rw [talk_eq, faultless]
  exact ⟨report, finished, converged_of_settled soundLater found settled⟩

/-- A new service converges to the school. -/
theorem apply_converges_school :
    ∃ report, (({} : Service).talk (apply Blueprint.school).run).1 = .ok report ∧
      Converged Blueprint.school (({} : Service).talk (apply Blueprint.school).run).2.store :=
  apply_converges .new rfl rfl

end RealmConvergence.Convergence
