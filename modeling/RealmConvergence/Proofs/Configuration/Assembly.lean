import Mathlib.Data.List.Nodup
import RealmConvergence.Configuration.Assembly
import RealmConvergence.Proofs.Blueprint.Validation

/-!
# What it takes to assemble a configuration

A configuration is assembled exactly when the merged value has the expected shape, gives an address,
and makes a well-formed blueprint with the secrets at hand (`assemble_eq_ok_iff`). An offline check
asks for less: it needs no address and no secrets (`checkOffline_eq_ok_iff`). Of the secrets
themselves only one thing matters to a blueprint, that none belongs to a public client
(`Document.validate_blueprint_iff`).
-/

set_option autoImplicit false

namespace RealmConvergence.Configuration

/-! ## The blueprint of a document -/

namespace Document

variable {document : Document} {secrets : Table String}

/-- Every client has an identifier, and no two have the same. -/
structure Identified (document : Document) : Prop where
  named : ∀ entry ∈ document.clients, Text.allBlank entry.client.clientId = false
  distinct : document.clients.Pairwise fun one other => one.client.clientId ≠ other.client.clientId

theorem identified_of_validate_blueprint (valid : (document.blueprint secrets).validate = .ok ()) :
    document.Identified := by
  obtain ⟨-, clients, -⟩ := Blueprint.validate_eq_ok_iff.1 valid
  obtain ⟨⟨distinct, -⟩, named, -⟩ := Blueprint.checkClients_eq_ok_iff.1 clients
  simp only [blueprint, List.pairwise_map, List.forall_mem_map] at distinct named
  exact ⟨named, distinct⟩

/-- An identifier leads to one entry. -/
theorem Identified.eq_of_clientId_eq (identified : document.Identified) {one other : ClientSection}
    (oneListed : one ∈ document.clients) (otherListed : other ∈ document.clients)
    (same : one.client.clientId = other.client.clientId) : one = other :=
  List.inj_on_of_nodup_map (List.pairwise_map.2 identified.distinct) oneListed otherListed same

/-- **Secrets decide over a blueprint only through its public clients**, which must have none. -/
theorem validate_blueprint_iff :
    (document.blueprint secrets).validate = .ok () ↔
      (document.blueprint ∅).validate = .ok () ∧
        ∀ entry ∈ document.clients, entry.client.isPublic = true →
          secrets.get? entry.client.clientId = none := by
  have none : ∀ clientId, (∅ : Table String).get? clientId = none := fun _ => rfl
  simp only [Blueprint.validate_eq_ok_iff, Blueprint.checkClients_eq_ok_iff,
    Blueprint.DistinctAfter, blueprint, List.pairwise_map, List.forall_mem_map, none]
  constructor
  · rintro ⟨named, ⟨distinct, identified, kept⟩, others⟩
    exact ⟨⟨named, ⟨distinct, identified, fun _ _ _ => trivial⟩, others⟩, kept⟩
  · rintro ⟨⟨named, ⟨distinct, identified, -⟩, others⟩, kept⟩
    exact ⟨named, ⟨distinct, identified, kept⟩, others⟩

end Document

/-! ## Assembling, preparing and checking -/

/-- **A configuration is assembled from a document with an address and a well-formed blueprint.** -/
theorem assemble_eq_ok_iff {merged : Merged} {secrets : ResolvedSecrets}
    {configuration : RunConfiguration} :
    assemble merged secrets = .ok configuration ↔
      ∃ document service, Document.ofValue merged.value = .ok document ∧
        document.connection = some service ∧ Text.allBlank service.baseUrl = false ∧
          (document.blueprint secrets.clientSecrets).validate = .ok () ∧
            { digest := merged.digest
              connection := {
                baseUrl := Text.trim service.baseUrl
                adminRealm := service.adminRealm
                clientId := service.clientId
                credentials := secrets.admin }
              settings := document.settings
              blueprint := document.blueprint secrets.clientSecrets } = configuration := by
  unfold assemble
  rw [bind_eq_ok_iff]
  constructor
  · rintro ⟨document, read, assembled⟩
    split at assembled
    · cases assembled
    · next service connected =>
      split at assembled
      · cases assembled
      · next addressed =>
        obtain ⟨valid, made⟩ := check_bind_eq_ok_iff.1 assembled
        cases made
        exact ⟨document, service, read, connected, Bool.eq_false_iff.2 addressed,
          mapError_eq_ok_iff.1 valid, rfl⟩
  · rintro ⟨document, service, read, connected, addressed, valid, rfl⟩
    refine ⟨document, read, ?_⟩
    simp only [connected, addressed, Bool.false_eq_true, if_false]
    exact check_bind_eq_ok_iff.2 ⟨mapError_eq_ok_iff.2 valid, rfl⟩

/-- A run is prepared by loading, listing unused keys, looking up secrets and assembling. -/
theorem prepare_eq_ok_iff {layers : List String} {policy : UnusedKeyPolicy}
    {environment : Environment} {configuration : RunConfiguration} :
    prepare layers policy environment = .ok configuration ↔
      ∃ merged unused secrets, load layers = .ok merged ∧
        unusedKeys merged.value policy = .ok unused ∧
          resolveSecrets merged.value environment = .ok secrets ∧
            assemble merged secrets = .ok configuration := by
  simp only [prepare, bind_eq_ok_iff]
  constructor
  · rintro ⟨merged, loaded, unused, listed, secrets, resolved, assembled⟩
    exact ⟨merged, unused, secrets, loaded, listed, resolved, assembled⟩
  · rintro ⟨merged, unused, secrets, loaded, listed, resolved, assembled⟩
    exact ⟨merged, loaded, unused, listed, secrets, resolved, assembled⟩

/-- Layers are checked by loading, listing unused keys, reading the document and validating. -/
theorem checkOffline_eq_ok_iff {layers : List String} {policy : UnusedKeyPolicy}
    {check : OfflineCheck} :
    checkOffline layers policy = .ok check ↔
      ∃ merged unused document, load layers = .ok merged ∧
        unusedKeys merged.value policy = .ok unused ∧
          Document.ofValue merged.value = .ok document ∧
            (document.blueprint document.unresolvedSecrets).validate = .ok () ∧
              ⟨merged.digest, document.blueprint document.unresolvedSecrets, unused⟩ = check := by
  simp only [checkOffline, bind_eq_ok_iff, mapError_eq_ok_iff]
  constructor
  · rintro ⟨merged, loaded, unused, listed, document, read, ⟨⟩, valid, made⟩
    cases made
    exact ⟨merged, unused, document, loaded, listed, read, valid, rfl⟩
  · rintro ⟨merged, unused, document, loaded, listed, read, valid, rfl⟩
    exact ⟨merged, loaded, unused, listed, document, read, (), valid, rfl⟩

end RealmConvergence.Configuration
