import RealmConvergence.Proofs.Collection.Table
import RealmConvergence.Proofs.Configuration.ClientSecrets

/-!
# What an offline check foretells

An offline check should accept the layers that a run accepts, and see the blueprint of the run but
for the values of secrets (`Agree`). Where every variable has a value and the layers give an
address, the two differ in one point alone, in which clients carry a secret. The check counts every
client whose entry has a variable, even a blank one; the run looks up the variables that it finds
(`RealmConvergence.Proofs.Configuration.Secrets`). So the two agree exactly where both fail or
every entry with a variable is plain and its variable not blank (`agree_iff`).

The difference matters because a public client must carry no secret: of a public client with a blank
variable the check complains, and the run does not (`blankLayers_disagree`).
-/

set_option autoImplicit false

namespace RealmConvergence

/-- The blueprint with its secrets made unreadable. -/
def Blueprint.masked (blueprint : Blueprint) : Blueprint :=
  { blueprint with
    clients := blueprint.clients.map fun client =>
      { client with secret := client.secret.map fun _ => Configuration.unresolvedSecret } }

/-- The blueprint without secrets. -/
def Blueprint.withoutSecrets (blueprint : Blueprint) : Blueprint :=
  { blueprint with clients := blueprint.clients.map fun client => { client with secret := none } }

namespace Configuration

/-! ## Who carries a secret -/

namespace Document

variable {document : Document}

/-- The same clients hold something in both tables. -/
def SameCarriers (document : Document) (one other : Table String) : Prop :=
  ∀ entry ∈ document.clients,
    (one.get? entry.client.clientId).isSome = (other.get? entry.client.clientId).isSome

/-- Masked, the blueprints of a document differ in which clients carry a secret. -/
theorem masked_blueprint_eq_iff {one other : Table String} :
    (document.blueprint one).masked = (document.blueprint other).masked ↔
      document.SameCarriers one other := by
  constructor
  · intro same entry listed
    have clients := congrArg Blueprint.clients same
    simp only [Blueprint.masked, blueprint, List.map_map] at clients
    have secret := congrArg Blueprint.Client.secret (List.map_inj_left.1 clients entry listed)
    simpa using congrArg Option.isSome secret
  · intro same
    simp only [Blueprint.masked, blueprint, List.map_map]
    congr 1
    refine List.map_congr_left fun entry listed => ?_
    have carrier := same entry listed
    cases oneHeld : one.get? entry.client.clientId <;>
      cases otherHeld : other.get? entry.client.clientId <;> simp_all

/-- Without secrets, a document has one blueprint. -/
theorem withoutSecrets_blueprint (secrets : Table String) :
    (document.blueprint secrets).withoutSecrets = document.blueprint ∅ := by
  simp only [Blueprint.withoutSecrets, blueprint, List.map_map]
  rfl

/-- A well-formed blueprint stays so as long as the same clients carry secrets. -/
theorem validate_blueprint_congr {one other : Table String} (same : document.SameCarriers one other)
    (valid : (document.blueprint one).validate = .ok ()) :
    (document.blueprint other).validate = .ok () := by
  obtain ⟨wellFormed, kept⟩ := validate_blueprint_iff.1 valid
  refine validate_blueprint_iff.2 ⟨wellFormed, fun entry listed isPublic => ?_⟩
  have carrier := same entry listed
  rw [kept entry listed isPublic] at carrier
  exact Option.isNone_iff_eq_none.1 (by simpa using carrier.symm)

/-- A client has a stand-in exactly when its entry has a variable. -/
theorem isSome_get?_unresolvedSecrets_iff (identified : document.Identified)
    {entry : ClientSection} (listed : entry ∈ document.clients) :
    (document.unresolvedSecrets.get? entry.client.clientId).isSome ↔
      entry.secretVariable.isSome := by
  rw [unresolvedSecrets, Table.isSome_get?_ofList_iff]
  constructor
  · rintro ⟨standIn, member⟩
    obtain ⟨other, isKept, same⟩ := List.mem_map.1 member
    obtain ⟨otherListed, hasVariable⟩ := List.mem_filter.1 isKept
    obtain rfl := identified.eq_of_clientId_eq otherListed listed (congrArg Prod.fst same)
    exact hasVariable
  · intro hasVariable
    exact ⟨unresolvedSecret, List.mem_map.2 ⟨entry, List.mem_filter.2 ⟨listed, hasVariable⟩, rfl⟩⟩

/-- Every entry with a variable is plain, and its variable is not blank. -/
def PlainThroughout (document : Document) (value : Json) : Prop :=
  ∀ entry ∈ document.clients, entry.secretVariable.isSome →
    entry.namedVariable.isSome ∧ Plain value entry

theorem PlainThroughout.whereNamed {value : Json} (plain : document.PlainThroughout value) :
    document.PlainWhereNamed value :=
  fun entry listed isNamed => (plain entry listed (ClientSection.isSome_of_named isNamed)).2

end Document

/-- **The clients that carry stand-ins are those that carry secrets exactly when every entry with a
variable is plain and its variable not blank.** -/
theorem SecretsFound.sameCarriers_iff {environment : Environment} {value : Json}
    {document : Document} {secrets : Table String}
    (found : SecretsFound environment value document secrets) :
    document.SameCarriers document.unresolvedSecrets secrets ↔ document.PlainThroughout value := by
  have standsIn {entry : ClientSection} (listed : entry ∈ document.clients) :=
    Document.isSome_get?_unresolvedSecrets_iff found.identified listed
  constructor
  · intro same
    refine found.plain_of_carried (fun _ => ClientSection.isSome_of_named) ?_
    intro entry listed hasVariable
    rw [← same entry listed]
    exact (standsIn listed).2 hasVariable
  · intro plain entry listed
    rw [Bool.eq_iff_iff, standsIn listed, found.get?_eq_wanted plain.whereNamed listed]
    constructor
    · intro hasVariable
      obtain ⟨isNamed, byName, -⟩ := plain entry listed hasVariable
      exact (found.held_of_named listed byName isNamed).1
    · intro hasSecret
      obtain ⟨secret, wanted⟩ := Option.isSome_iff_exists.1 hasSecret
      exact ClientSection.isSome_of_named (ClientSection.isSome_of_wanted wanted)

/-! ## Checks and runs -/

/-- The check and the run accept the same layers, and see the same but for the values of secrets. -/
structure Agree (layers : List String) (policy : UnusedKeyPolicy) (environment : Environment) :
    Prop where
  succeeds : (∃ check, checkOffline layers policy = .ok check) ↔
    ∃ configuration, prepare layers policy environment = .ok configuration
  same : ∀ check configuration, checkOffline layers policy = .ok check →
    prepare layers policy environment = .ok configuration →
      check.blueprint.masked = configuration.blueprint.masked

/-- Where the layers make up a document, it gives an address. -/
def Addressed (layers : List String) : Prop :=
  ∀ merged document, load layers = .ok merged → Document.ofValue merged.value = .ok document →
    ∃ service, document.connection = some service ∧ Text.allBlank service.baseUrl = false

/-- Where the layers make up a document, every entry with a variable is plain, and its variable not
blank. -/
def ReadAlike (layers : List String) : Prop :=
  ∀ merged document, load layers = .ok merged → Document.ofValue merged.value = .ok document →
    document.PlainThroughout merged.value

section Layers

variable {layers : List String} {policy : UnusedKeyPolicy} {environment : Environment}

/-- A check and a run that both succeed see one document, the check with stand-ins and the run with
the secrets that it finds. -/
theorem exists_document_of_both {check : OfflineCheck} {configuration : RunConfiguration}
    (checked : checkOffline layers policy = .ok check)
    (prepared : prepare layers policy environment = .ok configuration) :
    ∃ merged document secrets, load layers = .ok merged ∧
      SecretsFound environment merged.value document secrets ∧
        check.digest = configuration.digest ∧
          check.blueprint = document.blueprint document.unresolvedSecrets ∧
            configuration.blueprint = document.blueprint secrets := by
  obtain ⟨merged, -, document, loaded, -, read, valid, rfl⟩ := checkOffline_eq_ok_iff.1 checked
  obtain ⟨again, -, secrets, loadedAgain, -, resolved, assembled⟩ := prepare_eq_ok_iff.1 prepared
  cases loaded.symm.trans loadedAgain
  obtain ⟨other, -, readAgain, -, -, -, rfl⟩ := assemble_eq_ok_iff.1 assembled
  cases read.symm.trans readAgain
  exact ⟨merged, document, secrets.clientSecrets, loaded,
    secretsFound_of_valid read valid resolved, rfl, rfl, rfl⟩

/-- When both succeed, they see the same exactly when the layers are read alike. -/
theorem masked_eq_iff {check : OfflineCheck} {configuration : RunConfiguration}
    (checked : checkOffline layers policy = .ok check)
    (prepared : prepare layers policy environment = .ok configuration) :
    check.blueprint.masked = configuration.blueprint.masked ↔ ReadAlike layers := by
  obtain ⟨merged, document, secrets, loaded, found, -, checkSees, runSees⟩ :=
    exists_document_of_both checked prepared
  rw [checkSees, runSees, Document.masked_blueprint_eq_iff, found.sameCarriers_iff]
  constructor
  · intro plain other otherDocument loadedOther readOther
    cases loaded.symm.trans loadedOther
    cases found.read.symm.trans readOther
    exact plain
  · intro alike
    exact alike merged document loaded found.read

/-- Layers that the run accepts give an address. -/
theorem addressed_of_prepare {configuration : RunConfiguration}
    (prepared : prepare layers policy environment = .ok configuration) : Addressed layers := by
  obtain ⟨merged, -, secrets, loaded, -, -, assembled⟩ := prepare_eq_ok_iff.1 prepared
  obtain ⟨document, service, read, connected, filled, -⟩ := assemble_eq_ok_iff.1 assembled
  intro other otherDocument loadedOther readOther
  cases loaded.symm.trans loadedOther
  cases read.symm.trans readOther
  exact ⟨service, connected, filled⟩

/-- What the check accepts the run accepts, where the layers are read alike. -/
theorem exists_prepare_of_checkOffline (complete : Complete environment)
    (addressed : Addressed layers) (alike : ReadAlike layers) {check : OfflineCheck}
    (checked : checkOffline layers policy = .ok check) :
    ∃ configuration, prepare layers policy environment = .ok configuration := by
  obtain ⟨merged, unused, document, loaded, listed, read, valid, -⟩ :=
    checkOffline_eq_ok_iff.1 checked
  obtain ⟨secrets, resolved⟩ := exists_resolveSecrets_eq_ok complete merged.value
  obtain ⟨service, connected, filled⟩ := addressed merged document loaded read
  have found := secretsFound_of_valid read valid resolved
  have same := found.sameCarriers_iff.2 (alike merged document loaded read)
  exact ⟨_, prepare_eq_ok_iff.2 ⟨merged, unused, secrets, loaded, listed, resolved,
    assemble_eq_ok_iff.2 ⟨document, service, read, connected, filled,
      Document.validate_blueprint_congr same valid, rfl⟩⟩⟩

/-- What the run accepts the check accepts, where the layers are read alike. -/
theorem exists_checkOffline_of_prepare (alike : ReadAlike layers) {configuration : RunConfiguration}
    (prepared : prepare layers policy environment = .ok configuration) :
    ∃ check, checkOffline layers policy = .ok check := by
  obtain ⟨merged, unused, secrets, loaded, listed, resolved, assembled⟩ :=
    prepare_eq_ok_iff.1 prepared
  obtain ⟨document, -, read, -, -, valid, -⟩ := assemble_eq_ok_iff.1 assembled
  have found := secretsFound_of_valid read valid resolved
  have same := found.sameCarriers_iff.2 (alike merged document loaded read)
  exact ⟨_, checkOffline_eq_ok_iff.2 ⟨merged, unused, document, loaded, listed, read,
    Document.validate_blueprint_congr (fun entry member => (same entry member).symm) valid, rfl⟩⟩

/-- **An offline check agrees with the run exactly where both fail, or every entry with a variable
is plain and its variable not blank.** Apart from secrets, both see alike whatever both accept. -/
theorem agree_iff (complete : Complete environment) (addressed : Addressed layers) :
    (Agree layers policy environment ↔
      ((∃ check, checkOffline layers policy = .ok check) ∨
          (∃ configuration, prepare layers policy environment = .ok configuration) →
        ReadAlike layers)) ∧
      ∀ check configuration, checkOffline layers policy = .ok check →
        prepare layers policy environment = .ok configuration →
          check.digest = configuration.digest ∧
            check.blueprint.withoutSecrets = configuration.blueprint.withoutSecrets := by
  refine ⟨⟨fun agree oneAccepts => ?_, fun alike => ⟨⟨?_, ?_⟩, ?_⟩⟩, ?_⟩
  · -- under agreement, what one accepts the other does
    obtain ⟨⟨check, checked⟩, configuration, prepared⟩ :
        (∃ check, checkOffline layers policy = .ok check) ∧
          ∃ configuration, prepare layers policy environment = .ok configuration := by
      rcases oneAccepts with checked | prepared
      · exact ⟨checked, agree.succeeds.1 checked⟩
      · exact ⟨agree.succeeds.2 prepared, prepared⟩
    exact (masked_eq_iff checked prepared).1 (agree.same check configuration checked prepared)
  · rintro ⟨check, checked⟩
    exact exists_prepare_of_checkOffline complete addressed (alike (.inl ⟨check, checked⟩)) checked
  · rintro ⟨configuration, prepared⟩
    exact exists_checkOffline_of_prepare (alike (.inr ⟨configuration, prepared⟩)) prepared
  · intro check configuration checked prepared
    exact (masked_eq_iff checked prepared).2 (alike (.inl ⟨check, checked⟩))
  · intro check configuration checked prepared
    obtain ⟨_, document, secrets, -, -, digests, checkSees, runSees⟩ :=
      exists_document_of_both checked prepared
    refine ⟨digests, ?_⟩
    rw [checkSees, runSees, Document.withoutSecrets_blueprint, Document.withoutSecrets_blueprint]

end Layers

/-! ## Layers -/

/-- Every variable has one value. -/
def uniformEnvironment : Environment := fun _ => some "value"

theorem complete_uniformEnvironment : Complete uniformEnvironment :=
  fun _ => ⟨"value", rfl, by decide⟩

/-- A client with a variable. -/
def plainLayers : List String :=
  ["\x7bkeycloak: \x7bbase_url: sso\x7d, realm: \x7bname: school\x7d, clients: " ++
    "[\x7bclient_id: reporting, secret_env: REPORTING_SECRET\x7d]\x7d"]

/-- A public client with a blank variable. -/
def blankLayers : List String :=
  ["\x7bkeycloak: \x7bbase_url: sso\x7d, realm: \x7bname: school\x7d, clients: " ++
    "[\x7bclient_id: portal, public_client: true, secret_env: \" \"\x7d]\x7d"]

theorem agree_iff_plainLayers :
    Complete uniformEnvironment ∧ Addressed plainLayers ∧
      (∃ configuration, prepare plainLayers .fail uniformEnvironment = .ok configuration ∧
        configuration.blueprint.clients.map Blueprint.Client.secret = [some "value"]) ∧
        (Agree plainLayers .fail uniformEnvironment ↔
          ((∃ check, checkOffline plainLayers .fail = .ok check) ∨
              (∃ configuration, prepare plainLayers .fail uniformEnvironment = .ok configuration) →
            ReadAlike plainLayers)) ∧
          ∀ check configuration, checkOffline plainLayers .fail = .ok check →
            prepare plainLayers .fail uniformEnvironment = .ok configuration →
              check.digest = configuration.digest ∧
                check.blueprint.withoutSecrets = configuration.blueprint.withoutSecrets := by
  obtain ⟨configuration, prepared, carries⟩ : ∃ configuration,
      prepare plainLayers .fail uniformEnvironment = .ok configuration ∧
        configuration.blueprint.clients.map Blueprint.Client.secret = [some "value"] :=
    exists_of_toOption_map (by decide +kernel)
  have addressed := addressed_of_prepare prepared
  exact ⟨complete_uniformEnvironment, addressed, ⟨configuration, prepared, carries⟩,
    agree_iff complete_uniformEnvironment addressed⟩

/-- The check refuses a public client with a blank variable, and the run accepts it. -/
theorem blankLayers_disagree :
    Complete uniformEnvironment ∧ Addressed blankLayers ∧
      (∀ check, checkOffline blankLayers .warn ≠ .ok check) ∧
        (∃ configuration, prepare blankLayers .warn uniformEnvironment = .ok configuration ∧
          configuration.blueprint.clients.map Blueprint.Client.secret = [none]) ∧
          ¬Agree blankLayers .warn uniformEnvironment := by
  have refused : ∀ check, checkOffline blankLayers .warn ≠ .ok check := by
    intro check checked
    have fails : (checkOffline blankLayers .warn).toOption.isNone = true := by decide +kernel
    rw [checked] at fails
    cases fails
  obtain ⟨configuration, prepared, carries⟩ : ∃ configuration,
      prepare blankLayers .warn uniformEnvironment = .ok configuration ∧
        configuration.blueprint.clients.map Blueprint.Client.secret = [none] :=
    exists_of_toOption_map (by decide +kernel)
  refine ⟨complete_uniformEnvironment, addressed_of_prepare prepared, refused,
    ⟨configuration, prepared, carries⟩, fun agree => ?_⟩
  obtain ⟨check, checked⟩ := agree.succeeds.2 ⟨configuration, prepared⟩
  exact refused check checked

end Configuration

end RealmConvergence
