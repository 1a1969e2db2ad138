import RealmConvergence.Proofs.Configuration.Secrets

/-!
# Which client carries which secret

Every client of a configuration should carry the secret that its own entry asks for, and no secret
found should be lost (`Attached`). Secrets are found under trimmed identifiers and looked up under
the identifiers as they stand, and they are found only in entries that are written as objects. So
secrets are where they belong exactly when every entry that names a variable is written as an object
and has no blanks around its identifier (`attached_iff`).

Where an identifier is padded its client carries no secret, and the secret found for it goes to the
client that has the trimmed identifier, over that client's own (`paddedDocument_misattached`).
Farther no secret goes: the identifiers of the entry that asks and of the client that carries differ
at most in blanks around them.
-/

set_option autoImplicit false

namespace RealmConvergence.Configuration

/-- Secrets are where they belong. -/
structure Attached (environment : Environment) (document : Document) (secrets : Table String)
    (blueprint : Blueprint) : Prop where
  /-- Every client is that of its entry, and carries the secret that the entry asks for. -/
  carried : blueprint.clients = document.clients.map fun entry =>
    { entry.client with secret := entry.wanted environment }
  /-- Every variable that is named has a value. -/
  valued : ∀ entry ∈ document.clients, entry.namedVariable.isSome →
    (entry.wanted environment).isSome
  /-- Every secret found is carried by the client under whose identifier it was found. -/
  kept : ∀ clientId secret, secrets.get? clientId = some secret →
    ∃ client ∈ blueprint.clients, client.clientId = clientId ∧ client.secret = some secret

/-- An entry of which both readings of the document see the same: it is written as an object, and
no blanks stand around its identifier. -/
structure Plain (value : Json) (entry : ClientSection) : Prop where
  byName : WrittenByName value entry
  unpadded : Text.trim entry.client.clientId = entry.client.clientId

/-- Every entry that names a variable is plain. -/
def Document.PlainWhereNamed (document : Document) (value : Json) : Prop :=
  ∀ entry ∈ document.clients, entry.namedVariable.isSome → Plain value entry

/-! ## Secrets under identifiers -/

namespace SecretsFound

variable {environment : Environment} {value : Json} {document : Document} {secrets : Table String}

/-- Where entries are plain, a secret belongs to the entry under whose identifier it is found. -/
theorem exists_of_held_of_plain (found : SecretsFound environment value document secrets)
    (plain : document.PlainWhereNamed value) {clientId secret : String}
    (held : secrets.get? clientId = some secret) :
    ∃ entry ∈ document.clients, entry.client.clientId = clientId ∧
      entry.wanted environment = some secret := by
  obtain ⟨entry, listed, -, trimmed, wanted⟩ := found.exists_of_held held
  have unpadded := (plain entry listed (ClientSection.isSome_of_wanted wanted)).unpadded
  exact ⟨entry, listed, unpadded.symm.trans trimmed, wanted⟩

/-- Where entries are plain, what is found under an identifier is what its entry asks for. -/
theorem get?_eq_wanted (found : SecretsFound environment value document secrets)
    (plain : document.PlainWhereNamed value) {entry : ClientSection}
    (listed : entry ∈ document.clients) :
    secrets.get? entry.client.clientId = entry.wanted environment := by
  cases held : secrets.get? entry.client.clientId with
  | some secret =>
      obtain ⟨other, otherListed, same, wanted⟩ := found.exists_of_held_of_plain plain held
      obtain rfl := found.identified.eq_of_clientId_eq otherListed listed same
      exact wanted.symm
  | none =>
      cases wanted : entry.wanted environment with
      | none => rfl
      | some secret =>
          -- an entry that asks has a secret under its identifier, which is not padded
          have isNamed := ClientSection.isSome_of_wanted wanted
          obtain ⟨byName, unpadded⟩ := plain entry listed isNamed
          have there := (found.held_of_named listed byName isNamed).2
          rw [unpadded, held] at there
          cases there

theorem attached_of_plain (found : SecretsFound environment value document secrets)
    (plain : document.PlainWhereNamed value) :
    Attached environment document secrets (document.blueprint secrets) where
  carried := by
    refine List.map_congr_left fun entry listed => ?_
    rw [found.get?_eq_wanted plain listed]
  valued := fun entry listed isNamed =>
    (found.held_of_named listed (plain entry listed isNamed).byName isNamed).1
  kept := by
    intro clientId secret held
    obtain ⟨entry, listed, rfl, -⟩ := found.exists_of_held_of_plain plain held
    exact ⟨_, List.mem_map_of_mem listed, rfl, held⟩

/-- Where every client whose entry asks carries a secret, an identifier under which something is
asked for is the trimmed identifier of an entry, hence not padded, and that entry is its own. -/
theorem plain_of_carried (found : SecretsFound environment value document secrets)
    {asks : ClientSection → Prop} (named : ∀ entry, entry.namedVariable.isSome → asks entry)
    (carries : ∀ entry ∈ document.clients, asks entry →
      (secrets.get? entry.client.clientId).isSome) :
    ∀ entry ∈ document.clients, asks entry → entry.namedVariable.isSome ∧ Plain value entry := by
  have askedBy : ∀ entry ∈ document.clients, asks entry →
      Text.trim entry.client.clientId = entry.client.clientId ∧
        ∃ other ∈ document.clients, WrittenByName value other ∧ other.namedVariable.isSome ∧
          Text.trim other.client.clientId = entry.client.clientId := by
    intro entry listed asking
    obtain ⟨secret, held⟩ := Option.isSome_iff_exists.1 (carries entry listed asking)
    obtain ⟨other, otherListed, byName, trimmed, wanted⟩ := found.exists_of_held held
    refine ⟨?_, other, otherListed, byName, ClientSection.isSome_of_wanted wanted, trimmed⟩
    rw [← trimmed, Text.trim_trim]
  intro entry listed asking
  obtain ⟨unpadded, other, otherListed, byName, isNamed, trimmed⟩ := askedBy entry listed asking
  have otherUnpadded := (askedBy other otherListed (named other isNamed)).1
  obtain rfl :=
    found.identified.eq_of_clientId_eq otherListed listed (otherUnpadded.symm.trans trimmed)
  exact ⟨isNamed, byName, unpadded⟩

theorem plain_of_attached (found : SecretsFound environment value document secrets)
    (attached : Attached environment document secrets (document.blueprint secrets)) :
    document.PlainWhereNamed value := by
  have carries : ∀ entry ∈ document.clients, entry.namedVariable.isSome →
      (secrets.get? entry.client.clientId).isSome := by
    intro entry listed isNamed
    have same := List.map_inj_left.1 attached.carried entry listed
    have secretSame : secrets.get? entry.client.clientId = entry.wanted environment :=
      congrArg Blueprint.Client.secret same
    rw [secretSame]
    exact attached.valued entry listed isNamed
  intro entry listed isNamed
  exact (found.plain_of_carried (fun _ asks => asks) carries entry listed isNamed).2

end SecretsFound

/-! ## Secrets of a configuration -/

/-- **Secrets are where they belong exactly when every entry that names a variable is written as an
object and has no blanks around its identifier.** Whatever a client carries was asked for by an
entry with its identifier, but for blanks around that. -/
theorem attached_iff {merged : Merged} {environment : Environment} {secrets : ResolvedSecrets}
    {configuration : RunConfiguration}
    (resolved : resolveSecrets merged.value environment = .ok secrets)
    (assembled : assemble merged secrets = .ok configuration) :
    ∃ document, Document.ofValue merged.value = .ok document ∧
      (Attached environment document secrets.clientSecrets configuration.blueprint ↔
        document.PlainWhereNamed merged.value) ∧
      ∀ client ∈ configuration.blueprint.clients, ∀ secret, client.secret = some secret →
        ∃ entry ∈ document.clients, Text.trim entry.client.clientId = client.clientId ∧
          entry.wanted environment = some secret := by
  obtain ⟨document, service, read, -, -, valid, rfl⟩ := assemble_eq_ok_iff.1 assembled
  have found := secretsFound_of_valid read valid resolved
  refine ⟨document, read, ⟨found.plain_of_attached, found.attached_of_plain⟩, ?_⟩
  intro client carried secret held
  obtain ⟨entry, listed, rfl⟩ := List.mem_map.1 carried
  obtain ⟨asking, asked, -, trimmed, wanted⟩ := found.exists_of_held held
  exact ⟨asking, asked, trimmed, wanted⟩

/-! ## Two documents -/

/-- The variables that the documents below name. -/
def sampleEnvironment : Environment := fun name =>
  Entries.lookup name [("KCB_ADMIN_USERNAME", "admin"), ("KCB_ADMIN_PASSWORD", "pw"),
    ("A_SECRET", "alpha"), ("B_SECRET", "beta")]

/-- A document with entries for clients. -/
def sampleDocument (clients : List Json) : Merged :=
  ⟨.object [("clients", .array clients),
    ("keycloak", .object [("base_url", .string "http://localhost:8080")]),
    ("realm", .object [("name", .string "school")])]⟩

/-- Two clients that name variables, and one that names none. -/
def plainDocument : Merged :=
  sampleDocument [
    .object [("client_id", .string "reporting"), ("secret_env", .string "A_SECRET")],
    .object [("client_id", .string "portal"), ("public_client", .bool true)],
    .object [("client_id", .string "exports"), ("secret_env", .string " B_SECRET ")]]

/-- Two clients that name variables and whose identifiers differ in a blank. -/
def paddedDocument : Merged :=
  sampleDocument [
    .object [("client_id", .string "reporting"), ("secret_env", .string "A_SECRET")],
    .object [("client_id", .string "reporting "), ("secret_env", .string "B_SECRET")]]

theorem attached_iff_plainDocument :
    ∃ secrets configuration,
      resolveSecrets plainDocument.value sampleEnvironment = .ok secrets ∧
        assemble plainDocument secrets = .ok configuration ∧
          configuration.blueprint.clients.map Blueprint.Client.secret =
            [some "alpha", none, some "beta"] ∧
          ∃ document, Document.ofValue plainDocument.value = .ok document ∧
            (Attached sampleEnvironment document secrets.clientSecrets configuration.blueprint ↔
              document.PlainWhereNamed plainDocument.value) ∧
            ∀ client ∈ configuration.blueprint.clients, ∀ secret, client.secret = some secret →
              ∃ entry ∈ document.clients, Text.trim entry.client.clientId = client.clientId ∧
                entry.wanted sampleEnvironment = some secret := by
  obtain ⟨configuration, prepared, carried⟩ : ∃ configuration,
      (resolveSecrets plainDocument.value sampleEnvironment >>= assemble plainDocument) =
          .ok configuration ∧
        configuration.blueprint.clients.map Blueprint.Client.secret =
          [some "alpha", none, some "beta"] :=
    exists_of_toOption_map (by decide +kernel)
  obtain ⟨secrets, resolved, assembled⟩ := bind_eq_ok_iff.1 prepared
  exact ⟨secrets, configuration, resolved, assembled, carried, attached_iff resolved assembled⟩

/-- With a padded identifier one secret is lost, and another takes its place. -/
theorem paddedDocument_misattached :
    ∃ secrets configuration document,
      resolveSecrets paddedDocument.value sampleEnvironment = .ok secrets ∧
        assemble paddedDocument secrets = .ok configuration ∧
          Document.ofValue paddedDocument.value = .ok document ∧
            document.clients.map (·.wanted sampleEnvironment) = [some "alpha", some "beta"] ∧
              configuration.blueprint.clients.map Blueprint.Client.secret = [some "beta", none] ∧
                ¬Attached sampleEnvironment document secrets.clientSecrets
                  configuration.blueprint := by
  obtain ⟨configuration, prepared, carried⟩ : ∃ configuration,
      (resolveSecrets paddedDocument.value sampleEnvironment >>= assemble paddedDocument) =
          .ok configuration ∧
        configuration.blueprint.clients.map Blueprint.Client.secret = [some "beta", none] :=
    exists_of_toOption_map (by decide +kernel)
  obtain ⟨document, read, wanted⟩ : ∃ document,
      Document.ofValue paddedDocument.value = .ok document ∧
        document.clients.map (·.wanted sampleEnvironment) = [some "alpha", some "beta"] :=
    exists_of_toOption_map (by decide +kernel)
  obtain ⟨secrets, resolved, assembled⟩ := bind_eq_ok_iff.1 prepared
  refine ⟨secrets, configuration, document, resolved, assembled, read, wanted, carried,
    fun attached => ?_⟩
  -- were every client's secret its own, the two lists would be one
  rw [attached.carried, List.map_map] at carried
  exact absurd (wanted.symm.trans carried) (by decide)

end RealmConvergence.Configuration
