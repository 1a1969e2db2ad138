import RealmConvergence.Proofs.Configuration.Assembly
import RealmConvergence.Proofs.Configuration.Decoding

/-!
# Which secrets are found

The variables of clients are looked up entry by entry, and each value is written under the trimmed
identifier of its entry. So every secret found was asked for by an entry whose identifier is the key
but for blanks around it (`SecretsFound.exists_of_held`), and every entry that is written as an
object and names a variable has a secret under its trimmed identifier
(`SecretsFound.held_of_named`). To which of two entries with a common key the secret under it
belongs, their order decides.

Looking up fails only where a variable has no value, so an environment in which every variable has
one is never the reason for a failure (`exists_resolveSecrets_eq_ok`).
-/

set_option autoImplicit false

namespace RealmConvergence.Configuration

variable {environment : Environment}

/-! ## One variable -/

/-- A variable has to be there and not to be blank. -/
theorem requireVariable_eq_ok_iff {name secret : String} {purpose : SecretPurpose} :
    requireVariable environment name purpose = .ok secret ↔
      environment name = some secret ∧ Text.allBlank secret = false := by
  unfold requireVariable
  cases environment name with
  | none => simp
  | some value =>
      by_cases blank : Text.allBlank value = true
      · simp only [blank, if_true]
        constructor
        · intro wrong
          cases wrong
        · rintro ⟨same, filled⟩
          cases same
          rw [blank] at filled
          cases filled
      · simp only [blank, Bool.false_eq_true, if_false, Except.ok.injEq, Option.some.injEq]
        constructor
        · rintro rfl
          exact ⟨rfl, Bool.eq_false_iff.2 blank⟩
        · exact And.left

/-! ## One entry after the other -/

/-- An entry names a variable whose value is to be written under a key: the entry's trimmed
identifier or, without one, a mark with its position. -/
def AsksUnder (entry : Json) (key name : String) : Prop :=
  nameAt? entry ["secret_env"] = some name ∧
    ∃ position : Nat, (nameAt? entry ["client_id"]).getD s!"#{position}" = key

/-- Looking up goes over an entry that names no variable, and otherwise writes the value of the
variable under the entry's key before it goes on. -/
theorem resolveClients_cons {position : Nat} {found table : Table String} {entry : Json}
    {rest : List Json}
    (resolved : resolveClients environment position found (entry :: rest) = .ok table) :
    nameAt? entry ["secret_env"] = none ∧
        resolveClients environment (position + 1) found rest = .ok table ∨
      ∃ key name secret, AsksUnder entry key name ∧ environment name = some secret ∧
        resolveClients environment (position + 1) (found.insert key secret) rest = .ok table := by
  rw [resolveClients] at resolved
  split at resolved
  · next unnamed => exact .inl ⟨unnamed, resolved⟩
  · next name named =>
    dsimp only at resolved
    split at resolved
    · cases resolved
    · next secret there =>
      exact .inr ⟨_, name, secret, ⟨named, position, rfl⟩, (requireVariable_eq_ok_iff.1 there).1,
        resolved⟩

/-- A secret that is found was there before, or an entry asks for it under its key. -/
theorem mem_of_resolveClients {position : Nat} {found table : Table String} {entries : List Json}
    (resolved : resolveClients environment position found entries = .ok table)
    {key secret : String} (held : table.get? key = some secret) :
    found.get? key = some secret ∨
      ∃ entry ∈ entries, ∃ name, AsksUnder entry key name ∧ environment name = some secret := by
  induction entries generalizing position found with
  | nil =>
      cases resolved
      exact .inl held
  | cons entry rest ih =>
      rcases resolveClients_cons resolved with
        ⟨-, onward⟩ | ⟨written, name, value, asks, there, onward⟩
      · rcases ih onward with earlier | ⟨asking, member, later⟩
        · exact .inl earlier
        · exact .inr ⟨asking, List.mem_cons_of_mem _ member, later⟩
      · rcases ih onward with earlier | ⟨asking, member, later⟩
        · rw [Table.get?_insert] at earlier
          split at earlier
          · next same =>
            cases earlier
            exact .inr ⟨entry, List.mem_cons_self, name, same ▸ asks, there⟩
          · exact .inl earlier
        · exact .inr ⟨asking, List.mem_cons_of_mem _ member, later⟩

/-- A key once written keeps a secret. -/
theorem isSome_of_resolveClients {position : Nat} {found table : Table String}
    {entries : List Json} (resolved : resolveClients environment position found entries = .ok table)
    {key : String} (there : (found.get? key).isSome) : (table.get? key).isSome := by
  induction entries generalizing position found with
  | nil =>
      cases resolved
      exact there
  | cons entry rest ih =>
      rcases resolveClients_cons resolved with ⟨-, onward⟩ | ⟨written, -, value, -, -, onward⟩
      · exact ih onward there
      · refine ih onward ?_
        rw [Table.get?_insert]
        split
        · rfl
        · exact there

/-- Every variable that an entry names has a value, and the entry's key a secret. -/
theorem asked_of_resolveClients {position : Nat} {found table : Table String} {entries : List Json}
    (resolved : resolveClients environment position found entries = .ok table) {entry : Json}
    (member : entry ∈ entries) {name : String}
    (named : nameAt? entry ["secret_env"] = some name) :
    (environment name).isSome ∧ ∃ key, AsksUnder entry key name ∧ (table.get? key).isSome := by
  induction entries generalizing position found with
  | nil => cases member
  | cons head rest ih =>
      rcases List.mem_cons.1 member with rfl | later
      · rcases resolveClients_cons resolved with
          ⟨unnamed, -⟩ | ⟨key, other, secret, asks, there, onward⟩
        · rw [unnamed] at named
          cases named
        · cases asks.1.symm.trans named
          exact ⟨Option.isSome_of_eq_some there, key, asks, isSome_of_resolveClients onward
            (Option.isSome_of_eq_some (Table.get?_insert_self _ key secret))⟩
      · rcases resolveClients_cons resolved with ⟨-, onward⟩ | ⟨_, _, _, _, _, onward⟩
        · exact ih onward later
        · exact ih onward later

/-! ## The clients of a document -/

/-- The secret that an entry asks for. -/
def ClientSection.wanted (entry : ClientSection) (environment : Environment) : Option String :=
  entry.namedVariable.bind environment

theorem ClientSection.isSome_of_wanted {entry : ClientSection} {secret : String}
    (wanted : entry.wanted environment = some secret) : entry.namedVariable.isSome := by
  obtain ⟨name, names, -⟩ := Option.bind_eq_some_iff.1 wanted
  exact Option.isSome_of_eq_some names

/-- The entry stands in the merged value as an object. -/
def WrittenByName (value : Json) (entry : ClientSection) : Prop :=
  ∃ fields, Json.object fields ∈ clientEntries value ∧
    ClientSection.decode (.object fields) = .ok entry

/-- The secrets that are found for a document in which every client has an identifier of its own. -/
structure SecretsFound (environment : Environment) (value : Json) (document : Document)
    (secrets : Table String) : Prop where
  read : Document.ofValue value = .ok document
  identified : document.Identified
  resolved : resolveClients environment 0 ∅ (clientEntries value) = .ok secrets

variable {value : Json} {document : Document}

/-- A document that makes a well-formed blueprint, with whatever secrets, identifies its clients. -/
theorem secretsFound_of_valid (read : Document.ofValue value = .ok document) {table : Table String}
    (valid : (document.blueprint table).validate = .ok ()) {secrets : ResolvedSecrets}
    (resolved : resolveSecrets value environment = .ok secrets) :
    SecretsFound environment value document secrets.clientSecrets := by
  refine ⟨read, Document.identified_of_validate_blueprint valid, ?_⟩
  simp only [resolveSecrets, bind_eq_ok_iff] at resolved
  obtain ⟨admin, -, clientSecrets, found, made⟩ := resolved
  cases made
  exact found

namespace SecretsFound

variable {secrets : Table String}

/-- **Every secret found was asked for by an entry whose identifier is the key but for blanks.** -/
theorem exists_of_held (found : SecretsFound environment value document secrets)
    {key secret : String} (held : secrets.get? key = some secret) :
    ∃ entry ∈ document.clients, WrittenByName value entry ∧
      Text.trim entry.client.clientId = key ∧ entry.wanted environment = some secret := by
  rcases mem_of_resolveClients found.resolved held with
    nothing | ⟨written, member, name, ⟨named, position, underKey⟩, there⟩
  · cases nothing
  · obtain ⟨entry, listed, decoded⟩ := Document.exists_of_mem_clientEntries found.read member
    obtain ⟨⟨fields, rfl⟩, names⟩ := ClientSection.nameAt?_secretVariable decoded named
    refine ⟨entry, listed, ⟨fields, member, decoded⟩, ?_, ?_⟩
    · rw [(ClientSection.decode_object decoded).1,
        Text.trimmed?_eq_some_iff.2 ⟨found.identified.named entry listed, rfl⟩] at underKey
      exact underKey
    · rw [ClientSection.wanted, names, Option.bind_some, there]

/-- **An entry that is written as an object and names a variable has a secret under its trimmed
identifier.** -/
theorem held_of_named (found : SecretsFound environment value document secrets)
    {entry : ClientSection} (listed : entry ∈ document.clients) (byName : WrittenByName value entry)
    (isNamed : entry.namedVariable.isSome) :
    (entry.wanted environment).isSome ∧
      (secrets.get? (Text.trim entry.client.clientId)).isSome := by
  obtain ⟨name, names⟩ := Option.isSome_iff_exists.1 isNamed
  obtain ⟨fields, member, decoded⟩ := byName
  obtain ⟨clientId, named⟩ := ClientSection.decode_object decoded
  obtain ⟨there, key, ⟨-, position, underKey⟩, held⟩ :=
    asked_of_resolveClients found.resolved member (named.trans names)
  rw [clientId, Text.trimmed?_eq_some_iff.2 ⟨found.identified.named entry listed, rfl⟩] at underKey
  cases underKey
  rw [ClientSection.wanted, names, Option.bind_some]
  exact ⟨there, held⟩

end SecretsFound

/-! ## Complete environments -/

/-- Every variable has a value that is not blank. -/
def Complete (environment : Environment) : Prop :=
  ∀ name, ∃ value, environment name = some value ∧ Text.allBlank value = false

theorem Complete.requireVariable (complete : Complete environment) (name : String)
    (purpose : SecretPurpose) :
    ∃ secret, requireVariable environment name purpose = .ok secret := by
  obtain ⟨value, there⟩ := complete name
  exact ⟨value, requireVariable_eq_ok_iff.2 there⟩

theorem exists_resolveClients_eq_ok (complete : Complete environment) (position : Nat)
    (found : Table String) (entries : List Json) :
    ∃ table, resolveClients environment position found entries = .ok table := by
  induction entries generalizing position found with
  | nil => exact ⟨found, rfl⟩
  | cons entry rest ih =>
      rw [resolveClients]
      split
      · exact ih (position + 1) found
      · next name _ =>
        dsimp only
        obtain ⟨secret, there⟩ := complete.requireVariable name
          (.clientSecret ((nameAt? entry ["client_id"]).getD s!"#{position}"))
        rw [there]
        exact ih (position + 1) _

theorem exists_resolveAdmin_eq_ok (complete : Complete environment) (value : Json) :
    ∃ admin, resolveAdmin value environment = .ok admin := by
  unfold resolveAdmin
  split
  · next name _ =>
    obtain ⟨secret, there⟩ := complete.requireVariable name .adminClientSecret
    rw [there]
    exact ⟨_, rfl⟩
  · dsimp only
    obtain ⟨username, named⟩ := complete.requireVariable
      ((nameAt? value ["keycloak", "credentials_env", "username"]).getD defaultUsernameVariable)
      .adminUsername
    obtain ⟨password, known⟩ := complete.requireVariable
      ((nameAt? value ["keycloak", "credentials_env", "password"]).getD defaultPasswordVariable)
      .adminPassword
    rw [named, known]
    exact ⟨_, rfl⟩

/-- Where every variable has a value, all secrets are found. -/
theorem exists_resolveSecrets_eq_ok (complete : Complete environment) (value : Json) :
    ∃ secrets, resolveSecrets value environment = .ok secrets := by
  obtain ⟨admin, signsIn⟩ := exists_resolveAdmin_eq_ok complete value
  obtain ⟨clientSecrets, found⟩ :=
    exists_resolveClients_eq_ok complete 0 ∅ (clientEntries value)
  refine ⟨⟨admin, clientSecrets⟩, ?_⟩
  simp only [resolveSecrets, bind_eq_ok_iff]
  exact ⟨admin, signsIn, clientSecrets, found, rfl⟩

end RealmConvergence.Configuration
