import RealmConvergence.Admin.Shown
import RealmConvergence.Proofs.Configuration.OfflineAgreement

/-!
# What shown values conceal

Two environments that give values to the same variables differ in secrets alone, apart from the name
of the administrator, which is no secret (`AgreeBut`). This module follows two runs of one merged
configuration, one in each environment, and shows that no text tells them apart.

Outcomes of the two runs are `Alike` when both fail for one reason, or both succeed with related
values. Each part of a run keeps outcomes alike: looking up a variable, writing the secrets of
clients, reading and checking the document. Related values differ in secrets that their shown forms
leave out, so what is shown of them is one text (`secrets_concealed`).
-/

set_option autoImplicit false

namespace RealmConvergence

/-! ## Two outcomes -/

/-- Both outcomes are one failure, or both are successes with related values. -/
inductive AlikeOutcome {ε α : Type} (related : α → α → Prop) : Except ε α → Except ε α → Prop where
  | fails (problem : ε) : AlikeOutcome related (.error problem) (.error problem)
  | succeeds {left right : α} (values : related left right) :
      AlikeOutcome related (.ok left) (.ok right)

namespace AlikeOutcome

variable {ε α β : Type} {related weaker : α → α → Prop} {further : β → β → Prop}

theorem of_eq {left right : Except ε α} (same : left = right) : AlikeOutcome Eq left right := by
  subst same
  cases left with
  | error problem => exact .fails problem
  | ok value => exact .succeeds rfl

theorem mono {left right : Except ε α} (alike : AlikeOutcome related left right)
    (weaken : ∀ one other, related one other → weaker one other) :
    AlikeOutcome weaker left right := by
  cases alike with
  | fails problem => exact .fails problem
  | succeeds values => exact .succeeds (weaken _ _ values)

/-- What goes on alike after related values goes on alike after alike outcomes. -/
theorem bind {left right : Except ε α} (alike : AlikeOutcome related left right)
    {leftNext rightNext : α → Except ε β}
    (next : ∀ one other, related one other →
      AlikeOutcome further (leftNext one) (rightNext other)) :
    AlikeOutcome further (left >>= leftNext) (right >>= rightNext) := by
  cases alike with
  | fails problem => exact .fails problem
  | succeeds values => exact next _ _ values

end AlikeOutcome

/-! ## Tables with the same names -/

/-- Where a name stands in a list of entries depends on the other names alone. -/
theorem Entries.map_fst_put_congr {α β : Type} {one : Entries α} {other : Entries β}
    (same : one.map Prod.fst = other.map Prod.fst) (name : String) (left : α) (right : β) :
    (put name left one).map Prod.fst = (put name right other).map Prod.fst := by
  induction one generalizing other with
  | nil =>
      cases other with
      | nil => rfl
      | cons entry rest => cases same
  | cons entry rest ih =>
      cases other with
      | nil => cases same
      | cons otherEntry otherRest =>
          obtain ⟨head, held⟩ := entry
          obtain ⟨otherHead, otherHeld⟩ := otherEntry
          obtain ⟨rfl, later⟩ := List.cons.inj same
          dsimp only [put]
          split
          · exact congrArg (name :: ·) same
          · split
            · exact congrArg (name :: ·) later
            · exact congrArg (head :: ·) (ih later)

/-- Tables with the same names hold something in the same places. -/
theorem Table.isSome_get?_of_names {α : Type} {one other : Table α}
    (same : one.names = other.names) (name : String) :
    (one.get? name).isSome = (other.get? name).isSome := by
  have named (table : Table α) : (table.get? name).isSome ↔ name ∈ table.names := by
    simp only [names, List.mem_map, Prod.exists, mem_toList_iff, exists_and_right, exists_eq_right,
      Option.isSome_iff_exists]
  rw [Bool.eq_iff_iff, named, named, same]

/-! ## Blueprints without their secrets -/

namespace Blueprint

/-- What is shown of a blueprint does not depend on the values of its secrets. -/
theorem shown_masked (blueprint : Blueprint) : blueprint.masked.shown = blueprint.shown := by
  have clients (client : Client) :
      Client.shown { client with secret := client.secret.map fun _ =>
        Configuration.unresolvedSecret } = client.shown := by
    cases held : client.secret <;> simp [Client.shown, Shown.ofSecret, Shown.ofOption, held]
  simp only [shown, masked, List.map_map, Function.comp_def, clients]

/-- Nor does whether it is well-formed, or what is wrong with it. -/
theorem validate_masked (blueprint : Blueprint) :
    blueprint.masked.validate = blueprint.validate := by
  have clients (seen : List String) (items : List Client) :
      checkClients seen (items.map fun client =>
        { client with secret := client.secret.map fun _ => Configuration.unresolvedSecret }) =
          checkClients seen items := by
    induction items generalizing seen with
    | nil => rfl
    | cons client rest ih => simp only [List.map_cons, checkClients, Option.isSome_map, ih]
  simp only [validate, masked, clients]

end Blueprint

/-! ## Related credentials -/

/-- Credentials of one kind, with one name where there is a name. -/
inductive AdminCredentials.Alike : AdminCredentials → AdminCredentials → Prop where
  | password (username one other : String) :
      Alike (.password username one) (.password username other)
  | clientSecret (one other : String) : Alike (.clientSecret one) (.clientSecret other)

theorem AdminCredentials.Alike.shown {one other : AdminCredentials} (alike : one.Alike other) :
    one.shown = other.shown := by
  cases alike <;> rfl

namespace Configuration

/-! ## Related secrets and configurations -/

/-- Secrets for one kind of sign-in and for the same clients. -/
structure ResolvedSecrets.Alike (one other : ResolvedSecrets) : Prop where
  admin : one.admin.Alike other.admin
  clients : one.clientSecrets.names = other.clientSecrets.names

theorem shownAdmin_eq_of_alike {one other : AdminCredentials} (alike : one.Alike other) :
    shownAdmin one = shownAdmin other := by
  cases alike <;> rfl

/-- What is shown of secrets does not depend on their values. -/
theorem ResolvedSecrets.Alike.shown {one other : ResolvedSecrets} (alike : one.Alike other) :
    one.shown = other.shown := by
  simp only [ResolvedSecrets.shown, shownAdmin_eq_of_alike alike.admin, alike.clients]

/-- Configurations that differ in secrets alone. -/
structure RunConfiguration.Alike (one other : RunConfiguration) : Prop where
  digest : one.digest = other.digest
  connection : { one.connection with credentials := other.connection.credentials } =
    other.connection
  credentials : one.connection.credentials.Alike other.connection.credentials
  settings : one.settings = other.settings
  blueprint : one.blueprint.masked = other.blueprint.masked

/-- What is shown of a configuration does not depend on its secrets. -/
theorem RunConfiguration.Alike.shown {one other : RunConfiguration} (alike : one.Alike other) :
    one.shown = other.shown := by
  have connection : one.connection.shown = other.connection.shown := by
    rw [← alike.connection]
    simp only [AdminConnection.shown, alike.credentials.shown]
  have blueprint : one.blueprint.shown = other.blueprint.shown := by
    rw [← Blueprint.shown_masked, alike.blueprint, Blueprint.shown_masked]
  simp only [RunConfiguration.shown, alike.digest, connection, alike.settings, blueprint]

/-! ## Two environments -/

/-- The value of a variable, where it is not blank. -/
def filled (environment : Environment) (name : String) : Option String :=
  (environment name).filter fun value => !Text.allBlank value

/-- The variable of the administrator's name, where the administrator signs in by name. -/
def adminNameVariable? (value : Json) : Option String :=
  match nameAt? value ["keycloak", "credentials_env", "client_secret"] with
  | some _ => none
  | none =>
    some ((nameAt? value ["keycloak", "credentials_env", "username"]).getD defaultUsernameVariable)

/-- Two environments that give values to the same variables, and one name to the administrator. -/
structure AgreeBut (value : Json) (one other : Environment) : Prop where
  filled : ∀ name, (filled one name).isSome = (filled other name).isSome
  adminName : ∀ name, adminNameVariable? value = some name →
    Configuration.filled one name = Configuration.filled other name

/-- Whether a variable that has to be there is found depends on its value through `filled`. -/
theorem requireVariable_eq (environment : Environment) (name : String) (purpose : SecretPurpose) :
    requireVariable environment name purpose =
      match filled environment name with
      | some value => .ok value
      | none => .error (.missingVariable name purpose) := by
  unfold requireVariable filled
  cases environment name with
  | none => rfl
  | some value => cases blank : Text.allBlank value <;> simp [Option.filter, blank]

variable {value : Json} {one other : Environment}

/-- A variable is found in both environments or in neither. -/
theorem AgreeBut.requireVariable (agree : AgreeBut value one other) (name : String)
    (purpose : SecretPurpose) :
    AlikeOutcome (fun _ _ => True) (requireVariable one name purpose)
      (requireVariable other name purpose) := by
  have carries := agree.filled name
  rw [requireVariable_eq, requireVariable_eq]
  cases oneFilled : Configuration.filled one name <;>
    cases otherFilled : Configuration.filled other name <;>
    simp only [oneFilled, otherFilled, Option.isSome_none, Option.isSome_some, Bool.true_eq_false,
      Bool.false_eq_true] at carries
  · exact .fails _
  · exact .succeeds trivial

/-- The administrator signs in alike. -/
theorem AgreeBut.resolveAdmin (agree : AgreeBut value one other) :
    AlikeOutcome AdminCredentials.Alike (resolveAdmin value one) (resolveAdmin value other) := by
  unfold Configuration.resolveAdmin
  split
  · next name named =>
    exact (agree.requireVariable name _).bind fun left right _ =>
      .succeeds (.clientSecret left right)
  · next unnamed =>
    have username := agree.adminName
      ((nameAt? value ["keycloak", "credentials_env", "username"]).getD defaultUsernameVariable)
      (by simp only [adminNameVariable?, unnamed])
    refine (AlikeOutcome.of_eq (by rw [requireVariable_eq, requireVariable_eq, username])).bind ?_
    rintro name - rfl
    exact (agree.requireVariable _ _).bind fun left right _ => .succeeds (.password name left right)

/-- The same clients get secrets. Every entry writes one name into both tables or into neither. -/
theorem AgreeBut.resolveClients (agree : AgreeBut value one other) (entries : List Json)
    (position : Nat) {left right : Table String} (same : left.names = right.names) :
    AlikeOutcome (fun left right => left.names = right.names)
      (resolveClients one position left entries) (resolveClients other position right entries) := by
  induction entries generalizing position left right with
  | nil => exact .succeeds same
  | cons entry rest ih =>
      unfold Configuration.resolveClients
      split
      · exact ih (position + 1) same
      · next name named =>
        have found := agree.requireVariable name
          (.clientSecret ((nameAt? entry ["client_id"]).getD s!"#{position}"))
        dsimp only
        generalize Configuration.requireVariable one name _ = leftFound at found ⊢
        generalize Configuration.requireVariable other name _ = rightFound at found ⊢
        cases found with
        | fails problem => exact .fails problem
        | succeeds => exact ih (position + 1) (Entries.map_fst_put_congr same _ _ _)

/-- Secrets are found alike. -/
theorem AgreeBut.resolveSecrets (agree : AgreeBut value one other) :
    AlikeOutcome ResolvedSecrets.Alike (resolveSecrets value one) (resolveSecrets value other) :=
  agree.resolveAdmin.bind fun _ _ admin =>
    (agree.resolveClients _ 0 rfl).bind fun _ _ clients => .succeeds ⟨admin, clients⟩

/-! ## Two configurations -/

/-- A configuration is assembled alike from secrets that differ in their values. -/
theorem ResolvedSecrets.Alike.assemble {left right : ResolvedSecrets} (alike : left.Alike right)
    (merged : Merged) :
    AlikeOutcome RunConfiguration.Alike (assemble merged left) (assemble merged right) := by
  unfold Configuration.assemble
  refine (AlikeOutcome.of_eq rfl).bind ?_
  rintro document - rfl
  have blueprints : (document.blueprint left.clientSecrets).masked =
      (document.blueprint right.clientSecrets).masked :=
    Document.masked_blueprint_eq_iff.2 fun entry _ => Table.isSome_get?_of_names alike.clients _
  have checked : (document.blueprint left.clientSecrets).validate =
      (document.blueprint right.clientSecrets).validate := by
    rw [← Blueprint.validate_masked, blueprints, Blueprint.validate_masked]
  split
  · exact .fails _
  · next service connected =>
    split
    · exact .fails _
    · have same := congrArg (Except.mapError ConfigurationError.blueprint) checked
      refine (AlikeOutcome.of_eq same).bind ?_
      rintro - - -
      exact .succeeds ⟨rfl, rfl, alike.admin, rfl, blueprints⟩

/-! ## Texts -/

/-- **Secrets reach no text.** In two environments that give values to the same variables, and one
name to the administrator, a merged configuration fails for one reason, or its secrets are found for
the same clients and are shown alike; the configuration assembled from them then fails for one
reason too, or is shown alike as a whole. Nor do records of clients and credentials show the value
of a secret that they hold. -/
theorem secrets_concealed :
    (∀ (merged : Merged) (one other : Environment), AgreeBut merged.value one other →
      AlikeOutcome
        (fun left right =>
          left.clientSecrets.names = right.clientSecrets.names ∧
            left.shown.render = right.shown.render ∧
              AlikeOutcome (fun leftRun rightRun => leftRun.shown.render = rightRun.shown.render)
                (assemble merged left) (assemble merged right))
        (resolveSecrets merged.value one) (resolveSecrets merged.value other)) ∧
      (∀ (record : ClientRecord) (left right : String),
        ({ record with secret := some left } : ClientRecord).shown.render =
          ({ record with secret := some right } : ClientRecord).shown.render) ∧
        ∀ (record : CredentialRecord) (left right : String),
          ({ record with value := some left } : CredentialRecord).shown.render =
            ({ record with value := some right } : CredentialRecord).shown.render := by
  refine ⟨fun merged one other agree => ?_, fun _ _ _ => rfl, fun _ _ _ => rfl⟩
  refine agree.resolveSecrets.mono fun left right alike => ?_
  refine ⟨alike.clients, congrArg Shown.render alike.shown, ?_⟩
  exact (alike.assemble merged).mono fun _ _ runs => congrArg Shown.render runs.shown

/-! ## One document in two environments -/

/-- The variables of `sampleEnvironment` with other secrets. -/
def rotatedEnvironment : Environment := fun name =>
  Entries.lookup name [("KCB_ADMIN_USERNAME", "admin"), ("KCB_ADMIN_PASSWORD", "rotated"),
    ("A_SECRET", "gamma"), ("B_SECRET", "delta")]

theorem agreeBut_rotatedEnvironment :
    AgreeBut plainDocument.value sampleEnvironment rotatedEnvironment := by
  refine ⟨fun name => ?_, fun name named => ?_⟩
  · simp only [filled, sampleEnvironment, rotatedEnvironment, Entries.lookup]
    split_ifs <;> decide
  · have isDefault : adminNameVariable? plainDocument.value = some defaultUsernameVariable := by
      decide +kernel
    cases isDefault.symm.trans named
    decide +kernel

theorem secrets_concealed_plainDocument :
    AgreeBut plainDocument.value sampleEnvironment rotatedEnvironment ∧
      ∃ left right leftRun rightRun,
        resolveSecrets plainDocument.value sampleEnvironment = .ok left ∧
          resolveSecrets plainDocument.value rotatedEnvironment = .ok right ∧
            assemble plainDocument left = .ok leftRun ∧
              assemble plainDocument right = .ok rightRun ∧
              leftRun.blueprint.clients.map Blueprint.Client.secret =
                  [some "alpha", none, some "beta"] ∧
                rightRun.blueprint.clients.map Blueprint.Client.secret =
                    [some "gamma", none, some "delta"] ∧
                  left.shown.render = right.shown.render ∧
                    leftRun.shown.render = rightRun.shown.render := by
  obtain ⟨leftRun, leftPrepared, leftCarries⟩ : ∃ configuration,
      (resolveSecrets plainDocument.value sampleEnvironment >>= assemble plainDocument) =
          .ok configuration ∧
        configuration.blueprint.clients.map Blueprint.Client.secret =
          [some "alpha", none, some "beta"] :=
    exists_of_toOption_map (by decide +kernel)
  obtain ⟨rightRun, rightPrepared, rightCarries⟩ : ∃ configuration,
      (resolveSecrets plainDocument.value rotatedEnvironment >>= assemble plainDocument) =
          .ok configuration ∧
        configuration.blueprint.clients.map Blueprint.Client.secret =
          [some "gamma", none, some "delta"] :=
    exists_of_toOption_map (by decide +kernel)
  obtain ⟨left, leftResolved, leftAssembled⟩ := bind_eq_ok_iff.1 leftPrepared
  obtain ⟨right, rightResolved, rightAssembled⟩ := bind_eq_ok_iff.1 rightPrepared
  have concealed := secrets_concealed.1 plainDocument _ _ agreeBut_rotatedEnvironment
  rw [leftResolved, rightResolved] at concealed
  cases concealed with
  | succeeds shown =>
      obtain ⟨-, secretsShown, runs⟩ := shown
      rw [leftAssembled, rightAssembled] at runs
      cases runs with
      | succeeds runsShown =>
          exact ⟨agreeBut_rotatedEnvironment, left, right, leftRun, rightRun, leftResolved,
            rightResolved, leftAssembled, rightAssembled, leftCarries, rightCarries, secretsShown,
            runsShown⟩

end Configuration

end RealmConvergence
