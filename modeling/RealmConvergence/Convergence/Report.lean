/-!
# Reports

A run reports one step for every decision about a resource, in the order in which it decided, and
warns about whatever it had to leave undone. What a pass finds out is a value of its own
(`Findings`); the findings of passes that follow each other are appended.
-/

set_option autoImplicit false

namespace RealmConvergence

/-- What a step is about. -/
inductive ResourceKind where
  | realm
  | client
  | clientSecret
  | serviceAccountGrant
  | realmRole
  | clientRole
  | composite
  | initializationFlag
deriving DecidableEq

/-- The kinds, in order. -/
def ResourceKind.all : List ResourceKind :=
  [.realm, .client, .clientSecret, .serviceAccountGrant, .realmRole, .clientRole, .composite,
    .initializationFlag]

/-- The name of a kind in reports. -/
def ResourceKind.name : ResourceKind → String
  | .realm => "Realm"
  | .client => "Client"
  | .clientSecret => "ClientSecret"
  | .serviceAccountGrant => "ServiceAccountGrant"
  | .realmRole => "RealmRole"
  | .clientRole => "ClientRole"
  | .composite => "Composite"
  | .initializationFlag => "InitializationFlag"

/-- What was done about a resource. -/
inductive StepAction where
  /-- The resource was absent and has been created. -/
  | created
  /-- The resource differed and has been changed. -/
  | updated
  /-- The resource was as desired. -/
  | unchanged
  /-- The resource was left as it is, because something it needs is missing or because a step
  whose failure is tolerated failed. -/
  | skipped
deriving DecidableEq

/-- The actions, in order. -/
def StepAction.all : List StepAction := [.created, .updated, .unchanged, .skipped]

/-- The name of an action in reports. -/
def StepAction.name : StepAction → String
  | .created => "Created"
  | .updated => "Updated"
  | .unchanged => "Unchanged"
  | .skipped => "Skipped"

/-- One decision about one resource. -/
structure Step where
  /-- What the step is about. -/
  kind : ResourceKind
  /-- The resource, such as `reporting` or `reporting:VIEW_REPORTS`. -/
  key : String
  /-- What was done. -/
  action : StepAction
  /-- What exactly was done, or why nothing was. -/
  detail : Option String := none
deriving DecidableEq

/-- What part of a run found out. -/
structure Findings where
  /-- Decisions, in order. -/
  steps : List Step := []
  /-- What had to be left undone, in order. -/
  warnings : List String := []
deriving DecidableEq

namespace Findings

instance : Append Findings :=
  ⟨fun first second => ⟨first.steps ++ second.steps, first.warnings ++ second.warnings⟩⟩

instance : Inhabited Findings := ⟨{}⟩

/-- One step. -/
def step (kind : ResourceKind) (key : String) (action : StepAction)
    (detail : Option String := none) : Findings :=
  { steps := [{ kind, key, action, detail }] }

/-- One warning. -/
def warning (text : String) : Findings :=
  { warnings := [text] }

/-- The findings of a list, in order. -/
def join (findings : List Findings) : Findings :=
  ⟨findings.flatMap Findings.steps, findings.flatMap Findings.warnings⟩

@[simp] theorem steps_append (first second : Findings) :
    (first ++ second).steps = first.steps ++ second.steps := rfl

@[simp] theorem warnings_append (first second : Findings) :
    (first ++ second).warnings = first.warnings ++ second.warnings := rfl

end Findings

/-- The report of a run on one realm. -/
structure Report where
  /-- The realm. -/
  realm : String
  /-- Decisions and warnings. -/
  findings : Findings := {}
  /-- Whether the run has come to its end. -/
  finished : Bool := false
deriving DecidableEq

namespace Report

/-- Decisions, in order. -/
def steps (report : Report) : List Step := report.findings.steps

/-- Warnings, in order. -/
def warnings (report : Report) : List String := report.findings.warnings

/-- Add findings. -/
def add (report : Report) (found : Findings) : Report :=
  { report with findings := report.findings ++ found }

/-- The number of steps with an action. -/
def count (report : Report) (action : StepAction) : Nat :=
  report.steps.countP fun step => step.action == action

/-- The number of steps that changed the remote realm. -/
def mutationCount (report : Report) : Nat :=
  report.count .created + report.count .updated

/-- The steps about one kind of resource. -/
def stepsOf (report : Report) (kind : ResourceKind) : List Step :=
  report.steps.filter fun step => step.kind == kind

/-- The report in one line. -/
def summary (report : Report) : String :=
  s!"realm={report.realm} created={report.count .created} updated={report.count .updated} " ++
    s!"unchanged={report.count .unchanged} skipped={report.count .skipped} " ++
    s!"warnings={report.warnings.length}"

end Report

end RealmConvergence
