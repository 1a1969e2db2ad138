import RealmConvergence.Convergence.Passes

/-!
# Runs

A run brings a realm to the state that a blueprint desires, and reports what it did. Whether a run
takes place at all is decided before: runs can be switched off, and a realm that carries the marker
of a finished run is left alone unless the run is forced.
-/

set_option autoImplicit false

namespace RealmConvergence.Convergence

/-! ## Applying a blueprint -/

/-- All passes in order. -/
def passes (blueprint : Blueprint) : Part Findings := do
  let realm ← realmPass blueprint.realm
  let clients ← clientPass blueprint
  let realmRoles ← realmRolePass blueprint
  let clientRoles ← clientRolePass blueprint
  let composites ← compositePass blueprint
  let marker ← markerPass blueprint.realm.name
  pure (realm ++ clients ++ realmRoles ++ clientRoles ++ composites ++ marker)

/-- Bring a realm to the state that a blueprint desires. -/
def apply (blueprint : Blueprint) : Part Report :=
  match blueprint.validate with
  | .error violation => throw (.blueprint violation)
  | .ok () => do
    let findings ← passes blueprint
    pure { realm := blueprint.realm.name, findings, finished := true }

/-! ## Deciding whether to apply it -/

/-- Whether a run takes place, and why. -/
structure Decision where
  /-- Whether the run takes place. -/
  proceeds : Bool
  /-- Why. -/
  reason : Option String
deriving DecidableEq

/-- Decide by the marker of a finished run, unless the run is forced. -/
def decideByMarker (force : Bool) (realm : String) : Part Decision :=
  if force then pure ⟨true, some "forced by configuration"⟩
  else do
    let current : Option RealmRecord ← ExceptT.mk <| .ask (.getRealm realm) fun reply =>
      .conclude (reply.mapError (.markerUnread realm))
    match current with
    | none => pure ⟨true, some s!"realm '{realm}' does not exist"⟩
    | some current =>
      if markerIsSet (current.attribute? initializedMarker) then
        pure ⟨false, some s!"realm '{realm}' already initialized"⟩
      else pure ⟨true, some s!"realm '{realm}' exists but is not initialized"⟩

/-- What became of a run. -/
inductive Outcome where
  /-- The blueprint was applied. -/
  | applied (summary : String)
  /-- Nothing was done. -/
  | skipped (reason : String)
deriving DecidableEq

namespace Outcome

/-- The summary or the reason. -/
def message : Outcome → String
  | .applied summary => summary
  | .skipped reason => reason

/-- Whether the blueprint was applied. -/
def isApplied : Outcome → Bool
  | .applied _ => true
  | .skipped _ => false

/-- The outcome in one line. -/
def line : Outcome → String
  | .applied summary => s!"applied: {summary}"
  | .skipped reason => s!"skipped: {reason}"

end Outcome

/-- The reason of a run that is switched off. -/
def switchedOffReason : String := "provisioning disabled by configuration"

/-- The reason of a decision against a run that gives none. -/
def unexplainedReason : String := "initialization not required"

/-- The outcome of applying a blueprint. -/
def Outcome.ofReport (report : Report) : Outcome := .applied report.summary

/-- Decide, and apply a blueprint if the decision says so. The report is there exactly if the
blueprint was applied. -/
def initializeBy (enabled : Bool) (decide : Part Decision) (blueprint : Blueprint) :
    Part (Outcome × Option Report) :=
  if !enabled then pure (.skipped switchedOffReason, none)
  else do
    let decision ← decide
    if decision.proceeds then
      let report ← apply blueprint
      pure (.ofReport report, some report)
    else pure (.skipped (decision.reason.getD unexplainedReason), none)

/-- Apply a blueprint if runs are switched on and the realm is not marked as finished. -/
def initializeRealm (enabled force : Bool) (blueprint : Blueprint) :
    Part (Outcome × Option Report) :=
  initializeBy enabled (decideByMarker force blueprint.realm.name) blueprint

end RealmConvergence.Convergence
