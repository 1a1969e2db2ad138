import RealmConvergence.Proofs.Convergence.Asking
import RealmConvergence.Proofs.Convergence.Passes
import RealmConvergence.Proofs.Service.Likeness

/-!
# Parts beside their undisturbed selves

A part that brings one item to its desired state reads first, writes at most once, and gives up at
the first call that fails. So with faults it either does nothing, or does what it does without them
(`Attempts`).

A grant is the exception: its failure is tolerated, after the client was written. If one of its
calls is told to fail, it leaves the store as it is, and otherwise it does what it does without
faults. Either way the two stores differ at most in the grants of that client's user
(`alike_grantRoles`).
-/

set_option autoImplicit false

namespace RealmConvergence.Convergence

open Service

variable {ε α β : Type} {faults : Faults} {store : Store} {realm key : String}
  {held : StoredRealm} {stored : StoredClient}

/-! ## Attempts -/

/-- What a part comes to without faults. -/
def undisturbed (part : ExceptT ε Talk α) (store : Store) : Except ε α × Store :=
  part.run.run (respond Faults.none) store

/-- A part that comes to its end without faults either does nothing with these faults and fails, or
comes to its end as well, and the two stores meet the goal. -/
def Attempts (faults : Faults) (part : ExceptT ε Talk α) (store : Store)
    (goal : Store → Store → Prop) : Prop :=
  ∀ value, (undisturbed part store).1 = .ok value →
    Reaches faults part store fun outcome later => match outcome with
      | .ok _ => goal later (undisturbed part store).2
      | .error _ => later = store

/-- A part that always comes to its end, where the two stores meet the goal. -/
def Finishes (faults : Faults) (part : ExceptT ε Talk α) (store : Store)
    (goal : Store → Store → Prop) : Prop :=
  Reaches faults part store fun outcome later =>
    (∃ value, outcome = .ok value) ∧ goal later (undisturbed part store).2

/-- A call and what follows it, at work. -/
theorem run_explained_bind (explain : AdminError → ε) (call : AdminCall)
    (next : call.Answer → ExceptT ε Talk β) (faults : Faults) (store : Store) :
    (explained explain call >>= next).run.run (respond faults) store =
      match respond faults call store with
      | (.ok answer, later) => (next answer).run.run (respond faults) later
      | (.error problem, later) => (.error (explain problem), later) := by
  show ((Dialogue.conclude ((respond faults call store).1.mapError explain)).andThen
    (afterOutcome next)).run (respond faults) (respond faults call store).2 = _
  obtain ⟨reply, later⟩ := respond faults call store
  cases reply <;> rfl

section Rules

variable {goal : Store → Store → Prop} {explain : AdminError → ε} {call : AdminCall}
  {next : call.Answer → ExceptT ε Talk β}

theorem attempts_pure {value : α} (holds : goal store store) :
    Attempts faults (pure value : ExceptT ε Talk α) store goal :=
  fun _ _ => holds

theorem Attempts.mono {wider : Store → Store → Prop} {part : ExceptT ε Talk α}
    (attempts : Attempts faults part store goal)
    (wide : ∀ later other, goal later other → wider later other) :
    Attempts faults part store wider := by
  intro value finishes
  refine (attempts value finishes).mono fun outcome later holds => ?_
  cases outcome with
  | ok _ => exact wide _ _ holds
  | error _ => exact holds

theorem Finishes.mono {wider : Store → Store → Prop} {part : ExceptT ε Talk α}
    (finishes : Finishes faults part store goal)
    (wide : ∀ later other, goal later other → wider later other) :
    Finishes faults part store wider :=
  Reaches.mono finishes fun _ _ ⟨ended, holds⟩ => ⟨ended, wide _ _ holds⟩

theorem attempts_throw {failure : ε} :
    Attempts faults (throw failure : ExceptT ε Talk α) store goal :=
  fun _ never => nomatch never

/-- A call that reads, followed by an attempt, is an attempt. -/
theorem attempts_reads (reads : call.operation.isMutating = false)
    (goesOn : ∀ answer, faults call.operation = none → (store.answer call).1 = .ok answer →
      Attempts faults (next answer) store goal) :
    Attempts faults (explained explain call >>= next) store goal := by
  have stays : (store.answer call).2 = store := Store.answer_of_not_mutating reads
  unfold Attempts Reaches undisturbed
  rw [run_explained_bind, run_explained_bind, respond_none]
  cases isFaulty : faults call.operation with
  | some problem =>
      intro _ _
      rw [respond_of_faulty isFaulty]
  | none =>
      rw [respond_of_faultless isFaulty]
      generalize store.answer call = answered at stays goesOn
      obtain ⟨reply, later⟩ := answered
      cases stays
      cases reply with
      | error problem => exact fun _ never => nomatch never
      | ok answer => exact goesOn answer isFaulty rfl

/-- A call that writes, followed by what always comes to its end, is an attempt. -/
theorem attempts_writes
    (goesOn : ∀ answer later, store.answer call = (.ok answer, later) →
      Finishes faults (next answer) later goal) :
    Attempts faults (explained explain call >>= next) store goal := by
  unfold Attempts Reaches undisturbed
  rw [run_explained_bind, run_explained_bind, respond_none]
  cases isFaulty : faults call.operation with
  | some problem =>
      intro _ _
      rw [respond_of_faulty isFaulty]
  | none =>
      rw [respond_of_faultless isFaulty]
      generalize came : store.answer call = answered at goesOn
      obtain ⟨reply, later⟩ := answered
      cases reply with
      | error problem => exact fun _ never => nomatch never
      | ok answer =>
          intro _ _
          have finishes := goesOn answer later rfl
          unfold Finishes Reaches undisturbed at finishes
          dsimp only
          generalize (next answer).run.run (respond faults) later = reached at finishes
          obtain ⟨outcome, last⟩ := reached
          obtain ⟨⟨value, rfl⟩, holds⟩ := finishes
          exact holds

/-- A single call that writes is an attempt. -/
theorem attempts_write {value : α} :
    Attempts faults (explained explain call >>= fun _ => pure value) store (· = ·) :=
  attempts_writes fun _ _ _ => ⟨⟨value, rfl⟩, rfl⟩

end Rules

/-! ## Parts without grants -/

/-- An attempt that leaves the same store as without faults, if it leaves another one at all. -/
abbrev AttemptsSame (faults : Faults) (part : ExceptT ε Talk α) (store : Store) : Prop :=
  Attempts faults part store (· = ·)

theorem attempts_realmPass (desired : Blueprint.Realm) :
    AttemptsSame faults (realmPass desired) store := by
  refine attempts_reads rfl fun current _ _ => ?_
  cases current with
  | none => exact attempts_write
  | some current =>
      dsimp only
      split
      · exact attempts_pure rfl
      · exact attempts_write

theorem attempts_convergeRealmRole (desired : Blueprint.Role) :
    AttemptsSame faults (convergeRealmRole realm desired) store := by
  refine attempts_reads rfl fun current _ _ => ?_
  cases current with
  | none => exact attempts_write
  | some current =>
      dsimp only
      split
      · exact attempts_pure rfl
      · exact attempts_write

theorem attempts_convergeClientRole (desired : Blueprint.ClientRole) :
    AttemptsSame faults (convergeClientRole realm key desired) store := by
  refine attempts_reads rfl fun current _ _ => ?_
  cases current with
  | none => exact attempts_write
  | some current =>
      dsimp only
      split
      · exact attempts_pure rfl
      · exact attempts_write

/-- Resolving roles before an attempt is an attempt. -/
theorem attempts_resolveRoles_bind {mapping : Blueprint.Composite} {names : List String}
    {next : List RoleRecord × Findings → Part α} {goal : Store → Store → Prop}
    (goesOn : ∀ resolved, Attempts faults (next resolved) store goal) :
    Attempts faults (resolveRoles realm key mapping names >>= next) store goal := by
  induction names generalizing next with
  | nil => exact goesOn ([], {})
  | cons name rest ih =>
      rw [resolveRoles, bind_assoc]
      refine attempts_reads rfl fun found _ _ => ?_
      rw [bind_assoc]
      refine ih fun others => ?_
      cases found with
      | none => exact goesOn _
      | some role => exact goesOn _

theorem attempts_convergeComposite (mapping : Blueprint.Composite) :
    AttemptsSame faults (convergeComposite realm mapping) store := by
  refine attempts_reads rfl fun role _ _ => ?_
  dsimp only
  split
  · exact attempts_pure rfl
  refine attempts_reads rfl fun current _ _ => ?_
  split
  · exact attempts_pure rfl
  refine attempts_reads rfl fun attached _ _ => ?_
  split
  · exact attempts_pure rfl
  refine attempts_resolveRoles_bind fun ⟨resolved, findings⟩ => ?_
  dsimp only
  split
  · exact attempts_pure rfl
  · exact attempts_write

theorem attempts_markerPass : AttemptsSame faults (markerPass realm) store := by
  refine attempts_reads rfl fun current _ _ => ?_
  cases current with
  | none => exact attempts_throw
  | some current =>
      dsimp only
      split
      · exact attempts_pure rfl
      · exact attempts_write

/-! ## Grants -/

/-- The operations that a grant makes use of. -/
def grantOperations : List AdminOperation :=
  [.getServiceAccountUser, .findClient, .getClientRole, .assignClientRoles]

/-- The call makes use of an operation of grants. -/
def OfGrant (call : AdminCall) : Prop :=
  call.operation ∈ grantOperations

theorem asks_grantRoles_ofGrant : Asks OfGrant (grantRoles realm key) := by
  refine (asks_explained (by decide : AdminOperation.getServiceAccountUser ∈ grantOperations)).bind
    fun user => ?_
  refine (asks_expect _).bind fun userId => ?_
  refine (asks_explained (by decide : AdminOperation.findClient ∈ grantOperations)).bind
    fun owner => ?_
  refine (asks_expect _).bind fun _ => (asks_expect _).bind fun ownerId => ?_
  refine (asks_readRoles_of fun _ => (by decide : AdminOperation.getClientRole ∈
    grantOperations)).bind fun granted => ?_
  exact asks_explained (by decide : AdminOperation.assignClientRoles ∈ grantOperations)

/-- Faults for operations that a talk makes no use of change nothing about it. -/
theorem run_of_faultless {talk : Talk α}
    (faultless : talk.AsksOnly fun call => faults call.operation = none) (store : Store) :
    talk.run (respond faults) store = talk.run (respond Faults.none) store := by
  induction talk generalizing store with
  | conclude value => rfl
  | ask call resume ih =>
      have same : respond faults call store = respond Faults.none call store :=
        respond_of_faultless faultless.1 store
      show (resume (respond faults call store).1).run (respond faults)
        (respond faults call store).2 = _
      rw [ih _ (faultless.2 _), same]
      rfl

/-- A grant with none of its operations told to fail is undisturbed. -/
theorem grantRoles_of_faultless (findable : faults .findClient = none)
    (succeeds : ¬GrantsFail faults) (store : Store) :
    (grantRoles realm key).run.run (respond faults) store =
      undisturbed (grantRoles realm key) store := by
  refine run_of_faultless (asks_grantRoles_ofGrant.mono fun call ofGrant => ?_) store
  have faultless (operation : AdminOperation) (member : operation ∈ grantOperations) :
      faults operation = none := by
    refine Classical.byContradiction fun fails => succeeds ?_
    simp only [grantOperations, List.mem_cons, List.not_mem_nil, or_false] at member
    rcases member with rfl | rfl | rfl | rfl
    · exact .inl fails
    · exact absurd findable fails
    · exact .inr (.inl fails)
    · exact .inr (.inr fails)
  exact faultless _ ofGrant

/-- A grant changes the grants of the client's user at most, and only if it succeeds. -/
theorem reaches_grantRoles_grants (sound : store.Sound)
    (found : store.realms.get? realm = some held) (client : held.clients.get? key = some stored) :
    Reaches faults (grantRoles realm key) store fun _ later =>
      ∃ after, later.realms.get? realm = some after ∧
        held.Alike (fun user => ¬GrantsFail faults ∧ stored.serviceUser = some user) after := by
  refine (reaches_grantRoles sound found client).mono ?_
  rintro _ later (rfl | ⟨succeeds, after, rfl, user, roleIds, account, -, rfl⟩)
  · exact ⟨held, found, .refl _ held⟩
  · refine ⟨_, Store.putRealm_realms_get?_self store realm _, _, rfl, fun asked notUser => ?_⟩
    rw [Table.get?_insert, if_neg]
    rintro rfl
    exact notUser ⟨succeeds, account⟩

/-- **A grant with faults and one without differ at most in the grants of the client's user**, and
only if a call of the first was told to fail. -/
theorem alike_grantRoles (sound : store.Sound) (found : store.realms.get? realm = some held)
    (client : held.clients.get? key = some stored) (findable : faults .findClient = none) :
    Reaches faults (grantRoles realm key) store fun _ later =>
      later.Alike (fun user => GrantsFail faults ∧ stored.serviceUser = some user)
        (undisturbed (grantRoles realm key) store).2 := by
  by_cases fails : GrantsFail faults
  · have nothing : Reaches faults (grantRoles realm key) store _ :=
      reaches_grantRoles sound found client
    have undisturbedly : Reaches Faults.none (grantRoles realm key) store _ :=
      reaches_grantRoles sound found client
    refine nothing.mono ?_
    rintro _ later (rfl | ⟨succeeds, -⟩)
    · unfold Reaches at undisturbedly
      unfold undisturbed
      generalize (grantRoles realm key).run.run (respond Faults.none) later = came
        at undisturbedly
      obtain ⟨outcome, other⟩ := came
      rcases undisturbedly with rfl | ⟨-, after, rfl, user, roleIds, account, -, rfl⟩
      · exact .refl _ other
      · refine .of_putRealm found ⟨_, rfl, fun asked notUser => ?_⟩
        rw [Table.get?_insert, if_neg]
        rintro rfl
        exact notUser ⟨fails, account⟩
    · exact absurd fails succeeds
  · unfold Reaches
    rw [grantRoles_of_faultless findable fails]
    exact .refl _ _

/-- A tolerated grant, or nothing in its place, always comes to its end. -/
theorem finishes_grantIf (sound : store.Sound) (found : store.realms.get? realm = some held)
    (client : held.clients.get? key = some stored) (findable : faults .findClient = none)
    (needed : Bool) (clientId : String) (findings : Findings) :
    Finishes faults (if needed then do
        let granted ← tolerate (grantToServiceAccount realm key clientId)
        pure (findings ++ granted)
      else pure findings : Part Findings) store fun later other =>
        (∃ after, later.realms.get? realm = some after ∧
          held.Alike (fun user => needed = true ∧ ¬GrantsFail faults ∧
            stored.serviceUser = some user) after) ∧
          later.Alike (fun user => needed = true ∧ GrantsFail faults ∧
            stored.serviceUser = some user) other := by
  cases needed with
  | false => exact ⟨⟨findings, rfl⟩, ⟨held, found, .refl _ held⟩, .refl _ store⟩
  | true =>
      unfold Finishes Reaches undisturbed
      rw [if_pos rfl, run_tolerate_grant, Dialogue.run_andThen, Dialogue.run_andThen]
      have granting : Reaches faults (grantRoles realm key) store _ :=
        reaches_grantRoles_grants sound found client
      obtain ⟨after, foundAfter, granted⟩ := granting
      refine ⟨⟨_, rfl⟩, ⟨after, foundAfter, granted.mono fun user given => ⟨rfl, given⟩⟩, ?_⟩
      exact Store.Alike.mono (fun user missed => ⟨rfl, missed⟩)
        (alike_grantRoles sound found client findable)

end RealmConvergence.Convergence
