import RealmConvergence.Proofs.Admin.Calling
import RealmConvergence.Proofs.Convergence.Attempting
import RealmConvergence.Proofs.Convergence.Leading
import RealmConvergence.Proofs.Collection.Place

/-!
# What is created was looked up

A realm, a client and a role are created by a call that has a lookup (`AdminCall.lookup?`). Whoever
replies, in each pass every such call stands directly after its own lookup, which has come back with
nothing (`looksFirst_of_mem_passList`): no other call comes between, and none of an earlier pass is
taken for it.
-/

set_option autoImplicit false

namespace RealmConvergence

/-- The lookup of what a call creates, for the calls that create a realm, a client or a role. -/
def AdminCall.lookup? : AdminCall → Option AdminCall
  | .createRealm record => some (.getRealm (record.realm.getD ""))
  | .createClient realm record => some (.findClient realm (record.clientId.getD ""))
  | .createRealmRole realm record => some (.getRealmRole realm record.nameText)
  | .createClientRole realm client record => some (.getClientRole realm client record.nameText)
  | _ => none

namespace Convergence

open Dialogue (Course)

variable {ε α β : Type} {exchanges : List (Sigma AdminCall.Reply)}

/-! ## Creations after lookups -/

/-- Every creation among the exchanges stands directly after its lookup, which found nothing. -/
def FollowLookups (exchanges : List (Sigma AdminCall.Reply)) : Prop :=
  ∀ before (made : Sigma AdminCall.Reply) after lookup, exchanges = before ++ made :: after →
    made.1.lookup? = some lookup →
      ∃ earlier reply, before = earlier ++ [⟨lookup, reply⟩] ∧ lookup.FoundNothing reply

theorem followLookups_of_none (creates : ∀ exchange ∈ exchanges, exchange.1.lookup? = none) :
    FollowLookups exchanges := by
  rintro before made after lookup rfl isCreation
  rw [creates made (List.mem_append_right before List.mem_cons_self)] at isCreation
  cases isCreation

theorem FollowLookups.append {first rest : List (Sigma AdminCall.Reply)}
    (early : FollowLookups first) (late : FollowLookups rest) : FollowLookups (first ++ rest) := by
  intro before made after lookup place isCreation
  rcases append_eq_append_cons place with ⟨more, isFirst, -⟩ | ⟨less, rfl, isRest⟩
  · exact early before made more lookup isFirst isCreation
  · obtain ⟨earlier, reply, rfl, nothing⟩ := late less made after lookup isRest isCreation
    exact ⟨first ++ earlier, reply, (List.append_assoc _ _ _).symm, nothing⟩

theorem followLookups_cons {made : Sigma AdminCall.Reply} (creates : made.1.lookup? = none)
    (late : FollowLookups exchanges) : FollowLookups (made :: exchanges) := by
  have alone : FollowLookups [made] := followLookups_of_none fun exchange member =>
    List.mem_singleton.1 member ▸ creates
  exact alone.append late

/-- A creation directly after its lookup. -/
theorem followLookups_created {lookup call : AdminCall} {found : lookup.Reply} {reply : call.Reply}
    (isLookup : call.lookup? = some lookup) (creates : lookup.lookup? = none)
    (nothing : lookup.FoundNothing found) (late : FollowLookups exchanges) :
    FollowLookups (⟨lookup, found⟩ :: ⟨call, reply⟩ :: exchanges) := by
  have both : FollowLookups [⟨lookup, found⟩, ⟨call, reply⟩] := by
    intro before made after other place isCreation
    rcases List.cons_eq_append_iff.1 place with ⟨rfl, isFirst⟩ | ⟨less, rfl, isRest⟩
    · cases isFirst
      rw [creates] at isCreation
      cases isCreation
    · obtain ⟨rfl, rfl, -⟩ := place_in_singleton isRest
      cases isLookup.symm.trans isCreation
      exact ⟨[], found, rfl, nothing⟩
  exact both.append late

/-! ## Parts that look up before they create -/

/-- Whoever replies, every creation of the part stands directly after its lookup. -/
def LooksFirst (part : ExceptT ε Talk α) : Prop :=
  Leads part fun exchanges _ => FollowLookups exchanges

section Rules

theorem looksFirst_of_asks {part : ExceptT ε Talk α}
    (asks : Asks (fun call => call.lookup? = none) part) : LooksFirst part :=
  (leads_of_asks asks).mono fun _ _ => followLookups_of_none

theorem looksFirst_pure (value : α) : LooksFirst (pure value : ExceptT ε Talk α) :=
  looksFirst_of_asks (asks_pure value)

theorem LooksFirst.bind {part : ExceptT ε Talk α} {next : α → ExceptT ε Talk β}
    (first : LooksFirst part) (later : ∀ value, LooksFirst (next value)) :
    LooksFirst (part >>= next) :=
  Leads.bind first (fun _ _ follow => follow) fun _ value follow =>
    (later value).mono fun _ _ late => follow.append late

theorem looksFirst_explained {explain : AdminError → ε} {call : AdminCall}
    (creates : call.lookup? = none) : LooksFirst (explained explain call) :=
  looksFirst_of_asks (asks_explained creates)

/-- A call that creates nothing, and then a value. -/
theorem looksFirst_explained_pure {explain : AdminError → ε} {call : AdminCall}
    {value : call.Answer → α} (creates : call.lookup? = none) :
    LooksFirst (explained explain call >>= fun answer => pure (value answer)) :=
  (looksFirst_explained creates).bind fun _ => looksFirst_pure _

/-- **A part looks first that goes on with the creation only if the lookup found nothing.** -/
theorem looksFirst_lookup {explain : AdminError → ε} {lookup : AdminCall}
    {next : lookup.Answer → ExceptT ε Talk α} (creates : lookup.lookup? = none)
    (goesOn : ∀ answer, LooksFirst (next answer) ∨ lookup.FoundNothing (.ok answer) ∧
      ∃ (explain : AdminError → ε) (call : AdminCall) (last : call.Answer → ExceptT ε Talk α),
        next answer = explained explain call >>= last ∧ call.lookup? = some lookup ∧
          ∀ value, LooksFirst (last value)) :
    LooksFirst (explained explain lookup >>= next) := by
  refine leads_explained_bind (fun problem => ?_) fun answer => ?_
  · exact followLookups_cons creates (followLookups_of_none fun _ member => nomatch member)
  · rcases goesOn answer with plain | ⟨nothing, explain, call, last, same, isLookup, late⟩
    · exact plain.mono fun rest _ follow => followLookups_cons creates follow
    · rw [same]
      refine leads_explained_bind (fun problem => ?_) fun value => ?_
      · exact followLookups_created isLookup creates nothing
          (followLookups_of_none fun _ member => nomatch member)
      · exact (late value).mono fun rest _ follow =>
          followLookups_created isLookup creates nothing follow

theorem looksFirst_forEach {items : List α} {part : α → Part Findings}
    (each : ∀ item, LooksFirst (part item)) : LooksFirst (forEach items part) := by
  induction items with
  | nil => exact looksFirst_pure _
  | cons item rest ih =>
      exact (each item).bind fun _ => ih.bind fun _ => looksFirst_pure _

end Rules

/-! ## The passes -/

section Passes

variable {realm client : String}

theorem lookup?_of_ofGrant {call : AdminCall} (ofGrant : OfGrant call) : call.lookup? = none := by
  cases call <;> first | rfl | simp [OfGrant, grantOperations, AdminCall.operation] at ofGrant

theorem looksFirst_realmPass (desired : Blueprint.Realm) : LooksFirst (realmPass desired) := by
  refine looksFirst_lookup rfl fun current => ?_
  cases current with
  | none => exact .inr ⟨rfl, _, _, _, rfl, rfl, fun _ => looksFirst_pure _⟩
  | some current =>
      left
      dsimp only
      split
      · exact looksFirst_pure _
      · exact looksFirst_explained_pure rfl

theorem looksFirst_grantIf (needed : Bool) (clientId : String) (findings : Findings) :
    LooksFirst (if needed then do
        let granted ← tolerate (grantToServiceAccount realm client clientId)
        pure (findings ++ granted)
      else pure findings : Part Findings) := by
  split
  · have granting : LooksFirst (tolerate (grantToServiceAccount realm client clientId)) :=
      looksFirst_of_asks (asks_tolerate (Dialogue.AsksOnly.andThen
        (asks_grantRoles_ofGrant.mono fun _ => lookup?_of_ofGrant) fun _ => trivial))
    exact granting.bind fun _ => looksFirst_pure _
  · exact looksFirst_pure _

theorem looksFirst_secretDiffers (desired : Blueprint.Client) :
    LooksFirst (secretDiffers realm client desired) := by
  unfold secretDiffers
  split
  · exact looksFirst_pure _
  · exact looksFirst_explained_pure rfl

theorem looksFirst_rotateSecret (desired : Blueprint.Client) (rotates : Bool) :
    LooksFirst (rotateSecret realm client desired rotates) := by
  unfold rotateSecret
  split
  · exact looksFirst_explained_pure rfl
  · exact looksFirst_pure _

theorem looksFirst_convergeClient (desired : Blueprint.Client) :
    LooksFirst (convergeClient realm desired) := by
  refine looksFirst_lookup rfl fun current => ?_
  cases current with
  | none => exact .inr ⟨rfl, _, _, _, rfl, rfl, fun _ => looksFirst_grantIf _ _ _⟩
  | some current =>
      left
      dsimp only
      split
      · exact looksFirst_of_asks (asks_throw _)
      · refine (looksFirst_secretDiffers desired).bind fun rotates => ?_
        split
        · exact looksFirst_rotateSecret desired rotates
        · exact (looksFirst_explained rfl).bind fun _ => looksFirst_grantIf _ _ _

theorem looksFirst_convergeRealmRole (desired : Blueprint.Role) :
    LooksFirst (convergeRealmRole realm desired) := by
  refine looksFirst_lookup rfl fun current => ?_
  cases current with
  | none => exact .inr ⟨rfl, _, _, _, rfl, rfl, fun _ => looksFirst_pure _⟩
  | some current =>
      left
      dsimp only
      split
      · exact looksFirst_pure _
      · exact looksFirst_explained_pure rfl

theorem looksFirst_convergeClientRole (desired : Blueprint.ClientRole) :
    LooksFirst (convergeClientRole realm client desired) := by
  refine looksFirst_lookup rfl fun current => ?_
  cases current with
  | none => exact .inr ⟨rfl, _, _, _, rfl, rfl, fun _ => looksFirst_pure _⟩
  | some current =>
      left
      dsimp only
      split
      · exact looksFirst_pure _
      · exact looksFirst_explained_pure rfl

theorem looksFirst_convergeClientRoles (group : String × List Blueprint.ClientRole) :
    LooksFirst (convergeClientRoles realm group) := by
  refine (looksFirst_explained rfl).bind fun current => ?_
  split
  · exact looksFirst_pure _
  · exact looksFirst_forEach looksFirst_convergeClientRole

theorem looksFirst_resolveRoles (mapping : Blueprint.Composite) (names : List String) :
    LooksFirst (resolveRoles realm client mapping names) := by
  induction names with
  | nil => exact looksFirst_pure _
  | cons name rest ih =>
      refine (looksFirst_explained rfl).bind fun found => ih.bind fun others => ?_
      dsimp only
      split <;> exact looksFirst_pure _

theorem looksFirst_convergeComposite (mapping : Blueprint.Composite) :
    LooksFirst (convergeComposite realm mapping) := by
  refine (looksFirst_explained rfl).bind fun role => ?_
  dsimp only
  split
  · exact looksFirst_pure _
  · refine (looksFirst_explained rfl).bind fun current => ?_
    split
    · exact looksFirst_pure _
    · refine (looksFirst_explained rfl).bind fun attached => ?_
      split
      · exact looksFirst_pure _
      · refine (looksFirst_resolveRoles mapping _).bind fun resolved => ?_
        dsimp only
        split
        · exact looksFirst_pure _
        · exact looksFirst_explained_pure rfl

theorem looksFirst_markerPass : LooksFirst (markerPass realm) := by
  refine (looksFirst_explained rfl).bind fun current => ?_
  dsimp only
  split
  · exact looksFirst_of_asks (asks_throw _)
  · split
    · exact looksFirst_pure _
    · exact looksFirst_explained_pure rfl

/-- The passes of a run, in order. -/
def passList (blueprint : Blueprint) : List (Part Findings) :=
  [realmPass blueprint.realm, clientPass blueprint, realmRolePass blueprint,
    clientRolePass blueprint, compositePass blueprint, markerPass blueprint.realm.name]

/-- **Every pass looks up before it creates.** -/
theorem looksFirst_of_mem_passList {blueprint : Blueprint} {pass : Part Findings}
    (isPass : pass ∈ passList blueprint) : LooksFirst pass := by
  simp only [passList, List.mem_cons, List.not_mem_nil, or_false] at isPass
  rcases isPass with rfl | rfl | rfl | rfl | rfl | rfl
  · exact looksFirst_realmPass blueprint.realm
  · exact looksFirst_forEach looksFirst_convergeClient
  · exact looksFirst_forEach looksFirst_convergeRealmRole
  · exact looksFirst_forEach looksFirst_convergeClientRoles
  · exact looksFirst_forEach looksFirst_convergeComposite
  · exact looksFirst_markerPass

/-- All passes are made one after the other. -/
theorem passes_eq_passList (blueprint : Blueprint) :
    passes blueprint = forEach (passList blueprint) id := by
  simp only [passes, passList, forEach, id, bind_assoc, pure_bind, findings_append_assoc,
    findings_append_empty]

end Passes

end Convergence

end RealmConvergence
