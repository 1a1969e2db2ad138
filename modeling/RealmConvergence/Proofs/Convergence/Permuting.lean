import Mathlib.Data.List.Pairwise
import Mathlib.Data.List.Nodup
import RealmConvergence.Proofs.Blueprint.Grouping
import RealmConvergence.Proofs.Convergence.Viewing
import RealmConvergence.Proofs.Service.SeenSame

/-!
# The order of entries

The effects of two entries of one list commute (`clientEffect_comm` and its companions), so a list
comes to the same in every order. Clients, roles and roles of clients are distinct in a blueprint
without a violation, and effects of distinct ones touch different things. A client may own the roles
that another one's user is granted, but bringing it to its desired state neither adds nor takes
roles. Mappings are not distinct: what one attaches may be what another one lacked, which is then
attached already, and the role is marked as composite by whichever comes first.
-/

set_option autoImplicit false

namespace RealmConvergence.Convergence

open Service

variable {lens : Lens} {view : RealmView} {realm : String}

/-- Effects that commute where names differ come to the same in every order of distinct names. -/
theorem foldl_eq_of_perm {α Name : Type} {nameOf : α → Name} {effect : RealmView → α → RealmView}
    {one other : List α} (perm : one.Perm other)
    (distinct : one.Pairwise fun first second => nameOf first ≠ nameOf second)
    (comm : ∀ first second view, nameOf first ≠ nameOf second →
      effect (effect view first) second = effect (effect view second) first) (view : RealmView) :
    one.foldl effect view = other.foldl effect view := by
  refine perm.foldl_eq' (fun first firstListed second secondListed view => ?_) view
  have symm : Std.Symm fun first second => nameOf first ≠ nameOf second :=
    ⟨fun _ _ different => different.symm⟩
  by_cases same : first = second
  · rw [same]
  · exact comm first second view (distinct.forall firstListed secondListed same)

/-! ## Clients -/

/-- A client that is put with roles of the names of those it had leaves what is owned as it is. -/
theorem owns_putClient {clientId : String} {client : ClientView}
    (same : ∀ name, (client.roles name).isSome = true ↔ view.Owns clientId name) :
    (view.putClient clientId client).Owns = view.Owns := by
  funext otherId name
  refine propext ?_
  by_cases isIt : otherId = clientId
  · subst isIt
    rw [← same]
    constructor
    · rintro ⟨found, seen, there⟩
      cases (view.putClient_clients_self client).symm.trans seen
      exact there
    · exact fun there => ⟨client, view.putClient_clients_self client, there⟩
  · simp only [RealmView.Owns, view.putClient_clients_of_ne isIt]

variable {desired : Blueprint.Client}

/-- Bringing a client to its desired state neither adds nor takes roles. -/
theorem owns_clientEffect : (clientEffect lens view desired).Owns = view.Owns := by
  show (view.putClient desired.clientId _).Owns = view.Owns
  refine owns_putClient fun name => ?_
  cases current : view.clients desired.clientId with
  | none =>
      simp only [clientAfter, ClientView.opened_roles, Option.isSome_none, Bool.false_eq_true,
        false_iff]
      rintro ⟨client, seen, -⟩
      rw [current] at seen
      cases seen
  | some client =>
      simp only [clientAfter, ClientView.opened_roles]
      constructor
      · exact fun there => ⟨client, current, there⟩
      · rintro ⟨found, seen, there⟩
        cases current.symm.trans seen
        exact there

theorem canGrant_of_owns_eq {other : RealmView} (same : other.Owns = view.Owns) :
    CanGrant other ↔ CanGrant view := by
  rw [CanGrant, CanGrant, same]

/-- What bringing a client to its desired state grants. -/
theorem clientEffect_granted {other otherId name : String} :
    (clientEffect lens view desired).granted other otherId name ↔
      view.granted other otherId name ∨
        ((opensAccount desired (view.clients desired.clientId) = true ∧ CanGrant view) ∧
          other = desired.clientId ∧ otherId = managementClientId ∧
            name ∈ serviceAccountRoles) := by
  have same : CanGrant (clientEffect lens view desired) ↔ CanGrant view :=
    canGrant_of_owns_eq owns_clientEffect
  rw [← same]
  rfl

theorem clientEffect_clients_of_ne {clientId : String} (different : clientId ≠ desired.clientId) :
    (clientEffect lens view desired).clients clientId = view.clients clientId :=
  view.putClient_clients_of_ne different _

/-- **The effects of different clients commute.** -/
theorem clientEffect_comm (first second : Blueprint.Client) (view : RealmView)
    (different : first.clientId ≠ second.clientId) :
    clientEffect lens (clientEffect lens view first) second =
      clientEffect lens (clientEffect lens view second) first := by
  refine RealmView.ext rfl rfl ?_ rfl rfl ?_
  · show Function.update (Function.update view.clients _ _) _ (some (clientAfter lens second
      ((clientEffect lens view first).clients second.clientId))) = Function.update
        (Function.update view.clients _ _) _ (some (clientAfter lens first
          ((clientEffect lens view second).clients first.clientId)))
    rw [clientEffect_clients_of_ne different.symm, clientEffect_clients_of_ne different]
    exact Function.update_comm different _ _ _
  · funext other otherId name
    refine propext ?_
    simp only [clientEffect_granted, canGrant_of_owns_eq owns_clientEffect,
      clientEffect_clients_of_ne different, clientEffect_clients_of_ne different.symm]
    exact or_right_comm

/-! ## Roles -/

/-- **The effects of different roles of the realm commute.** -/
theorem realmRoleEffect_comm (first second : Blueprint.Role) (view : RealmView)
    (different : first.name ≠ second.name) :
    realmRoleEffect realm (realmRoleEffect realm view first) second =
      realmRoleEffect realm (realmRoleEffect realm view second) first := by
  have elsewhere {one other : Blueprint.Role} (apart : other.name ≠ one.name) :
      (realmRoleEffect realm view one).roles other.name = view.roles other.name :=
    Function.update_of_ne apart _ _
  refine RealmView.ext rfl rfl rfl ?_ rfl rfl
  show Function.update (Function.update view.roles _ _) _ (some (roleAfter _ _ _ _
    ((realmRoleEffect realm view first).roles second.name))) = Function.update
      (Function.update view.roles _ _) _ (some (roleAfter _ _ _ _
        ((realmRoleEffect realm view second).roles first.name)))
  rw [elsewhere different.symm, elsewhere different]
  exact Function.update_comm different _ _ _

/-- Different roles of one client come to the same in both orders. -/
theorem ownerAfter_comm {first second : Blueprint.ClientRole} (different : first.name ≠ second.name)
    (owner : ClientView) :
    ownerAfter second (ownerAfter first owner) = ownerAfter first (ownerAfter second owner) := by
  have elsewhere {one other : Blueprint.ClientRole} (apart : other.name ≠ one.name) :
      (ownerAfter one owner).roles other.name = owner.roles other.name :=
    Function.update_of_ne apart _ _
  show ClientView.putRole (ownerAfter first owner) _ (roleAfter _ _ _ _ _) =
    ClientView.putRole (ownerAfter second owner) _ (roleAfter _ _ _ _ _)
  rw [elsewhere different.symm, elsewhere different]
  unfold ClientView.putRole
  congr 1
  exact Function.update_comm different _ _ _

/-- **The effects of different roles of clients commute.** -/
theorem clientRoleEffect_comm (first second : Blueprint.ClientRole) (view : RealmView)
    (different : (first.clientId, first.name) ≠ (second.clientId, second.name)) :
    clientRoleEffect (clientRoleEffect view first) second =
      clientRoleEffect (clientRoleEffect view second) first := by
  refine RealmView.ext rfl rfl ?_ rfl rfl rfl
  by_cases same : first.clientId = second.clientId
  · have apart : first.name ≠ second.name := fun isIt => different (Prod.ext same isIt)
    simp only [clientRoleEffect, same, Function.update_self, Function.update_idem, Option.map_map]
    congr 2
    funext owner
    exact ownerAfter_comm apart owner
  · simp only [clientRoleEffect, Function.update_of_ne same, Function.update_of_ne (Ne.symm same)]
    exact Function.update_comm same _ _ _

/-! ## Mappings -/

theorem attach_comm (role otherRole clientId otherId : String) (names others : List String) :
    (view.attach role clientId names).attach otherRole otherId others =
      (view.attach otherRole otherId others).attach role clientId names := by
  refine RealmView.ext rfl rfl rfl ?_ ?_ rfl
  · by_cases same : role = otherRole
    · rw [same]
      rfl
    · simp only [RealmView.attach, Function.update_of_ne same, Function.update_of_ne (Ne.symm same)]
      exact Function.update_comm same _ _ _
  · funext attached ownerId name
    exact propext or_right_comm

variable {mapping : Blueprint.Composite}

/-- What is missing from a mapping was missing before anything was attached. -/
theorem missing_of_attach {role clientId : String} {names : List String}
    (missing : Missing (view.attach role clientId names) mapping) : Missing view mapping := by
  obtain ⟨roleThere, name, listed, owned, lacks⟩ := missing
  refine ⟨?_, name, listed, owned, fun attached => lacks (.inl attached)⟩
  simp only [RealmView.attach, Function.update_apply] at roleThere
  split at roleThere
  · next same => rwa [same, ← Option.isSome_map]
  · exact roleThere

/-- A mapping that lacked something, and lacks nothing once others were attached, has no effect any
longer. -/
theorem attach_of_complete {role clientId : String} {names : List String}
    (before : Missing view mapping) (after : ¬Missing (view.attach role clientId names) mapping) :
    (view.attach role clientId names).attach mapping.realmRole mapping.clientId
      mapping.clientRoles.toList = view.attach role clientId names := by
  obtain ⟨roleThere, name, listed, owned, lacks⟩ := before
  have attached (other : String) (isListed : other ∈ mapping.clientRoles.toList)
      (isOwned : view.Owns mapping.clientId other) :
      (view.attach role clientId names).attached mapping.realmRole mapping.clientId other := by
    by_contra lacksOther
    refine after ⟨?_, other, isListed, isOwned, lacksOther⟩
    simp only [RealmView.attach, Function.update_apply]
    split
    · next same => rwa [← same, Option.isSome_map]
    · exact roleThere
  -- What the mapping lacked was attached to its own role.
  have sameRole : mapping.realmRole = role :=
    ((attached name listed owned).resolve_left lacks).1
  refine RealmView.ext rfl rfl rfl ?_ ?_ rfl
  · subst sameRole
    simp only [RealmView.attach, Function.update_self, Function.update_idem, Option.map_map]
    rfl
  · funext otherRole otherId other
    refine propext ⟨?_, .inl⟩
    rintro (already | ⟨rfl, rfl, isListed, isOwned⟩)
    · exact already
    · exact attached other isListed isOwned

/-- **The effects of mappings commute.** -/
theorem compositeEffect_comm (first second : Blueprint.Composite) (view : RealmView) :
    compositeEffect (compositeEffect view first) second =
      compositeEffect (compositeEffect view second) first := by
  have unchanged {view : RealmView} {mapping : Blueprint.Composite}
      (complete : ¬Missing view mapping) : compositeEffect view mapping = view := if_neg complete
  have changed {view : RealmView} {mapping : Blueprint.Composite} (lacks : Missing view mapping) :
      compositeEffect view mapping =
        view.attach mapping.realmRole mapping.clientId mapping.clientRoles.toList := if_pos lacks
  -- Of two mappings that both lack something, the later one attaches the rest, if any is left.
  have both {one other : Blueprint.Composite} (lacks : Missing view one)
      (otherLacks : Missing view other) : compositeEffect (compositeEffect view one) other =
        (view.attach one.realmRole one.clientId one.clientRoles.toList).attach other.realmRole
          other.clientId other.clientRoles.toList := by
    rw [changed lacks]
    by_cases still : Missing (view.attach one.realmRole one.clientId one.clientRoles.toList) other
    · exact changed still
    · rw [unchanged still, attach_of_complete otherLacks still]
  have one {one other : Blueprint.Composite} (lacks : Missing view one)
      (complete : ¬Missing view other) :
      compositeEffect (compositeEffect view one) other =
        compositeEffect (compositeEffect view other) one := by
    rw [unchanged complete, changed lacks]
    exact unchanged fun still => complete (missing_of_attach still)
  by_cases firstLacks : Missing view first
  · by_cases secondLacks : Missing view second
    · rw [both firstLacks secondLacks, both secondLacks firstLacks, attach_comm]
    · exact one firstLacks secondLacks
  · by_cases secondLacks : Missing view second
    · exact (one secondLacks firstLacks).symm
    · rw [unchanged firstLacks, unchanged secondLacks, unchanged firstLacks]

/-! ## Whole runs -/

/-- What the passes after the first make of a realm. -/
noncomputable def laterEffect (lens : Lens) (blueprint : Blueprint) (view : RealmView) :
    RealmView :=
  let clients := blueprint.clients.foldl (clientEffect lens) view
  let realmRoles := blueprint.realmRoles.foldl (realmRoleEffect blueprint.realm.name) clients
  let clientRoles :=
    (blueprint.clientRoleGroups.flatMap Prod.snd).foldl clientRoleEffect realmRoles
  markerEffect (blueprint.composites.foldl compositeEffect clientRoles)

section Passes

variable {blueprint : Blueprint} {store : Store} {held : StoredRealm}
  (readable : store.Readable lens)
  (found : store.realms.get? blueprint.realm.name = some held)
include readable found

theorem makes_clientPass (discreet : Discreet lens blueprint held) :
    Makes lens blueprint.realm.name (clientPass blueprint) store
      (blueprint.clients.foldl (clientEffect lens) (held.view lens)) := by
  refine makes_forEach (fun desired => [.client desired]) (Discreet lens blueprint) ?_ ?_ ?_ store
    held readable found discreet
  · exact fun item before after edit discreet => discreet.of_edit edit
  · exact fun desired _ store held sound found _ => works_convergeClient desired sound found
  · exact fun desired listed store held readable found discreet =>
      makes_convergeClient desired readable found (discreet desired listed)

theorem makes_realmRolePass :
    Makes lens blueprint.realm.name (realmRolePass blueprint) store
      (blueprint.realmRoles.foldl (realmRoleEffect blueprint.realm.name) (held.view lens)) := by
  refine makes_forEach (fun desired => [.realmRole desired]) (fun _ => True)
    (fun _ _ _ _ _ => trivial) ?_ ?_ store held readable found trivial
  · exact fun desired _ store held _ found _ => works_convergeRealmRole desired found
  · exact fun desired _ store held readable found _ =>
      makes_convergeRealmRole desired readable found

theorem makes_clientRolePass (distinct : blueprint.Distinct) :
    Makes lens blueprint.realm.name (clientRolePass blueprint) store
      ((blueprint.clientRoleGroups.flatMap Prod.snd).foldl clientRoleEffect (held.view lens)) := by
  rw [List.foldl_flatMap]
  refine makes_forEach roleItems (fun _ => True) (fun _ _ _ _ _ => trivial) ?_ ?_ store held
    readable found trivial
  · intro group listed store held sound found _
    exact works_convergeClientRoles (Blueprint.owner_of_mem_clientRoleGroups listed)
      ((List.pairwise_flatMap.1 (apart_roleItems distinct)).1 group listed) sound found
  · exact fun group listed store held readable found _ =>
      makes_convergeClientRoles (Blueprint.owner_of_mem_clientRoleGroups listed) readable found

theorem makes_compositePass :
    Makes lens blueprint.realm.name (compositePass blueprint) store
      (blueprint.composites.foldl compositeEffect (held.view lens)) := by
  refine makes_forEach (fun mapping => [.composite mapping]) (fun _ => True)
    (fun _ _ _ _ _ => trivial) ?_ ?_ store held readable found trivial
  · exact fun mapping _ store held sound found _ => works_convergeComposite mapping sound found
  · exact fun mapping _ store held readable found _ =>
      makes_convergeComposite mapping readable found

/-- **The passes after the first make of a realm what their effects make of its view.** -/
theorem makes_laterPasses (distinct : blueprint.Distinct) (discreet : Discreet lens blueprint held)
    (realm : Findings) :
    Makes lens blueprint.realm.name (laterPasses blueprint realm) store
      (laterEffect lens blueprint (held.view lens)) := by
  refine Makes.bind (makes_clientPass readable found discreet) readable ?_
  intro clients store held readable found seen
  refine Makes.bind (makes_realmRolePass readable found) readable ?_
  rw [seen]
  intro realmRoles store held readable found seen
  refine Makes.bind (makes_clientRolePass readable found distinct) readable ?_
  rw [seen]
  intro clientRoles store held readable found seen
  refine Makes.bind (makes_compositePass readable found) readable ?_
  rw [seen]
  intro composites store held readable found seen
  refine Makes.bind (makes_markerPass found) readable ?_
  rw [seen]
  exact fun marker store held _ found seen => makes_pure found _ seen

end Passes

/-! ## Blueprints in another order -/

/-- Two blueprints desire the same, in whatever order their lists are. -/
structure Permuted (one other : Blueprint) : Prop where
  realm : one.realm = other.realm
  clients : one.clients.Perm other.clients
  realmRoles : one.realmRoles.Perm other.realmRoles
  clientRoles : one.clientRoles.Perm other.clientRoles
  composites : one.composites.Perm other.composites

section Permuted

variable {one other : Blueprint} (permuted : Permuted one other)
include permuted

/-- **The passes after the first make the same of a realm, whatever the order of entries.** -/
theorem laterEffect_eq_of_permuted (distinct : one.Distinct) (view : RealmView) :
    laterEffect lens one view = laterEffect lens other view := by
  have groups : (one.clientRoleGroups.flatMap Prod.snd).Perm
      (other.clientRoleGroups.flatMap Prod.snd) :=
    (one.rolesByOwner_ordered.perm.trans permuted.clientRoles).trans
      other.rolesByOwner_ordered.perm.symm
  have distinctGroups := (one.rolesByOwner_ordered.perm.pairwise_iff fun different =>
    different.symm).2 distinct.clientRoles
  have composites (view : RealmView) : one.composites.foldl compositeEffect view =
      other.composites.foldl compositeEffect view :=
    permuted.composites.foldl_eq' (fun first _ second _ view =>
      compositeEffect_comm first second view) view
  dsimp only [laterEffect]
  rw [foldl_eq_of_perm permuted.clients distinct.clients clientEffect_comm, permuted.realm,
    foldl_eq_of_perm permuted.realmRoles distinct.realmRoles realmRoleEffect_comm,
    foldl_eq_of_perm groups distinctGroups clientRoleEffect_comm, composites]

/-- The service makes up the same secrets, whatever the order of entries. -/
theorem lensOfRun_eq_of_permuted (store : Store) : lensOfRun one store = lensOfRun other store := by
  have hidden : makesUpSecret one store = makesUpSecret other store := by
    funext clientId
    rw [makesUpSecret, makesUpSecret, permuted.realm, permuted.clients.any_eq]
  rw [lensOfRun, lensOfRun, hidden]

end Permuted

/-- A store as the first pass leaves it. -/
def storeAfterRealm (desired : Blueprint.Realm) (store : Store) : Store :=
  ((realmPass desired).run.run (respond Faults.none) store).2

/-- Without faults, the first pass comes to its end. -/
theorem reaches_realmPass_ok {desired : Blueprint.Realm} {store : Store}
    (nonempty : desired.name ≠ "") :
    Reaches Faults.none (realmPass desired) store fun outcome _ =>
      ∃ found, outcome = .ok found := by
  cases present : store.realms.get? desired.name with
  | none =>
      refine (reaches_realmPass_of_absent present nonempty).mono fun outcome later reached => ?_
      cases outcome with
      | ok found => exact ⟨found, rfl⟩
      | error failure => exact absurd rfl reached.2
  | some held =>
      refine (works_realmPass present).mono fun outcome later works => ?_
      obtain ⟨after, -, -, ending⟩ := works
      cases outcome with
      | ok found => exact ⟨found, rfl⟩
      | error failure => exact absurd rfl ending

/-- **What a run without faults makes of its realm**: what the effects of the passes after the first
make of the realm as the first one leaves it. -/
theorem reaches_apply_laterEffect {blueprint : Blueprint} {store : Store}
    (valid : blueprint.validate = .ok ())
    (readable : store.Readable (lensOfRun blueprint store)) :
    ∃ held, (storeAfterRealm blueprint.realm store).realms.get? blueprint.realm.name = some held ∧
      Reaches Faults.none (apply blueprint) store fun outcome later =>
        (∃ report, outcome = .ok report) ∧
          later.view? (lensOfRun blueprint store) blueprint.realm.name =
            some (laterEffect (lensOfRun blueprint store) blueprint
              (held.view (lensOfRun blueprint store))) := by
  have distinct := Blueprint.validate_eq_ok valid
  have ends : Reaches Faults.none (realmPass blueprint.realm) store _ :=
    reaches_realmPass_ok distinct.named
  have comes : Reaches Faults.none (realmPass blueprint.realm) store _ :=
    reaches_realmPass_comesWith distinct.named
  obtain ⟨found, isFound⟩ := ends
  obtain ⟨held, foundHeld, sameClients⟩ := comes found isFound
  have first : Reaches Faults.none (realmPass blueprint.realm) store fun outcome later =>
      outcome = .ok found ∧ later = storeAfterRealm blueprint.realm store := ⟨isFound, rfl⟩
  have readableAfter : (storeAfterRealm blueprint.realm store).Readable
      (lensOfRun blueprint store) := readable.run Faults.none (realmPass blueprint.realm).run
  have makes : Makes (lensOfRun blueprint store) blueprint.realm.name
      (realmPass blueprint.realm >>= laterPasses blueprint) store
      (laterEffect (lensOfRun blueprint store) blueprint
        (held.view (lensOfRun blueprint store))) := by
    refine first.bind (fun _ _ never => nomatch never.1) ?_
    rintro value later ⟨same, rfl⟩
    cases same
    exact makes_laterPasses readableAfter foundHeld distinct (discreet_lensOfRun sameClients) found
  refine ⟨held, foundHeld, ?_⟩
  rw [apply_of_valid valid, passes_eq]
  refine Reaches.bind makes ?_ ?_
  · rintro failure later ⟨⟨_, never⟩, -⟩
    cases never
  · rintro findings later ⟨-, seen⟩
    exact reaches_pure ⟨⟨_, rfl⟩, seen⟩

/-- **The order of entries does not matter.** Without faults, two blueprints without a violation
that list the same entries in whatever order are both applied to a service that can be reached, and
every realm looks the same after either run, but for the identifiers that the runs draw and the
secrets that the service makes up. -/
theorem apply_ignores_order {service : Service} (reachable : service.Reachable)
    (faultless : service.faults = .none) {one other : Blueprint} (permuted : Permuted one other)
    (valid : one.validate = .ok ()) (otherValid : other.validate = .ok ()) :
    let later := (service.talk (apply one).run).2
    let otherLater := (service.talk (apply other).run).2
    (∃ report, (service.talk (apply one).run).1 = .ok report) ∧
      (∃ report, (service.talk (apply other).run).1 = .ok report) ∧
        ∀ realm, Store.SeenSame (lensOfRun one service.store) realm later.store
          otherLater.store := by
  intro later otherLater
  have readable (blueprint : Blueprint) :
      service.store.Readable (lensOfRun blueprint service.store) :=
    ⟨reachable.sound, reachable.linked, Nat.le_refl _⟩
  obtain ⟨held, found, ends⟩ := reaches_apply_laterEffect valid (readable one)
  obtain ⟨otherHeld, otherFound, otherEnds⟩ :=
    reaches_apply_laterEffect otherValid (readable other)
  obtain ⟨⟨report, finished⟩, seen⟩ := ends
  obtain ⟨⟨otherReport, otherFinished⟩, otherSeen⟩ := otherEnds
  have talks (blueprint : Blueprint) : service.talk (apply blueprint).run =
      (((apply blueprint).run.run (respond Faults.none) service.store).1,
        { service with
          store := ((apply blueprint).run.run (respond Faults.none) service.store).2
          calls := service.calls ++
            (apply blueprint).run.asked (respond Faults.none) service.store }) := by
    rw [talk_eq, faultless]
  refine ⟨⟨report, ?_⟩, ⟨otherReport, ?_⟩, fun realm => ?_⟩
  · rw [talks, finished]
  · rw [talks, otherFinished]
  · show Store.SeenSame _ realm (service.talk (apply one).run).2.store
      (service.talk (apply other).run).2.store
    rw [talks, talks]
    dsimp only
    by_cases same : realm = one.realm.name
    · subst same
      rw [← lensOfRun_eq_of_permuted permuted, ← permuted.realm] at otherSeen
      rw [← permuted.realm] at otherFound
      cases found.symm.trans otherFound
      refine Store.SeenSame.of_view?_eq (reachable.sound.run _ _) (reachable.sound.run _ _) ?_
      rw [seen, otherSeen, laterEffect_eq_of_permuted permuted (Blueprint.validate_eq_ok valid)]
    · refine Store.seenSame_of_get?_eq ?_
      rw [run_elsewhere one Faults.none service.store same,
        run_elsewhere other Faults.none service.store (permuted.realm ▸ same)]

/-- The school with another client, which stands first or last. -/
theorem apply_ignores_order_school :
    let office : Blueprint.Client := { clientId := managementClientId, serviceAccount := true }
    let one := { Blueprint.school with clients := office :: Blueprint.school.clients }
    let other := { Blueprint.school with clients := Blueprint.school.clients ++ [office] }
    Permuted one other ∧ Store.SeenSame (lensOfRun one {}) "school"
      (({} : Service).talk (apply one).run).2.store
      (({} : Service).talk (apply other).run).2.store := by
  intro office one other
  have clients : one.clients.Perm other.clients :=
    (List.perm_append_singleton office Blueprint.school.clients).symm
  have permuted : Permuted one other := ⟨rfl, clients, .refl _, .refl _, .refl _⟩
  have valid : one.validate = .ok () := by decide +kernel
  have otherValid : other.validate = .ok () := by decide +kernel
  obtain ⟨-, -, same⟩ := apply_ignores_order .new rfl permuted valid otherValid
  exact ⟨permuted, same "school"⟩

end RealmConvergence.Convergence
