import RealmConvergence.Convergence.Run
import RealmConvergence.Proofs.Blueprint.Validation
import RealmConvergence.Proofs.Convergence.Passes

/-!
# Whole runs at work

A blueprint lists its items in the order of the passes (`Blueprint.items`), and in a blueprint
without a violation every item is apart from those after it (`apart_items`). So the passes, each of
which works for its items, work for all of them (`reaches_passes`), whether the realm was there
before or is created by the first pass.
-/

set_option autoImplicit false

namespace RealmConvergence

open Convergence

/-- What a blueprint desires, in the order of the passes. -/
def Blueprint.items (blueprint : Blueprint) : List Item :=
  [.realm blueprint.realm] ++ (blueprint.clients.flatMap (fun client => [.client client]) ++
    (blueprint.realmRoles.flatMap (fun role => [.realmRole role]) ++
      (blueprint.clientRoleGroups.flatMap roleItems ++
        (blueprint.composites.flatMap (fun mapping => [.composite mapping]) ++ [.marker]))))

namespace Convergence

open Service

variable {blueprint : Blueprint} {faults : Faults} {store : Store}

/-! ## The items of a blueprint -/

theorem realm_mem_items_iff {desired : Blueprint.Realm} :
    .realm desired ∈ blueprint.items ↔ desired = blueprint.realm := by
  simp [Blueprint.items, roleItems]

theorem client_mem_items_iff {desired : Blueprint.Client} :
    .client desired ∈ blueprint.items ↔ desired ∈ blueprint.clients := by
  simp [Blueprint.items, roleItems]

theorem realmRole_mem_items_iff {desired : Blueprint.Role} :
    .realmRole desired ∈ blueprint.items ↔ desired ∈ blueprint.realmRoles := by
  simp [Blueprint.items, roleItems]

theorem clientRole_mem_items_iff {desired : Blueprint.ClientRole} :
    .clientRole desired ∈ blueprint.items ↔ desired ∈ blueprint.clientRoles := by
  have inGroups : .clientRole desired ∈ blueprint.items ↔
      ∃ group ∈ blueprint.clientRoleGroups, desired ∈ group.2 := by
    simp [Blueprint.items, roleItems]
  rw [inGroups]
  constructor
  · rintro ⟨group, member, listed⟩
    exact (Blueprint.sublist_of_mem_clientRoleGroups member).subset listed
  · exact Blueprint.mem_clientRoleGroups

theorem composite_mem_items_iff {mapping : Blueprint.Composite} :
    .composite mapping ∈ blueprint.items ↔ mapping ∈ blueprint.composites := by
  simp [Blueprint.items, roleItems]

theorem marker_mem_items (blueprint : Blueprint) : .marker ∈ blueprint.items := by
  simp [Blueprint.items]

/-! ## Items in order -/

theorem apart_of_pass_lt {earlier later : Item} (before : earlier.pass < later.pass) :
    Apart earlier later := by
  cases earlier <;> cases later <;>
    first
    | exact before
    | exact absurd before (Nat.lt_irrefl _)

/-- Items of one pass followed by items of later ones are apart if both are. -/
theorem pairwise_append_of_pass {first rest : List Item} (pass : Nat)
    (ofPass : ∀ item ∈ first, item.pass = pass) (later : ∀ item ∈ rest, pass < item.pass)
    (firstApart : first.Pairwise Apart) (restApart : rest.Pairwise Apart) :
    (first ++ rest).Pairwise Apart := by
  refine List.pairwise_append.2 ⟨firstApart, restApart, fun one member other memberLater => ?_⟩
  exact apart_of_pass_lt (ofPass one member ▸ later other memberLater)

/-- Items that stand for subjects one by one are apart where the subjects are. -/
theorem pairwise_flatMap_singleton {α : Type} {subjects : List α} {itemOf : α → Item}
    (apart : subjects.Pairwise fun one other => Apart (itemOf one) (itemOf other)) :
    (subjects.flatMap fun subject => [itemOf subject]).Pairwise Apart := by
  rw [← List.map_eq_flatMap]
  exact List.pairwise_map.2 apart

/-- The roles of the groups are apart, in each group and across groups. -/
theorem apart_roleItems (distinct : blueprint.Distinct) :
    (blueprint.clientRoleGroups.flatMap roleItems).Pairwise Apart := by
  refine List.pairwise_flatMap.2 ⟨fun group member => ?_, ?_⟩
  · refine pairwise_flatMap_singleton ?_
    refine (distinct.clientRoles.sublist (Blueprint.sublist_of_mem_clientRoleGroups member)).imp ?_
    intro one other different
    rw [Ne, Prod.mk.injEq, Classical.not_and_iff_not_or_not] at different
    exact different
  · refine (Blueprint.pairwise_clientRoleGroups blueprint).imp_of_mem ?_
    intro one other oneListed otherListed different first firstMember second secondMember
    obtain ⟨role, listed, isItem⟩ := List.mem_flatMap.1 firstMember
    obtain ⟨otherRole, otherRoleListed, otherIsItem⟩ := List.mem_flatMap.1 secondMember
    rcases List.mem_singleton.1 isItem with rfl
    rcases List.mem_singleton.1 otherIsItem with rfl
    refine .inl ?_
    rw [Blueprint.owner_of_mem_clientRoleGroups oneListed role listed,
      Blueprint.owner_of_mem_clientRoleGroups otherListed otherRole otherRoleListed]
    exact different

/-- **In a blueprint without a violation every item is apart from those after it.** -/
theorem apart_items (distinct : blueprint.Distinct) : blueprint.items.Pairwise Apart := by
  have composites : blueprint.composites.Pairwise fun one other =>
      Apart (.composite one) (.composite other) :=
    List.pairwise_of_forall fun _ _ => trivial
  unfold Blueprint.items
  refine pairwise_append_of_pass 1 ?_ ?_ (List.pairwise_singleton _ _) <|
    pairwise_append_of_pass 2 ?_ ?_ (pairwise_flatMap_singleton distinct.clients) <|
    pairwise_append_of_pass 3 ?_ ?_ (pairwise_flatMap_singleton distinct.realmRoles) <|
    pairwise_append_of_pass 4 ?_ ?_ (apart_roleItems distinct) <|
    pairwise_append_of_pass 5 ?_ ?_ (pairwise_flatMap_singleton composites)
      (List.pairwise_singleton _ _)
  all_goals simp +contextual [Item.pass, roleItems, or_imp]

/-! ## All passes -/

section Passes

variable {held : StoredRealm}

/-- The passes after the first, with what the first found out. -/
def laterPasses (blueprint : Blueprint) (realm : Findings) : Part Findings := do
  let clients ← clientPass blueprint
  let realmRoles ← realmRolePass blueprint
  let clientRoles ← clientRolePass blueprint
  let composites ← compositePass blueprint
  let marker ← markerPass blueprint.realm.name
  pure (realm ++ clients ++ realmRoles ++ clientRoles ++ composites ++ marker)

theorem passes_eq (blueprint : Blueprint) :
    passes blueprint = realmPass blueprint.realm >>= laterPasses blueprint := rfl

/-- What the passes after the first desire, in order. -/
def laterItems (blueprint : Blueprint) : List Item :=
  blueprint.clients.flatMap (fun client => [.client client]) ++
    (blueprint.realmRoles.flatMap (fun role => [.realmRole role]) ++
      (blueprint.clientRoleGroups.flatMap roleItems ++
        (blueprint.composites.flatMap (fun mapping => [.composite mapping]) ++ [.marker])))

/-- The second pass works for the clients. -/
theorem works_clientPass
    (apart : (blueprint.clients.flatMap fun client => [Item.client client]).Pairwise Apart)
    (sound : store.Sound) (found : store.realms.get? blueprint.realm.name = some held) :
    Reaches faults (clientPass blueprint) store
      (Works faults blueprint.realm.name
        (blueprint.clients.flatMap fun client => [.client client]) held) := by
  refine works_forEach (fun _ => True) apart (fun _ _ _ _ _ => trivial) ?_ store held sound found
    trivial
  exact fun client _ store held sound found _ => works_convergeClient client sound found

/-- The third pass works for the roles of the realm. -/
theorem works_realmRolePass
    (apart : (blueprint.realmRoles.flatMap fun role => [Item.realmRole role]).Pairwise Apart)
    (sound : store.Sound) (found : store.realms.get? blueprint.realm.name = some held) :
    Reaches faults (realmRolePass blueprint) store
      (Works faults blueprint.realm.name
        (blueprint.realmRoles.flatMap fun role => [.realmRole role]) held) := by
  refine works_forEach (fun _ => True) apart (fun _ _ _ _ _ => trivial) ?_ store held sound found
    trivial
  exact fun role _ store held _ found _ => works_convergeRealmRole role found

/-- The fourth pass works for the roles of clients. -/
theorem works_clientRolePass
    (apart : (blueprint.clientRoleGroups.flatMap roleItems).Pairwise Apart)
    (sound : store.Sound) (found : store.realms.get? blueprint.realm.name = some held) :
    Reaches faults (clientRolePass blueprint) store
      (Works faults blueprint.realm.name (blueprint.clientRoleGroups.flatMap roleItems) held) := by
  refine works_forEach (fun _ => True) apart (fun _ _ _ _ _ => trivial) ?_ store held sound found
    trivial
  intro group member store held sound found _
  exact works_convergeClientRoles (Blueprint.owner_of_mem_clientRoleGroups member)
    ((List.pairwise_flatMap.1 apart).1 group member) sound found

/-- The fifth pass works for the composite mappings. -/
theorem works_compositePass
    (apart : (blueprint.composites.flatMap fun mapping => [Item.composite mapping]).Pairwise Apart)
    (sound : store.Sound) (found : store.realms.get? blueprint.realm.name = some held) :
    Reaches faults (compositePass blueprint) store
      (Works faults blueprint.realm.name
        (blueprint.composites.flatMap fun mapping => [.composite mapping]) held) := by
  refine works_forEach (fun _ => True) apart (fun _ _ _ _ _ => trivial) ?_ store held sound found
    trivial
  exact fun mapping _ store held sound found _ => works_convergeComposite mapping sound found

/-- The passes after the first work for their items. -/
theorem works_laterPasses (apart : (laterItems blueprint).Pairwise Apart) (realm : Findings)
    (sound : store.Sound) (found : store.realms.get? blueprint.realm.name = some held) :
    Reaches faults (laterPasses blueprint realm) store
      (Works faults blueprint.realm.name (laterItems blueprint) held) := by
  unfold laterItems at apart ⊢
  obtain ⟨clientsApart, apart, acrossClients⟩ := List.pairwise_append.1 apart
  obtain ⟨realmRolesApart, apart, acrossRealmRoles⟩ := List.pairwise_append.1 apart
  obtain ⟨clientRolesApart, apart, acrossClientRoles⟩ := List.pairwise_append.1 apart
  obtain ⟨compositesApart, -, acrossComposites⟩ := List.pairwise_append.1 apart
  refine Works.bind sound (works_clientPass clientsApart sound found) acrossClients ?_
  intro clients store held sound found _
  refine Works.bind sound (works_realmRolePass realmRolesApart sound found) acrossRealmRoles ?_
  intro realmRoles store held sound found _
  refine Works.bind sound (works_clientRolePass clientRolesApart sound found)
    acrossClientRoles ?_
  intro clientRoles store held sound found _
  refine Works.bind sound (works_compositePass compositesApart sound found) acrossComposites ?_
  intro composites store held sound found _
  exact (works_markerPass found).bind (fun _ _ stop => stop) fun _ _ finish => finish

/-- A realm as the passes begin with it: as it was, or new and without grants and mappings. -/
def Begins (store : Store) (realm : String) (start : StoredRealm) : Prop :=
  store.realms.get? realm = some start ∨
    (store.realms.get? realm = none ∧ start.grants = ∅ ∧ start.composites = ∅)

/-- What a run does: it works for the items of its blueprint, or a fault stops it before it created
a realm that is absent. -/
def Runs {α : Type} (faults : Faults) (blueprint : Blueprint) (store : Store)
    (outcome : Except Failure α) (later : Store) : Prop :=
  (∃ start, Begins store blueprint.realm.name start ∧
    Works faults blueprint.realm.name blueprint.items start outcome later) ∨
  (store.realms.get? blueprint.realm.name = none ∧ later = store ∧ faults ≠ Faults.none ∧
    ∃ failure, outcome = .error failure)

/-- A run that no fault can stop comes to its end with every item settled. -/
theorem Runs.finished {α : Type} {outcome : Except Failure α} {later : Store}
    (runs : Runs Faults.none blueprint store outcome later) :
    ∃ value after, outcome = .ok value ∧ later.realms.get? blueprint.realm.name = some after ∧
      ∀ item ∈ blueprint.items, Settled item after := by
  rcases runs with ⟨start, -, after, found, -, ending⟩ | ⟨-, -, faulty, -⟩
  · cases outcome with
    | ok value => exact ⟨value, after, rfl, found, ending⟩
    | error failure => exact absurd rfl ending
  · exact absurd rfl faulty

/-- **All passes together do what a run does.** -/
theorem reaches_passes (distinct : blueprint.Distinct) (sound : store.Sound) :
    Reaches faults (passes blueprint) store (Runs faults blueprint store) := by
  have apart := apart_items distinct
  obtain ⟨-, laterApart, across⟩ := List.pairwise_append.1 apart
  rw [passes_eq]
  cases known : store.realms.get? blueprint.realm.name with
  | some held =>
      refine (Works.bind sound (works_realmPass known) across ?_).mono ?_
      · exact fun realm store held sound found _ => works_laterPasses laterApart realm sound found
      · exact fun outcome later works => .inl ⟨held, .inl known, works⟩
  | none =>
      refine ((reaches_realmPass_of_absent known distinct.named).sound sound).bind ?_ ?_
      · rintro failure later ⟨⟨rfl, faulty⟩, -⟩
        exact .inr ⟨known, rfl, faulty, failure, rfl⟩
      · rintro realm later ⟨⟨start, found, noGrants, noComposites, -, settled, -⟩, soundLater⟩
        -- The created realm is settled, as if the first pass had found it so.
        have first : Reaches faults (pure realm : Part Findings) later
            (Works faults blueprint.realm.name [.realm blueprint.realm] start) :=
          works_settled found settled realm
        show Reaches faults (pure realm >>= laterPasses blueprint) later _
        refine (Works.bind soundLater first across ?_).mono ?_
        · exact fun realm store held sound found _ => works_laterPasses laterApart realm sound found
        · exact fun outcome later works =>
            .inl ⟨start, .inr ⟨known, noGrants, noComposites⟩, works⟩

/-- **Applying a blueprint without a violation does what a run does.** -/
theorem reaches_apply (valid : blueprint.validate = .ok ()) (sound : store.Sound) :
    Reaches faults (apply blueprint) store (Runs faults blueprint store) := by
  rw [apply_of_valid valid]
  refine (reaches_passes (Blueprint.validate_eq_ok valid) sound).bind ?_ ?_
  · rintro failure later (⟨start, begins, works⟩ | ⟨absent, same, faulty, -⟩)
    · exact .inl ⟨start, begins, works⟩
    · exact .inr ⟨absent, same, faulty, failure, rfl⟩
  · rintro findings later (⟨start, begins, works⟩ | ⟨-, -, -, failure, impossible⟩)
    · exact .inl ⟨start, begins, works⟩
    · cases impossible

end Passes

end Convergence

end RealmConvergence
