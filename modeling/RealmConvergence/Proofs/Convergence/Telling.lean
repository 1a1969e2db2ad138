import Mathlib.Data.List.Forall2
import RealmConvergence.Proofs.Convergence.Leading
import RealmConvergence.Proofs.Convergence.Run

/-!
# What passes find out is told by the realm

What a part finds out may be told by what the realm holds when the part begins, for as long as later
passes make no difference to it (`TellsByRealm`). Later passes leave the clients that there are
(`Edits.client?_isSome`), and after the fourth pass the roles of the realm stay, too
(`Edits.keepsNeeds`). So what a whole run finds out about the roles of clients and about composite
mappings is told by the realm as the run leaves it (`passes_tell`).
-/

set_option autoImplicit false

namespace RealmConvergence.Convergence

open Service
open Dialogue (Course)

variable {α : Type} {faults : Faults} {store : Store} {realm : String} {items : List Item}
  {held after : StoredRealm} {blueprint : Blueprint}

/-! ## What later edits leave -/

/-- After the second pass, clients neither come nor go. -/
theorem Edit.client?_isSome {item : Item} (edit : Edit item held after) (later : 2 < item.pass)
    (clientId : String) : (after.client? clientId).isSome = (held.client? clientId).isSome := by
  cases edit with
  | realmSet | realmRoleAdded | realmRoleDescribed | compositesAdded | marked => rfl
  | clientAdded | clientChanged | granted => exact absurd later (Nat.lt_irrefl 2)
  | clientRoleAdded found _ | clientRoleDescribed found _ _ =>
      rw [StoredRealm.client?_putClient found (by rfl)]
      split
      · next same =>
        rw [same, found]
        rfl
      · rfl

/-- After the fourth pass, clients stay as they are, and roles of the realm neither come nor go. -/
theorem Edit.keepsNeeds {item : Item} (edit : Edit item held after) (later : 4 < item.pass) :
    (∀ clientId, after.client? clientId = held.client? clientId) ∧
      ∀ role, (after.roles.get? role).isSome = (held.roles.get? role).isSome := by
  cases edit with
  | marked => exact ⟨fun _ => rfl, fun _ => rfl⟩
  | compositesAdded found _ =>
      refine ⟨fun _ => rfl, fun role => ?_⟩
      rw [Table.get?_insert]
      split
      · next same =>
        rw [same, found]
        rfl
      · rfl
  | realmSet | realmRoleAdded | realmRoleDescribed | clientAdded | clientChanged | granted
  | clientRoleAdded | clientRoleDescribed => exact absurd later (by simp [Item.pass])

theorem Edits.client?_isSome (edits : Edits items held after)
    (later : ∀ item ∈ items, 2 < item.pass) (clientId : String) :
    (after.client? clientId).isSome = (held.client? clientId).isSome := by
  induction edits with
  | refl => rfl
  | tail _ step ih =>
      obtain ⟨item, member, edit⟩ := step
      exact (edit.client?_isSome (later item member) clientId).trans ih

theorem Edits.keepsNeeds (edits : Edits items held after) (later : ∀ item ∈ items, 4 < item.pass) :
    (∀ clientId, after.client? clientId = held.client? clientId) ∧
      ∀ role, (after.roles.get? role).isSome = (held.roles.get? role).isSome := by
  induction edits with
  | refl => exact ⟨fun _ => rfl, fun _ => rfl⟩
  | tail _ step ih =>
      obtain ⟨item, member, edit⟩ := step
      obtain ⟨clients, roles⟩ := edit.keepsNeeds (later item member)
      exact ⟨fun clientId => (clients clientId).trans (ih.1 clientId),
        fun role => (roles role).trans (ih.2 role)⟩

/-! ## Parts that tell by what the realm holds -/

/-- A part that comes to its end leaves the realm edited for these items, and what it found out is
told by the realm as it leaves it. -/
def Tells (realm : String) (items : List Item) (held : StoredRealm)
    (told : StoredRealm → Findings → Prop) (outcome : Except Failure Findings) (later : Store) :
    Prop :=
  ∀ found, outcome = .ok found →
    ∃ after, later.realms.get? realm = some after ∧ Edits items held after ∧ told after found

/-- A part that works for its items and tells by what it began with tells by what it leaves, if that
makes no difference. -/
theorem tells_of_works {part : Part Findings} {told : StoredRealm → Findings → Prop}
    (works : Reaches faults part store (Works faults realm items held))
    (tells : Reaches faults part store fun outcome _ =>
      ∀ found, outcome = .ok found → told held found)
    (stays : ∀ after found, Edits items held after → told held found → told after found) :
    Reaches faults part store (Tells realm items held told) := by
  refine (works.and tells).mono ?_
  rintro outcome later ⟨⟨after, foundLater, edits, -⟩, before⟩ found came
  exact ⟨after, foundLater, edits, stays after found edits (before found came)⟩

/-- **Parts that tell one by one tell one after the other, if later edits make no difference.** -/
theorem tells_forEach {subjects : List α} {part : α → Part Findings} {itemsOf : α → List Item}
    {told : α → StoredRealm → Findings → Prop}
    (stays : ∀ subject before after found, Edits (subjects.flatMap itemsOf) before after →
      told subject before found → told subject after found)
    (each : ∀ subject ∈ subjects, ∀ store held, store.Sound →
      store.realms.get? realm = some held →
        Reaches faults (part subject) store (Tells realm (itemsOf subject) held (told subject))) :
    ∀ store held, store.Sound → store.realms.get? realm = some held →
      Reaches faults (forEach subjects part) store
        (Tells realm (subjects.flatMap itemsOf) held fun after found =>
          ∃ founds, List.Forall₂ (told · after ·) subjects founds ∧ found = .join founds) := by
  induction subjects with
  | nil =>
      intro store held _ foundHeld
      refine reaches_pure fun found came => ?_
      cases came
      exact ⟨held, foundHeld, .refl, [], .nil, rfl⟩
  | cons subject rest ih =>
      intro store held sound foundHeld
      rw [List.flatMap_cons] at stays ⊢
      have first := each subject List.mem_cons_self store held sound foundHeld
      refine (first.sound sound).bind (fun _ _ _ _ never => nomatch never) ?_
      rintro found later ⟨tells, soundLater⟩
      obtain ⟨between, foundBetween, edits, toldFirst⟩ := tells found rfl
      have restStays (other : α) (before after : StoredRealm) (found : Findings)
          (edits : Edits (rest.flatMap itemsOf) before after) (told : _) :=
        stays other before after found
          (edits.mono (List.subset_append_right (itemsOf subject) _)) told
      have others := ih restStays
        (fun other member => each other (List.mem_cons_of_mem subject member)) later between
        soundLater foundBetween
      refine others.bind (fun _ _ _ _ never => nomatch never) ?_
      intro foundOthers last tellsOthers
      obtain ⟨after, foundAfter, more, founds, toldOthers, rfl⟩ := tellsOthers foundOthers rfl
      refine reaches_pure fun all came => ?_
      cases came
      refine ⟨after, foundAfter, edits.append more, found :: founds, .cons ?_ toldOthers, rfl⟩
      exact stays subject between after found
        (more.mono (List.subset_append_right (itemsOf subject) _)) toldFirst

/-- Each part tells by what the realm holds as it begins, and edits of later passes make no
difference to that. -/
structure TellsByRealm (faults : Faults) (realm : String) (pass : Nat) (subjects : List α)
    (part : α → Part Findings) (told : α → StoredRealm → Findings → Prop) : Prop where
  tells : ∀ subject ∈ subjects, ∀ store held, store.Sound → store.realms.get? realm = some held →
    Reaches faults (part subject) store fun outcome _ =>
      ∀ found, outcome = .ok found → told subject held found
  stays : ∀ subject items before after found, Edits items before after →
    (∀ item ∈ items, pass < item.pass) → told subject before found → told subject after found

/-- Parts that tell by the realm and work for items of later passes tell by what they leave. -/
theorem TellsByRealm.forEach {pass : Nat} {subjects : List α} {part : α → Part Findings}
    {told : α → StoredRealm → Findings → Prop} {itemsOf : α → List Item}
    (telling : TellsByRealm faults realm pass subjects part told)
    (works : ∀ subject ∈ subjects, ∀ store held, store.Sound →
      store.realms.get? realm = some held →
        Reaches faults (part subject) store (Works faults realm (itemsOf subject) held))
    (later : ∀ item ∈ subjects.flatMap itemsOf, pass < item.pass) (sound : store.Sound)
    (found : store.realms.get? realm = some held) :
    Reaches faults (forEach subjects part) store
      (Tells realm (subjects.flatMap itemsOf) held fun after found =>
        ∃ founds, List.Forall₂ (told · after ·) subjects founds ∧ found = .join founds) := by
  refine tells_forEach (fun subject before after found edits => ?_) ?_ store held sound found
  · exact telling.stays subject _ before after found edits later
  · intro subject member store held sound found
    refine tells_of_works (works subject member store held sound found)
      (telling.tells subject member store held sound found) fun after found edits => ?_
    exact telling.stays subject _ held after found edits fun item listed =>
      later item (List.mem_flatMap_of_mem member listed)

/-! ## Findings of several parts -/

section Join

variable {told : α → Findings → Prop} {subjects : List α} {founds : List Findings}

/-- Every step of several parts is one of some part. -/
theorem exists_of_mem_join (all : List.Forall₂ told subjects founds) {step : Step}
    (member : step ∈ (Findings.join founds).steps) :
    ∃ subject ∈ subjects, ∃ found, told subject found ∧ step ∈ found.steps := by
  induction all with
  | nil => cases member
  | @cons subject found subjects founds first _ ih =>
      rcases List.mem_append.1 member with here | there
      · exact ⟨subject, List.mem_cons_self, found, first, here⟩
      · obtain ⟨other, listed, rest⟩ := ih there
        exact ⟨other, List.mem_cons_of_mem subject listed, rest⟩

/-- The warnings of several parts, if each is told by its subject. -/
theorem warnings_join {shortfall : α → List String}
    (all : List.Forall₂ (fun subject found => found.warnings = shortfall subject) subjects founds) :
    (Findings.join founds).warnings = subjects.flatMap shortfall := by
  induction all with
  | nil => rfl
  | cons first _ ih =>
      rw [List.flatMap_cons, ← first, ← ih]
      rfl

/-- The steps of several parts, if each has one for each of its items. -/
theorem steps_join {β : Type} {itemsOf : α → List β} {isStep : β → Step → Prop}
    (all : List.Forall₂ (fun subject found => List.Forall₂ isStep (itemsOf subject) found.steps)
      subjects founds) :
    List.Forall₂ isStep (subjects.flatMap itemsOf) (Findings.join founds).steps := by
  induction all with
  | nil => exact .nil
  | cons first _ ih => exact List.rel_append first ih

theorem single_steps_join {isStep : α → Step → Prop}
    (all : List.Forall₂ (fun subject found => List.Forall₂ isStep [subject] found.steps)
      subjects founds) : List.Forall₂ isStep subjects (Findings.join founds).steps := by
  have steps := steps_join all
  rwa [List.flatMap_singleton'] at steps

end Join

/-! ## All passes -/

/-- Whoever replies, the part may come to these findings. -/
def ComesTo (part : Part Findings) (found : Findings) : Prop :=
  ∃ exchanges, Course part.run exchanges (.ok found)

theorem Finds.of_comesTo {part : Part Findings} {told : Findings → Prop}
    (finds : Finds part fun _ found => told found) {found : Findings} (comes : ComesTo part found) :
    told found := by
  obtain ⟨exchanges, course⟩ := comes
  exact finds exchanges _ course found rfl

/-- What the passes of a run found out, with what is told by the realm as the run leaves it. -/
inductive ToldInPasses (groupTold : String × List Blueprint.ClientRole → StoredRealm → Findings →
    Prop) (mappingTold : Blueprint.Composite → StoredRealm → Findings → Prop)
    (blueprint : Blueprint) (after : StoredRealm) : Findings → Prop where
  | passes {realm clients realmRoles marker : Findings} {groups mappings : List Findings}
      (realmCame : ComesTo (realmPass blueprint.realm) realm)
      (clientsCame : ComesTo (clientPass blueprint) clients)
      (realmRolesCame : ComesTo (realmRolePass blueprint) realmRoles)
      (groupsCame : ComesTo (clientRolePass blueprint) (.join groups))
      (groupsTold : List.Forall₂ (groupTold · after ·) blueprint.clientRoleGroups groups)
      (mappingsCame : ComesTo (compositePass blueprint) (.join mappings))
      (mappingsTold : List.Forall₂ (mappingTold · after ·) blueprint.composites mappings)
      (markerCame : ComesTo (markerPass blueprint.realm.name) marker) :
      ToldInPasses groupTold mappingTold blueprint after
        (realm ++ clients ++ realmRoles ++ .join groups ++ .join mappings ++ marker)

/-- A part that comes to its end leaves the realm there, in a sound store. -/
def Arrives (realm : String) (part : Part Findings) (outcome : Except Failure Findings)
    (later : Store) : Prop :=
  ∀ found, outcome = .ok found →
    ComesTo part found ∧ ∃ held, later.realms.get? realm = some held ∧ later.Sound

/-- What a part comes to with a service, it may come to. -/
theorem reaches_comesTo (part : Part Findings) :
    Reaches faults part store fun outcome _ => ∀ found, outcome = .ok found → ComesTo part found :=
  ((finds_course part).mono fun exchanges _ course => ⟨exchanges, course⟩).reaches faults store

theorem arrives_of_works {part : Part Findings} (sound : store.Sound)
    (works : Reaches faults part store (Works faults realm items held)) :
    Reaches faults part store (Arrives realm part) := by
  refine ((works.sound sound).and (reaches_comesTo part)).mono ?_
  rintro outcome later ⟨⟨⟨after, foundLater, -⟩, soundLater⟩, comes⟩ found came
  exact ⟨comes found came, after, foundLater, soundLater⟩

/-- The first pass comes to a realm, whether it was there or not. -/
theorem arrives_realmPass {desired : Blueprint.Realm} (sound : store.Sound)
    (named : desired.name ≠ "") :
    Reaches faults (realmPass desired) store (Arrives desired.name (realmPass desired)) := by
  cases known : store.realms.get? desired.name with
  | some held => exact arrives_of_works sound (works_realmPass known)
  | none =>
      refine (((reaches_realmPass_of_absent known named).sound sound).and
        (reaches_comesTo (realmPass desired))).mono ?_
      rintro outcome later ⟨⟨created, soundLater⟩, comes⟩ found rfl
      obtain ⟨start, foundStart, -⟩ := created
      exact ⟨comes found rfl, start, foundStart, soundLater⟩

/-- **What all passes find out is told by the realm as they leave it**, if that holds of the roles
of each client and of each mapping. -/
theorem passes_tell
    {groupTold : String × List Blueprint.ClientRole → StoredRealm → Findings → Prop}
    {mappingTold : Blueprint.Composite → StoredRealm → Findings → Prop}
    (groups : TellsByRealm faults blueprint.realm.name 2 blueprint.clientRoleGroups
      (convergeClientRoles blueprint.realm.name) groupTold)
    (mappings : TellsByRealm faults blueprint.realm.name 4 blueprint.composites
      (convergeComposite blueprint.realm.name) mappingTold)
    (distinct : blueprint.Distinct) (sound : store.Sound) :
    Reaches faults (passes blueprint) store fun outcome later => ∀ found, outcome = .ok found →
      ∃ after, later.realms.get? blueprint.realm.name = some after ∧
        ToldInPasses groupTold mappingTold blueprint after found := by
  obtain ⟨-, apart, -⟩ := List.pairwise_append.1 (apart_items distinct)
  obtain ⟨clientsApart, apart, -⟩ := List.pairwise_append.1 apart
  obtain ⟨realmRolesApart, -, -⟩ := List.pairwise_append.1 apart
  refine (arrives_realmPass sound distinct.named).bind (fun _ _ _ _ never => nomatch never) ?_
  intro realm store arrives
  obtain ⟨realmCame, held, found, sound⟩ := arrives realm rfl
  refine (arrives_of_works sound (works_clientPass clientsApart sound found)).bind
    (fun _ _ _ _ never => nomatch never) ?_
  intro clients store arrives
  obtain ⟨clientsCame, held, found, sound⟩ := arrives clients rfl
  refine (arrives_of_works sound (works_realmRolePass realmRolesApart sound found)).bind
    (fun _ _ _ _ never => nomatch never) ?_
  intro realmRoles store arrives
  obtain ⟨realmRolesCame, held, found, sound⟩ := arrives realmRoles rfl
  have groupsWork (group : String × List Blueprint.ClientRole)
      (member : group ∈ blueprint.clientRoleGroups) (store : Store) (held : StoredRealm)
      (sound : store.Sound) (found : store.realms.get? blueprint.realm.name = some held) :
      Reaches faults (convergeClientRoles blueprint.realm.name group) store
        (Works faults blueprint.realm.name (roleItems group) held) :=
    works_convergeClientRoles (Blueprint.owner_of_mem_clientRoleGroups member)
      ((List.pairwise_flatMap.1 (apart_roleItems distinct)).1 group member) sound found
  refine (((groups.forEach groupsWork (by simp +contextual [Item.pass, roleItems]) sound
    found).sound sound).and (reaches_comesTo (clientRolePass blueprint))).bind
      (fun _ _ _ _ never => nomatch never) ?_
  rintro clientRoles store ⟨⟨tells, sound⟩, comes⟩
  obtain ⟨held, found, -, foundGroups, groupsTold, rfl⟩ := tells clientRoles rfl
  refine (((mappings.forEach
    (fun mapping _ store held sound found => works_convergeComposite mapping sound found)
    (by simp +contextual [Item.pass]) sound found).sound sound).and
      (reaches_comesTo (compositePass blueprint))).bind (fun _ _ _ _ never => nomatch never) ?_
  rintro composites store ⟨⟨tells, sound⟩, mappingsCome⟩
  obtain ⟨mapped, found, mappingEdits, foundMappings, mappingsTold, rfl⟩ := tells composites rfl
  refine ((works_markerPass found).and (reaches_comesTo _)).bind
    (fun _ _ _ _ never => nomatch never) ?_
  rintro marker store ⟨⟨after, found, markerEdits, -⟩, markerComes⟩
  refine reaches_pure fun all came => ⟨after, found, ?_⟩
  cases came
  refine .passes realmCame clientsCame realmRolesCame (comes _ rfl) ?_ (mappingsCome _ rfl) ?_
    (markerComes marker rfl)
  · refine groupsTold.imp fun group found told =>
      groups.stays group _ mapped after found markerEdits ?_
        (groups.stays group _ held mapped found mappingEdits ?_ told)
    all_goals simp +contextual [Item.pass]
  · refine mappingsTold.imp fun mapping found told =>
      mappings.stays mapping _ mapped after found markerEdits ?_ told
    simp [Item.pass]

end RealmConvergence.Convergence
