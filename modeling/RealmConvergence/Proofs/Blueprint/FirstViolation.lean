import RealmConvergence.Blueprint.Validation
import RealmConvergence.Proofs.Collection.Place
import RealmConvergence.Proofs.Collection.Table
import RealmConvergence.Proofs.Text.Blank

/-!
# The first violation is told

Every entry of a blueprint is held to the rules of its part, among them that no entry before it has
its name. A rule for an entry has a place: the part, the position of the entry in its list, and the
number of the rule. Places are ordered part by part, entry by entry, and rule by rule.

A blueprint without a violation is one that is well-formed as a whole (`WellFormed`), and of any
other the violation is told that comes first in the order of places (`validate_tells_first`). The
four loops that look for violations are one loop with different rules (`checkInTurn`), so the order
is shown once.
-/

set_option autoImplicit false

namespace RealmConvergence.Blueprint

/-! ## Rules -/

/-- What the rules say about an entry, in order: whether it breaks the rule, and which violation
that is. -/
abbrev Rulings := List (Bool × Violation)

/-- The realm has a name. -/
def realmRules (_ : List Realm) (realm : Realm) : Rulings :=
  [((Text.trim realm.name).isEmpty, .unnamedRealm)]

/-- A client has an identifier, which no client before it has, and no secret if it is public. -/
def clientRules (earlier : List Client) (client : Client) : Rulings :=
  [((Text.trim client.clientId).isEmpty, .unnamedClient),
    (earlier.any fun other => other.clientId == client.clientId, .duplicateClient client.clientId),
    (client.isPublic && client.secret.isSome, .publicClientSecret client.clientId)]

/-- A role of the realm has a name, which no role before it has. -/
def realmRoleRules (earlier : List Role) (role : Role) : Rulings :=
  [((Text.trim role.name).isEmpty, .unnamedRealmRole),
    (earlier.any fun other => other.name == role.name, .duplicateRealmRole role.name)]

/-- A role of a client names its client and itself, and no role before it has both names. -/
def clientRoleRules (earlier : List ClientRole) (role : ClientRole) : Rulings :=
  [((Text.trim role.clientId).isEmpty || (Text.trim role.name).isEmpty,
      .unnamedClientRole role.clientId role.name),
    (earlier.any fun other => (other.clientId, other.name) == (role.clientId, role.name),
      .duplicateClientRole role.clientId role.name)]

/-- A mapping names its role and its client, and lists some role of the client. -/
def compositeRules (_ : List Composite) (mapping : Composite) : Rulings :=
  [((Text.trim mapping.realmRole).isEmpty || (Text.trim mapping.clientId).isEmpty,
      .unnamedComposite),
    (mapping.clientRoles.isEmpty, .emptyComposite mapping.realmRole mapping.clientId)]

/-! ## Places -/

/-- The place of a rule for an entry. -/
@[ext] structure Place where
  /-- The part: the realm, clients, roles of the realm, roles of clients, composite mappings. -/
  part : Nat
  /-- The position of the entry in the list of its part. -/
  position : Nat
  /-- The number of the rule among those for the entry. -/
  rule : Nat

/-- One place comes before another: by parts, then by positions, and then by rules. -/
def Place.Before (one other : Place) : Prop :=
  one.part < other.part ∨ one.part = other.part ∧
    (one.position < other.position ∨ one.position = other.position ∧ one.rule < other.rule)

section Broken

variable {α : Type} (rules : List α → α → Rulings)

/-- The entry at a position of the second list, which comes after the first one, breaks a rule. -/
def BrokenAfter (earlier entries : List α) (place : Place) (violation : Violation) : Prop :=
  ∃ before entry after, entries = before ++ entry :: after ∧
    place.position = (earlier ++ before).length ∧
      (rules (earlier ++ before) entry)[place.rule]? = some (true, violation)

end Broken

/-- An entry of a blueprint breaks a rule, which is a violation. -/
inductive Violated (blueprint : Blueprint) (place : Place) (violation : Violation) : Prop where
  | realm (isPart : place.part = 0)
      (broken : BrokenAfter realmRules [] [blueprint.realm] place violation)
  | client (isPart : place.part = 1)
      (broken : BrokenAfter clientRules [] blueprint.clients place violation)
  | realmRole (isPart : place.part = 2)
      (broken : BrokenAfter realmRoleRules [] blueprint.realmRoles place violation)
  | clientRole (isPart : place.part = 3)
      (broken : BrokenAfter clientRoleRules [] blueprint.clientRoles place violation)
  | composite (isPart : place.part = 4)
      (broken : BrokenAfter compositeRules [] blueprint.composites place violation)

/-! ## Checks in turn -/

/-- The first rule that is broken. -/
def refuse : Rulings → Except Violation Unit
  | [] => .ok ()
  | (broken, violation) :: rest => if broken then .error violation else refuse rest

/-- Entries held to their rules one after the other, each after those before it. -/
def checkInTurn {α : Type} (rules : List α → α → Rulings) (earlier : List α) :
    List α → Except Violation Unit
  | [] => .ok ()
  | entry :: rest => do
    refuse (rules earlier entry)
    checkInTurn rules (earlier ++ [entry]) rest

/-- A check succeeds if nothing is broken, and otherwise tells the violation at the first place. -/
def FindsFirst (broken : Place → Violation → Prop) : Except Violation Unit → Prop
  | .ok _ => ∀ place violation, ¬broken place violation
  | .error violation => ∃ place, broken place violation ∧
      ∀ earlier other, broken earlier other → ¬earlier.Before place

section FindsFirst

variable {broken later : Place → Violation → Prop} {outcome next : Except Violation Unit}

theorem FindsFirst.congr (finds : FindsFirst broken outcome)
    (same : ∀ place violation, broken place violation ↔ later place violation) :
    FindsFirst later outcome := by
  have equal : broken = later := funext fun place => funext fun violation =>
    propext (same place violation)
  exact equal ▸ finds

/-- **Two checks in turn tell the first violation, if the places of the first come first.** -/
theorem FindsFirst.andThen (first : FindsFirst broken outcome) (second : FindsFirst later next)
    (ordered : ∀ place violation other another, broken place violation → later other another →
      place.Before other) :
    FindsFirst (fun place violation => broken place violation ∨ later place violation)
      (outcome >>= fun _ => next) := by
  cases outcome with
  | error violation =>
      obtain ⟨place, here, least⟩ := first
      refine ⟨place, .inl here, fun earlier other isBroken before => ?_⟩
      rcases isBroken with inFirst | inLater
      · exact least earlier other inFirst before
      · have after := ordered place violation earlier other here inLater
        unfold Place.Before at before after
        omega
  | ok _ =>
      cases next with
      | error violation =>
          obtain ⟨place, there, least⟩ := second
          refine ⟨place, .inr there, fun earlier other isBroken before => ?_⟩
          rcases isBroken with inFirst | inLater
          · exact first earlier other inFirst
          · exact least earlier other inLater before
      | ok _ => exact fun place violation isBroken => isBroken.elim (first _ _) (second _ _)

/-- The rules for one entry are gone through in order. -/
theorem findsFirst_refuse (part position : Nat) (rulings : Rulings) :
    FindsFirst (fun place violation => place.part = part ∧ place.position = position ∧
      rulings[place.rule]? = some (true, violation)) (refuse rulings) := by
  -- The rules before those that are left are not broken.
  suffices left : ∀ before after : Rulings, (∀ violation, (true, violation) ∉ before) →
      FindsFirst (fun place violation => place.part = part ∧ place.position = position ∧
        (before ++ after)[place.rule]? = some (true, violation)) (refuse after) from
    left [] rulings fun _ => List.not_mem_nil
  intro before after
  induction after generalizing before with
  | nil =>
      rintro unbroken place violation ⟨-, -, ruled⟩
      rw [List.append_nil] at ruled
      exact unbroken violation (List.mem_of_getElem? ruled)
  | cons ruling rest ih =>
      intro unbroken
      obtain ⟨isBroken, violation⟩ := ruling
      cases isBroken with
      | true =>
          refine ⟨⟨part, position, before.length⟩, ⟨rfl, rfl, by simp⟩, ?_⟩
          rintro ⟨otherPart, otherPosition, rule⟩ other ⟨rfl, rfl, ruled⟩ earlier
          have ahead : rule < before.length := by
            unfold Place.Before at earlier
            simp only at earlier
            omega
          rw [List.getElem?_append_left ahead] at ruled
          exact unbroken other (List.mem_of_getElem? ruled)
      | false =>
          have others := ih (before ++ [(false, violation)]) fun other member => by
            rcases List.mem_append.1 member with inBefore | isLast
            · exact unbroken other inBefore
            · cases List.mem_singleton.1 isLast
          rw [List.append_assoc, List.singleton_append] at others
          exact others

end FindsFirst

section InTurn

variable {α : Type} {rules : List α → α → Rulings}

theorem brokenAfter_cons_iff {earlier rest : List α} {entry : α} {place : Place}
    {violation : Violation} :
    BrokenAfter rules earlier (entry :: rest) place violation ↔
      (place.position = earlier.length ∧
        (rules earlier entry)[place.rule]? = some (true, violation)) ∨
      BrokenAfter rules (earlier ++ [entry]) rest place violation := by
  constructor
  · rintro ⟨before, other, after, same, position, ruled⟩
    cases before with
    | nil =>
        obtain ⟨rfl, -⟩ := List.cons.inj same
        rw [List.append_nil] at position ruled
        exact .inl ⟨position, ruled⟩
    | cons head tail =>
        obtain ⟨rfl, rfl⟩ := List.cons.inj same
        rw [List.append_cons] at position ruled
        exact .inr ⟨tail, other, after, rfl, position, ruled⟩
  · rintro (⟨position, ruled⟩ | ⟨before, other, after, rfl, position, ruled⟩)
    · exact ⟨[], entry, rest, rfl, by rwa [List.append_nil], by rwa [List.append_nil]⟩
    · refine ⟨entry :: before, other, after, rfl, ?_, ?_⟩
      · rwa [List.append_cons]
      · rwa [List.append_cons]

/-- **Entries in turn tell the first violation of their list.** -/
theorem findsFirst_checkInTurn (part : Nat) (rules : List α → α → Rulings)
    (earlier entries : List α) :
    FindsFirst (fun place violation => place.part = part ∧
      BrokenAfter rules earlier entries place violation) (checkInTurn rules earlier entries) := by
  induction entries generalizing earlier with
  | nil =>
      rintro place violation ⟨-, before, entry, after, same, -⟩
      cases before <;> cases same
  | cons entry rest ih =>
      have both := (findsFirst_refuse part earlier.length (rules earlier entry)).andThen
        (ih (earlier ++ [entry])) ?_
      · refine FindsFirst.congr both fun place violation => ?_
        rw [brokenAfter_cons_iff, and_or_left]
      · rintro place violation other another ⟨rfl, here, -⟩ ⟨samePart, before, -, -, -, there, -⟩
        rw [List.append_assoc, List.length_append, List.length_append] at there
        unfold Place.Before
        simp only [List.length_cons, List.length_nil] at there
        omega

end InTurn

/-! ## The four loops -/

theorem refuse_nil_bind (next : Unit → Except Violation Unit) :
    (refuse [] >>= next) = next () := rfl

theorem refuse_cons_bind (broken : Bool) (violation : Violation) (rest : Rulings)
    (next : Unit → Except Violation Unit) :
    (refuse ((broken, violation) :: rest) >>= next) =
      if broken then .error violation else refuse rest >>= next := by
  cases broken <;> rfl

/-- The names seen so far are those of the entries gone through so far. -/
def Tracks {Name α : Type} (seen : List Name) (nameOf : α → Name) (earlier : List α) : Prop :=
  ∀ name, name ∈ seen ↔ name ∈ earlier.map nameOf

section Tracks

variable {Name α : Type} {seen : List Name} {nameOf : α → Name} {earlier : List α}

theorem tracks_nil (nameOf : α → Name) : Tracks [] nameOf [] := fun _ => Iff.rfl

theorem Tracks.next (tracks : Tracks seen nameOf earlier) (entry : α) :
    Tracks (nameOf entry :: seen) nameOf (earlier ++ [entry]) := by
  intro name
  rw [List.mem_cons, List.map_append, List.mem_append, tracks name, or_comm]
  exact or_congr_right List.mem_singleton.symm

theorem Tracks.any_eq [DecidableEq Name] [BEq Name] [LawfulBEq Name]
    (tracks : Tracks seen nameOf earlier) (name : Name) :
    (earlier.any fun other => nameOf other == name) = decide (name ∈ seen) := by
  rw [Bool.eq_iff_iff, List.any_eq_true, decide_eq_true_eq, tracks name, List.mem_map]
  simp only [beq_iff_eq]

end Tracks

theorem checkClients_eq {seen : List String} {earlier : List Client}
    (tracks : Tracks seen Client.clientId earlier) (clients : List Client) :
    checkClients seen clients = checkInTurn clientRules earlier clients := by
  induction clients generalizing seen earlier with
  | nil => rfl
  | cons client rest ih =>
      rw [checkClients, checkInTurn, ih (tracks.next client)]
      simp only [clientRules, refuse_cons_bind, refuse_nil_bind, Text.isEmpty_trim, tracks.any_eq,
        decide_eq_true_eq, Bool.and_eq_true]

theorem checkRealmRoles_eq {seen : List String} {earlier : List Role}
    (tracks : Tracks seen Role.name earlier) (roles : List Role) :
    checkRealmRoles seen roles = checkInTurn realmRoleRules earlier roles := by
  induction roles generalizing seen earlier with
  | nil => rfl
  | cons role rest ih =>
      rw [checkRealmRoles, checkInTurn, ih (tracks.next role)]
      simp only [realmRoleRules, refuse_cons_bind, refuse_nil_bind, Text.isEmpty_trim,
        tracks.any_eq, decide_eq_true_eq]

theorem checkClientRoles_eq {seen : List (String × String)} {earlier : List ClientRole}
    (tracks : Tracks seen (fun role : ClientRole => (role.clientId, role.name)) earlier)
    (roles : List ClientRole) :
    checkClientRoles seen roles = checkInTurn clientRoleRules earlier roles := by
  induction roles generalizing seen earlier with
  | nil => rfl
  | cons role rest ih =>
      rw [checkClientRoles, checkInTurn, ih (tracks.next role)]
      simp only [clientRoleRules, refuse_cons_bind, refuse_nil_bind, Text.isEmpty_trim,
        tracks.any_eq, decide_eq_true_eq, Bool.or_eq_true]

theorem checkComposites_eq (earlier composites : List Composite) :
    checkComposites composites = checkInTurn compositeRules earlier composites := by
  induction composites generalizing earlier with
  | nil => rfl
  | cons mapping rest ih =>
      rw [checkComposites, checkInTurn, ih (earlier ++ [mapping])]
      simp only [compositeRules, refuse_cons_bind, refuse_nil_bind, Text.isEmpty_trim,
        Bool.or_eq_true]

/-- A blueprint is checked part by part, entries in turn. -/
theorem validate_eq (blueprint : Blueprint) : blueprint.validate = (do
    checkInTurn realmRules [] [blueprint.realm]
    checkInTurn clientRules [] blueprint.clients
    checkInTurn realmRoleRules [] blueprint.realmRoles
    checkInTurn clientRoleRules [] blueprint.clientRoles
    checkInTurn compositeRules [] blueprint.composites) := by
  unfold validate
  rw [checkClients_eq (tracks_nil _), checkRealmRoles_eq (tracks_nil _),
    checkClientRoles_eq (tracks_nil _), checkComposites_eq []]
  simp only [checkInTurn, realmRules, refuse, Text.isEmpty_trim]
  cases Text.allBlank blueprint.realm.name <;> rfl

/-- A part is checked before what comes after it, whose places come later. -/
theorem FindsFirst.afterPart {α : Type} {later : Place → Violation → Prop}
    {next : Except Violation Unit} (finds : FindsFirst later next) (part : Nat)
    (rules : List α → α → Rulings) (entries : List α)
    (comesLater : ∀ place violation, later place violation → part < place.part) :
    FindsFirst (fun place violation =>
        (place.part = part ∧ BrokenAfter rules [] entries place violation) ∨
          later place violation)
      (checkInTurn rules [] entries >>= fun _ => next) :=
  (findsFirst_checkInTurn part rules [] entries).andThen finds
    fun _ _ other another here there => .inl (here.1 ▸ comesLater other another there)

/-- A violation is one of a part. -/
theorem violated_iff {blueprint : Blueprint} {place : Place} {violation : Violation} :
    Violated blueprint place violation ↔
      (place.part = 0 ∧ BrokenAfter realmRules [] [blueprint.realm] place violation) ∨
      (place.part = 1 ∧ BrokenAfter clientRules [] blueprint.clients place violation) ∨
      (place.part = 2 ∧ BrokenAfter realmRoleRules [] blueprint.realmRoles place violation) ∨
      (place.part = 3 ∧ BrokenAfter clientRoleRules [] blueprint.clientRoles place violation) ∨
      place.part = 4 ∧ BrokenAfter compositeRules [] blueprint.composites place violation := by
  constructor
  · rintro (⟨part, broken⟩ | ⟨part, broken⟩ | ⟨part, broken⟩ | ⟨part, broken⟩ | ⟨part, broken⟩)
    · exact .inl ⟨part, broken⟩
    · exact .inr (.inl ⟨part, broken⟩)
    · exact .inr (.inr (.inl ⟨part, broken⟩))
    · exact .inr (.inr (.inr (.inl ⟨part, broken⟩)))
    · exact .inr (.inr (.inr (.inr ⟨part, broken⟩)))
  · rintro (⟨part, broken⟩ | ⟨part, broken⟩ | ⟨part, broken⟩ | ⟨part, broken⟩ | ⟨part, broken⟩)
    · exact .realm part broken
    · exact .client part broken
    · exact .realmRole part broken
    · exact .clientRole part broken
    · exact .composite part broken

/-- **A check of a blueprint tells its first violation.** -/
theorem findsFirst_validate (blueprint : Blueprint) :
    FindsFirst (Violated blueprint) blueprint.validate := by
  have fromComposites := findsFirst_checkInTurn 4 compositeRules [] blueprint.composites
  have fromClientRoles := fromComposites.afterPart 3 clientRoleRules blueprint.clientRoles
    (by omega)
  have fromRealmRoles := fromClientRoles.afterPart 2 realmRoleRules blueprint.realmRoles
    (by omega)
  have fromClients := fromRealmRoles.afterPart 1 clientRules blueprint.clients (by omega)
  have fromRealm := fromClients.afterPart 0 realmRules [blueprint.realm] (by omega)
  rw [validate_eq]
  exact fromRealm.congr fun _ _ => violated_iff.symm

/-! ## Well-formed blueprints -/

/-- Everything has a name, nothing is there twice, and clients and mappings make sense. -/
structure WellFormed (blueprint : Blueprint) : Prop where
  /-- The realm has a name. -/
  realmNamed : Text.trim blueprint.realm.name ≠ ""
  /-- Every client has an identifier. -/
  clientsNamed : ∀ client ∈ blueprint.clients, Text.trim client.clientId ≠ ""
  /-- No two clients have one identifier. -/
  clientsDistinct : (blueprint.clients.map Client.clientId).Nodup
  /-- Public clients have no secret. -/
  publicClients : ∀ client ∈ blueprint.clients, client.isPublic = true → client.secret = none
  /-- Every role of the realm has a name. -/
  realmRolesNamed : ∀ role ∈ blueprint.realmRoles, Text.trim role.name ≠ ""
  /-- No two roles of the realm have one name. -/
  realmRolesDistinct : (blueprint.realmRoles.map Role.name).Nodup
  /-- Every role of a client names the client and itself. -/
  clientRolesNamed : ∀ role ∈ blueprint.clientRoles,
    Text.trim role.clientId ≠ "" ∧ Text.trim role.name ≠ ""
  /-- No two roles of one client have one name. -/
  clientRolesDistinct : (blueprint.clientRoles.map fun role => (role.clientId, role.name)).Nodup
  /-- Every mapping names its role and its client. -/
  compositesNamed : ∀ mapping ∈ blueprint.composites,
    Text.trim mapping.realmRole ≠ "" ∧ Text.trim mapping.clientId ≠ ""
  /-- Every mapping lists some role of its client. -/
  compositesFilled : ∀ mapping ∈ blueprint.composites,
    ∃ name, mapping.clientRoles.contains name = true

section Unbroken

variable {α : Type} {rules : List α → α → Rulings} {entries : List α}

/-- No entry breaks a rule. -/
def Unbroken (rules : List α → α → Rulings) (entries : List α) : Prop :=
  ∀ before entry after, entries = before ++ entry :: after →
    ∀ ruling ∈ rules before entry, ruling.1 = false

theorem unbroken_iff :
    Unbroken rules entries ↔ ∀ place violation, ¬BrokenAfter rules [] entries place violation := by
  constructor
  · rintro unbroken place violation ⟨before, entry, after, split, -, ruled⟩
    cases unbroken before entry after split _ (List.mem_of_getElem? ruled)
  · rintro unbroken before entry after split ⟨isBroken, violation⟩ member
    cases isBroken with
    | false => rfl
    | true =>
        obtain ⟨rule, ruled⟩ := List.mem_iff_getElem?.1 member
        exact (unbroken ⟨0, before.length, rule⟩ violation
          ⟨before, entry, after, split, rfl, ruled⟩).elim

end Unbroken

theorem unbroken_realm_iff {realm : Realm} :
    Unbroken realmRules [realm] ↔ Text.trim realm.name ≠ "" := by
  rw [← List.forall_mem_singleton (p := fun realm : Realm => Text.trim realm.name ≠ ""),
    forall_mem_iff_place]
  refine forall₄_congr fun before realm after split => ?_
  simp [realmRules]

theorem unbroken_clients_iff {clients : List Client} :
    Unbroken clientRules clients ↔
      (∀ client ∈ clients, Text.trim client.clientId ≠ "") ∧
        (clients.map Client.clientId).Nodup ∧
          ∀ client ∈ clients, client.isPublic = true → client.secret = none := by
  rw [List.Nodup, List.pairwise_map, forall_mem_iff_place, pairwise_iff_place,
    forall_mem_iff_place]
  simp only [← forall_and]
  refine forall₄_congr fun before client after split => ?_
  simp [clientRules]

theorem unbroken_realmRoles_iff {roles : List Role} :
    Unbroken realmRoleRules roles ↔
      (∀ role ∈ roles, Text.trim role.name ≠ "") ∧ (roles.map Role.name).Nodup := by
  rw [List.Nodup, List.pairwise_map, forall_mem_iff_place, pairwise_iff_place]
  simp only [← forall_and]
  refine forall₄_congr fun before role after split => ?_
  simp [realmRoleRules]

theorem unbroken_clientRoles_iff {roles : List ClientRole} :
    Unbroken clientRoleRules roles ↔
      (∀ role ∈ roles, Text.trim role.clientId ≠ "" ∧ Text.trim role.name ≠ "") ∧
        (roles.map fun role => (role.clientId, role.name)).Nodup := by
  rw [List.Nodup, List.pairwise_map, forall_mem_iff_place, pairwise_iff_place]
  simp only [← forall_and]
  refine forall₄_congr fun before role after split => ?_
  simp [clientRoleRules]

theorem unbroken_composites_iff {composites : List Composite} :
    Unbroken compositeRules composites ↔
      (∀ mapping ∈ composites,
        Text.trim mapping.realmRole ≠ "" ∧ Text.trim mapping.clientId ≠ "") ∧
        ∀ mapping ∈ composites, ∃ name, mapping.clientRoles.contains name = true := by
  rw [forall_mem_iff_place, forall_mem_iff_place]
  simp only [← forall_and]
  refine forall₄_congr fun before mapping after split => ?_
  simp [compositeRules, NameSet.isEmpty_eq_false_iff]

/-- No rule is broken for any entry exactly if the blueprint as a whole is well-formed. -/
theorem unviolated_iff_wellFormed {blueprint : Blueprint} :
    (∀ place violation, ¬Violated blueprint place violation) ↔ blueprint.WellFormed := by
  have byParts : (∀ place violation, ¬Violated blueprint place violation) ↔
      Unbroken realmRules [blueprint.realm] ∧ Unbroken clientRules blueprint.clients ∧
        Unbroken realmRoleRules blueprint.realmRoles ∧
          Unbroken clientRoleRules blueprint.clientRoles ∧
            Unbroken compositeRules blueprint.composites := by
    simp only [unbroken_iff]
    constructor
    · intro unviolated
      refine ⟨?_, ?_, ?_, ?_, ?_⟩ <;> intro place violation broken
      · exact unviolated { place with part := 0 } violation (.realm rfl broken)
      · exact unviolated { place with part := 1 } violation (.client rfl broken)
      · exact unviolated { place with part := 2 } violation (.realmRole rfl broken)
      · exact unviolated { place with part := 3 } violation (.clientRole rfl broken)
      · exact unviolated { place with part := 4 } violation (.composite rfl broken)
    · rintro ⟨realm, clients, realmRoles, clientRoles, composites⟩ place violation violated
      cases violated with
      | realm _ broken => exact realm place violation broken
      | client _ broken => exact clients place violation broken
      | realmRole _ broken => exact realmRoles place violation broken
      | clientRole _ broken => exact clientRoles place violation broken
      | composite _ broken => exact composites place violation broken
  rw [byParts, unbroken_realm_iff, unbroken_clients_iff, unbroken_realmRoles_iff,
    unbroken_clientRoles_iff, unbroken_composites_iff]
  constructor
  · rintro ⟨realmNamed, ⟨clientsNamed, clientsDistinct, publicClients⟩,
      ⟨realmRolesNamed, realmRolesDistinct⟩, ⟨clientRolesNamed, clientRolesDistinct⟩,
      compositesNamed, compositesFilled⟩
    exact { realmNamed, clientsNamed, clientsDistinct, publicClients, realmRolesNamed,
            realmRolesDistinct, clientRolesNamed, clientRolesDistinct, compositesNamed,
            compositesFilled }
  · intro formed
    exact ⟨formed.realmNamed,
      ⟨formed.clientsNamed, formed.clientsDistinct, formed.publicClients⟩,
      ⟨formed.realmRolesNamed, formed.realmRolesDistinct⟩,
      ⟨formed.clientRolesNamed, formed.clientRolesDistinct⟩,
      formed.compositesNamed, formed.compositesFilled⟩

/-! ## The first violation -/

section Single

variable {place other : Place} {violation another : Violation}

/-- Of two places, one comes before the other. -/
theorem Place.eq_of_not_before (notBefore : ¬place.Before other)
    (notAfter : ¬other.Before place) : place = other := by
  unfold Place.Before at notBefore notAfter
  ext <;> omega

/-- The rule at a place speaks of one violation. -/
theorem BrokenAfter.unique {α : Type} {rules : List α → α → Rulings} {earlier entries : List α}
    (one : BrokenAfter rules earlier entries place violation)
    (two : BrokenAfter rules earlier entries place another) : violation = another := by
  obtain ⟨before, entry, after, rfl, position, ruled⟩ := one
  obtain ⟨before', entry', after', split, position', ruled'⟩ := two
  have sameLength : before.length = before'.length := by
    rw [position, List.length_append, List.length_append] at position'
    omega
  obtain ⟨rfl, sameRest⟩ := List.append_inj split sameLength
  obtain ⟨rfl, -⟩ := List.cons.inj sameRest
  rw [ruled] at ruled'
  cases ruled'
  rfl

theorem Violated.unique {blueprint : Blueprint} (one : Violated blueprint place violation)
    (two : Violated blueprint place another) : violation = another := by
  cases one with
  | realm part broken => cases two <;> first | omega | exact broken.unique ‹_›
  | client part broken => cases two <;> first | omega | exact broken.unique ‹_›
  | realmRole part broken => cases two <;> first | omega | exact broken.unique ‹_›
  | clientRole part broken => cases two <;> first | omega | exact broken.unique ‹_›
  | composite part broken => cases two <;> first | omega | exact broken.unique ‹_›

end Single

/-- **A blueprint passes exactly if it is well-formed, and of any other the violation at the first
place is told**, parts in order, then entries in order, then the rules for an entry in order. -/
theorem validate_tells_first (blueprint : Blueprint) :
    (blueprint.validate = .ok () ↔ blueprint.WellFormed) ∧
      ∀ violation, blueprint.validate = .error violation ↔
        ∃ place, Violated blueprint place violation ∧
          ∀ earlier other, Violated blueprint earlier other → ¬earlier.Before place := by
  rw [← unviolated_iff_wellFormed]
  have finds := findsFirst_validate blueprint
  cases outcome : blueprint.validate with
  | ok _ =>
      rw [outcome] at finds
      refine ⟨⟨fun _ => finds, fun _ => rfl⟩, fun violation => ⟨nofun, ?_⟩⟩
      rintro ⟨place, violated, -⟩
      exact (finds place violation violated).elim
  | error told =>
      rw [outcome] at finds
      obtain ⟨first, atFirst, least⟩ := finds
      refine ⟨⟨nofun, fun unviolated => (unviolated first told atFirst).elim⟩, fun violation => ?_⟩
      constructor
      · rintro ⟨⟩
        exact ⟨first, atFirst, least⟩
      · rintro ⟨place, violated, leastToo⟩
        obtain rfl : first = place := Place.eq_of_not_before (leastToo first told atFirst)
          (least place violation violated)
        rw [atFirst.unique violated]

/-- The second client repeats the first, which is told before what is wrong after it. -/
example : ({ realm := { name := "school" }
             clients := [{ clientId := "portal" }, { clientId := "portal" }, { clientId := " " }]
             realmRoles := [{ name := "" }] } : Blueprint).validate =
    .error (.duplicateClient "portal") := by decide

end RealmConvergence.Blueprint
