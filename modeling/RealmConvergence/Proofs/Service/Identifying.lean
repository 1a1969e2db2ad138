import Mathlib.Data.List.Nodup
import RealmConvergence.Proofs.Service.Changing

/-!
# One identifier for one thing

Clients, users, and the roles of realms and clients have internal identifiers of their own. A change
of a realm leaves the identifiers of all that is there in their places and gives each new thing the
identifier of a new number (`StoredRealm.Change.draws`). So in a store that can be reached no
identifier is that of two things, whatever their kind and in whatever realms
(`Reachable.identifiersApart`).
-/

set_option autoImplicit false

namespace RealmConvergence.Service

/-! ## Things with identifiers -/

/-- What has an internal identifier in a realm. -/
inductive Part where
  /-- The client under an internal identifier. -/
  | client (key : String)
  /-- A role of the realm. -/
  | role (name : String)
  /-- A role of the client under an internal identifier. -/
  | clientRole (key name : String)
  /-- The user under an internal identifier. -/
  | user (key : String)

/-- What an identifier of a part is for. -/
def Part.sort : Part → String
  | .client _ => "client"
  | .role _ => "role"
  | .clientRole _ _ => "role"
  | .user _ => "user"

theorem Part.head?_identifier (part : Part) (number : Nat) :
    (identifier part.sort number).toList.head? = part.sort.toList.head? := by
  cases part <;> simp [identifier, Part.sort, toString, String.toList_append]

/-- Identifiers of parts are the same only if they are for the same and have one number. -/
theorem Part.identifier_inj {one other : Part} {first second : Nat}
    (same : identifier one.sort first = identifier other.sort second) :
    one.sort = other.sort ∧ first = second := by
  -- the sorts differ in their first letters
  have letters : one.sort.toList.head? = other.sort.toList.head? := by
    rw [← one.head?_identifier first, same, other.head?_identifier]
  have sorts : one.sort = other.sort := by
    cases one <;> cases other <;> simp only [Part.sort] at letters ⊢ <;>
      exact absurd letters (by decide)
  rw [sorts] at same
  exact ⟨sorts, identifier_injective same⟩

/-- The identifier of a part, if the part is there and has one. -/
def StoredRealm.idOf? (held : StoredRealm) : Part → Option String
  | .client key => (held.clients.get? key).bind (·.record.id)
  | .role name => (held.roles.get? name).bind (·.id)
  | .clientRole key name => (held.clients.get? key).bind fun client =>
      (client.roles.get? name).bind (·.id)
  | .user key => (held.users.get? key).bind (·.id)

/-- The identifier of a part of one of the realms. -/
def idAt? (realms : Table StoredRealm) (realm : String) (part : Part) : Option String :=
  (realms.get? realm).bind (·.idOf? part)

/-! ## New identifiers -/

/-- An identifier of a part is that of this new part, with this number. -/
def Part.Takes (new : Part) (number : Nat) (part : Part) (id : String) : Prop :=
  part = new ∧ id = identifier new.sort number

/-- What has an identifier afterwards had it before, or is one of the listed new parts with their
numbers. The numbers are new, and no two parts have one. -/
structure Draws (drawn more : Nat) (news : List (Part × Nat))
    (before after : Part → Option String) : Prop where
  later : ∀ entry ∈ news, drawn < entry.2 ∧ entry.2 ≤ more
  single : (news.map Prod.snd).Nodup
  origin : ∀ part id, after part = some id → before part = some id ∨
    ∃ number, (part, number) ∈ news ∧ id = identifier part.sort number

section Draws

variable {drawn more : Nat} {before after : Part → Option String}

theorem draws_nothing (kept : ∀ part id, after part = some id → before part = some id) :
    Draws drawn more [] before after where
  later _ member := nomatch member
  single := List.nodup_nil
  origin part id found := .inl (kept part id found)

theorem draws_one (new : Part) (origin : ∀ part id, after part = some id →
      before part = some id ∨ new.Takes (drawn + 1) part id) :
    Draws drawn (drawn + 1) [(new, drawn + 1)] before after where
  later := List.forall_mem_singleton.2 ⟨Nat.lt_succ_self _, Nat.le_refl _⟩
  single := by simp
  origin part id found := by
    refine (origin part id found).imp_right ?_
    rintro ⟨rfl, rfl⟩
    exact ⟨drawn + 1, List.mem_singleton_self _, rfl⟩

end Draws

/-- What is read of an entry after one was written is read of the written one, or was there. -/
theorem bind_get?_insert {α : Type} {table : Table α} {name other id : String} {value : α}
    {read : α → Option String}
    (found : ((table.insert name value).get? other).bind read = some id) :
    (other = name ∧ read value = some id) ∨ (table.get? other).bind read = some id := by
  rw [Table.get?_insert] at found
  split at found
  · next same => exact .inl ⟨same, found⟩
  · exact .inr found

namespace StoredRealm

variable {held : StoredRealm} {part : Part} {id : String}

/-- An identifier after a client was put in a place is one of the client, one of its roles, one of a
user, or was there before. -/
theorem idOf?_putClient {key : String} {client : StoredClient} {users : Table UserRecord}
    (found : (held.putClient key client users).idOf? part = some id) :
    held.idOf? part = some id ∨ (part = .client key ∧ client.record.id = some id) ∨
      (∃ name, part = .clientRole key name ∧ (client.roles.get? name).bind (·.id) = some id) ∨
      ∃ user, part = .user user ∧ (users.get? user).bind (·.id) = some id := by
  cases part with
  | client other =>
      rcases bind_get?_insert found with ⟨rfl, own⟩ | old
      · exact .inr (.inl ⟨rfl, own⟩)
      · exact .inl old
  | role name => exact .inl found
  | clientRole other name =>
      rcases bind_get?_insert found with ⟨rfl, own⟩ | old
      · exact .inr (.inr (.inl ⟨name, rfl, own⟩))
      · exact .inl old
  | user key => exact .inr (.inr (.inr ⟨key, rfl, found⟩))

/-- A client put in its own place brings no identifier but those of new roles and users. -/
theorem idOf?_putClient_over {key : String} {stored client : StoredClient}
    {users : Table UserRecord} (isNew : Part → String → Prop)
    (found : (held.putClient key client users).idOf? part = some id)
    (there : held.clients.get? key = some stored) (sameId : client.record.id = stored.record.id)
    (roles : ∀ name id, (client.roles.get? name).bind (·.id) = some id →
      (stored.roles.get? name).bind (·.id) = some id ∨ isNew (.clientRole key name) id)
    (accounts : ∀ user id, (users.get? user).bind (·.id) = some id →
      (held.users.get? user).bind (·.id) = some id ∨ isNew (.user user) id) :
    held.idOf? part = some id ∨ isNew part id := by
  rcases idOf?_putClient found with old | ⟨rfl, own⟩ | ⟨name, rfl, has⟩ | ⟨user, rfl, account⟩
  · exact .inl old
  · refine .inl ?_
    rw [idOf?, there, Option.bind_some, ← sameId, own]
  · refine (roles name id has).imp_left fun old => ?_
    rw [idOf?, there]
    exact old
  · exact accounts user id account

/-- Users after a client was given one if it needed it. -/
theorem id_of_openAccount {needed : Prop} [Decidable needed] {number : Nat} {clientId : String}
    {serviceUser : Option String} {users : Table UserRecord} {user : String}
    (found : ((openAccount needed (identifier "user" number) clientId serviceUser users).2.get?
      user).bind (·.id) = some id) :
    (users.get? user).bind (·.id) = some id ∨
      (user = identifier "user" number ∧ id = identifier "user" number) := by
  unfold openAccount at found
  split at found
  · rcases bind_get?_insert found with ⟨same, own⟩ | old
    · exact .inr ⟨same, (Option.some.inj own).symm⟩
    · exact .inl old
  · exact .inl found

/-- A role put in its own place with its own identifier brings no identifier. -/
theorem idOf?_describeRole {name : String} {stored role : RoleRecord} {composites : Table NameSet}
    (found : StoredRealm.idOf? { held with roles := held.roles.insert name role, composites } part =
      some id) (there : held.roles.get? name = some stored) (sameId : role.id = stored.id) :
    held.idOf? part = some id := by
  cases part with
  | role other =>
      rcases bind_get?_insert found with ⟨rfl, own⟩ | old
      · rw [idOf?, there, Option.bind_some, ← sameId, own]
      · exact old
  | _ => exact found

/-- **A change leaves identifiers in their places and gives new things new ones.** -/
theorem Change.draws {drawn count : Nat} {realm : String} {after : StoredRealm}
    (change : held.Change drawn realm count after) :
    ∃ news, Draws drawn (drawn + count) news held.idOf? after.idOf? := by
  cases change with
  | settings record => exact ⟨[], draws_nothing fun part id found => by cases part <;> exact found⟩
  | @newClient record stored clientId key account named unknown isKey isStored isAccount =>
      subst isKey isStored isAccount
      refine ⟨[(.client (identifier "client" (drawn + 1)), drawn + 1),
        (.user (identifier "user" (drawn + 3)), drawn + 3)], ?_, by simp, fun part id found => ?_⟩
      · simp
      · rcases idOf?_putClient found with old | ⟨rfl, own⟩ | ⟨name, rfl, has⟩ | ⟨user, rfl, account⟩
        · exact .inl old
        · exact .inr ⟨drawn + 1, List.mem_cons_self, (Option.some.inj own).symm⟩
        · cases has
        · refine (id_of_openAccount account).imp_right ?_
          rintro ⟨rfl, rfl⟩
          exact ⟨drawn + 3, List.mem_cons_of_mem _ List.mem_cons_self, rfl⟩
  | @changedClient key stored record changed account there isChanged isAccount =>
      subst isChanged isAccount
      let new := Part.user (identifier "user" (drawn + 1))
      refine ⟨_, draws_one new fun part id found => ?_⟩
      refine idOf?_putClient_over (new.Takes (drawn + 1)) found there rfl
        (fun name id has => .inl has) ?_
      intro user id account
      refine (id_of_openAccount account).imp_right ?_
      rintro ⟨rfl, same⟩
      exact ⟨rfl, same⟩
  | newSecret there secret =>
      refine ⟨[], draws_nothing fun part id found => ?_⟩
      exact (idOf?_putClient_over (fun _ _ => False) found there rfl (fun name id has => .inl has)
        fun user id account => .inl account).resolve_right not_false
  | @newRole record role name named free isRole =>
      subst isRole
      refine ⟨_, draws_one (.role name) fun part id found => ?_⟩
      cases part with
      | role other =>
          rcases bind_get?_insert found with ⟨rfl, own⟩ | old
          · exact .inr ⟨rfl, (Option.some.inj own).symm⟩
          · exact .inl old
      | _ => exact .inl found
  | describedRole there record =>
      exact ⟨[], draws_nothing fun part id found => idOf?_describeRole found there rfl⟩
  | @newClientRole key name owner record role there named free isRole =>
      subst isRole
      let new := Part.clientRole key name
      refine ⟨_, draws_one new fun part id found => ?_⟩
      refine idOf?_putClient_over (new.Takes (drawn + 1)) found there rfl ?_
        fun user id account => .inl account
      intro other id has
      rcases bind_get?_insert has with ⟨rfl, own⟩ | old
      · exact .inr ⟨rfl, (Option.some.inj own).symm⟩
      · exact .inl old
  | @describedClientRole key name owner stored there has record =>
      refine ⟨[], draws_nothing fun part id found => ?_⟩
      refine (idOf?_putClient_over (fun _ _ => False) found there rfl ?_
        fun user id account => .inl account).resolve_right not_false
      intro other id hasAfter
      refine .inl ?_
      rcases bind_get?_insert hasAfter with ⟨rfl, own⟩ | old
      · rwa [has, Option.bind_some]
      · exact old
  | attached there known =>
      exact ⟨[], draws_nothing fun part id found => idOf?_describeRole found there rfl⟩
  | seededComposite there has identified =>
      exact ⟨[], draws_nothing fun part id found => by cases part <;> exact found⟩
  | granted there known =>
      exact ⟨[], draws_nothing fun part id found => by cases part <;> exact found⟩

end StoredRealm

/-- A new realm has no identifiers but the new ones of the client through which it is administered
and of the roles of that client. -/
theorem draws_management (drawn : Nat) (enabled : Bool) (attributes : Table String)
    (before : Part → Option String) :
    ∃ news, Draws drawn (drawn + 1 + managementRoles.length) news before
      (StoredRealm.idOf? { enabled, attributes
                           clients := Table.insert ∅ (managementClient drawn).1
                             (managementClient drawn).2 }) := by
  let key := identifier "client" (drawn + 1)
  refine ⟨(.client key, drawn + 1) :: managementRoles.mapIdx fun position name =>
    (.clientRole key name, drawn + 2 + position), ?_, ?_, fun part id found => .inr ?_⟩
  · intro entry member
    rcases List.mem_cons.1 member with rfl | listed
    · exact ⟨Nat.lt_succ_self _, Nat.le_add_right _ _⟩
    · obtain ⟨position, bound, rfl⟩ := List.mem_mapIdx.1 listed
      dsimp only
      omega
  · simp [managementRoles]
  · cases part with
    | client other =>
        rcases bind_get?_insert found with ⟨rfl, own⟩ | old
        · exact ⟨drawn + 1, List.mem_cons_self, (Option.some.inj own).symm⟩
        · cases old
    | role name => cases found
    | clientRole other name =>
        rcases bind_get?_insert found with ⟨rfl, own⟩ | old
        · obtain ⟨role, there, identified⟩ := Option.bind_eq_some_iff.1 own
          obtain ⟨position, bound, listed, -, numbered⟩ := managementClient_role there
          rw [identified] at numbered
          refine ⟨drawn + 2 + position, List.mem_cons_of_mem _ ?_, Option.some.inj numbered⟩
          refine List.mem_mapIdx.2 ⟨position, bound, ?_⟩
          rw [List.getElem?_eq_getElem bound] at listed
          rw [Option.some.inj listed]
          rfl
        · cases old
    | user other => cases found

/-! ## No identifier is that of two things -/

/-- Identifiers have been drawn, for what they are the identifiers of, and no two parts have one,
in whatever realms. -/
structure IdentifiersApart (drawn : Nat) (realms : Table StoredRealm) : Prop where
  numbered : ∀ realm part id, idAt? realms realm part = some id → IsDrawn drawn part.sort id
  apart : ∀ realm other part otherPart id, idAt? realms realm part = some id →
    idAt? realms other otherPart = some id → realm = other ∧ part = otherPart

namespace IdentifiersApart

variable {drawn more : Nat} {realms : Table StoredRealm}

theorem mono (apart : IdentifiersApart drawn realms) (fewer : drawn ≤ more) :
    IdentifiersApart more realms where
  numbered realm part id found := (apart.numbered realm part id found).mono fewer
  apart := apart.apart

/-- Identifiers stay apart when a realm is put whose new parts have new ones. -/
theorem put (apart : IdentifiersApart drawn realms) (fewer : drawn ≤ more) {name : String}
    {after : StoredRealm} {news : List (Part × Nat)}
    (draws : Draws drawn more news (idAt? realms name) after.idOf?) :
    IdentifiersApart more (realms.insert name after) := by
  have origin {realm : String} {part : Part} {id : String}
      (found : idAt? (realms.insert name after) realm part = some id) :
      idAt? realms realm part = some id ∨
        (realm = name ∧ ∃ number, (part, number) ∈ news ∧ id = identifier part.sort number) := by
    rcases bind_get?_insert found with ⟨rfl, own⟩ | old
    · exact (draws.origin part id own).imp_right fun new => ⟨rfl, new⟩
    · exact .inl old
  -- an identifier that was there has a number that is no longer new
  have notNew {realm : String} {part other : Part} {number : Nat} {id : String}
      (old : idAt? realms realm part = some id) (member : (other, number) ∈ news)
      (same : id = identifier other.sort number) : False := by
    obtain ⟨earlier, bound, sameEarlier⟩ := apart.numbered realm part id old
    have numbers := (Part.identifier_inj (sameEarlier.symm.trans same)).2
    have later := (draws.later _ member).1
    dsimp only at later
    omega
  refine ⟨fun realm part id found => ?_, fun realm other part otherPart id found otherFound => ?_⟩
  · rcases origin found with old | ⟨-, number, member, same⟩
    · exact (apart.numbered realm part id old).mono fewer
    · exact ⟨number, (draws.later _ member).2, same⟩
  · rcases origin found with old | ⟨inRealm, number, member, same⟩ <;>
      rcases origin otherFound with otherOld | ⟨otherInRealm, otherNumber, otherMember, otherSame⟩
    · exact apart.apart realm other part otherPart id old otherOld
    · exact (notNew old otherMember otherSame).elim
    · exact (notNew otherOld member same).elim
    · have numbers := (Part.identifier_inj (same.symm.trans otherSame)).2
      have entries := List.inj_on_of_nodup_map draws.single member otherMember numbers
      exact ⟨inRealm.trans otherInRealm.symm, congrArg Prod.fst entries⟩

end IdentifiersApart

/-- **A step keeps identifiers apart.** -/
theorem Store.Step.identifiersApart {store after : Store} (step : store.Step after)
    (apart : IdentifiersApart store.drawn store.realms) :
    IdentifiersApart after.drawn after.realms := by
  cases step with
  | drew count => exact apart.mono (Nat.le_add_right _ _)
  | started name enabled attributes =>
      unfold startRealm
      dsimp only
      split
      · obtain ⟨news, draws⟩ := draws_management store.drawn enabled attributes _
        exact apart.put (by dsimp only; omega) draws
      · have nothing : Draws store.drawn store.drawn [] (idAt? store.realms name)
            (StoredRealm.idOf? { enabled, attributes }) :=
          draws_nothing fun part id found => by cases part <;> cases found
        exact apart.put (Nat.le_refl _) nothing
  | @changed realm before realmAfter count present change =>
      obtain ⟨news, draws⟩ := change.draws
      have same : idAt? store.realms realm = before.idOf? := by
        funext part
        rw [idAt?, present, Option.bind_some]
      exact apart.put (Nat.le_add_right _ _) (same ▸ draws)

/-- **In a service that can be reached no identifier is that of two things.** -/
theorem Reachable.identifiersApart {service : Service} (reachable : service.Reachable) :
    IdentifiersApart service.store.drawn service.store.realms := by
  refine reachable.keeps ⟨fun realm part id found => ?_, fun realm _ part _ id found => ?_⟩
    (fun store apart => apart) fun store after apart step => step.identifiersApart apart
  · cases found
  · cases found

end RealmConvergence.Service
