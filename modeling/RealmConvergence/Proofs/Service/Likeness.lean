import RealmConvergence.Proofs.Service.Reachable
import RealmConvergence.Service.Inspection

/-!
# Stores that differ in grants

No call tells anything about grants, and only one call writes them. So two stores that differ in the
grants of some users alone (`Store.Alike`) give the same answer to every call and stay alike
(`Store.Alike.answer`), and whoever talks to them learns the same (`Store.Alike.run`). What can be
seen of them by name is the same, but for the grants of those users.
-/

set_option autoImplicit false

namespace RealmConvergence.Service

/-! ## Alike realms -/

/-- A realm with other grants. -/
def StoredRealm.withGrants (held : StoredRealm) (grants : Table NameSet) : StoredRealm :=
  { held with grants }

/-- Two realms differ at most in the grants of these users. -/
def StoredRealm.Alike (but : String → Prop) (held other : StoredRealm) : Prop :=
  ∃ grants, other = held.withGrants grants ∧
    ∀ user, ¬but user → grants.get? user = held.grants.get? user

/-- Two stores differ at most in the grants of these users. -/
structure Store.Alike (but : String → Prop) (store other : Store) : Prop where
  drawn : other.drawn = store.drawn
  providesManagement : other.providesManagement = store.providesManagement
  absent : ∀ name, store.realms.get? name = none → other.realms.get? name = none
  there : ∀ name held, store.realms.get? name = some held →
    ∃ otherHeld, other.realms.get? name = some otherHeld ∧ held.Alike but otherHeld

section Relation

variable {but wider : String → Prop}

theorem StoredRealm.Alike.refl (but : String → Prop) (held : StoredRealm) :
    StoredRealm.Alike but held held :=
  ⟨held.grants, rfl, fun _ _ => rfl⟩

theorem StoredRealm.Alike.mono (wide : ∀ user, but user → wider user) {held other : StoredRealm}
    (alike : StoredRealm.Alike but held other) : StoredRealm.Alike wider held other := by
  obtain ⟨grants, same, agree⟩ := alike
  exact ⟨grants, same, fun user not => agree user fun isBut => not (wide user isBut)⟩

theorem StoredRealm.Alike.trans {held between other : StoredRealm}
    (first : StoredRealm.Alike but held between) (second : StoredRealm.Alike but between other) :
    StoredRealm.Alike but held other := by
  obtain ⟨grants, rfl, agree⟩ := first
  obtain ⟨more, rfl, agreeMore⟩ := second
  exact ⟨more, rfl, fun user not => (agreeMore user not).trans (agree user not)⟩

theorem Store.Alike.refl (but : String → Prop) (store : Store) : Store.Alike but store store where
  drawn := rfl
  providesManagement := rfl
  absent _ absent := absent
  there _ held found := ⟨held, found, .refl but held⟩

theorem Store.Alike.mono (wide : ∀ user, but user → wider user) {store other : Store}
    (alike : store.Alike but other) : store.Alike wider other where
  drawn := alike.drawn
  providesManagement := alike.providesManagement
  absent := alike.absent
  there name held found := by
    obtain ⟨otherHeld, otherFound, same⟩ := alike.there name held found
    exact ⟨otherHeld, otherFound, same.mono wide⟩

theorem Store.Alike.trans {store between other : Store} (first : store.Alike but between)
    (second : between.Alike but other) : store.Alike but other where
  drawn := second.drawn.trans first.drawn
  providesManagement := second.providesManagement.trans first.providesManagement
  absent name absent := second.absent name (first.absent name absent)
  there name held found := by
    obtain ⟨middle, middleFound, same⟩ := first.there name held found
    obtain ⟨otherHeld, otherFound, more⟩ := second.there name middle middleFound
    exact ⟨otherHeld, otherFound, same.trans more⟩

end Relation

/-- A store in which a realm was put in the place of one like it. -/
theorem Store.Alike.of_putRealm {but : String → Prop} {store : Store} {name : String}
    {held other : StoredRealm} (found : store.realms.get? name = some held)
    (same : held.Alike but other) : store.Alike but (store.putRealm name other) where
  drawn := rfl
  providesManagement := rfl
  absent asked absent := by
    rw [putRealm_realms_get?, if_neg]
    · exact absent
    · rintro rfl
      rw [found] at absent
      cases absent
  there asked present isThere := by
    rw [putRealm_realms_get?]
    split
    · next isName =>
      rw [isName, found] at isThere
      cases isThere
      exact ⟨other, rfl, same⟩
    · exact ⟨present, isThere, .refl but present⟩

/-! ## Calls to alike stores -/

/-- A change of a realm that neither reads nor writes grants. -/
def IgnoresGrants {α : Type} (change : StoredRealm → Except AdminError (α × StoredRealm)) : Prop :=
  ∀ held grants, change (held.withGrants grants) =
    (change held).map fun made => (made.1, made.2.withGrants grants)

/-- The same outcome for two stores, which stay alike. -/
def AlikeOutcomes {α : Type} (but : String → Prop) (first second : α × Store) : Prop :=
  first.1 = second.1 ∧ first.2.Alike but second.2

namespace Store.Alike

variable {but : String → Prop} {store other : Store} (alike : store.Alike but other)
include alike

theorem withDrawn (drawn : Nat) :
    Store.Alike but { store with drawn } { other with drawn } :=
  { alike with drawn := rfl }

theorem putRealm (name : String) {held otherHeld : StoredRealm} (same : held.Alike but otherHeld) :
    (store.putRealm name held).Alike but (other.putRealm name otherHeld) where
  drawn := alike.drawn
  providesManagement := alike.providesManagement
  absent asked absent := by
    rw [putRealm_realms_get?] at absent ⊢
    split at absent
    · cases absent
    · next different =>
      rw [if_neg different]
      exact alike.absent asked absent
  there asked found isFound := by
    rw [putRealm_realms_get?] at isFound ⊢
    split at isFound
    · next isName =>
      cases isFound
      rw [if_pos isName]
      exact ⟨otherHeld, rfl, same⟩
    · next different =>
      rw [if_neg different]
      exact alike.there asked found isFound

theorem edit {α : Type} (realm : String)
    {change : StoredRealm → Except AdminError (α × StoredRealm)}
    (changes : ∀ held otherHeld, held.Alike but otherHeld →
      (∃ problem, change held = .error problem ∧ change otherHeld = .error problem) ∨
      ∃ answer after otherAfter, change held = .ok (answer, after) ∧
        change otherHeld = .ok (answer, otherAfter) ∧ after.Alike but otherAfter) :
    AlikeOutcomes but (store.edit realm change) (other.edit realm change) := by
  unfold Store.edit
  cases found : store.realms.get? realm with
  | none =>
      rw [alike.absent realm found]
      exact ⟨rfl, alike⟩
  | some held =>
      obtain ⟨otherHeld, otherFound, same⟩ := alike.there realm held found
      rw [otherFound]
      dsimp only
      rcases changes held otherHeld same with
        ⟨problem, refused, otherRefused⟩ | ⟨answer, after, otherAfter, made, otherMade, still⟩
      · rw [refused, otherRefused]
        exact ⟨rfl, alike⟩
      · rw [made, otherMade]
        exact ⟨rfl, alike.putRealm realm still⟩

/-- A change that ignores grants has the same outcome for alike stores. -/
theorem edit_of_ignores {α : Type} (realm : String)
    {change : StoredRealm → Except AdminError (α × StoredRealm)} (ignores : IgnoresGrants change) :
    AlikeOutcomes but (store.edit realm change) (other.edit realm change) := by
  refine alike.edit realm fun held otherHeld same => ?_
  obtain ⟨grants, rfl, agree⟩ := same
  have changed := ignores held grants
  cases made : change held with
  | error problem =>
      rw [made] at changed
      exact .inl ⟨problem, rfl, changed⟩
  | ok outcome =>
      obtain ⟨answer, after⟩ := outcome
      rw [made] at changed
      refine .inr ⟨answer, after, after.withGrants grants, rfl, changed, grants, rfl, ?_⟩
      -- With its own grants a realm is itself, so the change kept them.
      have kept := ignores held held.grants
      rw [show held.withGrants held.grants = held from rfl, made] at kept
      have sameGrants : after = after.withGrants held.grants :=
        congrArg Prod.snd (Except.ok.inj kept)
      rw [sameGrants]
      exact agree

/-- What is read of a realm without its grants is the same for alike stores. -/
theorem read {α : Type} (realm : String) {look : StoredRealm → Except AdminError α}
    (ignores : ∀ held grants, look (held.withGrants grants) = look held) :
    AlikeOutcomes but (store.read realm look) (other.read realm look) := by
  unfold Store.read
  cases found : store.realms.get? realm with
  | none =>
      rw [alike.absent realm found]
      exact ⟨rfl, alike⟩
  | some held =>
      obtain ⟨otherHeld, otherFound, grants, rfl, -⟩ := alike.there realm held found
      rw [otherFound]
      exact ⟨(ignores held grants).symm, alike⟩

theorem isSome (realm : String) :
    (store.realms.get? realm).isSome = (other.realms.get? realm).isSome := by
  cases found : store.realms.get? realm with
  | none => rw [alike.absent realm found]
  | some held =>
      obtain ⟨otherHeld, otherFound, -⟩ := alike.there realm held found
      rw [otherFound]
      rfl

/-- A view of a realm without its grants is the same for alike stores. -/
theorem view {α : Type} (realm : String) {look : StoredRealm → α}
    (ignores : ∀ held grants, look (held.withGrants grants) = look held) :
    (store.realms.get? realm).map look = (other.realms.get? realm).map look := by
  cases found : store.realms.get? realm with
  | none => rw [alike.absent realm found]
  | some held =>
      obtain ⟨otherHeld, otherFound, grants, rfl, -⟩ := alike.there realm held found
      rw [otherFound, Option.map_some, Option.map_some, ignores]

/-- A view of a realm without its grants, where there may be nothing, is the same for alike
stores. -/
theorem view? {α : Type} (realm : String) {look : StoredRealm → Option α}
    (ignores : ∀ held grants, look (held.withGrants grants) = look held) :
    (store.realms.get? realm).bind look = (other.realms.get? realm).bind look := by
  cases found : store.realms.get? realm with
  | none => rw [alike.absent realm found]
  | some held =>
      obtain ⟨otherHeld, otherFound, grants, rfl, -⟩ := alike.there realm held found
      rw [otherFound, Option.bind_some, Option.bind_some, ignores]

end Store.Alike

/-! ## What the calls do with grants -/

section Calls

variable {held : StoredRealm} {grants : Table NameSet}

@[simp] theorem withGrants_clients (held : StoredRealm) (grants : Table NameSet) :
    (held.withGrants grants).clients = held.clients := rfl

@[simp] theorem withGrants_roles (held : StoredRealm) (grants : Table NameSet) :
    (held.withGrants grants).roles = held.roles := rfl

@[simp] theorem withGrants_client? (held : StoredRealm) (grants : Table NameSet)
    (clientId : String) : (held.withGrants grants).client? clientId = held.client? clientId := rfl

@[simp] theorem withGrants_clientRole? (held : StoredRealm) (grants : Table NameSet)
    (roleId : String) : (held.withGrants grants).clientRole? roleId = held.clientRole? roleId := rfl

theorem compositeIds_withGrants (held : StoredRealm) (grants : Table NameSet)
    (added : List RoleRecord) :
    compositeIds (held.withGrants grants) added = compositeIds held added := by
  induction added with
  | nil => rfl
  | cons role rest ih => simp only [compositeIds, ih, withGrants_clientRole?]

theorem grantIds_withGrants (held : StoredRealm) (grants : Table NameSet) (client : String)
    (granted : List RoleRecord) :
    grantIds (held.withGrants grants) client granted = grantIds held client granted := by
  induction granted with
  | nil => rfl
  | cons role rest ih => simp only [grantIds, ih, withGrants_clientRole?]

end Calls

namespace Store.Alike

variable {but : String → Prop} {store other : Store}

/-- Granting roles has the same outcome for alike stores. -/
theorem assignClientRoles (alike : store.Alike but other) (realm user client : String)
    (granted : List RoleRecord) :
    AlikeOutcomes but (store.answer (.assignClientRoles realm user client granted))
      (other.answer (.assignClientRoles realm user client granted)) := by
  refine alike.edit realm fun held otherHeld same => ?_
  obtain ⟨grants, rfl, agree⟩ := same
  have sameUsers : (held.withGrants grants).users = held.users := rfl
  rw [sameUsers, grantIds_withGrants]
  cases held.users.contains user with
  | false => exact .inl ⟨_, rfl, rfl⟩
  | true =>
      cases grantIds held client granted with
      | error problem => exact .inl ⟨problem, rfl, rfl⟩
      | ok roleIds =>
          refine .inr ⟨(), _, _, rfl, rfl, _, rfl, fun asked not => ?_⟩
          rw [Table.get?_insert, Table.get?_insert]
          split
          · next isUser =>
            subst isUser
            have sameGrants : (held.withGrants grants).grantsOf asked = held.grantsOf asked :=
              congrArg (fun found => found.getD ∅) (agree asked not)
            rw [sameGrants]
          · exact agree asked not

theorem startRealm (alike : store.Alike but other) (name : String) (enabled : Bool)
    (attributes : Table String) :
    (store.startRealm name enabled attributes).Alike but
      (other.startRealm name enabled attributes) := by
  unfold Store.startRealm
  rw [alike.providesManagement, alike.drawn]
  split
  · exact (alike.putRealm name (.refl but _)).withDrawn _
  · exact alike.putRealm name (.refl but _)

theorem addClient (alike : store.Alike but other) (realm : String) (record : ClientRecord) :
    AlikeOutcomes but (store.addClient realm record) (other.addClient realm record) := by
  unfold Store.addClient
  split
  · exact ⟨rfl, alike⟩
  · next clientId _ =>
    simp only [Store.draw, alike.drawn]
    refine (alike.withDrawn _).edit_of_ignores realm fun held grants => ?_
    rw [withGrants_client?]
    generalize (held.client? clientId).isSome = known
    cases known with
    | true => rfl
    | false =>
        have needs (key secret : String) :
            (newClientRecord key secret record).serviceAccountsEnabled =
              some (record.serviceAccountsEnabled.getD false) := rfl
        simp only [needs]
        cases record.serviceAccountsEnabled.getD false <;> rfl

theorem changeClient (alike : store.Alike but other) (realm client : String)
    (record : ClientRecord) :
    AlikeOutcomes but (store.changeClient realm client record)
      (other.changeClient realm client record) := by
  unfold Store.changeClient
  simp only [Store.draw, alike.drawn]
  refine (alike.withDrawn _).edit_of_ignores realm fun held grants => ?_
  dsimp only [withGrants_clients]
  cases held.clients.get? client with
  | none => rfl
  | some stored =>
      dsimp only
      split <;> rfl

theorem addRealmRole (alike : store.Alike but other) (realm : String) (record : RoleRecord) :
    AlikeOutcomes but (store.addRealmRole realm record) (other.addRealmRole realm record) := by
  unfold Store.addRealmRole
  split
  · exact ⟨rfl, alike⟩
  · next name _ =>
    simp only [Store.draw, alike.drawn]
    refine (alike.withDrawn _).edit_of_ignores realm fun held grants => ?_
    show (addTo held.roles name _).map _ = ((addTo held.roles name _).map _).map _
    cases addTo held.roles name _ <;> rfl

theorem addClientRole (alike : store.Alike but other) (realm client : String)
    (record : RoleRecord) :
    AlikeOutcomes but (store.addClientRole realm client record)
      (other.addClientRole realm client record) := by
  unfold Store.addClientRole
  split
  · exact ⟨rfl, alike⟩
  · next name _ =>
    simp only [Store.draw, alike.drawn]
    refine (alike.withDrawn _).edit_of_ignores realm fun held grants => ?_
    dsimp only [withGrants_clients]
    cases held.clients.get? client with
    | none => rfl
    | some owner =>
        show (addTo owner.roles name _).map _ = ((addTo owner.roles name _).map _).map _
        cases addTo owner.roles name _ <;> rfl

/-- **A call has the same outcome for alike stores.** -/
theorem answer (alike : store.Alike but other) (call : AdminCall) :
    AlikeOutcomes but (store.answer call) (other.answer call) := by
  cases call with
  | getRealm realm => exact ⟨congrArg Except.ok (alike.view realm fun _ _ => rfl), alike⟩
  | findClient realm clientId =>
      refine ⟨congrArg Except.ok ?_, alike⟩
      rw [alike.view? realm fun _ _ => rfl]
  | getClientSecret realm client =>
      refine ⟨congrArg Except.ok ?_, alike⟩
      rw [alike.view? realm fun _ _ => rfl]
  | getRealmRole realm role =>
      exact ⟨congrArg Except.ok (alike.view? realm fun _ _ => rfl), alike⟩
  | getClientRole realm client role =>
      refine ⟨congrArg Except.ok ?_, alike⟩
      rw [alike.view? realm fun _ _ => rfl]
  | getServiceAccountUser realm client => exact alike.read realm fun _ _ => rfl
  | getRealmRoleComposites realm role client => exact alike.read realm fun _ _ => rfl
  | createRealm record =>
      have same : other.realms.contains (record.realm.getD "") =
          store.realms.contains (record.realm.getD "") := by
        rw [Table.contains_eq_isSome, Table.contains_eq_isSome, alike.isSome]
      simp only [Store.answer]
      rw [same]
      by_cases unnamed : (record.realm.getD "").isEmpty
      · rw [if_pos unnamed, if_pos unnamed]
        exact ⟨rfl, alike⟩
      rw [if_neg unnamed, if_neg unnamed]
      by_cases known : store.realms.contains (record.realm.getD "")
      · rw [if_pos known, if_pos known]
        exact ⟨rfl, alike⟩
      · rw [if_neg known, if_neg known]
        exact ⟨rfl, alike.startRealm _ _ _⟩
  | updateRealm realm record => exact alike.edit_of_ignores realm fun _ _ => rfl
  | createClient realm record => exact alike.addClient realm record
  | updateClient realm client record => exact alike.changeClient realm client record
  | updateClientSecret realm client secret =>
      refine alike.edit_of_ignores realm fun held grants => ?_
      dsimp only [withGrants_clients]
      cases held.clients.get? client <;> rfl
  | createRealmRole realm record => exact alike.addRealmRole realm record
  | updateRealmRole realm role record =>
      refine alike.edit_of_ignores realm fun held grants => ?_
      dsimp only [withGrants_roles]
      cases held.roles.get? role <;> rfl
  | addRealmRoleComposites realm role added =>
      refine alike.edit_of_ignores realm fun held grants => ?_
      rw [compositeIds_withGrants]
      dsimp only [withGrants_roles]
      cases held.roles.get? role with
      | none => rfl
      | some stored =>
          dsimp only
          cases compositeIds held added <;> rfl
  | createClientRole realm client record => exact alike.addClientRole realm client record
  | updateClientRole realm client role record =>
      refine alike.edit_of_ignores realm fun held grants => ?_
      dsimp only [withGrants_clients]
      cases held.clients.get? client with
      | none => rfl
      | some owner =>
          dsimp only
          cases owner.roles.get? role <;> rfl
  | assignClientRoles realm user client granted =>
      exact alike.assignClientRoles realm user client granted

/-- **Whoever talks to alike stores learns the same, and leaves them alike.** -/
theorem run {α : Type} (alike : store.Alike but other) (faults : Faults) (talk : Talk α) :
    AlikeOutcomes but (talk.run (respond faults) store) (talk.run (respond faults) other) := by
  induction talk generalizing store other with
  | conclude value => exact ⟨rfl, alike⟩
  | ask call resume ih =>
      have one : AlikeOutcomes but (respond faults call store) (respond faults call other) := by
        unfold respond
        cases faults call.operation with
        | none => exact alike.answer call
        | some problem => exact ⟨rfl, alike⟩
      show AlikeOutcomes but ((resume (respond faults call store).1).run (respond faults) _)
        ((resume (respond faults call other).1).run (respond faults) _)
      rw [← one.1]
      exact ih _ one.2

end Store.Alike

end RealmConvergence.Service
