import RealmConvergence.Proofs.Convergence.Frame
import RealmConvergence.Proofs.Convergence.Opening
import RealmConvergence.Proofs.Convergence.Resting
import RealmConvergence.Proofs.Service.Naming

/-!
# Runs resume

A run that faults stop is made up for by the same run without faults (`apply_resumes`). Where an
item was not begun, the next run begins it from the same state; where it was finished, the next run
rests on it. So each part resumes (`Resumes`), and parts that rest when they are repeated resume one
after the other (`resumes_followedBy`, `repeatable_forEach`), up to whole runs (`resumes_apply`).

The exception are grants. A failed grant does not stop a run, and the next run finds the service
account open and leaves it alone (`apply_resumes_ungranted`).
-/

set_option autoImplicit false

namespace RealmConvergence.Convergence

open Service

variable {ε α : Type} {faults : Faults} {store later last : Store} {realm key : String}
  {held after : StoredRealm} {stored : StoredClient} {blueprint : Blueprint}

/-! ## Parts that can be repeated -/

/-- When a part is stopped by faults, the same part without faults makes up for it: from where it
was stopped it comes to what it would have come to undisturbed. When it comes to its end, it comes
there by itself. Either way, missed grants are apart. -/
def Resumes (faults : Faults) (realm : String) (part : ExceptT ε Talk α) (store : Store) : Prop :=
  Reaches faults part store fun outcome later => KeepsGrants faults realm store later ∧
    match outcome with
    | .ok _ => later.Alike (Missed faults realm store later) (undisturbed part store).2
    | .error _ => (undisturbed part later).2.Alike (Missed faults realm store later)
        (undisturbed part store).2

/-- A part for these items that can be repeated, from every realm with a property. -/
structure Repeatable (realm : String) (kept : StoredRealm → Prop) (items : List Item)
    (part : Part Findings) : Prop where
  works : ∀ faults store held, store.Sound → store.realms.get? realm = some held → kept held →
    Reaches faults part store (Works faults realm items held)
  rests : ∀ store held, store.Sound → store.realms.get? realm = some held → kept held →
    (∀ item ∈ items, Settled item held) → Rests Faults.none part store (EndsQuietly Faults.none)
  resumes : ∀ faults store held, store.Sound → store.realms.get? realm = some held → kept held →
    Resumes faults realm part store

/-- A part that works comes to its end without faults. -/
theorem undisturbed_of_works {items : List Item} {part : Part α}
    (works : Reaches Faults.none part store (Works Faults.none realm items held)) :
    ∃ value, (undisturbed part store).1 = .ok value := by
  obtain ⟨after, -, -, ending⟩ := works
  unfold undisturbed
  generalize (part.run.run (respond Faults.none) store).1 = outcome at ending
  cases outcome with
  | ok value => exact ⟨value, rfl⟩
  | error failure => exact absurd rfl ending

/-- A part that rests comes to its end without faults, and leaves the store as it is. -/
theorem undisturbed_of_rests {part : Part Findings}
    (rests : Rests Faults.none part store (EndsQuietly Faults.none)) :
    ∃ findings, undisturbed part store = (.ok findings, store) := by
  have stays := rests.run_store
  have ending := rests.meets
  unfold undisturbed
  generalize part.run.run (respond Faults.none) store = came at stays ending
  obtain ⟨outcome, later⟩ := came
  cases stays
  cases outcome with
  | ok findings => exact ⟨findings, rfl⟩
  | error failure => exact absurd rfl ending

/-- What was not begun can be made up for. -/
theorem Attempts.resumes {items : List Item} {part : Part α}
    (attempts : AttemptsButGrants faults realm part store)
    (works : Reaches Faults.none part store (Works Faults.none realm items held)) :
    Resumes faults realm part store := by
  obtain ⟨value, finishes⟩ := undisturbed_of_works works
  refine (attempts value finishes).mono fun outcome later holds => ?_
  cases outcome with
  | ok _ => exact holds.symm
  | error _ =>
      cases holds
      exact ⟨.refl _ _ _, .refl _ _⟩

/-- Edits for other items than clients keep the grants. -/
theorem Edits.grants {items : List Item} (edits : Edits items held after)
    (noClient : ∀ desired, .client desired ∉ items) : after.grants = held.grants := by
  have keeps (item : Item) (member : item ∈ items) (before next : StoredRealm)
      (edit : Edit item before next) (same : before.grants = held.grants) :
      next.grants = held.grants := by
    rw [← same]
    cases edit with
    | clientAdded | clientChanged | granted => exact absurd member (noClient _)
    | realmSet | realmRoleAdded | realmRoleDescribed | clientRoleAdded | clientRoleDescribed
    | compositesAdded | marked => rfl
  exact edits.keep keeps rfl

/-- What was not begun can be made up for, where nothing is granted. -/
theorem AttemptsSame.resumes {items : List Item} {part : Part α}
    (attempts : AttemptsSame faults part store) (noClient : ∀ desired, .client desired ∉ items)
    (found : store.realms.get? realm = some held)
    (works : ∀ faults, Reaches faults part store (Works faults realm items held)) :
    Resumes faults realm part store := by
  obtain ⟨value, finishes⟩ := undisturbed_of_works (works Faults.none)
  refine ((attempts value finishes).and (works faults)).mono ?_
  rintro outcome later ⟨holds, after, foundLater, edits, -⟩
  refine ⟨keepsGrants_of_same found foundLater (edits.grants noClient), ?_⟩
  cases outcome with
  | ok _ => exact holds ▸ .refl _ later
  | error _ =>
      cases holds
      exact .refl _ _

/-! ## Parts one after the other -/

theorem undisturbed_followedBy {first rest : Part Findings} {found : Findings}
    (finishes : (undisturbed first store).1 = .ok found) :
    (undisturbed (followedBy first rest) store).2 =
      (undisturbed rest (undisturbed first store).2).2 := by
  unfold undisturbed at finishes ⊢
  rw [run_followedBy]
  generalize first.run.run (respond Faults.none) store = came at finishes
  obtain ⟨outcome, later⟩ := came
  cases finishes
  rfl

/-- **Two parts resume one after the other.** Where the first is stopped, it is made up for before
the second begins; where the second is stopped, the first rests when it is repeated. -/
theorem resumes_followedBy {first rest : Part Findings} {found : Findings}
    (finishes : (undisturbed first store).1 = .ok found)
    (each : Reaches faults first store fun outcome later => match outcome with
      | .error _ => KeepsGrants faults realm store later ∧
          (∃ again, (undisturbed first later).1 = .ok again) ∧
          (undisturbed first later).2.Alike (Missed faults realm store later)
            (undisturbed first store).2
      | .ok _ => Reaches faults rest later fun outcome last =>
          KeepsGrants faults realm store last ∧
          later.Alike (Missed faults realm store last) (undisturbed first store).2 ∧
            match outcome with
            | .ok _ => last.Alike (Missed faults realm store last) (undisturbed rest later).2
            | .error _ => (∃ again, undisturbed first last = (.ok again, last)) ∧
                (undisturbed rest last).2.Alike (Missed faults realm store last)
                  (undisturbed rest later).2) :
    Resumes faults realm (followedBy first rest) store := by
  unfold Resumes Reaches at *
  rw [run_followedBy, undisturbed_followedBy finishes]
  generalize first.run.run (respond faults) store = came at each
  obtain ⟨outcome, later⟩ := came
  cases outcome with
  | error failure =>
      obtain ⟨keeps, ⟨again, repeated⟩, alike⟩ := each
      refine ⟨keeps, ?_⟩
      dsimp only
      rw [undisturbed_followedBy repeated]
      exact (alike.run Faults.none rest.run).2
  | ok value =>
      dsimp only at each ⊢
      generalize rest.run.run (respond faults) later = reached at each
      obtain ⟨restOutcome, last⟩ := reached
      obtain ⟨keeps, alike, ending⟩ := each
      refine ⟨keeps, ?_⟩
      have onward := (alike.run Faults.none rest.run).2
      cases restOutcome with
      | ok others => exact Store.Alike.trans ending onward
      | error failure =>
          obtain ⟨⟨again, repeated⟩, restAlike⟩ := ending
          show (undisturbed (followedBy first rest) last).2.Alike _ _
          rw [undisturbed_followedBy (congrArg Prod.fst repeated), repeated]
          exact Store.Alike.trans restAlike onward

section ForEach

variable {subjects : List α} {part : α → Part Findings} {itemsOf : α → List Item}
  {kept : StoredRealm → Prop} (apart : (subjects.flatMap itemsOf).Pairwise Apart)
  (keepsKept : ∀ item before after, Edit item before after → kept before → kept after)
  (each : ∀ subject ∈ subjects, Repeatable realm kept (itemsOf subject) (part subject))
include apart keepsKept each

/-- Parts that can be repeated resume one after the other. -/
theorem resumes_forEach : ∀ store held, store.Sound → store.realms.get? realm = some held →
    kept held → Resumes faults realm (forEach subjects part) store := by
  induction subjects with
  | nil => exact fun store _ _ _ _ => ⟨.refl faults realm store, Store.Alike.refl _ store⟩
  | cons subject rest ih =>
      intro store held sound found holds
      rw [List.flatMap_cons] at apart
      obtain ⟨-, restApart, across⟩ := List.pairwise_append.1 apart
      have first := each subject List.mem_cons_self
      have others : ∀ other ∈ rest, Repeatable realm kept (itemsOf other) (part other) :=
        fun other member => each other (List.mem_cons_of_mem subject member)
      obtain ⟨_, finishes⟩ :=
        undisturbed_of_works (first.works Faults.none store held sound found holds)
      refine resumes_followedBy finishes ?_
      refine ((Reaches.sound (first.works faults store held sound found holds) sound).and
        (first.resumes faults store held sound found holds)).mono ?_
      rintro outcome later ⟨⟨⟨after, foundLater, edits, ending⟩, soundLater⟩, keeps, resumes⟩
      have holdsLater := edits.keep (fun item _ => keepsKept item) holds
      cases outcome with
      | error failure =>
          exact ⟨keeps, undisturbed_of_works
            (first.works Faults.none later after soundLater foundLater holdsLater), resumes⟩
      | ok value =>
          have restWorks : Reaches faults (forEach rest part) later
              (Works faults realm (rest.flatMap itemsOf) after) :=
            works_forEach kept restApart keepsKept
              (fun other member => (others other member).works faults) later after soundLater
              foundLater holdsLater
          refine ((restWorks.sound soundLater).and
            (ih restApart others later after soundLater foundLater holdsLater)).mono ?_
          rintro restOutcome last
            ⟨⟨⟨final, foundLast, more, -⟩, soundLast⟩, restKeeps, restResumes⟩
          have missedFirst (user : String) (missed : Missed faults realm store later user) :
              Missed faults realm store last user :=
            ⟨missed.1, missed.2.of_first found foundLater foundLast edits more across⟩
          have missedSecond (user : String) (missed : Missed faults realm later last user) :
              Missed faults realm store last user :=
            ⟨missed.1, missed.2.of_second found foundLater foundLast edits more across⟩
          refine ⟨keeps.trans found foundLater foundLast edits more across restKeeps,
            Store.Alike.mono missedFirst resumes, ?_⟩
          cases restOutcome with
          | ok found => exact Store.Alike.mono missedSecond restResumes
          | error failure =>
              refine ⟨undisturbed_of_rests ?_, Store.Alike.mono missedSecond restResumes⟩
              exact first.rests last final soundLast foundLast
                (more.keep (fun item _ => keepsKept item) holdsLater)
                fun item member => (ending item member).of_edits more (across item member)

/-- **Parts that can be repeated can be repeated one after the other.** -/
theorem repeatable_forEach :
    Repeatable realm kept (subjects.flatMap itemsOf) (forEach subjects part) where
  works faults := works_forEach kept apart keepsKept fun subject member =>
    (each subject member).works faults
  rests store held sound found holds settled := rests_forEach fun subject member =>
    (each subject member).rests store held sound found holds fun item listed =>
      settled item (List.mem_flatMap.2 ⟨subject, member, listed⟩)
  resumes _ := resumes_forEach apart keepsKept each

end ForEach

/-! ## Passes -/

/-- A part that attempts other items than clients can be repeated. -/
theorem repeatable_of_attempts {kept : StoredRealm → Prop} {items : List Item}
    {part : Part Findings} (noClient : ∀ desired, .client desired ∉ items)
    (works : ∀ faults store held, store.Sound → store.realms.get? realm = some held → kept held →
      Reaches faults part store (Works faults realm items held))
    (rests : ∀ store held, store.Sound → store.realms.get? realm = some held → kept held →
      (∀ item ∈ items, Settled item held) → Rests Faults.none part store (EndsQuietly Faults.none))
    (attempts : ∀ faults store, AttemptsSame faults part store) :
    Repeatable realm kept items part where
  works := works
  rests := rests
  resumes faults store held sound found holds :=
    (attempts faults store).resumes noClient found
      fun faults => works faults store held sound found holds

/-- Roles of a client can be repeated, where the client keeps its place. -/
theorem repeatable_roles {group : String × List Blueprint.ClientRole}
    (owned : ∀ role ∈ group.2, role.clientId = group.1)
    (apart : (roleItems group).Pairwise Apart) :
    Repeatable realm (fun held => ∃ owner, held.client? group.1 = some (key, owner))
      (roleItems group) (forEach group.2 (convergeClientRole realm key)) := by
  refine repeatable_forEach apart ?_ fun role listed => ?_
  · rintro item before after edit ⟨owner, there⟩
    obtain ⟨kept, thereAfter, -⟩ := edit.client? there
    exact ⟨kept, thereAfter⟩
  · refine repeatable_of_attempts (by simp) ?_ ?_ fun _ _ => attempts_convergeClientRole role
    · rintro faults store held - found ⟨owner, there⟩
      rw [← owned role listed] at there
      exact works_convergeClientRole found there
    · rintro store held - found ⟨owner, there⟩ settled
      rw [← owned role listed] at there
      exact rests_convergeClientRole found there (settled _ (List.mem_singleton_self _))

/-- Where a client is known, its roles are brought to their desired states one by one. -/
theorem run_convergeClientRoles {group : String × List Blueprint.ClientRole} {owner : StoredClient}
    (findable : faults .findClient = none) (sound : store.Sound)
    (found : store.realms.get? realm = some held)
    (known : held.client? group.1 = some (key, owner)) :
    (convergeClientRoles realm group).run.run (respond faults) store =
      (forEach group.2 (convergeClientRole realm key)).run.run (respond faults) store := by
  have ownId := (sound realm held found).ownId_of_client? known
  refine (run_explained_bind (Failure.call 4 (.findClient group.1)) (.findClient realm group.1) _
    faults store).trans ?_
  rw [respond_of_faultless findable, Store.answer_findClient found, known]
  dsimp only [Option.map_some, Option.bind_some]
  rw [ownId]

/-- Where a client is known, bringing its roles to their desired states resumes. -/
theorem resumes_convergeClientRoles {group : String × List Blueprint.ClientRole}
    {owner : StoredClient} (owned : ∀ role ∈ group.2, role.clientId = group.1)
    (apart : (roleItems group).Pairwise Apart) (sound : store.Sound)
    (found : store.realms.get? realm = some held)
    (known : held.client? group.1 = some (key, owner)) :
    Resumes faults realm (convergeClientRoles realm group) store := by
  have roles : Repeatable realm
      (fun held => ∃ owner, held.client? group.1 = some (key, owner)) (roleItems group)
      (forEach group.2 (convergeClientRole realm key)) := repeatable_roles owned apart
  have undisturbedly {store held owner} (sound : Store.Sound store)
      (found : store.realms.get? realm = some held)
      (known : held.client? group.1 = some (key, owner)) :
      undisturbed (convergeClientRoles realm group) store =
        undisturbed (forEach group.2 (convergeClientRole realm key)) store :=
    run_convergeClientRoles rfl sound found known
  cases isFaulty : faults .findClient with
  | some problem =>
      have stopped : (convergeClientRoles realm group).run.run (respond faults) store = _ :=
        run_explained_bind (Failure.call 4 (.findClient group.1)) (.findClient realm group.1) _
          faults store
      rw [respond_of_faulty isFaulty] at stopped
      unfold Resumes Reaches
      rw [stopped]
      exact ⟨.refl _ _ _, .refl _ _⟩
  | none =>
      have works := roles.works faults store held sound found ⟨owner, known⟩
      have resumes :=
        (works.sound sound).and (roles.resumes faults store held sound found ⟨owner, known⟩)
      unfold Resumes Reaches at resumes ⊢
      rw [run_convergeClientRoles isFaulty sound found known, undisturbedly sound found known]
      generalize (forEach group.2 (convergeClientRole realm key)).run.run (respond faults)
        store = came at resumes
      obtain ⟨outcome, later⟩ := came
      obtain ⟨⟨⟨after, foundLater, edits, -⟩, soundLater⟩, keeps, resumes⟩ := resumes
      refine ⟨keeps, ?_⟩
      cases outcome with
      | ok findings => exact resumes
      | error failure =>
          obtain ⟨kept, knownLater⟩ := edits.client? known
          dsimp only
          rw [undisturbedly soundLater foundLater knownLater]
          exact resumes

/-- Roles of a client, looked up first, can be repeated. -/
theorem repeatable_convergeClientRoles {group : String × List Blueprint.ClientRole}
    (owned : ∀ role ∈ group.2, role.clientId = group.1)
    (apart : (roleItems group).Pairwise Apart) :
    Repeatable realm (fun _ => True) (roleItems group) (convergeClientRoles realm group) where
  works _ _ _ sound found _ := works_convergeClientRoles owned apart sound found
  rests _ _ sound found _ settled := rests_convergeClientRoles sound owned found
    fun _ listed => settled _ (List.mem_flatMap.2 ⟨_, listed, List.mem_singleton_self _⟩)
  resumes faults store held sound found _ := by
    cases known : held.client? group.1 with
    | some entry => exact resumes_convergeClientRoles owned apart sound found known
    | none =>
        have answers := congrArg Prod.fst (Store.answer_findClient found group.1)
        rw [known] at answers
        have attempts : AttemptsSame faults (convergeClientRoles realm group) store := by
          refine attempts_reads rfl fun current _ replied => ?_
          cases replied.symm.trans answers
          exact attempts_pure rfl
        have noClient : ∀ desired, .client desired ∉ roleItems group := by simp [roleItems]
        exact attempts.resumes noClient found
          fun _ => works_convergeClientRoles owned apart sound found

/-! ## Whole runs -/

/-- The passes after the first, with their items. -/
def laterPassesOf (blueprint : Blueprint) : List (List Item × Part Findings) :=
  [(blueprint.clients.flatMap fun client => [.client client], clientPass blueprint),
    (blueprint.realmRoles.flatMap fun role => [.realmRole role], realmRolePass blueprint),
    (blueprint.clientRoleGroups.flatMap roleItems, clientRolePass blueprint),
    (blueprint.composites.flatMap fun mapping => [.composite mapping], compositePass blueprint),
    ([.marker], markerPass blueprint.realm.name)]

/-- The passes, with their items. -/
def passesOf (blueprint : Blueprint) : List (List Item × Part Findings) :=
  ([.realm blueprint.realm], realmPass blueprint.realm) :: laterPassesOf blueprint

theorem passes_eq_forEach (blueprint : Blueprint) :
    passes blueprint = forEach (passesOf blueprint) Prod.snd := by
  simp only [passes, passesOf, laterPassesOf, forEach, bind_assoc, pure_bind,
    findings_append_assoc, findings_append_empty]

theorem items_eq_flatMap (blueprint : Blueprint) :
    blueprint.items = (passesOf blueprint).flatMap Prod.fst := by
  simp only [Blueprint.items, passesOf, laterPassesOf, List.flatMap_cons, List.flatMap_nil,
    List.append_nil]

/-- Every pass can be repeated. -/
theorem repeatable_pass {pass : List Item × Part Findings} (member : pass ∈ passesOf blueprint)
    (apart : pass.1.Pairwise Apart) :
    Repeatable blueprint.realm.name (fun _ => True) pass.1 pass.2 := by
  simp only [passesOf, laterPassesOf, List.mem_cons, List.not_mem_nil, or_false] at member
  rcases member with rfl | rfl | rfl | rfl | rfl | rfl
  · refine repeatable_of_attempts (by simp) ?_ ?_ fun _ _ => attempts_realmPass _
    · exact fun _ _ _ _ found _ => works_realmPass found
    · exact fun _ _ _ found _ settled =>
        rests_realmPass found (settled _ (List.mem_singleton_self _))
  · refine repeatable_forEach apart (fun _ _ _ _ holds => holds) fun client _ => ⟨?_, ?_, ?_⟩
    · exact fun _ _ _ sound found _ => works_convergeClient client sound found
    · exact fun _ _ sound found _ settled =>
        rests_convergeClient sound found (settled _ (List.mem_singleton_self _))
    · exact fun faults store held sound found _ =>
        (attempts_convergeClient client sound found).resumes
          (works_convergeClient client sound found)
  · refine repeatable_forEach apart (fun _ _ _ _ holds => holds) fun role _ =>
      repeatable_of_attempts (by simp) ?_ ?_ fun _ _ => attempts_convergeRealmRole role
    · exact fun _ _ _ _ found _ => works_convergeRealmRole role found
    · exact fun _ _ _ found _ settled =>
        rests_convergeRealmRole found (settled _ (List.mem_singleton_self _))
  · exact repeatable_forEach apart (fun _ _ _ _ holds => holds) fun group member =>
      repeatable_convergeClientRoles (Blueprint.owner_of_mem_clientRoleGroups member)
        ((List.pairwise_flatMap.1 apart).1 _ member)
  · refine repeatable_forEach apart (fun _ _ _ _ holds => holds) fun mapping _ =>
      repeatable_of_attempts (by simp) ?_ ?_ fun _ _ => attempts_convergeComposite mapping
    · exact fun _ _ _ sound found _ => works_convergeComposite mapping sound found
    · exact fun _ _ sound found _ settled =>
        rests_convergeComposite sound found (settled _ (List.mem_singleton_self _))
  · refine repeatable_of_attempts (by simp) ?_ ?_ fun _ _ => attempts_markerPass
    · exact fun _ _ _ _ found _ => works_markerPass found
    · exact fun _ _ _ found _ settled =>
        rests_markerPass found (settled _ (List.mem_singleton_self _))

/-- Undisturbed, a realm that is absent is created. -/
theorem undisturbed_realmPass_of_absent {desired : Blueprint.Realm}
    (absent : store.realms.get? desired.name = none) (named : desired.name ≠ "") :
    ∃ found, (undisturbed (realmPass desired) store).1 = .ok found := by
  have created : Reaches Faults.none (realmPass desired) store _ :=
    reaches_realmPass_of_absent absent named
  unfold Reaches at created
  unfold undisturbed
  generalize (realmPass desired).run.run (respond Faults.none) store = came at created
  obtain ⟨outcome, later⟩ := came
  cases outcome with
  | ok found => exact ⟨found, rfl⟩
  | error failure => exact absurd rfl created.2

section Passes

variable (distinct : blueprint.Distinct)
include distinct

theorem apart_passes : ((passesOf blueprint).flatMap Prod.fst).Pairwise Apart :=
  items_eq_flatMap blueprint ▸ apart_items distinct

/-- The passes after the first can be repeated. -/
theorem repeatable_laterPasses :
    Repeatable blueprint.realm.name (fun _ => True)
      ((laterPassesOf blueprint).flatMap Prod.fst)
      (forEach (laterPassesOf blueprint) Prod.snd) := by
  have apart := apart_passes distinct
  rw [passesOf, List.flatMap_cons] at apart
  obtain ⟨-, laterApart, -⟩ := List.pairwise_append.1 apart
  refine repeatable_forEach laterApart (fun _ _ _ _ holds => holds) fun pass member => ?_
  exact repeatable_pass (List.mem_cons_of_mem _ member)
    ((List.pairwise_flatMap.1 laterApart).1 pass member)

/-- Over a realm that is absent, the passes resume: it is created, or nothing is begun. -/
theorem resumes_passes_of_absent (sound : store.Sound)
    (absent : store.realms.get? blueprint.realm.name = none) :
    Resumes faults blueprint.realm.name (forEach (passesOf blueprint) Prod.snd) store := by
  have apart := apart_passes distinct
  rw [passesOf, List.flatMap_cons] at apart
  obtain ⟨-, -, across⟩ := List.pairwise_append.1 apart
  have laterPasses := repeatable_laterPasses distinct
  obtain ⟨found, finishes⟩ := undisturbed_realmPass_of_absent absent distinct.named
  have created : Reaches faults (realmPass blueprint.realm) store _ :=
    reaches_realmPass_of_absent absent distinct.named
  refine resumes_followedBy finishes (((created.sound sound).and
    (attempts_realmPass blueprint.realm found finishes)).mono ?_)
  rintro outcome later ⟨⟨began, soundLater⟩, attempted⟩
  cases outcome with
  | error failure =>
      cases attempted
      exact ⟨.refl _ _ store, ⟨found, finishes⟩, .refl _ _⟩
  | ok created =>
      obtain ⟨start, foundLater, -, -, -, settled, -⟩ := began
      refine (((laterPasses.works faults later start soundLater foundLater trivial).sound
        soundLater).and (laterPasses.resumes faults later start soundLater foundLater
          trivial)).mono ?_
      rintro restOutcome last ⟨⟨⟨after, foundLast, edits, -⟩, soundLast⟩, -, resumes⟩
      refine ⟨keepsGrants_of_absent absent, attempted ▸ .refl _ later, ?_⟩
      cases restOutcome with
      | ok findings => exact Store.Alike.mono (fun _ => Missed.of_absent absent) resumes
      | error failure =>
          refine ⟨undisturbed_of_rests ?_,
            Store.Alike.mono (fun _ => Missed.of_absent absent) resumes⟩
          refine rests_realmPass foundLast (settled.of_edits edits fun item member => ?_)
          exact across _ (List.mem_singleton_self _) item member

/-- The passes resume, over a realm that is there and one that is created. -/
theorem resumes_passes (sound : store.Sound) :
    Resumes faults blueprint.realm.name (passes blueprint) store := by
  have apart := apart_passes distinct
  rw [passes_eq_forEach]
  cases known : store.realms.get? blueprint.realm.name with
  | none => exact resumes_passes_of_absent distinct sound known
  | some held =>
      have each (pass : List Item × Part Findings) (member : pass ∈ passesOf blueprint) :
          Repeatable blueprint.realm.name (fun _ => True) pass.1 pass.2 :=
        repeatable_pass member ((List.pairwise_flatMap.1 apart).1 pass member)
      exact resumes_forEach apart (fun _ _ _ _ holds => holds) each store held sound known trivial

end Passes

theorem run_apply (valid : blueprint.validate = .ok ()) (faults : Faults) (store : Store) :
    (apply blueprint).run.run (respond faults) store =
      (((passes blueprint).run.run (respond faults) store).1.map fun findings =>
          { realm := blueprint.realm.name, findings, finished := true },
        ((passes blueprint).run.run (respond faults) store).2) := by
  rw [apply_of_valid valid, run_bind_pure, Dialogue.run_andThen]
  rfl

/-- **A run resumes.** -/
theorem resumes_apply (valid : blueprint.validate = .ok ()) (sound : store.Sound) :
    Resumes faults blueprint.realm.name (apply blueprint) store := by
  have resumes : Resumes faults blueprint.realm.name (passes blueprint) store :=
    resumes_passes (Blueprint.validate_eq_ok valid) sound
  unfold Resumes Reaches undisturbed at *
  simp only [run_apply valid]
  generalize (passes blueprint).run.run (respond faults) store = came at resumes ⊢
  obtain ⟨outcome, later⟩ := came
  cases outcome <;> exact resumes

/-- An undisturbed run keeps a realm that is there. -/
theorem keepsRealm_of_undisturbed (valid : blueprint.validate = .ok ()) (sound : store.Sound)
    (found : store.realms.get? blueprint.realm.name = some held) :
    ∃ after, (undisturbed (apply blueprint) store).2.realms.get? blueprint.realm.name =
      some after ∧ KeepsRealm blueprint held after := by
  have runs : Reaches Faults.none (apply blueprint) store _ := reaches_apply valid sound
  rcases runs with ⟨start, isStart | ⟨absent, -⟩, after, foundAfter, edits, -⟩ | ⟨absent, -⟩
  · cases found.symm.trans isStart
    exact ⟨after, foundAfter, edits.keeps (List.Subset.refl blueprint.items)⟩
  · rw [absent] at found
    cases found
  · rw [absent] at found
    cases found

/-! ## What is seen of accounts afterwards -/

section Accounts

variable {clientId other user : String}

theorem IsAccountOf.unique (linked : store.Linked)
    (isAccount : IsAccountOf store realm clientId user)
    (otherAccount : IsAccountOf store realm other user) : clientId = other := by
  obtain ⟨held, key, client, found, known, account⟩ := isAccount
  obtain ⟨_, otherKey, otherClient, foundSo, otherKnown, has⟩ := otherAccount
  cases found.symm.trans foundSo
  obtain ⟨present, named⟩ := StoredRealm.get?_of_client? known
  obtain ⟨otherPresent, otherNamed⟩ := StoredRealm.get?_of_client? otherKnown
  have sameKey := (linked realm held found).owners key otherKey client otherClient user present
    otherPresent account has
  subst sameKey
  cases present.symm.trans otherPresent
  exact Option.some.inj (named.symm.trans otherNamed)

/-- A client that is kept is found by what it was found by before. -/
theorem client?_of_keeps (keeps : KeepsRealm blueprint held after) (linked : after.Linked)
    (known : held.client? clientId = some (key, stored)) :
    ∃ kept, after.client? clientId = some (key, kept) ∧ KeepsClient blueprint stored kept := by
  obtain ⟨present, named⟩ := StoredRealm.get?_of_client? known
  obtain ⟨kept, presentAfter, keepsClient⟩ := keeps.clients key stored present
  exact ⟨kept, linked.client?_eq_some_iff.2 ⟨presentAfter, keepsClient.clientId.trans named⟩,
    keepsClient⟩

theorem IsAccountOf.kept (isAccount : IsAccountOf store realm clientId user)
    (found : store.realms.get? realm = some held)
    (foundLater : later.realms.get? realm = some after) (keeps : KeepsRealm blueprint held after)
    (linked : after.Linked) :
    IsAccountOf later realm clientId user := by
  obtain ⟨_, key, client, foundSo, known, account⟩ := isAccount
  cases found.symm.trans foundSo
  obtain ⟨kept, knownAfter, keepsClient⟩ := client?_of_keeps keeps linked known
  exact ⟨after, key, kept, foundLater, knownAfter, keepsClient.serviceUser user account⟩

/-- A service account that was open before shows the same roles after a run that keeps the grants of
such accounts. -/
theorem roleNames_of_open (sound : store.Sound) (linked : store.Linked) (soundLater : later.Sound)
    (linkedLater : later.Linked) (found : store.realms.get? realm = some held)
    (foundLater : later.realms.get? realm = some after) (keeps : KeepsRealm blueprint held after)
    (keepsGrants : KeepsGrants faults realm store later) (isOpen : HasAccount store realm clientId)
    (owner name : String) :
    (later.serviceAccountRoleNames realm clientId owner).contains name =
      (store.serviceAccountRoleNames realm clientId owner).contains name := by
  obtain ⟨key, client, known, enabled⟩ := (hasAccount_iff found).1 isOpen
  obtain ⟨present, -⟩ := StoredRealm.get?_of_client? known
  obtain ⟨user, account⟩ := Option.ne_none_iff_exists'.1
    ((linked realm held found).opened key client present enabled)
  obtain ⟨kept, knownAfter, keepsClient⟩ :=
    client?_of_keeps keeps (linkedLater realm after foundLater) known
  have accountAfter := keepsClient.serviceUser user account
  have sameGrants : after.grantsOf user = held.grantsOf user := by
    refine congrArg (·.getD ∅) (keepsGrants held after found foundLater user ?_)
    rintro ⟨-, other, ⟨unopened, -⟩, otherAccount⟩
    have isAccount : IsAccountOf later realm clientId user :=
      ⟨after, key, kept, foundLater, knownAfter, accountAfter⟩
    cases isAccount.unique linkedLater otherAccount
    exact unopened isOpen
  rw [Bool.eq_iff_iff, serviceAccountRoleNames_contains_iff soundLater foundLater,
    serviceAccountRoleNames_contains_iff sound found]
  constructor
  · rintro ⟨_, _, _, roleKey, ownerAfter, isKept, has, ownerKnown, roleId, hasRole, among⟩
    cases knownAfter.symm.trans isKept
    cases accountAfter.symm.trans has
    rw [sameGrants] at among
    obtain ⟨-, oldKey, oldName, hadRole⟩ := (linked realm held found).grants user roleId among
    obtain ⟨rfl, rfl⟩ := keeps.sameRole (soundLater realm after foundLater) hadRole hasRole
    obtain ⟨oldOwner, role, oldPresent, there⟩ := hadRole
    exact ⟨key, client, user, oldKey, oldOwner, known, account,
      keeps.client?_before (linked realm held found) oldPresent ownerKnown, roleId,
      ⟨oldOwner, role, oldPresent, there⟩, among⟩
  · rintro ⟨_, _, _, roleKey, oldOwner, isKnown, has, ownerKnown, roleId, hasRole, among⟩
    cases known.symm.trans isKnown
    cases account.symm.trans has
    obtain ⟨ownerAfter, ownerKnownAfter, -⟩ :=
      client?_of_keeps keeps (linkedLater realm after foundLater) ownerKnown
    exact ⟨key, kept, user, roleKey, ownerAfter, knownAfter, accountAfter, ownerKnownAfter, roleId,
      keeps.hasRole hasRole, sameGrants ▸ among⟩

end Accounts

/-! ## Runs after an aborted one -/

/-- Two stores show the same of a realm by name, the granted roles of these clients apart. -/
structure SameByName (realm : String) (but : String → Prop) (store other : Store) : Prop where
  settings : store.realm? realm = other.realm? realm
  clients : ∀ clientId, store.client? realm clientId = other.client? realm clientId
  realmRoles : ∀ role, store.realmRole? realm role = other.realmRole? realm role
  clientRoles : ∀ clientId role,
    store.clientRole? realm clientId role = other.clientRole? realm clientId role
  composites : ∀ role clientId,
    store.compositeNames realm role clientId = other.compositeNames realm role clientId
  granted : ∀ clientId, ¬but clientId → ∀ owner,
    store.serviceAccountRoleNames realm clientId owner =
      other.serviceAccountRoleNames realm clientId owner

/-- Stores that differ in the grants of some users show the same by name, but for the clients that
these users belong to. -/
theorem sameByName_of_alike {but : String → Prop} {other : Store} (alike : store.Alike but other)
    (realm : String) : SameByName realm
      (fun clientId => ∃ user, but user ∧ IsAccountOf store realm clientId user) store other where
  settings := alike.view realm fun _ _ => rfl
  clients clientId := by
    have same : (store.realms.get? realm).bind (·.client? clientId) =
        (other.realms.get? realm).bind (·.client? clientId) := alike.view? realm fun _ _ => rfl
    rw [Store.client?, Store.client?, same]
  realmRoles role := alike.view? realm fun _ _ => rfl
  clientRoles clientId role := by
    have same : (store.realms.get? realm).bind (·.client? clientId) =
        (other.realms.get? realm).bind (·.client? clientId) := alike.view? realm fun _ _ => rfl
    rw [Store.clientRole?, Store.clientRole?, same]
  composites role clientId := by
    cases found : store.realms.get? realm with
    | none => simp only [Store.compositeNames, found, alike.absent realm found]
    | some held =>
        obtain ⟨otherHeld, otherFound, grants, rfl, -⟩ := alike.there realm held found
        simp only [Store.compositeNames, found, otherFound]
        rfl
  granted clientId unmissed owner := by
    cases found : store.realms.get? realm with
    | none => simp only [Store.serviceAccountRoleNames, found, alike.absent realm found]
    | some held =>
        obtain ⟨otherHeld, otherFound, grants, rfl, agree⟩ := alike.there realm held found
        simp only [Store.serviceAccountRoleNames, found, otherFound, withGrants_client?]
        cases account : (held.client? clientId).bind (·.2.serviceUser) with
        | none => rfl
        | some user =>
            obtain ⟨⟨key, client⟩, known, has⟩ := Option.bind_eq_some_iff.1 account
            have notMissed : ¬but user := fun missed =>
              unmissed ⟨user, missed, held, key, client, found, known, has⟩
            have same : (held.withGrants grants).grantsOf user = held.grantsOf user :=
              congrArg (·.getD ∅) (agree user notMissed)
            cases held.client? owner with
            | none => rfl
            | some entry =>
                dsimp only
                rw [same]
                rfl

/-- A run that was stopped left a client without the grant of its service account: it opened the
account while grants were told to fail. -/
def LeftUngranted (realm : String) (before after : Service) (clientId : String) : Prop :=
  GrantsFail before.faults ∧ Opens realm before.store after.store clientId

/-- **A run that was stopped is made up for by the next one.** After any faults stopped a run, the
same run without faults comes to a report, and everything that can be seen by name is as if the
first run had not been disturbed, except for the roles of service accounts that the stopped run
opened while grants were told to fail. Their grants are not tried again. -/
theorem apply_resumes {service : Service} {failure : Failure} (reachable : service.Reachable)
    (valid : blueprint.validate = .ok ())
    (stopped : (service.talk (apply blueprint).run).1 = .error failure) :
    let later := (service.talk (apply blueprint).run).2.clearFaults
    let resumed := later.talk (apply blueprint).run
    let direct := service.clearFaults.talk (apply blueprint).run
    (∃ report, resumed.1 = .ok report) ∧
    SameByName blueprint.realm.name (LeftUngranted blueprint.realm.name service later)
      resumed.2.store direct.2.store ∧
    ∀ clientId, LeftUngranted blueprint.realm.name service later clientId → ∀ owner name,
      (resumed.2.store.serviceAccountRoleNames blueprint.realm.name clientId owner).contains name =
        (later.store.serviceAccountRoleNames blueprint.realm.name clientId owner).contains
          name := by
  intro later resumed direct
  have laterReachable : later.Reachable := .faultsCleared (.talked _ reachable)
  have resumedReachable : resumed.2.Reachable := .talked _ laterReachable
  have resumedStore : resumed.2.store = (undisturbed (apply blueprint) later.store).2 :=
    talk_store later _
  have directStore : direct.2.store = (undisturbed (apply blueprint) service.store).2 :=
    talk_store service.clearFaults _
  have resumes : Resumes service.faults blueprint.realm.name (apply blueprint) service.store :=
    resumes_apply valid reachable.sound
  have again : Resumes Faults.none blueprint.realm.name (apply blueprint) later.store :=
    resumes_apply valid laterReachable.sound
  have runs : Reaches Faults.none (apply blueprint) later.store _ :=
    reaches_apply valid laterReachable.sound
  obtain ⟨report, -, finished, -⟩ := runs.finished
  have alike : resumed.2.store.Alike
      (Missed service.faults blueprint.realm.name service.store later.store) direct.2.store := by
    have made := resumes.2
    rw [talk_value] at stopped
    rw [stopped] at made
    rw [resumedStore, directStore, show later.store = _ from talk_store service _]
    exact made
  refine ⟨⟨report, (talk_value later _).trans finished⟩, ?_, ?_⟩
  · obtain ⟨settings, clients, realmRoles, clientRoles, composites, granted⟩ :=
      sameByName_of_alike alike blueprint.realm.name
    refine ⟨settings, clients, realmRoles, clientRoles, composites, fun clientId granting => ?_⟩
    refine granted clientId ?_
    rintro ⟨user, ⟨fails, other, opens, isAccount⟩, finalAccount⟩
    obtain ⟨held, found⟩ : ∃ held, later.store.realms.get? blueprint.realm.name = some held := by
      obtain ⟨held, -, -, found, -⟩ := isAccount
      exact ⟨held, found⟩
    obtain ⟨after, foundAfter, keeps⟩ := keepsRealm_of_undisturbed valid laterReachable.sound found
    rw [← resumedStore] at foundAfter
    have kept := isAccount.kept found foundAfter keeps (resumedReachable.linked _ after foundAfter)
    cases kept.unique resumedReachable.linked finalAccount
    exact granting ⟨fails, opens⟩
  · rintro clientId ⟨-, -, isOpen⟩ owner name
    obtain ⟨held, found⟩ : ∃ held, later.store.realms.get? blueprint.realm.name = some held := by
      obtain ⟨record, seen, -⟩ := isOpen
      obtain ⟨entry, known, -⟩ := Option.map_eq_some_iff.1 seen
      obtain ⟨held, found, -⟩ := Option.bind_eq_some_iff.1 known
      exact ⟨held, found⟩
    obtain ⟨after, foundAfter, keeps⟩ := keepsRealm_of_undisturbed valid laterReachable.sound found
    rw [← resumedStore] at foundAfter
    have keepsGrants : KeepsGrants Faults.none blueprint.realm.name later.store
        resumed.2.store := by
      rw [resumedStore]
      exact again.1
    exact roleNames_of_open laterReachable.sound laterReachable.linked resumedReachable.sound
      resumedReachable.linked found foundAfter keeps keepsGrants isOpen owner name

/-- A new service that cannot tell anything about roles of clients. -/
def withoutClientRoles : Service :=
  { faults := fun operation => if operation = .getClientRole then some (.api 500 "down") else none }

theorem reachable_withoutClientRoles : withoutClientRoles.Reachable :=
  .failing .getClientRole (.api 500 "down") .new

/-- A run for the school fails in the fourth pass when nothing can be told about roles of clients,
and the next run makes up for it. -/
theorem apply_resumes_school :
    let later := (withoutClientRoles.talk (apply Blueprint.school).run).2.clearFaults
    let resumed := later.talk (apply Blueprint.school).run
    let direct := withoutClientRoles.clearFaults.talk (apply Blueprint.school).run
    (withoutClientRoles.talk (apply Blueprint.school).run).1 =
      .error (.call 4 (.readClientRole "reporting:VIEW_REPORTS") (.api 500 "down")) ∧
    (∃ report, resumed.1 = .ok report) ∧
    resumed.2.store.client? "school" "reporting" = direct.2.store.client? "school" "reporting" ∧
    resumed.2.store.compositeNames "school" "TEACHER" "reporting" =
      direct.2.store.compositeNames "school" "TEACHER" "reporting" := by
  have stopped : (withoutClientRoles.talk (apply Blueprint.school).run).1 =
      .error (.call 4 (.readClientRole "reporting:VIEW_REPORTS") (.api 500 "down")) := rfl
  obtain ⟨ended, same, -⟩ := apply_resumes reachable_withoutClientRoles rfl stopped
  exact ⟨stopped, ended, same.clients "reporting", same.composites "TEACHER" "reporting"⟩

/-- Not everything is made up for: the stopped run opened the service account of the client
`reporting` and failed to grant it its roles, and the next run does not try again. -/
theorem apply_resumes_ungranted :
    ∃ (service : Service) (blueprint : Blueprint) (failure : Failure), service.Reachable ∧
      blueprint.validate = .ok () ∧ (service.talk (apply blueprint).run).1 = .error failure ∧
      let later := (service.talk (apply blueprint).run).2.clearFaults
      let resumed := later.talk (apply blueprint).run
      let direct := service.clearFaults.talk (apply blueprint).run
      resumed.2.store.serviceAccountRoleNames blueprint.realm.name "reporting" managementClientId ≠
        direct.2.store.serviceAccountRoleNames blueprint.realm.name "reporting"
          managementClientId :=
  ⟨withoutClientRoles, Blueprint.school,
    .call 4 (.readClientRole "reporting:VIEW_REPORTS") (.api 500 "down"),
    reachable_withoutClientRoles, rfl, rfl, by decide +kernel⟩

end RealmConvergence.Convergence
