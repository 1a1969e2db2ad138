import RealmConvergence.Proofs.Convergence.Coverage
import RealmConvergence.Proofs.Convergence.Granting
import RealmConvergence.Proofs.Convergence.Resuming
import RealmConvergence.Proofs.Convergence.Warning

/-!
# Grants are all or nothing

What the turn of a client tells of its grant is what the whole run tells of it (`apply_grants`). The
run is split at the client (`laterPasses_at`). Neither the first pass nor the turns before change
whether a grant is needed and whether it can be made. What follows keeps the roles of the client's
user, and grants nothing to a user of another client: the parts around the turn are runs as well,
for blueprints with fewer clients, so they keep the realm as runs do (`grantsTo_of_keeps`).
-/

set_option autoImplicit false

namespace RealmConvergence.Convergence

open Service

variable {blueprint : Blueprint} {faults : Faults} {store later : Store} {realm : String}
  {held after : StoredRealm} {desired : Blueprint.Client}

/-! ## What the other parts of a run keep -/

/-- A part of a run grants nothing to a user of a client that it is not for. -/
theorem grantsTo_of_keeps {user : String} (found : store.realms.get? realm = some held)
    (foundLater : later.realms.get? realm = some after) (keeps : KeepsRealm blueprint held after)
    (linked : after.Linked)
    (others : ∀ client ∈ blueprint.clients, ¬IsAccountOf later realm client.clientId user) :
    grantsTo later realm user = grantsTo store realm user := by
  rw [grantsTo_of_found found, grantsTo_of_found foundLater]
  refine NameSet.ext_contains fun roleId => Bool.eq_iff_iff.2
    ⟨fun has => ?_, keeps.grants user roleId⟩
  rcases keeps.granted user roleId has with old | ⟨⟨key, client, other, present, account, listed,
    named⟩, -⟩
  · exact old
  · refine absurd ?_ (others other listed)
    exact ⟨after, key, client, foundLater, linked.client?_eq_some_iff.2 ⟨present, named⟩, account⟩

/-- If a turn grants nothing, then neither do the parts for other clients before and after it grant
anything to the user of its client. -/
theorem grantsTo_around {first last : Blueprint} {store₁ store₂ store₃ : Store}
    {held₁ held₂ held₃ : StoredRealm} {clientId user : String}
    (found : store.realms.get? realm = some held) (found₁ : store₁.realms.get? realm = some held₁)
    (found₂ : store₂.realms.get? realm = some held₂)
    (found₃ : store₃.realms.get? realm = some held₃) (linked₁ : store₁.Linked)
    (linked₂ : store₂.Linked) (linked₃ : store₃.Linked) (keeps₁ : KeepsRealm first held held₁)
    (keeps₂ : KeepsRealm blueprint held₁ held₂) (keeps₃ : KeepsRealm last held₂ held₃)
    (firstOthers : ∀ client ∈ first.clients, client.clientId ≠ clientId)
    (lastOthers : ∀ client ∈ last.clients, client.clientId ≠ clientId)
    (same : grantsTo store₂ realm user = grantsTo store₁ realm user)
    (account : IsAccountOf store₃ realm clientId user) :
    grantsTo store₃ realm user = grantsTo store realm user := by
  have linkedHeld₁ := linked₁ realm held₁ found₁
  have linkedHeld₃ := linked₃ realm held₃ found₃
  calc grantsTo store₃ realm user
      = grantsTo store₂ realm user := by
        refine grantsTo_of_keeps found₂ found₃ keeps₃ linkedHeld₃ fun client listed other => ?_
        exact lastOthers client listed (other.unique linked₃ account)
    _ = grantsTo store₁ realm user := same
    _ = grantsTo store realm user := by
        refine grantsTo_of_keeps found found₁ keeps₁ linkedHeld₁ fun client listed other => ?_
        have kept := (other.kept found₁ found₂ keeps₂ (linked₂ realm held₂ found₂)).kept found₂
          found₃ keeps₃ linkedHeld₃
        exact firstOthers client listed (kept.unique linked₃ account)

/-- Roles that a service account has been granted stay granted. -/
theorem HasServiceRoles.kept {clientId : String} (has : HasServiceRoles store realm clientId)
    (sound : store.Sound) (soundLater : later.Sound) (linked : after.Linked)
    (found : store.realms.get? realm = some held)
    (foundLater : later.realms.get? realm = some after) (keeps : KeepsRealm blueprint held after) :
    HasServiceRoles later realm clientId := by
  intro name wanted
  obtain ⟨key, client, user, ownerKey, owner, known, account, management, roleId, hasRole, among⟩ :=
    (serviceAccountRoleNames_contains_iff sound found).1 (has name wanted)
  obtain ⟨kept, knownLater, keepsClient⟩ := client?_of_keeps keeps linked known
  obtain ⟨ownerKept, managementLater, -⟩ := client?_of_keeps keeps linked management
  exact (serviceAccountRoleNames_contains_iff soundLater foundLater).2
    ⟨key, kept, user, ownerKey, ownerKept, knownLater, keepsClient.serviceUser user account,
      managementLater, roleId, keeps.hasRole hasRole, keeps.grants user roleId among⟩

/-- The turns of other clients change neither whether a client needs a grant nor whether it can be
made. -/
theorem sameNeed_of_turns {clients : List Blueprint.Client}
    (found : store.realms.get? realm = some held)
    (foundLater : later.realms.get? realm = some after)
    (edits : Edits (clients.flatMap fun client => [.client client]) held after)
    (others : ∀ client ∈ clients, client.clientId ≠ desired.clientId) :
    (NeedsAccount later realm desired ↔ NeedsAccount store realm desired) ∧
      (OwnsServiceRoles later realm ↔ OwnsServiceRoles store realm) := by
  have ofClients (item : Item) (member : item ∈ clients.flatMap fun client => [.client client]) :
      ∃ client ∈ clients, item = .client client := by
    obtain ⟨client, listed, isItem⟩ := List.mem_flatMap.1 member
    exact ⟨client, listed, List.mem_singleton.1 isItem⟩
  constructor
  · have same : accountView after desired.clientId = accountView held desired.clientId := by
      refine Classical.byContradiction fun changed => ?_
      obtain ⟨other, member, isIt⟩ := edits.exists_client changed
      obtain ⟨client, listed, isItem⟩ := ofClients _ member
      cases isItem
      exact others other listed isIt
    rw [NeedsAccount, NeedsAccount, hasAccount_iff_view found, hasAccount_iff_view foundLater, same]
  · refine ownsServiceRoles_iff_of_edits found foundLater edits fun item member => ?_
    obtain ⟨client, -, rfl⟩ := ofClients item member
    rfl

/-- From a sound and linked store, a part reaches such a store. -/
theorem Reaches.linked {ε α : Type} {part : ExceptT ε Talk α} {goal : Except ε α → Store → Prop}
    (reaches : Reaches faults part store goal) (sound : store.Sound) (linked : store.Linked) :
    Reaches faults part store fun outcome later =>
      goal outcome later ∧ later.Sound ∧ later.Linked :=
  ⟨reaches, sound.run faults part.run, linked.run sound faults part.run⟩

/-- **The first pass opens no account and grants nothing.** -/
theorem reaches_realmPass_accounts {desired : Blueprint.Realm} (nonempty : desired.name ≠ "") :
    Reaches faults (realmPass desired) store fun outcome later => ∀ found, outcome = .ok found →
      (∃ start, later.realms.get? desired.name = some start) ∧
        (∀ client, NeedsAccount later desired.name client ↔
          NeedsAccount store desired.name client) ∧
        ∀ user, grantsTo later desired.name user = grantsTo store desired.name user := by
  cases known : store.realms.get? desired.name with
  | some held =>
      refine (works_realmPass known).mono ?_
      rintro outcome later ⟨after, found, edits, -⟩ _ _
      obtain ⟨sameClients, sameGrants⟩ := edits.ofRealm
      refine ⟨⟨after, found⟩, fun client => ?_, fun user => ?_⟩
      · simp only [needsAccount_iff known, needsAccount_iff found, StoredRealm.client?, sameClients]
      · rw [grantsTo_of_found known, grantsTo_of_found found, StoredRealm.grantsOf, sameGrants,
          StoredRealm.grantsOf]
  | none =>
      refine (reaches_realmPass_of_absent known nonempty).mono ?_
      rintro outcome later created found rfl
      obtain ⟨start, foundStart, noGrants, -, -, -, noAccounts⟩ := created
      refine ⟨⟨start, foundStart⟩, fun client => and_congr_right fun _ => not_congr ?_,
        fun user => ?_⟩
      · rw [hasAccount_iff foundStart]
        constructor
        · rintro ⟨key, stored, there, enabled⟩
          exact absurd enabled (noAccounts key stored (StoredRealm.get?_of_client? there).1)
        · rintro ⟨record, there, -⟩
          rw [Store.client?, known] at there
          cases there
      · rw [grantsTo_of_found foundStart, StoredRealm.grantsOf, noGrants, grantsTo, known]
        rfl

/-! ## A run, split at a client -/

/-- Parts over a list are those up to an item, that of the item, and those after it. -/
theorem forEach_at {α : Type} (before rest : List α) (item : α) (part : α → Part Findings) :
    forEach (before ++ item :: rest) part = (do
      let early ← forEach before part
      let found ← part item
      let late ← forEach rest part
      pure (early ++ (found ++ late))) := by
  induction before with
  | nil => rfl
  | cons first others ih =>
      show (part first >>= fun found => forEach (others ++ item :: rest) part >>= fun others =>
        pure (found ++ others)) = (part first >>= fun found => forEach others part >>= fun others =>
          pure (found ++ others)) >>= _
      simp only [ih, bind_assoc, pure_bind, findings_append_assoc]

/-- The passes after the first are the turns of the clients up to one of them, its own turn, and
then those passes for the clients after it. -/
theorem laterPasses_at {before rest : List Blueprint.Client}
    (split : blueprint.clients = before ++ desired :: rest) (realm : Findings) :
    laterPasses blueprint realm = (do
      let early ← forEach before (convergeClient blueprint.realm.name)
      let found ← convergeClient blueprint.realm.name desired
      laterPasses { blueprint with clients := rest } (realm ++ early ++ found)) := by
  simp only [laterPasses, clientPass, split, forEach_at, bind_assoc, pure_bind,
    findings_append_assoc]
  rfl

/-- The clients before one of them, and those after it, are other clients, and distinct. -/
theorem distinct_around {before rest : List Blueprint.Client} (distinct : blueprint.Distinct)
    (split : blueprint.clients = before ++ desired :: rest) :
    ({ blueprint with clients := before } : Blueprint).Distinct ∧
      (∀ client ∈ before, client.clientId ≠ desired.clientId) ∧
      ({ blueprint with clients := rest } : Blueprint).Distinct ∧
      ∀ client ∈ rest, client.clientId ≠ desired.clientId := by
  have clientsApart := distinct.clients
  rw [split] at clientsApart
  obtain ⟨beforeApart, fromApart, across⟩ := List.pairwise_append.1 clientsApart
  obtain ⟨desiredApart, restApart⟩ := List.pairwise_cons.1 fromApart
  exact ⟨{ distinct with clients := beforeApart },
    fun client member => across client member desired List.mem_cons_self,
    { distinct with clients := restApart }, fun client member => (desiredApart client member).symm⟩

/-! ## Whose grants are told -/

/-- What tells of the grants of other clients does not tell of that of this one. -/
theorem grantStepsOf_of_others {clientId : String} {clients : List Blueprint.Client}
    {found : Findings} (others : ∀ client ∈ clients, client.clientId ≠ clientId)
    (among : keysOf .serviceAccountGrant found.subjects ⊆
      clients.map Blueprint.Client.clientId) : grantStepsOf clientId found.steps = [] := by
  refine List.filter_eq_nil_iff.2 fun step member isIt => ?_
  rw [Bool.and_eq_true, beq_iff_eq, beq_iff_eq] at isIt
  have told : clientId ∈ keysOf .serviceAccountGrant found.subjects := by
    refine List.mem_filterMap.2 ⟨step.subject, List.mem_map_of_mem member, ?_⟩
    rw [Step.subject, if_pos isIt.1, isIt.2]
  obtain ⟨client, listed, same⟩ := List.mem_map.1 (among told)
  exact others client listed same

/-- The turns of clients tell of the grants of these clients. -/
theorem grantKeys_forEach (clients : List Blueprint.Client) :
    Finds (forEach clients (convergeClient realm)) fun _ found =>
      keysOf .serviceAccountGrant found.subjects ⊆ clients.map Blueprint.Client.clientId :=
  (clientSubjects_forEach clients).mono fun _ _ told => told.keys.2.2.1.subset

/-- The passes after the first tell of the grants of their clients. -/
theorem grantKeys_laterPasses (blueprint : Blueprint) (realm : Findings) :
    Finds (laterPasses blueprint realm) fun _ found => ∃ late, found = realm ++ late ∧
      keysOf .serviceAccountGrant late.subjects ⊆
        blueprint.clients.map Blueprint.Client.clientId := by
  refine (grantKeys_forEach blueprint.clients).bind fun _ clients among => ?_
  refine (findsAbout_forEach fun role _ =>
    findsAbout_convergeRealmRole role).bind fun _ realmRoles realmRolesTold => ?_
  refine (findsAbout_forEach fun group member => findsAbout_convergeClientRoles
    (Blueprint.owner_of_mem_clientRoleGroups member)).bind fun _ clientRoles clientRolesTold => ?_
  refine (findsAbout_forEach fun mapping _ =>
    findsAbout_convergeComposite mapping).bind fun _ composites compositesTold => ?_
  refine (findsAbout_markerPass blueprint.realm.name).bind fun _ marker markerTold => ?_
  refine finds_pure
    ⟨clients ++ (realmRoles ++ (clientRoles ++ (composites ++ marker))), ?_, ?_⟩
  · simp only [findings_append_assoc]
  · rw [← List.map_eq_flatMap] at realmRolesTold compositesTold
    rw [← List.map_flatMap] at clientRolesTold
    simpa only [Findings.subjects_append, keysOf_append, realmRolesTold, clientRolesTold,
      compositesTold, markerTold, keysOf_map, keysOf_singleton, reduceCtorEq, if_false,
      List.append_nil] using among

/-! ## Whole runs -/

/-- What a run tells of the grant of a client: whether it is needed by the store before the run,
whether it can be made by the one in which the second pass begins. -/
def RunTells (faults : Faults) (realm : String) (desired : Blueprint.Client)
    (before begun later : Store) (steps : List Step) : Prop :=
  TellsGrant desired.clientId (NeedsAccount before realm desired)
    (GrantMade realm desired.clientId begun later)
    ((faults = .none → ¬OwnsServiceRoles begun realm) ∧
      ∀ user, IsAccountOf later realm desired.clientId user →
        grantsTo later realm user = grantsTo before realm user)
    (grantStepsOf desired.clientId steps)

/-- **What the passes after the first tell of a grant is what the client's turn tells.** -/
theorem tells_laterPasses (listed : desired ∈ blueprint.clients) (distinct : blueprint.Distinct)
    (sound : store.Sound) (linked : store.Linked)
    (found : store.realms.get? blueprint.realm.name = some held) {realm : Findings}
    (silent : grantStepsOf desired.clientId realm.steps = []) :
    Reaches faults (laterPasses blueprint realm) store fun outcome later =>
      ∀ told, outcome = .ok told →
        RunTells faults blueprint.realm.name desired store store later told.steps := by
  obtain ⟨before, rest, split⟩ := List.append_of_mem listed
  obtain ⟨beforeDistinct, beforeOthers, restDistinct, restOthers⟩ := distinct_around distinct split
  rw [laterPasses_at split]
  -- The turns before that of the client.
  have works₁ : Reaches faults (clientPass { blueprint with clients := before }) store _ :=
    works_clientPass (pairwise_flatMap_singleton beforeDistinct.clients) sound found
  refine ((works₁.and ((grantKeys_forEach before).reaches faults store)).linked sound linked).bind
    (fun _ _ _ _ never => nomatch never) ?_
  rintro early store₁ ⟨⟨⟨held₁, found₁, edits₁, -⟩, keys₁⟩, sound₁, linked₁⟩
  -- The turn of the client.
  refine (((works_convergeClient desired sound₁ found₁).and
    (tellsGrant_convergeClient sound₁ linked₁ found₁)).linked sound₁ linked₁).bind
      (fun _ _ _ _ never => nomatch never) ?_
  rintro turn store₂ ⟨⟨⟨held₂, found₂, edits₂, -⟩, turnTells⟩, sound₂, linked₂⟩
  -- The turns after it, and the later passes.
  obtain ⟨-, laterApart, -⟩ := List.pairwise_append.1 (apart_items restDistinct)
  refine (((works_laterPasses laterApart _ sound₂ found₂).and
    ((grantKeys_laterPasses _ _).reaches faults store₂)).linked sound₂ linked₂).mono ?_
  rintro outcome store₃ ⟨⟨⟨held₃, found₃, edits₃, -⟩, keys₃⟩, sound₃, linked₃⟩ told rfl
  obtain ⟨late, rfl, lateKeys⟩ := keys₃ told rfl
  have keeps₁ : KeepsRealm { blueprint with clients := before } held held₁ :=
    edits₁.keeps fun item member => List.mem_append_right _ (List.mem_append_left _ member)
  have keeps₂ : KeepsRealm blueprint held₁ held₂ :=
    edits₂.keeps fun item member => List.mem_singleton.1 member ▸ client_mem_items_iff.2 listed
  have keeps₃ : KeepsRealm { blueprint with clients := rest } held₂ held₃ :=
    edits₃.keeps fun item member => List.mem_append_right _ member
  obtain ⟨sameNeed, sameOwned⟩ := sameNeed_of_turns found found₁ edits₁ beforeOthers
  have steps : grantStepsOf desired.clientId (realm ++ early ++ turn ++ late).steps =
      grantStepsOf desired.clientId turn.steps := by
    simp only [Findings.steps_append, grantStepsOf_append, silent, List.nil_append, List.append_nil,
      grantStepsOf_of_others beforeOthers (keys₁ early rfl),
      grantStepsOf_of_others restOthers lateKeys]
  unfold RunTells
  rw [steps]
  refine (turnTells turn rfl).imp sameNeed ?_ ?_
  · rintro ⟨owned, shown⟩
    have linkedHeld₃ := linked₃ blueprint.realm.name held₃ found₃
    exact ⟨sameOwned.1 owned, shown.kept sound₂ sound₃ linkedHeld₃ found₂ found₃ keeps₃⟩
  · rintro ⟨faultless, same⟩
    refine ⟨fun none => sameOwned.not.1 (faultless none), fun user account => ?_⟩
    exact grantsTo_around found found₁ found₂ found₃ linked₁ linked₂ linked₃ keeps₁ keeps₂ keeps₃
      beforeOthers restOthers (same user) account

/-- **What a run tells of a grant is what the client's turn tells.** -/
theorem tells_passes (listed : desired ∈ blueprint.clients) (distinct : blueprint.Distinct)
    (sound : store.Sound) (linked : store.Linked) :
    Reaches faults (passes blueprint) store fun outcome later => ∀ told, outcome = .ok told →
      RunTells faults blueprint.realm.name desired store
        ((realmPass blueprint.realm).run.run (respond faults) store).2 later told.steps := by
  have begins : Reaches faults (realmPass blueprint.realm) store fun _ later =>
      later = ((realmPass blueprint.realm).run.run (respond faults) store).2 := rfl
  have accounts : Reaches faults (realmPass blueprint.realm) store _ :=
    reaches_realmPass_accounts distinct.named
  rw [passes_eq]
  refine (((accounts.and begins).and ((findsAbout_realmPass blueprint.realm).reaches faults
    store)).linked sound linked).bind (fun _ _ _ _ never => nomatch never) ?_
  rintro realm begun ⟨⟨⟨accounts, rfl⟩, about⟩, soundBegun, linkedBegun⟩
  obtain ⟨⟨start, found⟩, sameNeed, sameGrants⟩ := accounts realm rfl
  have silent : grantStepsOf desired.clientId realm.steps = [] := by
    have nobody : ∀ client ∈ ([] : List Blueprint.Client), client.clientId ≠ desired.clientId :=
      fun _ never => nomatch never
    refine grantStepsOf_of_others nobody ?_
    rw [about realm rfl]
    exact List.Subset.refl _
  refine (tells_laterPasses listed distinct soundBegun linkedBegun found silent).mono ?_
  intro outcome later tells told came
  refine (tells told came).imp (sameNeed desired) (fun made => made) ?_
  rintro ⟨faultless, same⟩
  exact ⟨faultless, fun user account => (same user account).trans (sameGrants user)⟩

/-- A report tells of the grant of a client what the run tells of it. -/
theorem tells_of_report (sound : store.Sound) (linked : store.Linked) {report : Report}
    (finished : ((apply blueprint).run.run (respond faults) store).1 = .ok report)
    (listed : desired ∈ blueprint.clients) :
    RunTells faults blueprint.realm.name desired store
      ((realmPass blueprint.realm).run.run (respond faults) store).2
      ((apply blueprint).run.run (respond faults) store).2 report.steps :=
  findings_of_report (fun distinct => tells_passes listed distinct sound linked) finished

/-! ## The warnings about grants -/

/-- A text that goes on begins as it began. -/
theorem head_append {first : String} {letter : Char} (begins : first.toList.head? = some letter)
    (rest : String) : (first ++ rest).toList.head? = some letter := by
  rw [String.toList_append, List.head?_append, begins, Option.some_or]

/-- A warning that begins with another letter is none about a grant. -/
theorem ne_grantWarning {first : String} {letter : Char}
    (begins : first.toList.head? = some letter) (different : letter ≠ 's')
    (second third fourth last : String) (step : Step) :
    first ++ second ++ third ++ fourth ++ last ≠ grantWarning step := by
  intro same
  have own : (grantWarning step).toList.head? = some 's' :=
    head_append (head_append (head_append rfl _) _) _
  have other :=
    head_append (head_append (head_append (head_append begins second) third) fourth) last
  rw [same, own] at other
  exact different (Option.some.inj other).symm

/-- The warnings about what a realm lacks are none about grants. -/
theorem ne_grantWarning_of_shortfall {warning : String}
    {groups : List (String × List Blueprint.ClientRole)} {mappings : List Blueprint.Composite}
    (lacks : warning ∈ groups.flatMap (groupShortfall held) ++
      mappings.flatMap (mappingShortfall held)) (step : Step) : warning ≠ grantWarning step := by
  rcases List.mem_append.1 lacks with inGroups | inMappings
  · obtain ⟨group, -, lacks⟩ := List.mem_flatMap.1 inGroups
    unfold groupShortfall at lacks
    split at lacks
    · cases lacks
    · rcases List.mem_singleton.1 lacks with rfl
      exact ne_grantWarning rfl (by decide) _ _ _ _ step
  · obtain ⟨mapping, -, lacks⟩ := List.mem_flatMap.1 inMappings
    unfold mappingShortfall at lacks
    split at lacks
    · split at lacks
      · rcases List.mem_singleton.1 lacks with rfl
        exact ne_grantWarning rfl (by decide) _ _ _ _ step
      · obtain ⟨name, -, rfl⟩ := List.mem_map.1 lacks
        exact ne_grantWarning rfl (by decide) _ _ _ _ step
    · rcases List.mem_singleton.1 lacks with rfl
      exact ne_grantWarning rfl (by decide) _ _ _ _ step

/-! ## Reports -/

/-- **A grant is all or nothing.** In a report there is a step about the grant of a declared client
exactly if the client is to have a service account and before the run was absent or had none, and
then there is a single one. Either it is updated and the service account has all the roles after the
run, or it is skipped and the run has granted nothing to the client's user. Without faults it is
updated exactly if the roles were there when the second pass began. The warnings about grants are
those for the skipped steps, one for each of them. -/
theorem apply_grants {service : Service} (reachable : service.Reachable) (blueprint : Blueprint)
    (faults : Faults) {report : Report}
    (finished : ({ service with faults }.talk (apply blueprint).run).1 = .ok report) :
    let realm := blueprint.realm.name
    let begun := ({ service with faults }.talk (realmPass blueprint.realm).run).2.store
    let later := ({ service with faults }.talk (apply blueprint).run).2.store
    (∀ desired ∈ blueprint.clients,
      let told := grantStepsOf desired.clientId report.steps
      (told ≠ [] ↔ desired.serviceAccount = true ∧
        ¬HasAccount service.store realm desired.clientId) ∧
      told.length ≤ 1 ∧
      ∀ step ∈ told,
        (step.action = .updated ∧ HasServiceRoles later realm desired.clientId ∨
          step.action = .skipped ∧ ∀ user, IsAccountOf later realm desired.clientId user →
            grantsTo later realm user = grantsTo service.store realm user) ∧
        (faults = .none → (step.action = .updated ↔ OwnsServiceRoles begun realm))) ∧
    ∃ others, report.warnings = missedGrants report.steps ++ others ∧
      ∀ warning ∈ others, ∀ step, warning ≠ grantWarning step := by
  intro realm begun later
  rw [talk_value] at finished
  have begunStore : begun =
      ((realmPass blueprint.realm).run.run (respond faults) service.store).2 := talk_store _ _
  have laterStore : later =
      ((apply blueprint).run.run (respond faults) service.store).2 := talk_store _ _
  constructor
  · intro desired listed told
    have tells := tells_of_report reachable.sound reachable.linked finished listed
    rw [← begunStore, ← laterStore] at tells
    obtain ⟨isTold, single, each⟩ := tells.spec
    refine ⟨isTold, single, fun step member => ?_⟩
    rcases each step member with ⟨updated, owned, shown⟩ | ⟨skipped, faultless, same⟩
    · exact ⟨.inl ⟨updated, shown⟩, fun _ => ⟨fun _ => owned, fun _ => updated⟩⟩
    · refine ⟨.inr ⟨skipped, same⟩, fun none => ⟨fun updated => ?_, fun owned => ?_⟩⟩
      · rw [skipped] at updated
        cases updated
      · exact absurd owned (faultless none)
  · obtain ⟨after, -, -, told⟩ := toldBy_of_report reachable.sound finished
    have warnings : report.warnings = missedGrants report.steps ++
        (blueprint.clientRoleGroups.flatMap (groupShortfall after) ++
          blueprint.composites.flatMap (mappingShortfall after)) :=
      told.warnings_eq.trans (List.append_assoc ..)
    exact ⟨_, warnings, fun warning lacks => ne_grantWarning_of_shortfall lacks⟩

/-- Roles cannot be assigned. -/
def assignmentsFail : Faults := fun operation =>
  if operation = .assignClientRoles then some (.api 500 "down") else none

/-- On a new service on which roles cannot be assigned, the school's client is created, its user is
granted nothing, and the first warning says so. -/
theorem apply_grants_unassigned :
    let run := { ({} : Service) with faults := assignmentsFail }.talk (apply Blueprint.school).run
    let skipped : Step := ⟨.serviceAccountGrant, "reporting", .skipped,
      some "assign roles to service account: admin api error status=500: down"⟩
    ∃ report, run.1 = .ok report ∧
      grantStepsOf "reporting" report.steps = [skipped] ∧
      (∀ user, IsAccountOf run.2.store "school" "reporting" user →
        grantsTo run.2.store "school" user = ∅) ∧
      ∃ others, report.warnings = grantWarning skipped :: others := by
  intro run skipped
  have told : run.1.map
      (fun report : Report => (grantStepsOf "reporting" report.steps,
        missedGrants report.steps)) = .ok ([skipped], [grantWarning skipped]) := by
    decide +kernel
  obtain ⟨report, finished, same⟩ := exists_of_map_eq_ok told
  obtain ⟨steps, missed⟩ := Prod.mk.inj same
  obtain ⟨each, others, warnings, -⟩ := apply_grants .new Blueprint.school assignmentsFail finished
  obtain ⟨-, -, isAllOrNothing⟩ :=
    each { clientId := "reporting", serviceAccount := true } List.mem_cons_self
  rw [missed] at warnings
  refine ⟨report, finished, steps, fun user account => ?_, others, warnings⟩
  rcases isAllOrNothing skipped (steps ▸ List.mem_singleton_self skipped) with
    ⟨⟨updated, -⟩ | ⟨-, nothing⟩, -⟩
  · cases updated
  · exact (nothing user account).trans rfl

end RealmConvergence.Convergence
