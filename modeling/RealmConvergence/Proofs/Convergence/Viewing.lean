import RealmConvergence.Proofs.Convergence.Effects

/-!
# How the realm of a run is looked at

Two runs that mean the same draw identifiers and make up secrets as they come to it. So a realm is
looked at after a run with a lens (`lensOfRun`) that tells neither: no identifier that was drawn by
the run, and no secret that the service made up for a client that the run created.

A client that the run creates is one that is absent once the realm is there. From then on clients
do not go away, so the lens hides enough all the way (`Discreet`).
-/

set_option autoImplicit false

namespace RealmConvergence.Convergence

open Service

variable {lens : Lens} {store : Store} {held : StoredRealm}

/-! ## Secrets that the service makes up -/

/-- A client is there as soon as the realm is: it was there before, or a new realm comes with it. -/
def comesWith (store : Store) (realm clientId : String) : Bool :=
  match store.realms.get? realm with
  | some held => (held.client? clientId).isSome
  | none => store.providesManagement && clientId == managementClientId

/-- The service makes up the secret of a client in a run: the client is declared without one, keeps
a secret, and is not there when the run comes to it. -/
def makesUpSecret (blueprint : Blueprint) (store : Store) (clientId : String) : Bool :=
  !comesWith store blueprint.realm.name clientId && blueprint.clients.any fun desired =>
    desired.clientId == clientId && !desired.isPublic && desired.secret.isNone

/-- How the realm of a run is looked at: identifiers that were drawn before the run are told, and
all secrets but those that the service makes up. -/
def lensOfRun (blueprint : Blueprint) (store : Store) : Lens where
  drawn := store.drawn
  hidden := makesUpSecret blueprint store

/-- The secrets are hidden that the service would make up for declared clients that are absent. -/
def Discreet (lens : Lens) (blueprint : Blueprint) (held : StoredRealm) : Prop :=
  ∀ desired ∈ blueprint.clients, held.client? desired.clientId = none →
    lens.hidden desired.clientId = false → desired.isPublic = true ∨ desired.secret.isSome = true

variable {blueprint : Blueprint}

theorem discreet_lensOfRun
    (same : ∀ clientId, (held.client? clientId).isSome =
      comesWith store blueprint.realm.name clientId) :
    Discreet (lensOfRun blueprint store) blueprint held := by
  intro desired listed absent told
  have isNew : comesWith store blueprint.realm.name desired.clientId = false := by
    rw [← same, absent]
    rfl
  simp only [lensOfRun, makesUpSecret, isNew, Bool.not_false, Bool.true_and, List.any_eq_false]
    at told
  have hidden := told desired listed
  simpa [← Option.isSome_iff_ne_none, or_iff_not_imp_left] using hidden

/-- Clients do not go away, so a lens stays discreet. -/
theorem Discreet.of_edit {item : Item} {after : StoredRealm}
    (discreet : Discreet lens blueprint held) (edit : Edit item held after) :
    Discreet lens blueprint after := by
  intro desired listed absent
  refine discreet desired listed ?_
  cases known : held.client? desired.clientId with
  | none => rfl
  | some entry =>
      obtain ⟨key, client⟩ := entry
      obtain ⟨kept, there, -⟩ := edit.client? known
      rw [there] at absent
      cases absent

/-- **Once the realm is there, it has the clients that it comes with.** -/
theorem reaches_realmPass_comesWith {faults : Faults} {desired : Blueprint.Realm}
    (nonempty : desired.name ≠ "") :
    Reaches faults (realmPass desired) store fun outcome later => ∀ found, outcome = .ok found →
      ∃ held, later.realms.get? desired.name = some held ∧
        ∀ clientId, (held.client? clientId).isSome = comesWith store desired.name clientId := by
  unfold comesWith
  cases present : store.realms.get? desired.name with
  | some held =>
      refine (works_realmPass present).mono ?_
      rintro outcome later ⟨after, found, edits, -⟩ _ _
      refine ⟨after, found, fun clientId => ?_⟩
      rw [StoredRealm.client?, edits.ofRealm.1]
      rfl
  | none =>
      refine reaches_explained_bind (Store.answer_getRealm_of_absent present)
        (fun _ _ _ never => nomatch never) ?_
      refine reaches_explained_bind (Store.answer_createRealm rfl nonempty present)
        (fun _ _ _ never => nomatch never) ?_
      refine reaches_pure fun _ _ => ?_
      -- What a new realm comes with is seen through any lens that tells no more than was drawn.
      obtain ⟨held, found, seen⟩ := Option.map_eq_some_iff.1
        (Store.view?_startRealm (Nat.le_refl (lensOfRun { realm := desired } store).drawn)
          desired.name desired.enabled desired.managedAttributes)
      refine ⟨held, found, fun clientId => ?_⟩
      have sameClients := congrFun (congrArg RealmView.clients seen) clientId
      have asSeen := congrArg Option.isSome sameClients
      simp only [StoredRealm.view, Option.isSome_map, newRealmView] at asSeen
      rw [asSeen]
      cases store.providesManagement <;> by_cases same : clientId = managementClientId <;>
        simp [same]

end RealmConvergence.Convergence
