import RealmConvergence.Proofs.Configuration.Layers

/-!
# Literal secrets are refused

Loading looks at the leaves of the merged value through their pointers. Every text below the root
has a pointer that leads back to it, so none escapes: a value with a text that looks like a secret
is refused, and the error names the first such text in the order of the document and nothing else
of it (`load_refuses_secrets`).

The root is no leaf below itself. A document that is a text altogether is therefore accepted, even
if it looks like a secret (`load_accepts_secret_document`).
-/

set_option autoImplicit false

namespace RealmConvergence.Configuration

open Json (Path Precedes)

variable {value : Json} {path : Path}

/-- A text that looks like a secret stands at the path. -/
def SecretAt (value : Json) (path : Path) : Prop :=
  ∃ text, value.at? path = some (.string text) ∧ looksLikeSecret text = true

/-- No text that looks like a secret comes before the one at the path. -/
structure FirstSecret (value : Json) (path : Path) : Prop where
  /-- A text that looks like a secret stands there. -/
  isSecret : SecretAt value path
  /-- All others come later. -/
  isFirst : ∀ other, SecretAt value other → other = path ∨ Precedes value path other

/-- A value has one first secret. -/
theorem FirstSecret.unique {other : Path} (first : FirstSecret value path)
    (second : FirstSecret value other) : path = other := by
  rcases first.isFirst other second.isSecret with same | later
  · exact same.symm
  · rcases second.isFirst path first.isSecret with same | earlier
    · exact same
    · exact absurd earlier later.asymm

/-- **What is read back at the pointer of a path is what stands at the path.** -/
theorem isSecretAt_ofPath_iff : isSecretAt value (Json.Pointer.ofPath path) = true ↔
    SecretAt value path := by
  unfold isSecretAt SecretAt
  rw [Json.atPointer?_ofPath, Option.any_eq_true]
  constructor
  · rintro ⟨text, there, looks⟩
    obtain ⟨found, stands, isText⟩ := Option.bind_eq_some_iff.1 there
    cases found with
    | string written =>
        cases isText
        exact ⟨text, stands, looks⟩
    | _ => cases isText
  · rintro ⟨text, stands, looks⟩
    exact ⟨text, Option.bind_eq_some_iff.2 ⟨.string text, stands, rfl⟩, looks⟩

/-- Unless the value is a text altogether, its texts are among the leaves below the root. -/
theorem SecretAt.mem_innerLeaves (ordered : value.InOrder) (inside : value.text? = none)
    (isSecret : SecretAt value path) : ∃ leaf, (path, leaf) ∈ value.innerLeaves := by
  obtain ⟨text, stands, -⟩ := isSecret
  refine ⟨.string text, List.mem_filter.2 ⟨(Json.mem_leaves_iff ordered).2 ⟨stands, rfl⟩, ?_⟩⟩
  cases path with
  | nil =>
      cases stands
      cases inside
  | cons token rest => simp

/-- **A value that is no text is refused exactly if it has a text that looks like a secret**, and
the first of these is named. -/
theorem refuseSecrets_eq (ordered : value.InOrder) (inside : value.text? = none) :
    (refuseSecrets value = .ok () ∧ ∀ path, ¬SecretAt value path) ∨
      ∃ path, FirstSecret value path ∧
        refuseSecrets value = .error (.secretDetected (Json.Pointer.ofPath path)) := by
  unfold refuseSecrets
  split
  · next pointer found =>
    obtain ⟨isSecret, others, later, listed, noSecrets⟩ := List.find?_eq_some_iff_append.1 found
    obtain ⟨before, rest, isInner, rfl, isRest⟩ := List.map_eq_append_iff.1 listed
    obtain ⟨⟨path, leaf⟩, after, rfl, rfl, rfl⟩ := List.map_eq_cons_iff.1 isRest
    refine .inr ⟨path, ⟨isSecretAt_ofPath_iff.1 isSecret, fun other otherSecret => ?_⟩, rfl⟩
    obtain ⟨otherLeaf, member⟩ := otherSecret.mem_innerLeaves ordered inside
    have inOrder := (Json.pairwise_leaves value ordered).filter fun leaf => leaf.1 ≠ []
    rw [isInner] at member
    change value.innerLeaves.Pairwise _ at inOrder
    rw [isInner] at inOrder
    rcases List.mem_append.1 member with earlier | later
    · have refuted := noSecrets _ (List.mem_map_of_mem earlier)
      rw [isSecretAt_ofPath_iff.2 otherSecret] at refuted
      cases refuted
    · rcases List.mem_cons.1 later with same | later
      · cases same
        exact .inl rfl
      · exact .inr ((List.pairwise_cons.1 (List.pairwise_append.1 inOrder).2.1).1 _ later)
  · next none =>
    refine .inl ⟨rfl, fun path isSecret => ?_⟩
    obtain ⟨leaf, member⟩ := isSecret.mem_innerLeaves ordered inside
    exact List.find?_eq_none.1 none _ (List.mem_map_of_mem member)
      (isSecretAt_ofPath_iff.2 isSecret)

/-- Layers that are not read are not loaded. -/
theorem load_of_readLayers_error {layers : List String} {problem : ConfigurationError}
    (refused : readLayers 0 layers = .error problem) : load layers = .error problem := by
  unfold load
  rw [refused]
  rfl

/-- Layers that are read are loaded unless the merged value is refused. -/
theorem load_of_readLayers {layers : List String} {documents : List Json}
    (read : readLayers 0 layers = .ok documents) :
    load layers = (refuseSecrets (mergeAll documents)).map fun _ => ⟨mergeAll documents⟩ := by
  unfold load
  rw [read]
  show (refuseSecrets (mergeAll documents) >>= fun _ => pure _) = _
  cases refuseSecrets (mergeAll documents) <;> rfl

/-- **Literal secrets are refused, unless the document is nothing else.** -/
theorem load_refuses_secrets (layers : List String) :
    match readLayers 0 layers with
    | .error problem => load layers = .error problem
    | .ok documents =>
      match (mergeAll documents).text? with
      | some text => load layers = .ok ⟨.string text⟩
      | none =>
        (load layers = .ok ⟨mergeAll documents⟩ ∧ ∀ path, ¬SecretAt (mergeAll documents) path) ∨
          ∃ path problem, FirstSecret (mergeAll documents) path ∧ load layers = .error problem ∧
            problem.chain =
              [s!"CONFIG_SECRET_DETECTED leaf={Json.Pointer.ofPath path} value=REDACTED"] := by
  cases read : readLayers 0 layers with
  | error problem => exact load_of_readLayers_error read
  | ok documents =>
      have ordered := inOrder_mergeAll (inOrder_of_readLayers read)
      dsimp only
      rw [load_of_readLayers read]
      generalize mergeAll documents = value at ordered
      cases inside : value.text? with
      | some text =>
          cases value with
          | string written =>
              cases inside
              rfl
          | _ => cases inside
      | none =>
          rcases refuseSecrets_eq ordered inside with ⟨passes, noSecret⟩ | ⟨path, first, refused⟩
          · exact .inl ⟨congrArg (Except.map _) passes, noSecret⟩
          · exact .inr ⟨path, _, first, congrArg (Except.map _) refused, rfl⟩

/-- A layer that is a token and nothing else. -/
def tokenLayer : String := "eyJhbGciOiJIUzI1NiJ9.payload"

/-- A token is loaded as a document, although it looks like a secret. -/
theorem load_accepts_secret_document :
    ∃ merged, load [tokenLayer] = .ok merged ∧ SecretAt merged.value [] := by
  have known : (load [tokenLayer]).toOption.map (fun merged => merged.value.text?) =
      some (some tokenLayer) := by decide +kernel
  obtain ⟨⟨value⟩, loaded, isText⟩ := exists_of_toOption_map known
  cases value with
  | string text =>
      cases isText
      exact ⟨_, loaded, tokenLayer, rfl, by decide +kernel⟩
  | _ => cases isText

end RealmConvergence.Configuration
