import RealmConvergence.Configuration.Error
import RealmConvergence.Digest.Sha256
import RealmConvergence.Json.Compact
import RealmConvergence.Json.Pointer
import RealmConvergence.Text.Blank

/-!
# Layers of a configuration

A configuration is a list of YAML texts, the layers. They are merged in order into one JSON value:
objects are merged member by member, and anything else is replaced by what comes later. The compact
text of the merged value identifies the configuration, and its digest stands for it in reports.

A layer holds names of environment variables and never a secret itself. A merged value with a leaf
that looks like a secret is refused, without the leaf being repeated.
-/

set_option autoImplicit false

namespace RealmConvergence.Configuration

/-! ## Merging -/

mutual
/-- What is held, overridden by what is added. -/
def merge (held : Json) : Json → Json
  | .object added =>
    match held with
    | .object members => .object (mergeMembers members added)
    | _ => .object added
  | added => added

/-- Members overridden one after the other. -/
def mergeMembers (held : List (String × Json)) : List (String × Json) → List (String × Json)
  | [] => held
  | (name, added) :: rest =>
    mergeMembers (Entries.put name (merge ((Entries.lookup name held).getD .null) added) held) rest
end

/-- The layers as JSON values, the first of which has a number. -/
def readLayers (number : Nat) : List String → Except ConfigurationError (List Json)
  | [] => .ok []
  | text :: rest =>
    match Yaml.Value.ofText text with
    | .error problem => .error (.invalidYaml number problem)
    | .ok value =>
      match value.toJson with
      | .error problem => .error (.unwritableKey problem)
      | .ok layer => (readLayers (number + 1) rest).map (layer :: ·)

/-- Layers merged in order, starting from an empty object. -/
def mergeAll (layers : List Json) : Json :=
  layers.foldl merge (.object [])

/-! ## Literal secrets -/

/-- How well-known kinds of secrets begin. -/
def secretMarks : List String :=
  ["eyJ", "-----BEGIN", "sk-", "AKIA", "ghp_", "glpat-", "xoxb-"]

/-- How many bytes a text must have to be taken for a secret. -/
def shortestSecret : Nat := 8

/-- Whether a text looks like a secret rather than the name of a variable. -/
def looksLikeSecret (text : String) : Bool :=
  let trimmed := Text.trim text
  shortestSecret ≤ trimmed.utf8ByteSize &&
    secretMarks.any fun mark => mark.toList.isPrefixOf trimmed.toList

/-- Whether a text that looks like a secret stands at a pointer. -/
def isSecretAt (value : Json) (pointer : String) : Bool :=
  ((value.atPointer? pointer).bind Json.text?).any looksLikeSecret

/-- Refuse a value with a leaf that looks like a secret, naming the first such leaf. -/
def refuseSecrets (value : Json) : Except ConfigurationError Unit :=
  match value.leafPointers.find? (isSecretAt value) with
  | some pointer => .error (.secretDetected pointer)
  | none => .ok ()

/-! ## Loading -/

/-- A merged configuration. -/
structure Merged where
  /-- The merged value. -/
  value : Json

/-- The text that identifies a configuration. -/
def Merged.canonicalText (merged : Merged) : String :=
  merged.value.compact

/-- The digest of the text that identifies a configuration. -/
def Merged.digest (merged : Merged) : String :=
  Sha256.hexDigest merged.canonicalText

/-- Read and merge layers, and refuse literal secrets. -/
def load (layers : List String) : Except ConfigurationError Merged := do
  let value := mergeAll (← readLayers 0 layers)
  refuseSecrets value
  pure ⟨value⟩

end RealmConvergence.Configuration
