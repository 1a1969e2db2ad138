import Mathlib.Tactic.IntervalCases
import RealmConvergence.Proofs.Configuration.Assembly
import RealmConvergence.Proofs.Configuration.LiteralSecrets
import RealmConvergence.Proofs.Json.Compact
import RealmConvergence.Text.Numeral

/-!
# What a digest tells

Where no number of double precision stands in them, two loaded configurations have one canonical
text exactly if they are one. A digest is told by its hexadecimal digits (`hexDigest_eq_iff`). So
unless the bytes of their texts collide, two configurations have one digest exactly if they are one,
and so have the runs that are prepared from them (`digest_tells_configuration`).

Numbers of double precision are left out because two of them may be equal, as zero and its negative
are, and still be written differently.
-/

set_option autoImplicit false

namespace RealmConvergence

namespace Sha256

/-- Different texts whose bytes have one digest. -/
def Collide (one other : String) : Prop :=
  one ≠ other ∧ digest one.toUTF8.toList = digest other.toUTF8.toList

/-! ## Hexadecimal digits -/

theorem digitValue?_hexDigit (value : Nat) :
    Text.digitValue? (hexDigit value) = some (value % 16) := by
  have small : value % 16 < 16 := Nat.mod_lt _ (by decide)
  unfold hexDigit
  generalize value % 16 = digit at small
  interval_cases digit <;> rfl

/-- The digits of a word write its number. -/
theorem number_hexWord (word : UInt32) : Text.number 16 (hexWord word) = word.toNat := by
  have small : word.toNat < 2 ^ 32 := word.toNat_lt
  simp only [Text.number, hexWord, List.range_succ, List.range_zero, List.nil_append,
    List.cons_append, List.map_cons, List.map_nil, List.foldl_cons, List.foldl_nil,
    digitValue?_hexDigit, Option.getD_some, Nat.shiftRight_eq_div_pow]
  omega

theorem hexWord_injective : Function.Injective hexWord := by
  intro one other same
  have numbers : one.toNat = other.toNat := by
    rw [← number_hexWord one, ← number_hexWord other, same]
  exact UInt32.toNat_inj.1 numbers

theorem length_hexWord (word : UInt32) : (hexWord word).length = 8 := by
  simp [hexWord]

theorem hexWord_append_ne_nil (word : UInt32) (rest : List Char) : hexWord word ++ rest ≠ [] := by
  apply List.ne_nil_of_length_pos
  rw [List.length_append, length_hexWord]
  omega

/-- Words are told by their digits after each other, eight for each. -/
theorem flatMap_hexWord_injective :
    Function.Injective fun words : List UInt32 => words.flatMap hexWord := by
  intro one
  induction one with
  | nil =>
      intro other same
      cases other with
      | nil => rfl
      | cons word rest => exact (hexWord_append_ne_nil word _ same.symm).elim
  | cons word rest ih =>
      intro other same
      cases other with
      | nil => exact (hexWord_append_ne_nil word _ same).elim
      | cons otherWord otherRest =>
          have lengths := (length_hexWord word).trans (length_hexWord otherWord).symm
          obtain ⟨digits, later⟩ := List.append_inj same lengths
          exact congrArg₂ List.cons (hexWord_injective digits) (ih later)

/-- **Texts have one digest in hexadecimal digits exactly if their bytes have one digest.** -/
theorem hexDigest_eq_iff {one other : String} :
    hexDigest one = hexDigest other ↔
      digest one.toUTF8.toList = digest other.toUTF8.toList := by
  constructor
  · exact fun same => flatMap_hexWord_injective (String.ofList_injective same)
  · intro same
    rw [hexDigest, hexDigest, same]

/-- Texts have one digest exactly if they are one or collide. -/
theorem hexDigest_eq_iff_or_collide {one other : String} :
    hexDigest one = hexDigest other ↔ one = other ∨ Collide one other := by
  rw [hexDigest_eq_iff]
  constructor
  · exact fun same => (em (one = other)).imp_right fun differ => ⟨differ, same⟩
  · rintro (same | ⟨-, same⟩)
    · rw [same]
    · exact same

/-- The digest of three letters, as it is published with SHA-256. -/
example : hexDigest "abc" =
    "ba7816bf8f01cfea414140de5dae2223b00361a396177a9cb410ff61f20015ad" := by decide +kernel

end Sha256

namespace Configuration

variable {layers others : List String} {merged first second : Merged}

/-- A loaded value has the members of all its objects in byte order, each name once. -/
theorem inOrder_of_load (loaded : load layers = .ok merged) : merged.value.InOrder := by
  cases read : readLayers 0 layers with
  | error problem => cases (load_of_readLayers_error read).symm.trans loaded
  | ok documents =>
      rw [load_of_readLayers read] at loaded
      obtain ⟨_, _, rfl⟩ := exists_of_map_eq_ok loaded
      exact inOrder_mergeAll (inOrder_of_readLayers read)

/-- The digest of a run is that of the configuration it was prepared from. -/
theorem digest_of_prepare {policy : UnusedKeyPolicy} {environment : Environment}
    {run : RunConfiguration} (loaded : load layers = .ok merged)
    (prepared : prepare layers policy environment = .ok run) : run.digest = merged.digest := by
  obtain ⟨found, _, _, foundLoaded, -, -, assembled⟩ := prepare_eq_ok_iff.1 prepared
  cases loaded.symm.trans foundLoaded
  obtain ⟨_, _, -, -, -, -, rfl⟩ := assemble_eq_ok_iff.1 assembled
  rfl

/-- Configurations without numbers of double precision have one canonical text exactly if they have
one value. -/
theorem canonicalText_eq_iff (integral : first.value.hasFloat = false)
    (otherIntegral : second.value.hasFloat = false) :
    first.canonicalText = second.canonicalText ↔ first.value = second.value :=
  ⟨Json.compact_injective integral otherIntegral, congrArg Json.compact⟩

/-- **Unless the bytes of their texts collide, runs have one digest exactly if they ran one
configuration.** -/
theorem digest_tells_configuration (loaded : load layers = .ok first)
    (otherLoaded : load others = .ok second) (integral : first.value.hasFloat = false)
    (otherIntegral : second.value.hasFloat = false) :
    first.value.InOrder ∧ second.value.InOrder ∧
    (first.canonicalText = second.canonicalText ↔ first.value = second.value) ∧
    (first.digest = second.digest ↔ first.value = second.value ∨
      Sha256.Collide first.canonicalText second.canonicalText) ∧
    ∀ policy otherPolicy environment otherEnvironment run otherRun,
      prepare layers policy environment = .ok run →
      prepare others otherPolicy otherEnvironment = .ok otherRun →
      ¬Sha256.Collide first.canonicalText second.canonicalText →
        (run.digest = otherRun.digest ↔ first.value = second.value) := by
  have texts := canonicalText_eq_iff integral otherIntegral
  have digests : first.digest = second.digest ↔ first.value = second.value ∨
      Sha256.Collide first.canonicalText second.canonicalText := by
    rw [← texts]
    exact Sha256.hexDigest_eq_iff_or_collide
  refine ⟨inOrder_of_load loaded, inOrder_of_load otherLoaded, texts, digests, ?_⟩
  intro policy otherPolicy environment otherEnvironment run otherRun prepared otherPrepared apart
  rw [digest_of_prepare loaded prepared, digest_of_prepare otherLoaded otherPrepared, digests]
  exact or_iff_left apart

/-- A layer in which a port is a number. -/
def numberPort : String := "port: 8080\n"

/-- A layer in which a port is a text. -/
def textPort : String := "port: \"8080\"\n"

/-- A number and a text of its digits are not written alike. -/
theorem digest_tells_configuration_port :
    ∃ first second, load [numberPort] = .ok first ∧ load [textPort] = .ok second ∧
      first.value.hasFloat = false ∧ second.value.hasFloat = false ∧
      first.value ≠ second.value ∧ first.canonicalText ≠ second.canonicalText := by
  have number : (load [numberPort]).toOption.map (fun merged =>
      (merged.value.hasFloat, (merged.value.member? "port").map Json.kind)) =
        some (false, some .number) := by decide +kernel
  have text : (load [textPort]).toOption.map (fun merged =>
      (merged.value.hasFloat, (merged.value.member? "port").map Json.kind)) =
        some (false, some .string) := by decide +kernel
  obtain ⟨first, loaded, isNumber⟩ := exists_of_toOption_map number
  obtain ⟨second, otherLoaded, isText⟩ := exists_of_toOption_map text
  obtain ⟨integral, numberKind⟩ := Prod.mk.inj isNumber
  obtain ⟨otherIntegral, textKind⟩ := Prod.mk.inj isText
  have differ : first.value ≠ second.value := by
    intro same
    rw [same, textKind] at numberKind
    cases numberKind
  obtain ⟨-, -, texts, -⟩ :=
    digest_tells_configuration loaded otherLoaded integral otherIntegral
  exact ⟨first, second, loaded, otherLoaded, integral, otherIntegral, differ,
    fun same => differ (texts.1 same)⟩

end Configuration

end RealmConvergence
