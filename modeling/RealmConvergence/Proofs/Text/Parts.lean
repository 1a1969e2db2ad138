import RealmConvergence.Text.Parts

/-!
# Texts put together from parts

Parts that hold no separator are found again when a text is put together from them
(`partsBetween_flatMap`). The parts of a text are those before a separator and those after it
(`partsBetween_separated`).
-/

set_option autoImplicit false

namespace RealmConvergence.Text

variable {isSeparator : Char → Bool} {separator : Char} {part rest : List Char}

/-- A part without a separator is followed by the parts after the next one. -/
theorem partsBetween_append (whole : ∀ character ∈ part, isSeparator character = false)
    (separates : isSeparator separator = true) :
    partsBetween isSeparator (part ++ separator :: rest) =
      part :: partsBetween isSeparator rest := by
  induction part with
  | nil => rw [List.nil_append, partsBetween, if_pos separates]
  | cons head tail ih =>
      obtain ⟨other, others⟩ := List.forall_mem_cons.1 whole
      rw [List.cons_append, partsBetween, if_neg (Bool.eq_false_iff.1 other), ih others]

/-- A text without a separator is its only part. -/
theorem partsBetween_of_whole (whole : ∀ character ∈ part, isSeparator character = false) :
    partsBetween isSeparator part = [part] := by
  induction part with
  | nil => rfl
  | cons head tail ih =>
      obtain ⟨other, others⟩ := List.forall_mem_cons.1 whole
      rw [partsBetween, if_neg (Bool.eq_false_iff.1 other), ih others]

/-- **Parts are found again** in the text in which each stands after a separator. -/
theorem partsBetween_flatMap (separates : isSeparator separator = true) (parts : List (List Char))
    (whole : ∀ part ∈ parts, ∀ character ∈ part, isSeparator character = false) :
    partsBetween isSeparator (parts.flatMap (separator :: ·)) = [] :: parts := by
  suffices found : ∀ first : List Char, (∀ character ∈ first, isSeparator character = false) →
      partsBetween isSeparator (first ++ parts.flatMap (separator :: ·)) = first :: parts from
    found [] fun _ member => nomatch member
  induction parts with
  | nil =>
      intro first single
      rw [List.flatMap_nil, List.append_nil, partsBetween_of_whole single]
  | cons next others ih =>
      intro first single
      obtain ⟨nextWhole, othersWhole⟩ := List.forall_mem_cons.1 whole
      rw [List.flatMap_cons, List.cons_append, partsBetween_append single separates,
        ih othersWhole next nextWhole]

/-- No part holds a separator, and there is a part. -/
theorem partsBetween_whole (text : List Char) :
    partsBetween isSeparator text ≠ [] ∧
      ∀ part ∈ partsBetween isSeparator text, ∀ character ∈ part,
        character ∈ text ∧ isSeparator character = false := by
  induction text with
  | nil => simp [partsBetween]
  | cons head tail ih =>
      obtain ⟨some, each⟩ := ih
      have later : ∀ part ∈ partsBetween isSeparator tail, ∀ character ∈ part,
          character ∈ head :: tail ∧ isSeparator character = false :=
        fun part member character inPart =>
          (each part member character inPart).imp_left (List.mem_cons_of_mem head)
      rw [partsBetween]
      split
      · exact ⟨List.cons_ne_nil _ _, by simpa using later⟩
      · next other =>
        cases found : partsBetween isSeparator tail with
        | nil => exact absurd found some
        | cons first others =>
            rw [found] at later
            refine ⟨List.cons_ne_nil _ _, ?_⟩
            simp only [List.forall_mem_cons] at later ⊢
            exact ⟨⟨⟨List.mem_cons_self, Bool.eq_false_iff.2 other⟩, later.1⟩, later.2⟩

/-- The parts before a separator are followed by the parts after it. -/
theorem partsBetween_separated (separates : isSeparator separator = true) (text : List Char) :
    partsBetween isSeparator (text ++ separator :: rest) =
      partsBetween isSeparator text ++ partsBetween isSeparator rest := by
  induction text with
  | nil =>
      show partsBetween isSeparator (separator :: rest) = [] :: partsBetween isSeparator rest
      rw [partsBetween, if_pos separates]
  | cons head tail ih =>
      have some : partsBetween isSeparator tail ≠ [] := (partsBetween_whole tail).1
      rw [List.cons_append]
      simp only [partsBetween, ih]
      split
      · rfl
      · cases found : partsBetween isSeparator tail with
        | nil => exact absurd found some
        | cons first others => rfl

end RealmConvergence.Text
