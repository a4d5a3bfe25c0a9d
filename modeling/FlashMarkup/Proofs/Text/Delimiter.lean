import FlashMarkup.Text.Basic
import Mathlib.Data.List.Infix

/-!
# Cutting a text at a delimiter

A delimiter of any length is looked for from the left. The text in front of its first occurrence
and the text behind it are characterized without the search: the delimiter occurs neither inside
the text in front nor across the border between that text and the delimiter itself.
-/

namespace FlashMarkup.Text

/-- The text before the first occurrence of a delimiter, and the text behind that occurrence. -/
def cutAt? (delimiter : Text) : Text → Option (Text × Text)
  | [] => if delimiter = [] then some ([], []) else none
  | c :: rest =>
    if delimiter <+: c :: rest then some ([], (c :: rest).drop delimiter.length)
    else (cutAt? delimiter rest).map fun (before, after) => (c :: before, after)

/-- Where the delimiter does not begin, the search goes on behind the first character. -/
theorem cutAt_cons {delimiter : Text} {c : Char} {rest : Text}
    (absent : ¬ delimiter <+: c :: rest) :
    cutAt? delimiter (c :: rest) =
      (cutAt? delimiter rest).map fun (before, after) => (c :: before, after) := by
  simp only [cutAt?, absent, if_false]

/-- The search passes over a piece none of whose characters begins the delimiter. -/
theorem cutAt_append {first : Char} {delimiter piece : Text} (absent : first ∉ piece)
    (rest : Text) :
    cutAt? (first :: delimiter) (piece ++ rest) =
      (cutAt? (first :: delimiter) rest).map fun (before, after) => (piece ++ before, after) := by
  induction piece with
  | nil => simp
  | cons c others ih =>
    rw [List.mem_cons, not_or] at absent
    obtain ⟨different, elsewhere⟩ := absent
    have beginsNot : ¬ first :: delimiter <+: c :: (others ++ rest) := by
      simp [List.cons_prefix_cons, different]
    rw [List.cons_append, cutAt_cons beginsNot, ih elsewhere, Option.map_map]
    rfl

/-- A delimiter at the front leaves nothing before it. -/
theorem cutAt_self_append {delimiter : Text} (visible : delimiter ≠ []) (after : Text) :
    cutAt? delimiter (delimiter ++ after) = some ([], after) := by
  cases delimiter with
  | nil => exact absurd rfl visible
  | cons first others => simp [cutAt?]

/-- A single character that is looked for behind a text without it is found right there. -/
theorem cutAt_single {delimiter : Char} {before : Text} (absent : delimiter ∉ before)
    (after : Text) : cutAt? [delimiter] (before ++ delimiter :: after) = some (before, after) := by
  have found : cutAt? [delimiter] (delimiter :: after) = some ([], after) :=
    cutAt_self_append (List.cons_ne_nil _ _) after
  rw [cutAt_append absent, found]
  simp

/-- A delimiter that begins at the front of a text, but not with the delimiter behind the text,
    occurs in the text and what stands in front of the last character of that delimiter. -/
theorem prefix_append_dropLast_iff {delimiter : Text} (visible : delimiter ≠ []) (first : Char)
    (others after : Text) :
    delimiter <+: first :: others ++ delimiter ++ after ↔
      delimiter <+: first :: others ++ delimiter.dropLast := by
  have border : first :: others ++ delimiter.dropLast <+: first :: others ++ delimiter ++ after :=
    ((List.prefix_append_right_inj _).mpr (List.dropLast_prefix _)).trans (List.prefix_append _ _)
  constructor
  · intro begins
    have positive := List.length_pos_of_ne_nil visible
    apply List.prefix_of_prefix_length_le begins border
    simp only [List.length_append, List.length_cons, List.length_dropLast]
    omega
  · intro begins
    exact begins.trans border

/-- A text is cut exactly where the delimiter first occurs: the parts and the delimiter concatenate
    to the text, and the delimiter occurs nowhere before, not even across the border.

    Induct on the text. Whether the delimiter begins at the front is the same question for the text
    and for the part in front of the cut with the beginning of the delimiter behind it. -/
theorem cutAt_eq_some_iff {delimiter : Text} (visible : delimiter ≠ [])
    {content before after : Text} :
    cutAt? delimiter content = some (before, after) ↔
      content = before ++ delimiter ++ after ∧ ¬ delimiter <:+: before ++ delimiter.dropLast := by
  induction content generalizing before with
  | nil => simp [cutAt?, visible]
  | cons c rest ih =>
    by_cases begins : delimiter <+: c :: rest
    · obtain ⟨left, split⟩ := begins
      rw [← split, cutAt_self_append visible, Option.some.injEq, Prod.mk.injEq]
      constructor
      · rintro ⟨rfl, rfl⟩
        refine ⟨rfl, ?_⟩
        intro inside
        have short := inside.length_le
        have positive := List.length_pos_of_ne_nil visible
        rw [List.nil_append, List.length_dropLast] at short
        omega
      · rintro ⟨same, outside⟩
        cases before with
        | nil =>
          rw [List.nil_append] at same
          exact ⟨rfl, List.append_cancel_left same⟩
        | cons d others =>
          have front : delimiter <+: d :: others ++ delimiter ++ after := ⟨left, same⟩
          have border := (prefix_append_dropLast_iff visible d others after).mp front
          exact absurd border.isInfix outside
    · rw [cutAt_cons begins]
      constructor
      · intro cut
        obtain ⟨⟨inner, behind⟩, found, same⟩ := Option.map_eq_some_iff.mp cut
        obtain ⟨rfl, rfl⟩ := Prod.mk.inj same
        obtain ⟨rfl, outside⟩ := ih.mp found
        refine ⟨rfl, ?_⟩
        rw [List.cons_append, List.infix_cons_iff, not_or]
        refine ⟨?_, outside⟩
        intro border
        apply begins
        exact (prefix_append_dropLast_iff visible c inner behind).mpr border
      · rintro ⟨same, outside⟩
        cases before with
        | nil => exact absurd ⟨after, same.symm⟩ begins
        | cons d others =>
          obtain ⟨rfl, rfl⟩ := List.cons.inj same
          rw [List.cons_append, List.infix_cons_iff, not_or] at outside
          rw [ih.mpr ⟨rfl, outside.2⟩]
          rfl

end FlashMarkup.Text
