import FlashMarkup.Text.Basic
import Mathlib.Algebra.Ring.Nat
import Mathlib.Data.List.Basic

/-!
# Lines of a text

The lines of a text are the pieces between its line breaks. A text that ends each of its lines has
nothing behind the last line break. What is written line by line has the lines that were written
exactly if none of them has a line break inside.
-/

namespace FlashMarkup

section

variable {α : Type} [DecidableEq α]

/-- There is a first piece. -/
theorem exists_pieces_eq_cons (separator : α) (content : List α) :
    ∃ piece others, pieces separator content = piece :: others := by
  cases content with
  | nil => exact ⟨[], [], rfl⟩
  | cons first rest =>
    rw [pieces]
    split
    next => exact ⟨[], _, rfl⟩
    next => split <;> exact ⟨_, _, rfl⟩

/-- In front of the first piece stands whatever is no separator. -/
theorem pieces_cons {separator first : α} (different : first ≠ separator) {content : List α}
    {piece : List α} {others : List (List α)} (cut : pieces separator content = piece :: others) :
    pieces separator (first :: content) = (first :: piece) :: others := by
  rw [pieces, if_neg different, cut]

/-- The pieces around a separator are those in front of it and those behind it. -/
theorem pieces_append (separator : α) (front back : List α) :
    pieces separator (front ++ separator :: back) =
      pieces separator front ++ pieces separator back := by
  induction front with
  | nil => simp [pieces]
  | cons first rest ih =>
    by_cases same : first = separator
    · simp [pieces, same, ih]
    · obtain ⟨piece, others, cut⟩ := exists_pieces_eq_cons separator rest
      rw [cut] at ih
      rw [pieces_cons same cut, List.cons_append, pieces_cons same ih]
      rfl

/-- What has no separator is one piece. -/
theorem pieces_of_not_mem {separator : α} {content : List α} (absent : separator ∉ content) :
    pieces separator content = [content] := by
  induction content with
  | nil => rfl
  | cons first rest ih =>
    rw [List.mem_cons, not_or] at absent
    exact pieces_cons (Ne.symm absent.1) (ih absent.2)

/-- No piece has a separator. -/
theorem not_mem_of_mem_pieces {separator : α} {content piece : List α}
    (member : piece ∈ pieces separator content) : separator ∉ piece := by
  induction content generalizing piece with
  | nil =>
    rw [List.mem_singleton.mp member]
    exact List.not_mem_nil
  | cons first rest ih =>
    by_cases same : first = separator
    · rw [pieces, if_pos same] at member
      rcases List.mem_cons.mp member with rfl | later
      · exact List.not_mem_nil
      · exact ih later
    · obtain ⟨front, others, cut⟩ := exists_pieces_eq_cons separator rest
      rw [pieces_cons same cut] at member
      rcases List.mem_cons.mp member with rfl | later
      · have absent := ih (cut ▸ List.mem_cons_self)
        rw [List.mem_cons, not_or]
        exact ⟨Ne.symm same, absent⟩
      · exact ih (cut ▸ List.mem_cons_of_mem _ later)

end

namespace Text

/-- What is written line by line has the line breaks that end the lines and those inside them. -/
theorem count_unlines (lines : List Text) :
    (unlines lines).count '\n' = lines.length + (lines.map (·.count '\n')).sum := by
  induction lines with
  | nil => rfl
  | cons first rest ih =>
    have split : unlines (first :: rest) = first ++ ['\n'] ++ unlines rest := rfl
    rw [split, List.count_append, List.count_append, ih, List.count_singleton_self,
      List.length_cons, List.map_cons, List.sum_cons]
    omega

/-- What is written line by line has the written lines exactly if no line is broken. -/
theorem pieces_unlines_iff (lines : List Text) :
    pieces '\n' (unlines lines) = lines ++ [[]] ↔ ∀ line ∈ lines, '\n' ∉ line := by
  constructor
  · intro same line member
    have piece : line ∈ pieces '\n' (unlines lines) := same ▸ List.mem_append_left _ member
    exact not_mem_of_mem_pieces piece
  · intro unbroken
    induction lines with
    | nil => rfl
    | cons first rest ih =>
      obtain ⟨whole, others⟩ := List.forall_mem_cons.mp unbroken
      have split : unlines (first :: rest) = first ++ '\n' :: unlines rest :=
        List.append_assoc first ['\n'] _
      rw [split, pieces_append, pieces_of_not_mem whole, ih others]
      rfl

/-- The lines of a text without the spaces at their beginnings. -/
def unindented (content : Text) : List Text :=
  (pieces '\n' content).map (·.dropWhile (· == ' '))

/-- Around a line break, lines are unindented separately. -/
theorem unindented_append (front back : Text) :
    unindented (front ++ '\n' :: back) = unindented front ++ unindented back := by
  rw [unindented, pieces_append, List.map_append]
  rfl

/-- Spaces in front of a text are spaces at the beginning of its first line. -/
theorem unindented_spaces (width : Nat) (content : Text) :
    unindented (spaces width ++ content) = unindented content := by
  induction width with
  | zero => rfl
  | succ width ih =>
    obtain ⟨piece, others, cut⟩ := exists_pieces_eq_cons '\n' (spaces width ++ content)
    have longer : pieces '\n' (spaces (width + 1) ++ content) = (' ' :: piece) :: others :=
      pieces_cons (by decide) cut
    rw [← ih, unindented, unindented, longer, cut, List.map_cons, List.map_cons]
    rfl

end Text

end FlashMarkup
