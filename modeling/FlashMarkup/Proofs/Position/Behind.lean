import FlashMarkup.Position.Basic
import Mathlib.Data.List.Induction
import Mathlib.Data.List.TakeWhile

/-!
# Positions by counting

The position behind a text is found by moving past its characters one after the other. It can also
be counted: its line is one more than the line breaks of the text, and its column is one more than
the characters behind the last of them. Positions are ordered by line and then by column, and a
longer text ends at a later position. Going the other way, from a position to what stands there,
leaves out as many lines and then as many characters.
-/

namespace FlashMarkup

namespace Text

/-- The characters behind the last line break of a text. -/
def lastLine (content : Text) : Text := (content.reverse.takeWhile (· != '\n')).reverse

/-- The characters up to the last line break of a text, that line break included. -/
def earlierLines (content : Text) : Text := (content.reverse.dropWhile (· != '\n')).reverse

/-- The last line stands behind the earlier ones. -/
theorem earlierLines_append_lastLine (content : Text) :
    content.earlierLines ++ content.lastLine = content := by
  rw [earlierLines, lastLine, ← List.reverse_append, List.takeWhile_append_dropWhile,
    List.reverse_reverse]

/-- A line break ends the last line. -/
theorem lastLine_break (content : Text) : lastLine (content ++ ['\n']) = [] := by
  simp [lastLine]

/-- Characters that are no line breaks go on with the last line. -/
theorem lastLine_append (content : Text) {more : Text} (unbroken : '\n' ∉ more) :
    lastLine (content ++ more) = lastLine content ++ more := by
  have passes : ∀ c ∈ more.reverse, (c != '\n') = true := by
    intro c member
    rw [bne_iff_ne]
    rintro rfl
    exact unbroken (List.mem_reverse.mp member)
  rw [lastLine, List.reverse_append, List.takeWhile_append_of_pos passes, List.reverse_append,
    List.reverse_reverse, lastLine]

/-- The last line has no line break. -/
theorem break_not_mem_lastLine (content : Text) : '\n' ∉ content.lastLine := by
  intro member
  have passed := List.mem_takeWhile_imp (List.mem_reverse.mp member)
  simp at passed

/-- The earlier lines end with a line break, unless there are none. -/
theorem earlierLines_spec (content : Text) :
    content.earlierLines = [] ∨ ∃ lines, content.earlierLines = lines ++ ['\n'] := by
  cases stopped : content.reverse.dropWhile (· != '\n') with
  | nil => exact .inl (by simp [earlierLines, stopped])
  | cons c rest =>
    have first := List.head?_dropWhile_not (· != '\n') content.reverse
    rw [stopped, List.head?_cons] at first
    obtain rfl : c = '\n' := by simpa using first
    exact .inr ⟨rest.reverse, by simp [earlierLines, stopped]⟩

/-- What is left of a text without its first lines, line breaks included. -/
def withoutLines : Nat → Text → Text
  | 0, content => content
  | count + 1, content => withoutLines count (content.dropWhile (· != '\n')).tail

/-- A text is left out up to a line break, if as many lines are left out as it has breaks. -/
theorem withoutLines_break (lines rest : Text) :
    withoutLines (lines.count '\n' + 1) (lines ++ '\n' :: rest) = rest := by
  induction lines with
  | nil => rfl
  | cons c others ih =>
    by_cases broken : c = '\n'
    · subst broken
      rw [List.count_cons_self]
      exact ih
    · rw [List.count_cons_of_ne broken]
      rw [withoutLines] at ih ⊢
      rwa [List.cons_append, List.dropWhile_cons_of_pos (by simpa using broken)]

/-- The earlier lines of a text are as many as it has line breaks. -/
theorem withoutLines_count (content rest : Text) :
    withoutLines (content.count '\n') (content ++ rest) = content.lastLine ++ rest := by
  have unbroken : content.lastLine.count '\n' = 0 :=
    List.count_eq_zero.mpr content.break_not_mem_lastLine
  have counted : content.count '\n' = content.earlierLines.count '\n' := by
    conv_lhs => rw [← content.earlierLines_append_lastLine, List.count_append, unbroken]
    rfl
  have split : content ++ rest = content.earlierLines ++ (content.lastLine ++ rest) := by
    rw [← List.append_assoc, earlierLines_append_lastLine]
  rw [counted, split]
  rcases content.earlierLines_spec with none | ⟨lines, some⟩
  · rw [none]
    rfl
  · rw [some, List.count_append, List.append_assoc]
    exact withoutLines_break lines _

/-- What stands in a source at a position and behind it. -/
def startingAt (source : Text) (position : Position) : Text :=
  (withoutLines (position.line - 1) source).drop (position.column - 1)

end Text

namespace Position

/-- The position behind a text that starts at the start of a source: one line more than it has line
    breaks, and one column more than characters stand behind the last of them. -/
def behind (content : Text) : Position := ⟨content.count '\n' + 1, content.lastLine.length + 1⟩

/-- Moving past a text from the start leads to the position behind it. -/
theorem past_start (content : Text) : start.past content = behind content := by
  induction content using List.reverseRecOn with
  | nil => rfl
  | append_singleton front c ih =>
    rw [past_append, ih, past_cons, past_nil, next]
    by_cases broken : c = '\n'
    · subst broken
      simp [behind, Text.lastLine_break]
    · have unbroken : '\n' ∉ [c] := by simpa using Ne.symm broken
      simp [behind, Text.lastLine_append front unbroken, broken]

/-- Moving on from the position behind a text leads to the position behind a longer one. -/
theorem past_behind (front more : Text) : (behind front).past more = behind (front ++ more) := by
  rw [← past_start, ← past_start, past_append]

/-- What stands at the position behind a text is what follows the text. -/
theorem startingAt_behind (front rest : Text) :
    (front ++ rest).startingAt (behind front) = rest := by
  rw [Text.startingAt, behind, Nat.add_sub_cancel, Nat.add_sub_cancel, Text.withoutLines_count,
    List.drop_left]

/-- Whether a position comes before another one: on an earlier line, or on the same line in an
    earlier column. -/
def Precedes (first second : Position) : Prop :=
  first.line < second.line ∨ first.line = second.line ∧ first.column < second.column

/-- No position comes before itself. -/
theorem not_precedes_self (position : Position) : ¬ position.Precedes position := by
  unfold Precedes
  omega

/-- Moving past a text that is not empty leads to a later position. -/
theorem precedes_past (position : Position) {content : Text} (present : content ≠ []) :
    position.Precedes (position.past content) := by
  have one (position : Position) (c : Char) : position.Precedes (position.next c) := by
    unfold next
    split
    next => exact .inl (Nat.lt_succ_self _)
    next => exact .inr ⟨rfl, Nat.lt_succ_self _⟩
  induction content generalizing position with
  | nil => contradiction
  | cons c rest ih =>
    rw [past_cons]
    cases rest with
    | nil => exact one position c
    | cons d others =>
      have here := one position c
      have later := ih (position.next c) (List.cons_ne_nil _ _)
      unfold Precedes at *
      omega

/-- A longer text ends at a later position. -/
theorem precedes_behind (front : Text) {more : Text} (present : more ≠ []) :
    (behind front).Precedes (behind (front ++ more)) := by
  rw [← past_behind]
  exact precedes_past _ present

end Position

end FlashMarkup
