import FlashMarkup.Text.Blank
import Mathlib.Data.List.TakeWhile

/-!
# Runs of characters

A run is a stretch of characters that all pass a test, and it ends where the first character
that fails the test stands, or at the end of the text. Taking and dropping such a stretch cuts a
text exactly at that border.
-/

namespace FlashMarkup.Text

/-- Whether a run of characters that pass the test ends in front of a text. -/
def EndsRun (test : Char → Bool) (rest : Text) : Prop := ∀ c ∈ rest.head?, test c = false

/-- A run ends at the end of the text. -/
theorem endsRun_nil (test : Char → Bool) : EndsRun test [] := by
  intro c first
  contradiction

/-- A run ends at a character that fails the test. -/
theorem endsRun_cons {test : Char → Bool} {c : Char} (fails : test c = false) (rest : Text) :
    EndsRun test (c :: rest) := by
  intro d first
  rwa [← Option.some.inj first]

/-- What is left behind a run ends the run. -/
theorem endsRun_dropWhile (test : Char → Bool) (content : Text) :
    EndsRun test (content.dropWhile test) := by
  intro c first
  have stopped := List.head?_dropWhile_not test content
  rwa [show (content.dropWhile test).head? = some c from first] at stopped

/-- Nothing is taken where a run has ended. -/
theorem takeWhile_of_endsRun {test : Char → Bool} {rest : Text} (ends : EndsRun test rest) :
    rest.takeWhile test = [] := by
  cases rest with
  | nil => rfl
  | cons c others => exact List.takeWhile_cons_of_neg (by simp [ends c rfl])

/-- Nothing is dropped where a run has ended. -/
theorem dropWhile_of_endsRun {test : Char → Bool} {rest : Text} (ends : EndsRun test rest) :
    rest.dropWhile test = rest := by
  cases rest with
  | nil => rfl
  | cons c others => exact List.dropWhile_cons_of_neg (by simp [ends c rfl])

/-- Taking a run up to its border gives the run. -/
theorem takeWhile_run {test : Char → Bool} {run rest : Text} (all : ∀ c ∈ run, test c = true)
    (ends : EndsRun test rest) : (run ++ rest).takeWhile test = run := by
  rw [List.takeWhile_append_of_pos all, takeWhile_of_endsRun ends, List.append_nil]

/-- Dropping a run up to its border leaves what stands behind the border. -/
theorem dropWhile_run {test : Char → Bool} {run rest : Text} (all : ∀ c ∈ run, test c = true)
    (ends : EndsRun test rest) : (run ++ rest).dropWhile test = rest := by
  rw [List.dropWhile_append_of_pos all, dropWhile_of_endsRun ends]

/-- What ends a run ends it behind any text: nothing of it is taken. -/
theorem takeWhile_append_of_endsRun {test : Char → Bool} {rest : Text} (ends : EndsRun test rest)
    (content : Text) : (content ++ rest).takeWhile test = content.takeWhile test := by
  induction content with
  | nil => exact takeWhile_of_endsRun ends
  | cons c others ih => simp only [List.cons_append, List.takeWhile_cons, ih]

/-- What ends a run ends it behind any text: nothing of it is dropped. -/
theorem dropWhile_append_of_endsRun {test : Char → Bool} {rest : Text} (ends : EndsRun test rest)
    (content : Text) : (content ++ rest).dropWhile test = content.dropWhile test ++ rest := by
  induction content with
  | nil => exact dropWhile_of_endsRun ends
  | cons c others ih =>
    simp only [List.cons_append, List.dropWhile_cons, ih]
    split <;> rfl

end FlashMarkup.Text
