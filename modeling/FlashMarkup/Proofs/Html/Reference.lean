import FlashMarkup.Html.Escape
import FlashMarkup.Proofs.Text.Trim

/-!
# Reading character references

Escaping replaces one character after the other in the whole text. Here the same text is obtained
in one pass that writes a reference for each character that needs one, and resolving references
from the left gives the characters back. No escaped text contains an angle bracket, and no escaped
value a double quote.
-/

namespace FlashMarkup.Html

/-- A character as it is written in a text. -/
def textReference (c : Char) : Text :=
  if c = '&' then "&amp;" else if c = '<' then "&lt;" else if c = '>' then "&gt;" else [c]

/-- A character as it is written in a value. -/
def attributeReference (c : Char) : Text := if c = '"' then "&quot;" else textReference c

/-- Escaping a text writes its characters one by one. -/
theorem escapeText_eq_flatMap (content : Text) :
    escapeText content = content.flatMap textReference := by
  simp only [escapeText, Text.replaceChar, List.flatMap_assoc]
  congr 1
  funext c
  unfold textReference
  by_cases ampersand : c = '&'
  · subst ampersand
    rfl
  by_cases less : c = '<'
  · subst less
    rfl
  by_cases greater : c = '>'
  · subst greater
    rfl
  simp only [ampersand, less, greater, if_false, List.flatMap_cons, List.flatMap_nil,
    List.append_nil]

/-- Escaping a value writes its characters one by one. -/
theorem escapeAttribute_eq_flatMap (content : Text) :
    escapeAttribute content = content.flatMap attributeReference := by
  rw [escapeAttribute, escapeText_eq_flatMap, Text.replaceChar, List.flatMap_assoc]
  congr 1
  funext c
  unfold attributeReference textReference
  by_cases quote : c = '"'
  · subst quote
    rfl
  by_cases ampersand : c = '&'
  · subst ampersand
    rfl
  by_cases less : c = '<'
  · subst less
    rfl
  by_cases greater : c = '>'
  · subst greater
    rfl
  simp only [quote, ampersand, less, greater, if_false, List.flatMap_cons, List.flatMap_nil,
    List.append_nil]

/-- A text with its character references resolved. -/
def unescape : Text → Text
  | '&' :: 'a' :: 'm' :: 'p' :: ';' :: rest => '&' :: unescape rest
  | '&' :: 'l' :: 't' :: ';' :: rest => '<' :: unescape rest
  | '&' :: 'g' :: 't' :: ';' :: rest => '>' :: unescape rest
  | '&' :: 'q' :: 'u' :: 'o' :: 't' :: ';' :: rest => '"' :: unescape rest
  | c :: rest => c :: unescape rest
  | [] => []

/-- A character that is no ampersand stands for itself. -/
theorem unescape_cons {c : Char} (plain : c ≠ '&') (rest : Text) :
    unescape (c :: rest) = c :: unescape rest := by
  rw [unescape.eq_def]
  split <;> simp_all

/-- A character written in a text is read as itself. -/
theorem unescape_textReference (c : Char) (rest : Text) :
    unescape (textReference c ++ rest) = c :: unescape rest := by
  unfold textReference
  by_cases ampersand : c = '&'
  · subst ampersand
    rfl
  by_cases less : c = '<'
  · subst less
    rfl
  by_cases greater : c = '>'
  · subst greater
    rfl
  simp only [ampersand, less, greater, if_false, List.singleton_append]
  exact unescape_cons ampersand rest

/-- A character written in a value is read as itself. -/
theorem unescape_attributeReference (c : Char) (rest : Text) :
    unescape (attributeReference c ++ rest) = c :: unescape rest := by
  unfold attributeReference
  split
  next quote =>
    subst quote
    rfl
  next => exact unescape_textReference c rest

/-- Characters written one by one are read one by one. -/
theorem unescape_flatMap {reference : Char → Text}
    (refers : ∀ c rest, unescape (reference c ++ rest) = c :: unescape rest)
    (content rest : Text) :
    unescape (content.flatMap reference ++ rest) = content ++ unescape rest := by
  induction content with
  | nil => rfl
  | cons c others ih =>
    rw [List.flatMap_cons, List.append_assoc, refers, ih, List.cons_append]

/-- An escaped text is read as the text. -/
theorem unescape_escapeText (content rest : Text) :
    unescape (escapeText content ++ rest) = content ++ unescape rest := by
  rw [escapeText_eq_flatMap]
  exact unescape_flatMap unescape_textReference content rest

/-- An escaped value is read as the value. -/
theorem unescape_escapeAttribute (value : Text) : unescape (escapeAttribute value) = value := by
  have read := unescape_flatMap unescape_attributeReference value []
  rwa [List.append_nil, ← escapeAttribute_eq_flatMap, show unescape [] = [] from rfl,
    List.append_nil] at read

/-- Blanks stand for themselves. -/
theorem unescape_blanks {run : Text} (blank : Text.Blank run) (rest : Text) :
    unescape (run ++ rest) = run ++ unescape rest := by
  induction run with
  | nil => rfl
  | cons c others ih =>
    have plain : c ≠ '&' := by
      rintro rfl
      exact absurd (blank '&' List.mem_cons_self) (by decide)
    rw [List.cons_append, unescape_cons plain,
      ih fun d member => blank d (List.mem_cons_of_mem c member), List.cons_append]

/-- A blank text stands for itself. -/
theorem unescape_of_blank {run : Text} (blank : Text.Blank run) : unescape run = run := by
  have read := unescape_blanks blank []
  rwa [show unescape [] = [] from rfl, List.append_nil] at read

/-- No angle bracket is left in an escaped text. -/
theorem no_bracket_escapeText (content : Text) :
    '<' ∉ escapeText content ∧ '>' ∉ escapeText content := by
  have written (c : Char) : '<' ∉ textReference c ∧ '>' ∉ textReference c := by
    unfold textReference
    split_ifs with ampersand less greater
    · decide
    · decide
    · decide
    · simp [Ne.symm less, Ne.symm greater]
  rw [escapeText_eq_flatMap]
  constructor
  · intro member
    obtain ⟨c, -, inside⟩ := List.mem_flatMap.mp member
    exact (written c).1 inside
  · intro member
    obtain ⟨c, -, inside⟩ := List.mem_flatMap.mp member
    exact (written c).2 inside

/-- No double quote is left in an escaped value. -/
theorem no_quote_escapeAttribute (value : Text) : '"' ∉ escapeAttribute value := by
  rw [escapeAttribute_eq_flatMap]
  intro member
  obtain ⟨c, -, inside⟩ := List.mem_flatMap.mp member
  revert inside
  unfold attributeReference textReference
  split_ifs with quote ampersand less greater
  · decide
  · decide
  · decide
  · decide
  · simp [Ne.symm quote]

/-- An escaped text is blank only if the text is. -/
theorem blank_of_escapeText {content : Text} (blank : Text.Blank (escapeText content)) :
    Text.Blank content := by
  have same := unescape_of_blank blank
  have read := unescape_escapeText content []
  rw [List.append_nil, same, show unescape [] = [] from rfl, List.append_nil] at read
  rwa [read] at blank

end FlashMarkup.Html
