import FlashMarkup.Lexeme
import FlashMarkup.Proofs.Html.Reference
import FlashMarkup.Proofs.Text.Delimiter

/-!
# Reading markup from the left

Markup is read from the left to the right as a list of events, with no tree in mind. A less-than
sign begins a comment, an end tag or a start tag, and each of these has to be complete. Everything
else up to the next less-than sign is text; a greater-than sign must not occur in it, and it counts
only if something in it is not blank. Values and texts are given with their references resolved,
and texts and comments without the blanks around them.
-/

namespace FlashMarkup.Html

open Text (Blank)

/-- What is met when markup is read from the left to the right. -/
inductive Event where
  | start (name : Text) (attributes : List (Text × Text))
  | selfClosing (name : Text) (attributes : List (Text × Text))
  | stop (name : Text)
  | text (content : Text)
  | comment (content : Text)
deriving DecidableEq, Repr

/-- Whether a character may occur in the name of an element or an attribute. -/
def isNameChar (c : Char) : Bool := Lexeme.isWordChar c || c == '-'

/-- An attribute with a space in front and its value between double quotes. -/
def readAttribute? : Text → Option ((Text × Text) × Text)
  | ' ' :: rest =>
    let name := rest.takeWhile isNameChar
    match rest.dropWhile isNameChar with
    | '=' :: '"' :: behind =>
      if name = [] then none
      else (Text.cutAt? ['"'] behind).map fun (value, after) => ((name, unescape value), after)
    | _ => none
  | _ => none

/-- An attribute that is read leaves less than there was. -/
theorem length_of_readAttribute {source left : Text} {pair : Text × Text}
    (read : readAttribute? source = some (pair, left)) : left.length < source.length := by
  unfold readAttribute? at read
  split at read
  next rest =>
    dsimp only at read
    split at read
    next behind same =>
      split at read
      next => contradiction
      next =>
        obtain ⟨⟨value, after⟩, cut, made⟩ := Option.map_eq_some_iff.mp read
        obtain ⟨whole, -⟩ := (Text.cutAt_eq_some_iff (List.cons_ne_nil _ _)).mp cut
        obtain ⟨-, rfl⟩ := Prod.mk.inj made
        have shorter := (List.dropWhile_sublist (l := rest) isNameChar).length_le
        rw [same, whole] at shorter
        simp only [List.length_cons, List.length_append] at shorter ⊢
        omega
    next => contradiction
  next => contradiction

/-- The attributes at the front, and what stands behind them. -/
def readAttributes (source : Text) : List (Text × Text) × Text :=
  match _read : readAttribute? source with
  | none => ([], source)
  | some (pair, rest) =>
    let (pairs, left) := readAttributes rest
    (pair :: pairs, left)
termination_by source.length
decreasing_by exact length_of_readAttribute _read

/-- Attributes leave no more than there was. -/
theorem length_of_readAttributes (source : Text) :
    (readAttributes source).2.length ≤ source.length := by
  fun_induction readAttributes source with
  | case1 source => exact Nat.le_refl _
  | case2 source pair rest read pairs left inner ih =>
    rw [inner] at ih
    exact Nat.le_trans ih (Nat.le_of_lt (length_of_readAttribute read))

/-- A comment behind its opening. -/
def readComment (source : Text) : Option (Event × Text) :=
  (Text.cutAt? ['-', '-', '>'] source).map fun (content, rest) =>
    (.comment (unescape content).trim, rest)

/-- An end tag behind its slash. -/
def readEndTag (source : Text) : Option (Event × Text) :=
  let name := source.takeWhile isNameChar
  match source.dropWhile isNameChar with
  | '>' :: rest => if name = [] then none else some (.stop name, rest)
  | _ => none

/-- The end of a tag with a name and attributes: a slash makes it close itself. -/
def readTagEnd (name : Text) (attributes : List (Text × Text)) : Text → Option (Event × Text)
  | '>' :: rest => some (.start name attributes, rest)
  | ' ' :: '/' :: '>' :: rest => some (.selfClosing name attributes, rest)
  | _ => none

/-- A start tag, or a tag that closes itself, behind its less-than sign. -/
def readStartTag (source : Text) : Option (Event × Text) :=
  let name := source.takeWhile isNameChar
  let (attributes, left) := readAttributes (source.dropWhile isNameChar)
  if name = [] then none else readTagEnd name attributes left

/-- What begins with a less-than sign, behind that sign. -/
def readMarked (source : Text) : Option (Event × Text) :=
  match source with
  | '!' :: '-' :: '-' :: rest => readComment rest
  | '/' :: rest => readEndTag rest
  | _ => readStartTag source

/-- A comment leaves no more than stood behind its opening. -/
theorem length_of_readComment {source left : Text} {event : Event}
    (read : readComment source = some (event, left)) : left.length ≤ source.length := by
  obtain ⟨⟨content, rest⟩, cut, made⟩ := Option.map_eq_some_iff.mp read
  obtain ⟨-, rfl⟩ := Prod.mk.inj made
  obtain ⟨whole, -⟩ := (Text.cutAt_eq_some_iff (List.cons_ne_nil _ _)).mp cut
  rw [whole, List.length_append]
  exact Nat.le_add_left _ _

/-- An end tag leaves no more than stood behind its slash. -/
theorem length_of_readEndTag {source left : Text} {event : Event}
    (read : readEndTag source = some (event, left)) : left.length ≤ source.length := by
  have shorter := (List.dropWhile_sublist (l := source) isNameChar).length_le
  unfold readEndTag at read
  dsimp only at read
  split at read
  next rest same =>
    split at read
    next => contradiction
    next =>
      cases read
      rw [same, List.length_cons] at shorter
      exact Nat.le_of_succ_le shorter
  next => contradiction

/-- The end of a tag leaves no more than there was. -/
theorem length_of_readTagEnd {name source left : Text} {attributes : List (Text × Text)}
    {event : Event} (read : readTagEnd name attributes source = some (event, left)) :
    left.length ≤ source.length := by
  unfold readTagEnd at read
  split at read
  next =>
    cases read
    exact Nat.le_succ _
  next =>
    cases read
    simp only [List.length_cons]
    omega
  next => contradiction

/-- A start tag leaves no more than stood behind its less-than sign. -/
theorem length_of_readStartTag {source left : Text} {event : Event}
    (read : readStartTag source = some (event, left)) : left.length ≤ source.length := by
  have behindName := (List.dropWhile_sublist (l := source) isNameChar).length_le
  have behindAttributes := length_of_readAttributes (source.dropWhile isNameChar)
  unfold readStartTag at read
  dsimp only at read
  split at read
  next => contradiction
  next =>
    have behindEnd := length_of_readTagEnd read
    omega

/-- What begins with a less-than sign leaves no more than stood behind the sign. -/
theorem length_of_readMarked {source left : Text} {event : Event}
    (read : readMarked source = some (event, left)) : left.length ≤ source.length := by
  unfold readMarked at read
  split at read
  next rest =>
    have shorter := length_of_readComment read
    simp only [List.length_cons]
    omega
  next rest => exact Nat.le_succ_of_le (length_of_readEndTag read)
  next => exact length_of_readStartTag read

/-- The first piece of markup: its event, if it has one, and what stands behind it. -/
def readPiece (first : Char) (rest : Text) : Option (Option Event × Text) :=
  if first = '<' then (readMarked rest).map fun (event, left) => (some event, left)
  else
    let run := (first :: rest).takeWhile (· != '<')
    let left := (first :: rest).dropWhile (· != '<')
    if '>' ∈ run then none
    else if Blank run then some (none, left)
    else some (some (.text (unescape run).trim), left)

/-- A piece leaves less than there was. -/
theorem length_of_readPiece {first : Char} {rest left : Text} {event : Option Event}
    (read : readPiece first rest = some (event, left)) : left.length < (first :: rest).length := by
  unfold readPiece at read
  split at read
  next =>
    obtain ⟨⟨marked, behind⟩, found, made⟩ := Option.map_eq_some_iff.mp read
    obtain ⟨-, rfl⟩ := Prod.mk.inj made
    exact Nat.lt_succ_of_le (length_of_readMarked found)
  next noMark =>
    have shorter : ((first :: rest).dropWhile (· != '<')).length < (first :: rest).length := by
      rw [List.dropWhile_cons_of_pos (by simpa using noMark)]
      exact Nat.lt_succ_of_le (List.dropWhile_sublist _).length_le
    dsimp only at read
    split at read
    next => contradiction
    next =>
      split at read
      next => cases read; exact shorter
      next => cases read; exact shorter

/-- All events of markup, or nothing if a piece of it is not complete. -/
def readMarkup : Text → Option (List Event)
  | [] => some []
  | first :: rest =>
    match _read : readPiece first rest with
    | none => none
    | some (event, left) => (readMarkup left).map (event.toList ++ ·)
termination_by source => source.length
decreasing_by exact length_of_readPiece _read

/-- A piece that is read is followed by reading what stands behind it. -/
theorem readMarkup_of_readPiece {first : Char} {rest left : Text} {event : Option Event}
    (read : readPiece first rest = some (event, left)) :
    readMarkup (first :: rest) = (readMarkup left).map (event.toList ++ ·) := by
  rw [readMarkup.eq_def]
  dsimp only
  split
  next failed => rw [read] at failed; contradiction
  next other behind found =>
    rw [read] at found
    cases found
    rfl

/-- What begins with a less-than sign is read as its event and what stands behind it. -/
theorem readMarkup_of_readMarked {source left : Text} {event : Event}
    (read : readMarked source = some (event, left)) :
    readMarkup ('<' :: source) = (readMarkup left).map (event :: ·) := by
  have piece : readPiece '<' source = some (some event, left) := by simp [readPiece, read]
  exact readMarkup_of_readPiece piece

/-- A run without angle brackets, up to a less-than sign or the end, is read as a text if something
    in it is not blank. -/
theorem readMarkup_of_run {run left : Text} (unmarked : ∀ c ∈ run, c ≠ '<' ∧ c ≠ '>')
    (visible : ¬ Blank run) (ends : ∀ c ∈ left.head?, c = '<') :
    readMarkup (run ++ left) = (readMarkup left).map (.text (unescape run).trim :: ·) := by
  have all : ∀ c ∈ run, (c != '<') = true := by
    intro c member
    simpa using (unmarked c member).1
  have border : Text.EndsRun (· != '<') left := by
    intro c first
    simp [ends c first]
  have taken := Text.takeWhile_run all border
  have dropped := Text.dropWhile_run all border
  have noBracket : '>' ∉ run := by
    intro member
    exact (unmarked '>' member).2 rfl
  cases run with
  | nil => exact absurd Text.blank_nil visible
  | cons first others =>
    have noMark : first ≠ '<' := (unmarked first List.mem_cons_self).1
    have piece : readPiece first (others ++ left) =
        some (some (.text (unescape (first :: others)).trim), left) := by
      rw [List.cons_append] at taken dropped
      simp only [readPiece, noMark, taken, dropped, noBracket, visible, if_false]
    exact readMarkup_of_readPiece piece

/-- Markup whose first pieces are the same is read alike. -/
theorem readMarkup_congr {first second : Char} {rest others : Text}
    (same : readPiece first rest = readPiece second others) :
    readMarkup (first :: rest) = readMarkup (second :: others) := by
  cases read : readPiece second others with
  | none =>
    rw [readMarkup.eq_def, readMarkup.eq_def]
    dsimp only
    split
    next =>
      split
      next => rfl
      next found => rw [read] at found; contradiction
    next found => rw [same, read] at found; contradiction
  | some result =>
    obtain ⟨event, left⟩ := result
    rw [readMarkup_of_readPiece read, readMarkup_of_readPiece (same.trans read)]

/-- No angle bracket is blank. -/
theorem ne_bracket_of_isBlank {c : Char} (blank : Text.isBlank c = true) : c ≠ '<' ∧ c ≠ '>' := by
  constructor
  · rintro rfl
    exact absurd blank (by decide)
  · rintro rfl
    exact absurd blank (by decide)

/-- A blank in front of a text belongs to the text and changes nothing in what is read of it. -/
theorem readPiece_blank {b c : Char} (blank : Text.isBlank b = true) (text : c ≠ '<')
    (rest : Text) : readPiece b (c :: rest) = readPiece c rest := by
  obtain ⟨noMark, noBracket⟩ := ne_bracket_of_isBlank blank
  have single : Blank [b] := Text.blank_singleton blank
  let run := (c :: rest).takeWhile (· != '<')
  have longer : (b :: c :: rest).takeWhile (· != '<') = b :: run :=
    List.takeWhile_cons_of_pos (by simpa using noMark)
  have behind : (b :: c :: rest).dropWhile (· != '<') = (c :: rest).dropWhile (· != '<') :=
    List.dropWhile_cons_of_pos (by simpa using noMark)
  have bracket : '>' ∈ b :: run ↔ '>' ∈ run := by simp [Ne.symm noBracket]
  have allBlank : Blank (b :: run) ↔ Blank run := by simp [Blank, blank]
  have content : (unescape (b :: run)).trim = (unescape run).trim := by
    have resolved : unescape (b :: run) = [b] ++ unescape run ++ [] := by
      simpa using unescape_blanks single run
    rw [resolved, Text.trim_append_blanks single Text.blank_nil]
  simp only [readPiece, noMark, text, if_false, longer, behind, bracket, allBlank, content, run]

/-- A blank changes nothing in what is read of the markup behind it. -/
theorem readMarkup_blank {b : Char} (blank : Text.isBlank b = true) (source : Text) :
    readMarkup (b :: source) = readMarkup source := by
  obtain ⟨noMark, noBracket⟩ := ne_bracket_of_isBlank blank
  have single : Blank [b] := Text.blank_singleton blank
  have skipped (marked : ∀ c ∈ source.head?, c = '<') :
      readMarkup (b :: source) = readMarkup source := by
    have ends : Text.EndsRun (· != '<') source := by
      intro c first
      simp [marked c first]
    have all : ∀ c ∈ [b], (c != '<') = true := by simpa using noMark
    have run := Text.takeWhile_run all ends
    have behind := Text.dropWhile_run all ends
    rw [List.singleton_append] at run behind
    have piece : readPiece b source = some (none, source) := by
      simp [readPiece, noMark, run, behind, Ne.symm noBracket, single]
    rw [readMarkup_of_readPiece piece]
    simp
  cases source with
  | nil =>
    apply skipped
    intro c first
    contradiction
  | cons c rest =>
    by_cases mark : c = '<'
    · apply skipped
      intro d first
      exact (Option.some.inj first).symm.trans mark
    · exact readMarkup_congr (readPiece_blank blank mark rest)

/-- Blanks change nothing in what is read of the markup behind them. -/
theorem readMarkup_blanks {run : Text} (blank : Blank run) (source : Text) :
    readMarkup (run ++ source) = readMarkup source := by
  induction run with
  | nil => rfl
  | cons c others ih =>
    rw [List.cons_append, readMarkup_blank (blank c List.mem_cons_self)]
    apply ih
    intro d member
    exact blank d (List.mem_cons_of_mem c member)

end FlashMarkup.Html
