import FlashMarkup.Proofs.Text.Delimiter
import FlashMarkup.Proofs.Text.Run
import FlashMarkup.Token.Scan

/-!
# Scanning characters

A scanner that knows no lexemes. It looks at the characters in front of it and decides in this
order: blanks are skipped one by one; an at sign closes the head it stands directly behind or
begins a tag; two hashes begin a comment that goes up to the next two hashes; a word directly in
front of an equals sign is an attribute name; a quote begins a value that goes up to the next
such quote; everything else is text up to the next at sign or the next two hashes. Names, comments
and values are found by looking for characters and substrings only.
-/

namespace FlashMarkup.Token.Characters

open Lexeme (isWordChar)

/-- One step of scanning: the token it emits, the text it consumes, the text it leaves. -/
structure Step where
  emitted : Option Token
  consumed : Text
  rest : Text
deriving DecidableEq, Repr

/-- Whether an at sign directly behind the step closes the head of a tag. -/
def Step.endsHead (step : Step) : Bool := step.emitted.any (·.kind.endsHead)

/-- The name of a tag behind its opening mark: all word characters up to the first other one. -/
def tagName (kind : Kind) (position : Position) (mark source : Text) : Except LexError Step :=
  let name := source.takeWhile isWordChar
  if name = [] then .error (.missingTagName position)
  else .ok ⟨some ⟨kind, name, position⟩, mark ++ name, source.dropWhile isWordChar⟩

/-- A tag behind its at sign: a slash makes it a closing one. -/
def tag (position : Position) (source : Text) : Except LexError Step :=
  if source.head? = some '/' then tagName .tagClose position ['@', '/'] source.tail
  else tagName .tagOpen position ['@'] source

/-- Everything up to the next occurrence of the delimiter that opened it, or a failure. -/
def delimited (kind : Kind) (position : Position) (delimiter source : Text)
    (failure : Position → LexError) : Except LexError Step :=
  match Text.cutAt? delimiter source with
  | some (value, after) =>
    .ok ⟨some ⟨kind, value, position⟩, delimiter ++ value ++ delimiter, after⟩
  | none => .error (failure (position.past (delimiter ++ source)))

/-- An attribute name with its equals sign, if a word that may start a name stands in front. -/
def attributeName? (position : Position) (source : Text) : Option Step :=
  let name := source.takeWhile isWordChar
  let behind := source.dropWhile isWordChar
  if name.head?.any (fun c => c.isAlpha || c == '_') ∧ behind.head? = some '=' then
    some ⟨some ⟨.attributeName, name, position⟩, name ++ ['='], behind.tail⟩
  else none

/-- The text in front of the first at sign or the first two hashes, and what begins there. -/
def spanText : Text → Text × Text
  | [] => ([], [])
  | c :: rest =>
    if c = '@' ∨ ['#', '#'] <+: c :: rest then ([], c :: rest)
    else (c :: (spanText rest).1, (spanText rest).2)

/-- Text up to the next at sign or comment. -/
def plain (position : Position) (source : Text) : Step :=
  let (value, rest) := spanText source
  ⟨some ⟨.text, value, position⟩, value, rest⟩

/-- One step of scanning. `afterHead` says whether a tag head may have ended just before the
    first character. -/
def step (position : Position) (afterHead : Bool) (first : Char) (rest : Text) :
    Except LexError Step :=
  if Text.isBlank first then .ok ⟨none, [first], rest⟩
  else if first = '@' then
    if afterHead ∧ rest.head? ≠ some '/' then .ok ⟨none, ['@'], rest⟩ else tag position rest
  else if ['#', '#'] <+: first :: rest then
    delimited .comment position ['#', '#'] rest.tail (.unterminatedComment position)
  else if first = '"' ∨ first = '\'' then
    delimited .attributeValue position [first] rest (.unterminatedValue first position)
  else
    .ok ((attributeName? position (first :: rest)).getD (plain position (first :: rest)))

/-- A step is exact on a source if it consumes a part of it that is not empty and leaves the
    rest. -/
def Step.Exact (step : Step) (source : Text) : Prop :=
  step.consumed ++ step.rest = source ∧ step.consumed ≠ []

/-- Cutting text off loses nothing. -/
theorem spanText_append (source : Text) : (spanText source).1 ++ (spanText source).2 = source := by
  induction source with
  | nil => rfl
  | cons c rest ih =>
    unfold spanText
    split
    next => rfl
    next => rw [List.cons_append, ih]

/-- A piece without at signs and without two neighbouring hashes belongs to the text, also where the
    second hash would be the first character behind it. -/
theorem spanText_piece {piece rest : Text} (noTag : '@' ∉ piece)
    (noComment : ¬ ['#', '#'] <:+: piece ++ rest.take 1) :
    spanText (piece ++ rest) = (piece ++ (spanText rest).1, (spanText rest).2) := by
  induction piece with
  | nil => rfl
  | cons c others ih =>
    rw [List.cons_append, List.infix_cons_iff, not_or] at noComment
    have plain : ¬ (c = '@' ∨ ['#', '#'] <+: c :: (others ++ rest)) := by
      rintro (rfl | hashes)
      · exact noTag List.mem_cons_self
      · refine noComment.1 (List.prefix_of_prefix_length_le hashes ?_ ?_)
        · exact List.cons_prefix_cons.mpr
            ⟨rfl, (List.prefix_append_right_inj _).mpr (List.take_prefix 1 rest)⟩
        · have fits := hashes.length_le
          simp only [List.length_cons, List.length_append, List.length_take,
            List.length_nil] at fits ⊢
          omega
    rw [List.cons_append, spanText, if_neg plain,
      ih (fun member => noTag (List.mem_cons_of_mem c member)) noComment.2]
    rfl

/-- A tag name consumes its mark and the name. -/
theorem exact_of_tagName {kind : Kind} {position : Position} {mark source : Text} {result : Step}
    (marked : mark ≠ []) (done : tagName kind position mark source = .ok result) :
    result.Exact (mark ++ source) := by
  unfold tagName at done
  simp only at done
  split at done
  next => contradiction
  next =>
    cases done
    refine ⟨?_, by simp [marked]⟩
    rw [List.append_assoc, List.takeWhile_append_dropWhile]

/-- A tag consumes its at sign and at least a part of what stands behind. -/
theorem exact_of_tag {position : Position} {source : Text} {result : Step}
    (done : tag position source = .ok result) : result.Exact ('@' :: source) := by
  unfold tag at done
  split at done
  next slash =>
    obtain ⟨others, rfl⟩ := List.head?_eq_some_iff.mp slash
    exact exact_of_tagName (List.cons_ne_nil _ _) done
  next => exact exact_of_tagName (List.cons_ne_nil _ _) done

/-- A delimited token consumes both delimiters and what stands between them. -/
theorem exact_of_delimited {kind : Kind} {position : Position} {delimiter source : Text}
    {failure : Position → LexError} {result : Step} (visible : delimiter ≠ [])
    (done : delimited kind position delimiter source failure = .ok result) :
    result.Exact (delimiter ++ source) := by
  unfold delimited at done
  split at done
  next value after found =>
    cases done
    refine ⟨?_, by simp [visible]⟩
    rw [((Text.cutAt_eq_some_iff visible).mp found).1]
    simp
  next => contradiction

/-- An attribute name consumes a word and the equals sign. -/
theorem exact_of_attributeName {position : Position} {source : Text} {result : Step}
    (done : attributeName? position source = some result) : result.Exact source := by
  unfold attributeName? at done
  simp only at done
  split at done
  next both =>
    cases done
    obtain ⟨others, behind⟩ := List.head?_eq_some_iff.mp both.2
    refine ⟨?_, by simp⟩
    conv_rhs => rw [← List.takeWhile_append_dropWhile (p := isWordChar) (l := source)]
    simp [behind]
  next => contradiction

/-- A step consumes at least its first character and leaves the rest of the source. -/
theorem exact_of_step {position : Position} {afterHead : Bool} {first : Char} {rest : Text}
    {result : Step} (done : step position afterHead first rest = .ok result) :
    result.Exact (first :: rest) := by
  unfold step at done
  split at done
  next => cases done; exact ⟨rfl, List.cons_ne_nil _ _⟩
  next =>
  split at done
  next atSign =>
    subst atSign
    split at done
    next => cases done; exact ⟨rfl, List.cons_ne_nil _ _⟩
    next => exact exact_of_tag done
  next noTag =>
  split at done
  next hashes =>
    obtain ⟨others, same⟩ := hashes
    obtain ⟨rfl, rfl⟩ := List.cons.inj same
    exact exact_of_delimited (List.cons_ne_nil _ _) done
  next noComment =>
  split at done
  next => exact exact_of_delimited (List.cons_ne_nil _ _) done
  next =>
    cases done
    cases named : attributeName? position (first :: rest) with
    | some result => exact exact_of_attributeName named
    | none =>
      refine ⟨spanText_append (first :: rest), ?_⟩
      simp [plain, spanText, noTag, noComment]

/-- A step leaves less than what it found. -/
theorem length_of_step {position : Position} {afterHead : Bool} {first : Char} {rest : Text}
    {result : Step} (done : step position afterHead first rest = .ok result) :
    result.rest.length < (first :: rest).length := by
  obtain ⟨whole, consumed⟩ := exact_of_step done
  have positive := List.length_pos_of_ne_nil consumed
  rw [← whole, List.length_append]
  omega

/-- The tokens of the remaining source, the first character of which stands at the given
    position. -/
def scanFrom (position : Position) (afterHead : Bool) : Text → Except LexError (List Token)
  | [] => .ok [⟨.endOfInput, [], position⟩]
  | first :: rest =>
    match _done : step position afterHead first rest with
    | .error failure => .error failure
    | .ok result =>
      (scanFrom (position.past result.consumed) result.endsHead result.rest).map
        (result.emitted.toList ++ ·)
termination_by source => source.length
decreasing_by exact length_of_step _done

/-- At the end of a source stands the end of the input. -/
theorem scanFrom_nil (position : Position) (afterHead : Bool) :
    scanFrom position afterHead [] = .ok [⟨.endOfInput, [], position⟩] := by
  rw [scanFrom.eq_def]

/-- A step that succeeds is followed by scanning what it leaves. -/
theorem scanFrom_of_step {position : Position} {afterHead : Bool} {first : Char} {rest : Text}
    {result : Step} (done : step position afterHead first rest = .ok result) :
    scanFrom position afterHead (first :: rest) =
      (scanFrom (position.past result.consumed) result.endsHead result.rest).map
        (result.emitted.toList ++ ·) := by
  rw [scanFrom.eq_def]
  dsimp only
  split
  next failed => rw [done] at failed; contradiction
  next other stepped =>
    rw [done] at stepped
    cases stepped
    rfl

/-- The first step that fails decides the failure. -/
theorem scanFrom_of_failure {position : Position} {afterHead : Bool} {first : Char} {rest : Text}
    {failure : LexError} (failed : step position afterHead first rest = .error failure) :
    scanFrom position afterHead (first :: rest) = .error failure := by
  rw [scanFrom.eq_def]
  dsimp only
  split
  next other stepped =>
    rw [failed] at stepped
    cases stepped
    rfl
  next done => rw [failed] at done; contradiction

/-- A blank is skipped, and an at sign behind it does not close a head. -/
theorem scanFrom_blank {position : Position} {afterHead : Bool} {c : Char} {rest : Text}
    (blank : Text.isBlank c = true) :
    scanFrom position afterHead (c :: rest) = scanFrom (position.next c) false rest := by
  have done : step position afterHead c rest = .ok ⟨none, [c], rest⟩ := by simp [step, blank]
  rw [scanFrom_of_step done]
  simp only [Step.endsHead, Option.any_none, Position.past_cons, Position.past_nil,
    Option.toList_none, List.nil_append]
  exact congrFun Except.map_id _

/-- The tokens of a source, the last of which is the end of the input, or the first failure. -/
def scan (source : Text) : Except LexError (List Token) := scanFrom Position.start false source

end FlashMarkup.Token.Characters
