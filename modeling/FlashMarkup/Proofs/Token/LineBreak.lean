import FlashMarkup.Proofs.Document.Grammar
import FlashMarkup.Proofs.Token.Coverage
import FlashMarkup.Proofs.Token.Pieces

/-!
# Scanning across a line break

A source that does not end in a text may be cut off at a line break: what follows the break is
scanned as if it stood alone, only further down. Two facts make it so. Scanning does not look at the
line it starts on, so that from a lower line it gives the same tokens or the same failure, lower by
as many lines. And no step looks past a blank at the end of what it consumes: a name, a value or a
comment that ends there has ended in either source, and an at sign in front of a blank closes a head
in either. Only a text goes on behind a blank, up to the next at sign or comment.
-/

namespace FlashMarkup

/-- The position in the same column, as many lines further down. -/
def Position.below (position : Position) (lines : Nat) : Position :=
  ⟨position.line + lines, position.column⟩

/-- The token as many lines further down. -/
def Token.below (token : Token) (lines : Nat) : Token :=
  { token with position := token.position.below lines }

/-- The failure with all its positions as many lines further down. -/
def LexError.below (lines : Nat) : LexError → LexError
  | .unterminatedComment start stop => .unterminatedComment (start.below lines) (stop.below lines)
  | .unterminatedValue quote start stop =>
    .unterminatedValue quote (start.below lines) (stop.below lines)
  | .missingTagName position => .missingTagName (position.below lines)

/-- Moving past a character and moving down may change places. -/
theorem Position.next_below (position : Position) (lines : Nat) (c : Char) :
    (position.below lines).next c = (position.next c).below lines := by
  unfold next below
  split
  next => rw [Nat.add_right_comm]
  next => rfl

/-- Moving past a text and moving down may change places. -/
theorem Position.past_below (position : Position) (lines : Nat) (content : Text) :
    (position.below lines).past content = (position.past content).below lines := by
  induction content generalizing position with
  | nil => rfl
  | cons c rest ih => rw [past_cons, past_cons, next_below, ih]

/-- Behind a line break stands the start of a source, lower by the lines in front of it. -/
theorem Position.past_break (content : Text) :
    start.past (content ++ ['\n']) = start.below (content.count '\n' + 1) := by
  rw [past_start, behind, Text.lastLine_break, List.count_append, below, Nat.add_comm]
  rfl

namespace Token.Characters

open Lexeme (isWordChar)
open Text (EndsRun)

/-- The step with its token as many lines further down. -/
def Step.below (step : Step) (lines : Nat) : Step :=
  { step with emitted := step.emitted.map (·.below lines) }

/-- A result of a step, as many lines further down. -/
def moved (lines : Nat) (result : Except LexError Step) : Except LexError Step :=
  (result.map (·.below lines)).mapError (·.below lines)

/-- A tag name is found on a lower line as it is on a higher one. -/
theorem tagName_below (kind : Kind) (position : Position) (lines : Nat) (mark source : Text) :
    tagName kind (position.below lines) mark source =
      moved lines (tagName kind position mark source) := by
  unfold tagName
  dsimp only
  split
  next => rfl
  next => rfl

/-- A tag is found on a lower line as it is on a higher one. -/
theorem tag_below (position : Position) (lines : Nat) (source : Text) :
    tag (position.below lines) source = moved lines (tag position source) := by
  unfold tag
  split
  next => exact tagName_below _ _ _ _ _
  next => exact tagName_below _ _ _ _ _

/-- A delimited token is found on a lower line as it is on a higher one, if its failure is the same
    there. -/
theorem delimited_below (kind : Kind) (position : Position) (lines : Nat) (delimiter source : Text)
    {failure lower : Position → LexError}
    (same : ∀ stop, lower (stop.below lines) = (failure stop).below lines) :
    delimited kind (position.below lines) delimiter source lower =
      moved lines (delimited kind position delimiter source failure) := by
  unfold delimited
  split
  next => rfl
  next =>
    rw [Position.past_below, same]
    rfl

/-- An attribute name is found on a lower line as it is on a higher one. -/
theorem attributeName_below (position : Position) (lines : Nat) (source : Text) :
    attributeName? (position.below lines) source =
      (attributeName? position source).map (·.below lines) := by
  unfold attributeName?
  dsimp only
  split
  next => rfl
  next => rfl

/-- A step on a lower line is the same step as on a higher one. -/
theorem step_below (position : Position) (lines : Nat) (afterHead : Bool) (first : Char)
    (rest : Text) :
    step (position.below lines) afterHead first rest =
      moved lines (step position afterHead first rest) := by
  unfold step
  split
  next => rfl
  next =>
  split
  next =>
    split
    next => rfl
    next => exact tag_below position lines rest
  next =>
  split
  next => exact delimited_below _ _ _ _ _ fun stop => rfl
  next =>
  split
  next => exact delimited_below _ _ _ _ _ fun stop => rfl
  next =>
    rw [attributeName_below]
    cases attributeName? position (first :: rest) with
    | some named => rfl
    | none => rfl

/-- From a lower line the same tokens are scanned as from a higher one, or the same failure is met.

    Induct on the length of the source. A step is the same on both lines, and so is the distance by
    which it moves on. -/
theorem scanFrom_below (position : Position) (lines : Nat) (afterHead : Bool) (source : Text) :
    scanFrom (position.below lines) afterHead source =
      ((scanFrom position afterHead source).map (List.map (·.below lines))).mapError
        (·.below lines) := by
  match source with
  | [] =>
    rw [scanFrom_nil, scanFrom_nil]
    rfl
  | first :: rest =>
    have lower := step_below position lines afterHead first rest
    cases stepped : step position afterHead first rest with
    | error failure =>
      rw [stepped] at lower
      rw [scanFrom_of_failure stepped, scanFrom_of_failure lower]
      rfl
    | ok result =>
      have shorter : result.rest.length < (first :: rest).length := length_of_step stepped
      have later := scanFrom_below (position.past result.consumed) lines result.endsHead result.rest
      have endsHead : (result.below lines).endsHead = result.endsHead := by
        cases emitted : result.emitted <;> simp [Step.endsHead, Step.below, emitted, Token.below]
      rw [stepped] at lower
      rw [scanFrom_of_step stepped, scanFrom_of_step lower, endsHead]
      have moved : (position.below lines).past (result.below lines).consumed =
          (position.past result.consumed).below lines := Position.past_below _ _ _
      have left : (result.below lines).rest = result.rest := rfl
      rw [moved, left, later]
      cases scanFrom (position.past result.consumed) result.endsHead result.rest with
      | error failure => rfl
      | ok tokens =>
        cases emitted : result.emitted <;>
          simp [Except.map, Except.mapError, Step.below, emitted]
termination_by source.length
decreasing_by exact shorter

/-- Whether a blank stands in front of a text, so that it may follow a source as another line. -/
def StartsBlank (more : Text) : Prop := ∃ c, more.head? = some c ∧ Text.isBlank c = true

/-- What starts with a blank starts with no character that means something to scanning. -/
theorem StartsBlank.head_ne {more : Text} (starts : StartsBlank more) {c : Char}
    (visible : Text.isBlank c = false) : more.head? ≠ some c := by
  obtain ⟨b, first, blank⟩ := starts
  rw [first]
  intro same
  rw [Option.some.inj same, visible] at blank
  contradiction

/-- A blank ends a name. -/
theorem StartsBlank.endsRun {more : Text} (starts : StartsBlank more) :
    EndsRun isWordChar more := by
  intro c first
  cases word : isWordChar c with
  | false => rfl
  | true => exact absurd first (starts.head_ne (Lexeme.isBlank_of_isWordChar word))

/-- In front of what starts with a blank, a source starts with the characters it starts with
    alone. -/
theorem StartsBlank.head_append {more : Text} (starts : StartsBlank more) {c : Char}
    (visible : Text.isBlank c = false) (source : Text) :
    (source ++ more).head? = some c ↔ source.head? = some c := by
  cases source with
  | nil => simpa using starts.head_ne visible
  | cons first rest => simp

/-- Two hashes do not begin with the last character of a source in front of a blank. -/
theorem StartsBlank.hashes_prefix {more : Text} (starts : StartsBlank more) (first : Char)
    (rest : Text) : ['#', '#'] <+: first :: (rest ++ more) ↔ ['#', '#'] <+: first :: rest := by
  have behind (content : Text) : ['#'] <+: content ↔ content.head? = some '#' := by
    cases content <;> simp [eq_comm]
  rw [List.cons_prefix_cons, List.cons_prefix_cons, behind, behind, starts.head_append rfl]

/-- The step in front of more of the source. -/
def Step.before (step : Step) (more : Text) : Step := { step with rest := step.rest ++ more }

/-- A tag name that is found is found in front of a blank, and where none is found there is none. -/
theorem tagName_before (kind : Kind) (position : Position) (mark source : Text) {more : Text}
    (starts : StartsBlank more) :
    tagName kind position mark (source ++ more) =
      (tagName kind position mark source).map (·.before more) := by
  unfold tagName
  rw [Text.takeWhile_append_of_endsRun starts.endsRun,
    Text.dropWhile_append_of_endsRun starts.endsRun]
  dsimp only
  split
  next => rfl
  next => rfl

/-- A tag that is found is found in front of a blank. -/
theorem tag_before (position : Position) (source : Text) {more : Text} (starts : StartsBlank more) :
    tag position (source ++ more) = (tag position source).map (·.before more) := by
  unfold tag
  by_cases slash : source.head? = some '/'
  · obtain ⟨rest, rfl⟩ := List.head?_eq_some_iff.mp slash
    exact tagName_before _ _ _ rest starts
  · rw [if_neg slash, if_neg (mt (starts.head_append rfl source).mp slash)]
    exact tagName_before _ _ _ source starts

/-- A delimited token that is found is found in front of anything. -/
theorem delimited_before {kind : Kind} {position : Position} {delimiter source : Text}
    {failure : Position → LexError} {result : Step} (visible : delimiter ≠ [])
    (done : delimited kind position delimiter source failure = .ok result) (more : Text) :
    delimited kind position delimiter (source ++ more) failure = .ok (result.before more) := by
  unfold delimited at done ⊢
  split at done
  next value after found =>
    cases done
    obtain ⟨rfl, outside⟩ := (Text.cutAt_eq_some_iff visible).mp found
    have longer : Text.cutAt? delimiter (value ++ delimiter ++ after ++ more) =
        some (value, after ++ more) :=
      (Text.cutAt_eq_some_iff visible).mpr ⟨List.append_assoc _ _ _, outside⟩
    rw [longer]
    rfl
  next => contradiction

/-- An attribute name that is found is found in front of a blank, and where none is found there is
    none. -/
theorem attributeName_before (position : Position) (source : Text) {more : Text}
    (starts : StartsBlank more) :
    attributeName? position (source ++ more) =
      (attributeName? position source).map (·.before more) := by
  unfold attributeName?
  rw [Text.takeWhile_append_of_endsRun starts.endsRun,
    Text.dropWhile_append_of_endsRun starts.endsRun]
  simp only [starts.head_append (c := '=') rfl]
  split
  next both =>
    obtain ⟨rest, behind⟩ := List.head?_eq_some_iff.mp both.2
    rw [behind]
    rfl
  next => rfl

/-- A text that stops before the end of the source stops there also in front of a blank. -/
theorem spanText_before {source more : Text} (starts : StartsBlank more)
    (stops : (spanText source).2 ≠ []) :
    spanText (source ++ more) = ((spanText source).1, (spanText source).2 ++ more) := by
  induction source with
  | nil => contradiction
  | cons c rest ih =>
    rw [spanText] at stops
    rw [List.cons_append, spanText, spanText]
    simp only [starts.hashes_prefix]
    split
    next => rfl
    next plain =>
      rw [if_neg plain] at stops
      rw [ih stops]

/-- A step that is made is made in the same way in front of a blank, unless it emits a text at the
    end of the source. -/
theorem step_before {position : Position} {afterHead : Bool} {first : Char} {rest : Text}
    {result : Step} (done : step position afterHead first rest = .ok result)
    (closed : result.rest = [] → ∀ token ∈ result.emitted, token.kind ≠ .text) {more : Text}
    (starts : StartsBlank more) :
    step position afterHead first (rest ++ more) = .ok (result.before more) := by
  unfold step at done ⊢
  simp only [starts.hashes_prefix]
  split at done
  next blank =>
    rw [if_pos blank]
    cases done
    rfl
  next noBlank =>
  rw [if_neg noBlank]
  split at done
  next atSign =>
    have slash := starts.head_append (c := '/') rfl rest
    simp only [if_pos atSign, ne_eq, slash, tag_before position rest starts]
    split at done
    next closes =>
      rw [if_pos closes]
      cases done
      rfl
    next opens =>
      rw [if_neg opens, done]
      rfl
  next noTag =>
  rw [if_neg noTag]
  split at done
  next hashes =>
    obtain ⟨others, same⟩ := hashes
    obtain ⟨rfl, rfl⟩ := List.cons.inj same
    rw [if_pos ⟨others, rfl⟩]
    exact delimited_before (List.cons_ne_nil _ _) done more
  next noComment =>
  rw [if_neg noComment]
  split at done
  next quote =>
    rw [if_pos quote]
    exact delimited_before (List.cons_ne_nil _ _) done more
  next noQuote =>
    rw [if_neg noQuote, ← List.cons_append, attributeName_before position _ starts]
    cases named : attributeName? position (first :: rest) with
    | some found =>
      rw [named] at done
      cases done
      rfl
    | none =>
      rw [named] at done
      cases done
      have stops : (spanText (first :: rest)).2 ≠ [] := by
        intro ended
        exact closed ended _ rfl rfl
      simp only [Option.map_none, Option.getD_none, plain, spanText_before starts stops]
      rfl

/-- No step emits the end of the input. -/
theorem not_isEnd_of_step {position : Position} {afterHead : Bool} {first : Char} {rest : Text}
    {result : Step} (done : step position afterHead first rest = .ok result) :
    ∀ token ∈ result.emitted, token.isEnd = false := by
  intro token emitted
  rcases step_cases done with ⟨-, rfl⟩ | ⟨-, -, -, rfl⟩ | ⟨found, same, -, written⟩
  · contradiction
  · contradiction
  · obtain rfl := Option.some.inj (same.symm.trans emitted)
    exact not_isEnd_of_isWrittenAs written

/-- The tokens of a source end with the end of the input. If the last one in front of it is no text,
    or there is none, the source and a blank behind it are scanned as the others in front of
    anything.

    Induct on the length of the source. Every step but the last leaves something or emits no text,
    so it is the same step in front of the blank, and at the end of the source the blank is
    skipped. -/
theorem scans_before_blank (position : Position) (afterHead : Bool) (source : Text)
    {tokens : List Token} (scanned : scanFrom position afterHead source = .ok tokens) :
    ∃ front, tokens = front ++ [⟨.endOfInput, [], position.past source⟩] ∧
      (∀ token ∈ front, token.isEnd = false) ∧
      ((∀ last ∈ front.getLast?, last.kind ≠ .text) →
        ∀ b, Text.isBlank b = true → ∀ more,
          Scans position afterHead (source ++ [b]) front false more) := by
  match source with
  | [] =>
    rw [scanFrom_nil] at scanned
    cases scanned
    refine ⟨[], rfl, by simp, fun _ b blank more => ?_⟩
    have skipped : step position afterHead b ([] ++ more) = .ok ⟨none, [b], more⟩ := by
      simp [step, blank]
    exact scans_of_step skipped
  | first :: rest =>
    cases stepped : step position afterHead first rest with
    | error failure =>
      rw [scanFrom_of_failure stepped] at scanned
      contradiction
    | ok result =>
      have shorter : result.rest.length < (first :: rest).length := length_of_step stepped
      obtain ⟨whole, consumed⟩ := exact_of_step stepped
      rw [scanFrom_of_step stepped, Result.map_eq_ok_iff] at scanned
      obtain ⟨later, laterScanned, rfl⟩ := scanned
      obtain ⟨front, rfl, inner, goesOn⟩ :=
        scans_before_blank (position.past result.consumed) result.endsHead result.rest laterScanned
      refine ⟨result.emitted.toList ++ front, ?_, ?_, fun closed b blank more => ?_⟩
      · rw [← Position.past_append, whole, List.append_assoc]
      · refine List.forall_mem_append.mpr ⟨?_, inner⟩
        intro token member
        exact not_isEnd_of_step stepped token (Option.mem_toList.mp member)
      · have laterClosed : ∀ last ∈ front.getLast?, last.kind ≠ .text := by
          intro last found
          apply closed
          rw [List.getLast?_append, show front.getLast? = some last from found]
          rfl
        have stepClosed : result.rest = [] → ∀ token ∈ result.emitted, token.kind ≠ .text := by
          intro ended token emitted
          rw [ended, scanFrom_nil] at laterScanned
          have none : front = [] := by simpa using laterScanned
          apply closed
          rw [none, List.append_nil, show result.emitted = some token from emitted]
          rfl
        have stepScans : Scans position afterHead result.consumed result.emitted.toList
            result.endsHead (result.rest ++ [b] ++ more) := by
          have starts : StartsBlank (b :: more) := ⟨b, rfl, blank⟩
          have longer := step_before stepped stepClosed starts
          obtain ⟨c, others, split⟩ := List.exists_cons_of_ne_nil consumed
          rw [split, List.cons_append, List.cons.injEq] at whole
          obtain ⟨rfl, rfl⟩ := whole
          rw [split]
          apply scans_of_step
          simpa [Step.before, split] using longer
        have both := scans_append stepScans (goesOn laterClosed b blank more)
        rwa [← List.append_assoc, whole] at both
termination_by source.length
decreasing_by exact shorter

end Token.Characters

namespace Token

/-- A source whose last token is no text, or that has no token, is scanned line by line with what
    stands behind a line break: first come the tokens of the source without the end of its input,
    and then those of what follows, in the same columns and lower by the lines of the source. If
    what follows is not scanned, the whole fails as it does, with all positions lower by as many
    lines. -/
theorem scan_behind_break {source : Text} {tokens : List Token} (scanned : scan source = .ok tokens)
    (closed : ∀ last ∈ (Document.meaningful tokens).getLast?, last.kind ≠ .text) (more : Text) :
    scan (source ++ '\n' :: more) =
      match scan more with
      | .ok others =>
        .ok (Document.meaningful tokens ++ others.map (·.below (source.count '\n' + 1)))
      | .error failure => .error (failure.below (source.count '\n' + 1)) := by
  rw [scan, scanFrom_split] at scanned
  obtain ⟨front, rfl, inner, goesOn⟩ :=
    Characters.scans_before_blank Position.start false source scanned
  have meaning : Document.meaningful (front ++ [⟨.endOfInput, [], Position.start.past source⟩]) =
      front := by
    have inside : ∀ token ∈ front, (!token.isEnd) = true := by simpa using inner
    rw [Document.meaningful, List.takeWhile_append_of_pos inside]
    simp [isEnd]
  rw [meaning] at closed ⊢
  have whole := goesOn closed '\n' rfl more
  have lower := Characters.scanFrom_below Position.start (source.count '\n' + 1) false more
  rw [Characters.Scans, Position.past_break, lower, List.append_assoc] at whole
  rw [scan, scanFrom_split, scan, scanFrom_split]
  refine whole.trans ?_
  cases Characters.scanFrom Position.start false more with
  | error failure => rfl
  | ok others => rfl

/-- Behind a source of two lines that ends with the at sign of a head, a text and a tag are scanned
    on the third line, and there a comment that is not closed is the failure. -/
theorem scan_behind_break_terminated :
    scan terminatedSource = .ok terminatedTokens ∧
      (∀ last ∈ (Document.meaningful terminatedTokens).getLast?, last.kind ≠ .text) ∧
      scan (terminatedSource ++ '\n' :: " é@b") =
        .ok (Document.meaningful terminatedTokens ++
          [⟨.text, "é", ⟨3, 2⟩⟩, ⟨.tagOpen, "b", ⟨3, 3⟩⟩, ⟨.endOfInput, "", ⟨3, 5⟩⟩]) ∧
      scan (terminatedSource ++ '\n' :: "@b ##é") =
        .error (.unterminatedComment ⟨3, 4⟩ ⟨3, 7⟩) := by
  have scanned : scan terminatedSource = .ok terminatedTokens := by decide +kernel
  have closed : ∀ last ∈ (Document.meaningful terminatedTokens).getLast?, last.kind ≠ .text := by
    decide
  have others : scan " é@b" =
      .ok [⟨.text, "é", ⟨1, 2⟩⟩, ⟨.tagOpen, "b", ⟨1, 3⟩⟩, ⟨.endOfInput, "", ⟨1, 5⟩⟩] := by decide +kernel
  have unclosed : scan "@b ##é" = .error (.unterminatedComment ⟨1, 4⟩ ⟨1, 7⟩) := by decide +kernel
  refine ⟨scanned, closed, ?_, ?_⟩
  · rw [scan_behind_break scanned closed, others]
    rfl
  · rw [scan_behind_break scanned closed, unclosed]
    rfl

end Token

end FlashMarkup
