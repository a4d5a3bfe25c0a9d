import FlashMarkup.Proofs.Position.Locator
import FlashMarkup.Proofs.Result
import FlashMarkup.Proofs.Text.Trim
import FlashMarkup.Proofs.Token.Layers

/-!
# Tokens cover their source

Between two tokens of a source nothing stands but blanks, and an at sign directly behind the head of
a tag. So the source can be put together again from its tokens and the gaps between them, and each
token stands where its written form begins.

Scanning goes through a source with the gap behind the last token in hand. A step either makes the
gap longer or ends it with a token, and what the step consumes is the written form of that token:
this is what one step keeps, and the whole run follows by induction on the source.
-/

namespace FlashMarkup.Token

open Text (Blank)

/-- Whether a text is the written form of a token. A value may stand between quotes of either kind,
    as long as it does not contain them; the end of the input has no written form. -/
def IsWrittenAs (token : Token) (lexeme : Text) : Prop :=
  match token.kind with
  | .tagOpen => lexeme = '@' :: token.value
  | .tagClose => lexeme = '@' :: '/' :: token.value
  | .attributeName => lexeme = token.value ++ ['=']
  | .attributeValue =>
    ∃ quote, (quote = '"' ∨ quote = '\'') ∧ quote ∉ token.value ∧
      lexeme = quote :: token.value ++ [quote]
  | .text => lexeme = token.value
  | .comment => lexeme = ['#', '#'] ++ token.value ++ ['#', '#']
  | .endOfInput => False

/-- Whether a text may stand between the token before it, if there is one, and the rest of the
    source: blanks, or an at sign and blanks. The at sign has to stand directly behind a tag name or a
    value, and no slash follows it. -/
def IsGap (previous : Option Token) (gap rest : Text) : Prop :=
  Blank gap ∨
    ∃ blanks, gap = '@' :: blanks ∧ Blank blanks ∧ (blanks ++ rest).head? ≠ some '/' ∧
      ∃ token ∈ previous, token.kind ∈ [Kind.tagOpen, .tagClose, .attributeValue]

/-- A token with its written form and the gap in front of it. -/
structure Piece where
  gap : Text
  token : Token
  lexeme : Text

namespace Piece

/-- The part of a source that a piece stands for. -/
def text (piece : Piece) : Text := piece.gap ++ piece.lexeme

/-- The source that consists of pieces and the gap behind them. -/
def join (pieces : List Piece) (final : Text) : Text := pieces.flatMap text ++ final

/-- The byte offsets at which the written forms of pieces start and at which their source ends, if the
    pieces start at the given offset. -/
def offsets (start : Nat) (final : Text) : List Piece → List Nat
  | [] => [start + final.byteLength]
  | piece :: rest =>
    (start + piece.gap.byteLength) :: offsets (start + piece.text.byteLength) final rest

/-- Whether a piece fits between what stands before it, the last token of which is given, and the rest
    of the source. -/
structure Fits (piece : Piece) (before : Text) (previous : Option Token) (rest : Text) : Prop where
  gap : IsGap previous piece.gap (piece.lexeme ++ rest)
  lexeme : piece.token.IsWrittenAs piece.lexeme
  position : piece.token.position = .behind (before ++ piece.gap)

/-- The tokens of pieces and, behind them, the end of the source they are put together to. -/
def tokens (source : Text) (pieces : List Piece) : List Token :=
  pieces.map token ++ [⟨.endOfInput, [], .behind source⟩]

end Piece

/-- Pieces and a last gap that cover a source and account for a list of tokens. -/
structure Covers (source : Text) (tokens : List Token) (pieces : List Piece) (final : Text) :
    Prop where
  /-- The source is put together from the gaps and the written forms of the tokens. -/
  whole : source = Piece.join pieces final
  /-- The tokens are those of the pieces, and then the end of the input at the end of the source. -/
  listed : tokens = Piece.tokens source pieces
  /-- The end of the input is met once. -/
  ended : tokens.countP isEnd = 1
  /-- Each piece fits where it stands. -/
  fits : ∀ front piece back, pieces = front ++ piece :: back →
    piece.Fits (Piece.join front []) (front.getLast?.map Piece.token) (Piece.join back final)
  /-- The last gap is one behind the last token. -/
  closed : IsGap (pieces.getLast?.map Piece.token) final []
  /-- No token stands at or before the position of an earlier one. -/
  increasing : tokens.Pairwise fun first second => first.position.Precedes second.position
  /-- Looking up the offsets of the written forms one after the other gives the positions. -/
  located : (Locator.new source).locateAll (Piece.offsets 0 final pieces) =
    tokens.map Token.position

/-- The kinds of tokens behind which an at sign is part of the gap. -/
theorem endsHead_iff (kind : Kind) :
    kind.endsHead = true ↔ kind ∈ [Kind.tagOpen, .tagClose, .attributeValue] := by
  cases kind <;> decide

/-- The end of the input has no written form. -/
theorem not_isEnd_of_isWrittenAs {token : Token} {lexeme : Text}
    (written : token.IsWrittenAs lexeme) : token.isEnd = false := by
  cases ends : token.isEnd with
  | false => rfl
  | true =>
    rw [isEnd, beq_iff_eq] at ends
    simp [IsWrittenAs, ends] at written

namespace Characters

/-- A tag that is found consumes its written form. -/
theorem written_of_tag {position : Position} {source : Text} {result : Step}
    (done : tag position source = .ok result) :
    ∃ token, result.emitted = some token ∧ token.position = position ∧
      token.IsWrittenAs result.consumed := by
  unfold tag tagName at done
  dsimp only at done
  split at done <;> split at done
  next => contradiction
  next => cases done; exact ⟨_, rfl, rfl, rfl⟩
  next => contradiction
  next => cases done; exact ⟨_, rfl, rfl, rfl⟩

/-- A comment that is found consumes its written form. -/
theorem written_of_comment {position : Position} {source : Text} {failure : Position → LexError}
    {result : Step} (done : delimited .comment position ['#', '#'] source failure = .ok result) :
    ∃ token, result.emitted = some token ∧ token.position = position ∧
      token.IsWrittenAs result.consumed := by
  unfold delimited at done
  split at done
  next => cases done; exact ⟨_, rfl, rfl, rfl⟩
  next => contradiction

/-- A value that is found consumes its written form. -/
theorem written_of_value {position : Position} {quote : Char} {source : Text}
    {failure : Position → LexError} {result : Step} (isQuote : quote = '"' ∨ quote = '\'')
    (done : delimited .attributeValue position [quote] source failure = .ok result) :
    ∃ token, result.emitted = some token ∧ token.position = position ∧
      token.IsWrittenAs result.consumed := by
  unfold delimited at done
  split at done
  next value after found =>
    cases done
    obtain ⟨-, outside⟩ := (Text.cutAt_eq_some_iff (List.cons_ne_nil _ _)).mp found
    have absent : quote ∉ value := by simpa [List.singleton_infix_iff] using outside
    exact ⟨_, rfl, rfl, quote, isQuote, absent, rfl⟩
  next => contradiction

/-- What a step can do: skip a blank, skip the at sign that closes a head, or consume the written form
    of a token. -/
theorem step_cases {position : Position} {afterHead : Bool} {first : Char} {rest : Text}
    {result : Step} (done : step position afterHead first rest = .ok result) :
    (Text.isBlank first = true ∧ result = ⟨none, [first], rest⟩) ∨
      (afterHead = true ∧ first = '@' ∧ rest.head? ≠ some '/' ∧ result = ⟨none, ['@'], rest⟩) ∨
      ∃ token, result.emitted = some token ∧ token.position = position ∧
        token.IsWrittenAs result.consumed := by
  unfold step at done
  split at done
  next blank => cases done; exact .inl ⟨blank, rfl⟩
  next =>
  split at done
  next atSign =>
    split at done
    next closes => cases done; exact .inr (.inl ⟨closes.1, atSign, closes.2, rfl⟩)
    next => exact .inr (.inr (written_of_tag done))
  next =>
  split at done
  next => exact .inr (.inr (written_of_comment done))
  next =>
  split at done
  next isQuote => exact .inr (.inr (written_of_value isQuote done))
  next =>
    cases done
    cases found : attributeName? position (first :: rest) with
    | some named =>
      unfold attributeName? at found
      dsimp only at found
      split at found
      next => cases found; exact .inr (.inr ⟨_, rfl, rfl, rfl⟩)
      next => contradiction
    | none => exact .inr (.inr ⟨_, rfl, rfl, rfl⟩)

end Characters

/-- Pieces that fit one behind the other, and a last gap behind them. `before` is what stands in front
    of them, and `previous` is its last token. -/
def Laid (before : Text) (previous : Option Token) (final : Text) : List Piece → Prop
  | [] => IsGap previous final []
  | piece :: rest =>
    piece.Fits before previous (Piece.join rest final) ∧ piece.lexeme ≠ [] ∧
      Laid (before ++ piece.text) (some piece.token) final rest

/-- Put together, a first piece comes in front of the others. -/
theorem Piece.join_cons (piece : Piece) (rest : List Piece) (final : Text) :
    join (piece :: rest) final = piece.text ++ join rest final := by
  rw [join, join, List.flatMap_cons, List.append_assoc]

/-- A blank may be added to a gap. -/
theorem IsGap.blank {previous : Option Token} {gap rest : Text} {c : Char}
    (gapped : IsGap previous gap (c :: rest)) (blank : Text.isBlank c = true) :
    IsGap previous (gap ++ [c]) rest := by
  rcases gapped with blanks | ⟨blanks, rfl, allBlank, unslashed, headed⟩
  · exact .inl (List.forall_mem_append.mpr ⟨blanks, Text.blank_singleton blank⟩)
  · refine .inr ⟨blanks ++ [c], rfl, ?_, by simpa using unslashed, headed⟩
    exact List.forall_mem_append.mpr ⟨allBlank, Text.blank_singleton blank⟩

/-- The tokens of a source are those of pieces that cover it.

    Induct on the length of the source still to be scanned. `gap` is what has been skipped since the
    last token; only if it is empty and that token can end a head, an at sign may begin the gap. -/
theorem laid_of_scanFrom (before gap : Text) {rest : Text} {previous : Option Token}
    {afterHead : Bool} {tokens : List Token} (gapped : IsGap previous gap rest)
    (headed : afterHead = true →
      gap = [] ∧ ∃ token ∈ previous, token.kind ∈ [Kind.tagOpen, .tagClose, .attributeValue])
    (scanned : Characters.scanFrom (.behind (before ++ gap)) afterHead rest = .ok tokens) :
    ∃ pieces final, gap ++ rest = Piece.join pieces final ∧
      tokens = Piece.tokens (before ++ gap ++ rest) pieces ∧ Laid before previous final pieces := by
  match rest with
  | [] =>
    rw [Characters.scanFrom_nil] at scanned
    cases scanned
    refine ⟨[], gap, by simp [Piece.join], by simp [Piece.tokens], gapped⟩
  | first :: others =>
    cases stepped : Characters.step (.behind (before ++ gap)) afterHead first others with
    | error failure =>
      rw [Characters.scanFrom_of_failure stepped] at scanned
      contradiction
    | ok result =>
      have shorter : result.rest.length < (first :: others).length :=
        Characters.length_of_step stepped
      obtain ⟨whole, consumed⟩ := Characters.exact_of_step stepped
      rw [Characters.scanFrom_of_step stepped, Result.map_eq_ok_iff] at scanned
      obtain ⟨later, scanned, rfl⟩ := scanned
      rw [Position.past_behind] at scanned
      rcases Characters.step_cases stepped with
        ⟨blank, rfl⟩ | ⟨ended, rfl, unslashed, rfl⟩ | ⟨token, emitted, position, written⟩
      · rw [List.append_assoc] at scanned
        obtain ⟨pieces, final, covered, listed, laid⟩ :=
          laid_of_scanFrom before (gap ++ [first]) (gapped.blank blank)
            (by simp [Characters.Step.endsHead]) scanned
        refine ⟨pieces, final, by simpa using covered, by simpa using listed, laid⟩
      · obtain ⟨rfl, head⟩ := headed ended
        have opened : IsGap previous ['@'] others :=
          .inr ⟨[], rfl, Text.blank_nil, unslashed, head⟩
        rw [List.append_nil] at scanned
        obtain ⟨pieces, final, covered, listed, laid⟩ :=
          laid_of_scanFrom before ['@'] opened (by simp [Characters.Step.endsHead]) scanned
        refine ⟨pieces, final, covered, by simpa using listed, laid⟩
      · have behindToken : result.endsHead = true → ([] : Text) = [] ∧
            ∃ token ∈ result.emitted,
              token.kind ∈ [Kind.tagOpen, .tagClose, .attributeValue] := by
          intro ends
          refine ⟨rfl, token, emitted, (endsHead_iff _).mp ?_⟩
          simpa [Characters.Step.endsHead, emitted] using ends
        rw [← List.append_nil (before ++ gap ++ result.consumed)] at scanned
        obtain ⟨pieces, final, covered, listed, laid⟩ :=
          laid_of_scanFrom _ [] (.inl Text.blank_nil) behindToken scanned
        rw [List.nil_append] at covered
        rw [emitted, List.append_assoc before] at laid
        refine ⟨⟨gap, token, result.consumed⟩ :: pieces, final, ?_, ?_, ⟨?_, written, position⟩,
          consumed, laid⟩
        · rw [Piece.join_cons, Piece.text, List.append_assoc, ← covered, whole]
        · rw [listed, emitted, ← whole]
          simp [Piece.tokens]
        · rwa [← covered, whole]
termination_by rest.length
decreasing_by all_goals exact shorter

/-- The first token of a run, and all the others, stand behind what stands before the run. -/
theorem Laid.position_of_mem {before final : Text} {previous : Option Token}
    {pieces : List Piece} (laid : Laid before previous final pieces) :
    ∀ token ∈ Piece.tokens (before ++ Piece.join pieces final) pieces,
      ∃ more, token.position = .behind (before ++ more) := by
  induction pieces generalizing before previous with
  | nil =>
    intro token member
    rw [List.mem_singleton.mp member]
    exact ⟨_, rfl⟩
  | cons piece rest ih =>
    obtain ⟨fits, -, laid⟩ := laid
    intro token member
    rcases List.mem_cons.mp member with rfl | later
    · exact ⟨piece.gap, fits.position⟩
    · rw [Piece.join_cons, ← List.append_assoc] at later
      obtain ⟨more, position⟩ := ih laid token later
      exact ⟨piece.text ++ more, by rw [position, List.append_assoc]⟩

/-- Each token stands before the ones behind it, since its written form is not empty. -/
theorem Laid.increasing {before final : Text} {previous : Option Token} {pieces : List Piece}
    (laid : Laid before previous final pieces) :
    (Piece.tokens (before ++ Piece.join pieces final) pieces).Pairwise
      fun first second => first.position.Precedes second.position := by
  induction pieces generalizing before previous with
  | nil => exact List.pairwise_singleton _ _
  | cons piece rest ih =>
    obtain ⟨fits, present, laid⟩ := laid
    rw [Piece.join_cons, ← List.append_assoc]
    refine List.pairwise_cons.mpr ⟨?_, ih laid⟩
    intro token member
    obtain ⟨more, position⟩ := laid.position_of_mem token member
    have split : before ++ piece.text ++ more = before ++ piece.gap ++ (piece.lexeme ++ more) := by
      simp [Piece.text]
    rw [fits.position, position, split]
    exact Position.precedes_behind _ (by simp [present])

/-- The end of the input is no piece. -/
theorem Laid.countP_isEnd {before final : Text} {previous : Option Token} {pieces : List Piece}
    (laid : Laid before previous final pieces) (source : Text) :
    (Piece.tokens source pieces).countP isEnd = 1 := by
  induction pieces generalizing before previous with
  | nil => rfl
  | cons piece rest ih =>
    obtain ⟨fits, -, laid⟩ := laid
    have inner : ¬ piece.token.isEnd = true := by simp [not_isEnd_of_isWrittenAs fits.lexeme]
    exact (List.countP_cons_of_neg inner).trans (ih laid)

/-- A locator that is asked for the offsets of pieces one after the other answers with the positions
    of their tokens. -/
theorem Laid.located {before final : Text} {previous : Option Token} {pieces : List Piece}
    (laid : Laid before previous final pieces) {locator : Locator}
    (tracks : locator.Tracks (before ++ Piece.join pieces final)) :
    locator.locateAll (Piece.offsets before.byteLength final pieces) =
      (Piece.tokens (before ++ Piece.join pieces final) pieces).map Token.position := by
  induction pieces generalizing before previous locator with
  | nil =>
    have whole : locator.Tracks (before ++ final ++ []) := by simpa [Piece.join] using tracks
    have asked := (Locator.locate_boundary whole).1
    rw [Text.byteLength_append] at asked
    exact congrArg (fun position => [position]) asked
  | cons piece rest ih =>
    obtain ⟨fits, -, laid⟩ := laid
    have parted : before ++ Piece.join (piece :: rest) final =
        before ++ piece.gap ++ (piece.lexeme ++ Piece.join rest final) := by
      simp [Piece.join_cons, Piece.text]
    rw [parted] at tracks
    obtain ⟨answer, tracked⟩ := Locator.locate_boundary tracks
    rw [Text.byteLength_append] at answer tracked
    have regrouped : before ++ piece.gap ++ (piece.lexeme ++ Piece.join rest final) =
        before ++ piece.text ++ Piece.join rest final := by simp [Piece.text]
    rw [regrouped] at tracked
    have later := ih laid tracked
    rw [Text.byteLength_append] at later
    rw [Piece.join_cons, ← List.append_assoc]
    simp only [Piece.offsets, Locator.locateAll, later, answer, ← fits.position]
    rfl

/-- The last token of several pieces is that of the last one behind the first, if there is one. -/
theorem Piece.lastToken_cons (first : Piece) (rest : List Piece) :
    (first :: rest).getLast?.map token = (rest.getLast?.map token).or (some first.token) := by
  rw [List.getLast?_cons]
  cases rest.getLast? <;> rfl

/-- A piece of a run fits where it stands. -/
theorem Laid.fits {before final : Text} {previous : Option Token} {front back : List Piece}
    {piece : Piece} (laid : Laid before previous final (front ++ piece :: back)) :
    piece.Fits (before ++ Piece.join front []) ((front.getLast?.map Piece.token).or previous)
      (Piece.join back final) := by
  induction front generalizing before previous with
  | nil => simpa [Piece.join] using laid.1
  | cons first rest ih =>
    have inner := ih laid.2.2
    rwa [Piece.join_cons, ← List.append_assoc, Piece.lastToken_cons, Option.or_assoc, Option.some_or]

/-- The last gap of a run is a gap behind its last token. -/
theorem Laid.closed {before final : Text} {previous : Option Token} {pieces : List Piece}
    (laid : Laid before previous final pieces) :
    IsGap ((pieces.getLast?.map Piece.token).or previous) final [] := by
  induction pieces generalizing before previous with
  | nil => exact laid
  | cons piece rest ih =>
    have inner := ih laid.2.2
    rwa [Piece.lastToken_cons, Option.or_assoc, Option.some_or]

/-- Scanning loses no input: the tokens of a source, put together with the gaps between them, are the
    source, and each of them stands where its written form begins. -/
theorem scan_covers {source : Text} {tokens : List Token} (scanned : scan source = .ok tokens) :
    ∃ pieces final, Covers source tokens pieces final := by
  rw [scan, scanFrom_split] at scanned
  have start : IsGap none [] source := .inl Text.blank_nil
  obtain ⟨pieces, final, whole, listed, laid⟩ := laid_of_scanFrom [] [] start (by simp) scanned
  rw [List.nil_append] at whole
  rw [List.append_nil, List.nil_append, whole] at listed
  refine ⟨pieces, final, whole, whole ▸ listed, ?_, ?_, ?_, ?_, ?_⟩
  · exact listed ▸ laid.countP_isEnd _
  · rintro front piece back rfl
    simpa using laid.fits
  · simpa using laid.closed
  · exact listed ▸ laid.increasing
  · rw [listed, whole]
    exact laid.located (Locator.tracks_new _)

/-- A source with an at sign behind a value, a break, and a blank at its end. -/
def terminatedSource : Text := "@a x='1'@ ##n##\n Hé@/a@ "

/-- The tokens of the source with an at sign behind a value. -/
def terminatedTokens : List Token :=
  [⟨.tagOpen, "a", ⟨1, 1⟩⟩, ⟨.attributeName, "x", ⟨1, 4⟩⟩, ⟨.attributeValue, "1", ⟨1, 6⟩⟩,
    ⟨.comment, "n", ⟨1, 11⟩⟩, ⟨.text, "Hé", ⟨2, 2⟩⟩, ⟨.tagClose, "a", ⟨2, 4⟩⟩,
    ⟨.endOfInput, "", ⟨2, 9⟩⟩]

/-- The source is scanned to its tokens, and they cover it. -/
theorem scan_covers_terminated :
    scan terminatedSource = .ok terminatedTokens ∧
      ∃ pieces final, Covers terminatedSource terminatedTokens pieces final := by
  have answered : (scan terminatedSource).toOption = some terminatedTokens := by decide +kernel
  have scanned : scan terminatedSource = .ok terminatedTokens := by
    cases result : scan terminatedSource with
    | error failure =>
      rw [result] at answered
      cases answered
    | ok tokens =>
      rw [result] at answered
      cases answered
      rfl
  exact ⟨scanned, scan_covers scanned⟩

end FlashMarkup.Token
