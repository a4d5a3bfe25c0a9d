import FlashMarkup.Proofs.Token.Pieces
import Mathlib.Data.List.Chain

/-!
# What tokens can be

The value of a token has the form that its kind asks for, whatever the source is, and some kinds of
tokens are never neighbours. Each step of scanning gives a valid token, and where the token is a
text the step leaves a source whose first token is no text: this is what one step keeps, and by
induction on the source it holds of all its tokens.
-/

namespace FlashMarkup.Token

/-- Whether the value of a token has the form of its kind. -/
def Valid (token : Token) : Prop :=
  match token.kind with
  | .tagOpen | .tagClose => Source.IsName token.value
  | .attributeName => Source.IsAttributeName token.value
  | .attributeValue => Source.IsValue token.value
  | .text => Source.IsPlain token.value
  | .comment => Source.IsComment token.value
  | .endOfInput => True

/-- Whether a token can stand directly in front of another one: a text is followed by no text, and
    by no comment if it ends in a hash. -/
def MayPrecede (token next : Token) : Prop :=
  token.kind = .text →
    next.kind ≠ .text ∧ (next.kind = .comment → token.value.getLast? ≠ some '#')

namespace Characters

open Lexeme (isWordChar)

/-- What a step may emit: a valid token which, if it is a text, ends where the step ends. -/
def Step.Sound (step : Step) : Prop :=
  ∀ token ∈ step.emitted, token.Valid ∧
    (token.kind = .text →
      StopsText step.rest ∧ (token.value.getLast? = some '#' → step.rest.head? ≠ some '#'))

/-- A step is sound if its token is valid and no text. -/
theorem sound_of_valid {step : Step} {token : Token} (emitted : step.emitted = some token)
    (valid : token.Valid) (noText : token.kind ≠ .text) : step.Sound := by
  intro other same
  obtain rfl := Option.some.inj (emitted.symm.trans same)
  exact ⟨valid, fun text => absurd text noText⟩

/-- A tag name that is found is a name. -/
theorem sound_of_tagName {kind : Kind} {position : Position} {mark source : Text} {result : Step}
    (tag : kind = .tagOpen ∨ kind = .tagClose)
    (done : tagName kind position mark source = .ok result) : result.Sound := by
  unfold tagName at done
  dsimp only at done
  split at done
  next => contradiction
  next present =>
    cases done
    have named : Source.IsName (source.takeWhile isWordChar) :=
      ⟨present, fun c member => List.mem_takeWhile_imp member⟩
    rcases tag with rfl | rfl <;> exact sound_of_valid rfl named (by simp)

/-- A tag that is found has a name. -/
theorem sound_of_tag {position : Position} {source : Text} {result : Step}
    (done : tag position source = .ok result) : result.Sound := by
  unfold tag at done
  split at done
  next => exact sound_of_tagName (.inr rfl) done
  next => exact sound_of_tagName (.inl rfl) done

/-- A comment that is found does not contain its closing delimiter. -/
theorem sound_of_comment {position : Position} {source : Text} {failure : Position → LexError}
    {result : Step} (done : delimited .comment position ['#', '#'] source failure = .ok result) :
    result.Sound := by
  unfold delimited at done
  split at done
  next value after found =>
    cases done
    obtain ⟨-, outside⟩ := (Text.cutAt_eq_some_iff (List.cons_ne_nil _ _)).mp found
    rw [show ['#', '#'].dropLast = ['#'] from rfl, Source.hashes_infix_concat_iff, not_or] at outside
    have commented : Source.IsComment value := ⟨outside.1, fun last => outside.2 ⟨last, rfl⟩⟩
    exact sound_of_valid rfl commented (by simp)
  next => contradiction

/-- A value that is found does not contain its quote. -/
theorem sound_of_value {position : Position} {quote : Char} {source : Text}
    {failure : Position → LexError} {result : Step} (isQuote : quote = '"' ∨ quote = '\'')
    (done : delimited .attributeValue position [quote] source failure = .ok result) :
    result.Sound := by
  unfold delimited at done
  split at done
  next value after found =>
    cases done
    obtain ⟨-, outside⟩ := (Text.cutAt_eq_some_iff (List.cons_ne_nil _ _)).mp found
    have absent : quote ∉ value := by
      simpa [List.singleton_infix_iff] using outside
    have valued : Source.IsValue value := by
      rintro ⟨double, single⟩
      rcases isQuote with rfl | rfl
      · exact absent double
      · exact absent single
    exact sound_of_valid rfl valued (by simp)
  next => contradiction

/-- Where a text is cut off, a tag, a comment or the end of the source stands, and none of them
    stands before. -/
theorem spanText_spec (source : Text) :
    StopsText (spanText source).2 ∧ '@' ∉ (spanText source).1 ∧
      ¬ ['#', '#'] <:+: (spanText source).1 ++ (spanText source).2.take 1 := by
  induction source with
  | nil => exact ⟨.inl rfl, List.not_mem_nil, by simp [spanText]⟩
  | cons c rest ih =>
    unfold spanText
    split
    next delimiter =>
      refine ⟨?_, List.not_mem_nil, ?_⟩
      · rcases delimiter with rfl | hashes
        · exact .inr (.inl rfl)
        · exact .inr (.inr hashes)
      · intro inside
        simpa using inside.length_le
    next inside =>
      rw [not_or] at inside
      obtain ⟨stops, noTag, noComment⟩ := ih
      refine ⟨stops, ?_, ?_⟩
      · rintro member
        rcases List.mem_cons.mp member with same | later
        · exact inside.1 same.symm
        · exact noTag later
      · rw [List.cons_append, List.infix_cons_iff, not_or]
        have front : (spanText rest).1 ++ (spanText rest).2.take 1 <+: rest :=
          ((List.prefix_append_right_inj _).mpr (List.take_prefix 1 _)).trans
            (by rw [spanText_append])
        refine ⟨?_, noComment⟩
        intro opens
        exact inside.2 (opens.trans (List.cons_prefix_cons.mpr ⟨rfl, front⟩))

/-- A text that is found is plain and ends where it stops. -/
theorem sound_of_plain (position : Position) {c : Char} {rest : Text}
    (visible : Text.isBlank c = false) (noTag : c ≠ '@') (noComment : ¬ ['#', '#'] <+: c :: rest)
    (noQuote : c ≠ '"' ∧ c ≠ '\'') (unnamed : attributeName? position (c :: rest) = none) :
    (plain position (c :: rest)).Sound := by
  obtain ⟨stops, tagless, outside⟩ := spanText_spec (c :: rest)
  have whole := spanText_append (c :: rest)
  have front : (spanText (c :: rest)).1 = c :: (spanText rest).1 := by
    rw [spanText, if_neg (not_or.mpr ⟨noTag, noComment⟩)]
  have written : Source.IsPlain (spanText (c :: rest)).1 := by
    refine ⟨by simp [front], tagless, ?_, ?_, ?_⟩
    · intro inside
      exact outside (inside.trans (List.prefix_append _ _).isInfix)
    · intro d first
      rw [front] at first
      obtain rfl := Option.some.inj first
      exact ⟨visible, noQuote⟩
    · rintro name named ⟨others, same⟩
      have found : attributeName? position (c :: rest) = some ⟨some ⟨.attributeName, name, position⟩,
          name ++ ['='], others ++ (spanText (c :: rest)).2⟩ := by
        have split : c :: rest = name ++ '=' :: (others ++ (spanText (c :: rest)).2) :=
          whole.symm.trans (by rw [← same]; simp)
        exact attributeName_eq_some_iff.mpr ⟨name, _, split, named, rfl⟩
      rw [unnamed] at found
      contradiction
  intro token same
  obtain rfl := Option.some.inj (show some _ = some token from same)
  refine ⟨written, ?_⟩
  intro _
  refine ⟨stops, ?_⟩
  intro last hash
  obtain ⟨others, behind⟩ := List.head?_eq_some_iff.mp
    (show (spanText (c :: rest)).2.head? = some '#' from hash)
  rw [behind, List.take_succ_cons, List.take_zero, Source.hashes_infix_concat_iff] at outside
  exact outside (.inr ⟨last, rfl⟩)

/-- Every step is sound. -/
theorem sound_of_step {position : Position} {afterHead : Bool} {first : Char} {rest : Text}
    {result : Step} (done : step position afterHead first rest = .ok result) : result.Sound := by
  have soundOfNone (consumed left : Text) : (⟨none, consumed, left⟩ : Step).Sound :=
    fun token emitted => absurd emitted (by simp)
  unfold step at done
  split at done
  next => cases done; exact soundOfNone _ _
  next visible =>
  split at done
  next =>
    split at done
    next => cases done; exact soundOfNone _ _
    next => exact sound_of_tag done
  next noTag =>
  split at done
  next => exact sound_of_comment done
  next noComment =>
  split at done
  next isQuote => exact sound_of_value isQuote done
  next noQuote =>
    cases done
    cases found : attributeName? position (first :: rest) with
    | some named =>
      obtain ⟨name, others, -, valid, rfl⟩ := attributeName_eq_some_iff.mp found
      exact sound_of_valid rfl valid (by simp)
    | none =>
      exact sound_of_plain position (by simpa using visible) noTag noComment (not_or.mp noQuote) found

/-- A tag that is found is a token for a tag. -/
theorem kind_of_tag {position : Position} {source : Text} {result : Step}
    (done : tag position source = .ok result) :
    ∃ token, result.emitted = some token ∧ (token.kind = .tagOpen ∨ token.kind = .tagClose) := by
  unfold tag tagName at done
  dsimp only at done
  split at done
  next =>
    split at done
    next => contradiction
    next => cases done; exact ⟨_, rfl, .inr rfl⟩
  next =>
    split at done
    next => contradiction
    next => cases done; exact ⟨_, rfl, .inl rfl⟩

/-- A delimited token that is found has the kind looked for. -/
theorem kind_of_delimited {kind : Kind} {position : Position} {delimiter source : Text}
    {failure : Position → LexError} {result : Step}
    (done : delimited kind position delimiter source failure = .ok result) :
    ∃ token, result.emitted = some token ∧ token.kind = kind := by
  unfold delimited at done
  split at done
  next => cases done; exact ⟨_, rfl, rfl⟩
  next => contradiction

/-- Where a text has stopped, the next step gives no text, and a comment only at a hash. -/
theorem step_of_stopsText {position : Position} {c : Char} {others : Text} {result : Step}
    (stops : StopsText (c :: others)) (done : step position false c others = .ok result) :
    ∃ token, result.emitted = some token ∧ token.kind ≠ .text ∧
      (token.kind = .comment → c = '#') := by
  rcases stops with absent | atSign | hashes
  · contradiction
  · obtain rfl := Option.some.inj atSign
    have tagged : tag position others = .ok result := by
      simpa [step, show Text.isBlank '@' = false from rfl] using done
    obtain ⟨token, emitted, kind⟩ := kind_of_tag tagged
    rcases kind with kind | kind <;> exact ⟨token, emitted, by simp [kind], by simp [kind]⟩
  · obtain ⟨more, same⟩ := hashes
    obtain ⟨rfl, rfl⟩ := List.cons.inj same
    have found : delimited .comment position ['#', '#'] more (.unterminatedComment position) =
        .ok result := by
      simpa [step, show Text.isBlank '#' = false from rfl] using done
    obtain ⟨token, emitted, kind⟩ := kind_of_delimited found
    exact ⟨token, emitted, by simp [kind], fun _ => rfl⟩

/-- The first token where a text has stopped is no text, and a comment only if a hash stands
    there. -/
theorem head_of_stopsText {position : Position} {rest : Text} {tokens : List Token}
    (stops : StopsText rest) (scanned : scanFrom position false rest = .ok tokens) :
    ∀ next ∈ tokens.head?, next.kind ≠ .text ∧ (next.kind = .comment → rest.head? = some '#') := by
  intro next head
  cases rest with
  | nil =>
    rw [scanFrom_nil] at scanned
    cases scanned
    obtain rfl := Option.some.inj head
    simp
  | cons c others =>
    cases stepped : step position false c others with
    | error failure =>
      rw [scanFrom_of_failure stepped] at scanned
      contradiction
    | ok result =>
      rw [scanFrom_of_step stepped, Result.map_eq_ok_iff] at scanned
      obtain ⟨later, -, rfl⟩ := scanned
      obtain ⟨token, emitted, noText, hash⟩ := step_of_stopsText stops stepped
      rw [emitted] at head
      obtain rfl := Option.some.inj head
      exact ⟨noText, fun comment => congrArg some (hash comment)⟩

/-- All tokens of a source are valid, and no two of them are wrong neighbours.

    Induct on the length of the source: the step at its front is sound, and what it leaves is
    shorter. -/
theorem valid_of_scanFrom {position : Position} {afterHead : Bool} {source : Text}
    {tokens : List Token} (scanned : scanFrom position afterHead source = .ok tokens) :
    (∀ token ∈ tokens, token.Valid) ∧ tokens.IsChain MayPrecede := by
  match source with
  | [] =>
    rw [scanFrom_nil] at scanned
    cases scanned
    exact ⟨by simp [Valid], .singleton _⟩
  | first :: rest =>
    cases stepped : step position afterHead first rest with
    | error failure =>
      rw [scanFrom_of_failure stepped] at scanned
      contradiction
    | ok result =>
      have shorter : result.rest.length < (first :: rest).length := length_of_step stepped
      rw [scanFrom_of_step stepped, Result.map_eq_ok_iff] at scanned
      obtain ⟨later, scanned, rfl⟩ := scanned
      obtain ⟨valid, chain⟩ := valid_of_scanFrom scanned
      cases emitted : result.emitted with
      | none => exact ⟨by simpa using valid, by simpa using chain⟩
      | some token =>
        obtain ⟨tokenValid, ends⟩ := sound_of_step stepped token emitted
        refine ⟨by simpa using ⟨tokenValid, valid⟩, ?_⟩
        rw [Option.toList_some, List.singleton_append, List.isChain_cons]
        refine ⟨?_, chain⟩
        intro next head text
        obtain ⟨stops, border⟩ := ends text
        have headless : result.endsHead = false := by
          simp [Step.endsHead, emitted, text, Kind.endsHead]
        rw [headless] at scanned
        obtain ⟨noText, hash⟩ := head_of_stopsText stops scanned next head
        exact ⟨noText, fun comment last => border last (hash comment)⟩
termination_by source.length
decreasing_by all_goals exact shorter

end Characters

end FlashMarkup.Token
