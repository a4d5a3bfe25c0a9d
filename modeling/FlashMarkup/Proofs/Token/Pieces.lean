import FlashMarkup.Proofs.Document.Source
import FlashMarkup.Proofs.Lexeme
import FlashMarkup.Proofs.Result
import FlashMarkup.Proofs.Token.Characters

/-!
# Scanning a source piece by piece

A written document is a concatenation of small pieces, each of which stands for one token or for
none. A piece is scanned as its token only in front of certain texts: a name must not be followed
by another character of a name, and a text must be followed by a tag, a comment or the end. Each
law names the condition of its piece, and pieces that follow one another are scanned one after the
other.
-/

namespace FlashMarkup.Token.Characters

open Lexeme (isWordChar)
open Text (EndsRun)

/-- Whether a piece of a source is scanned as the given tokens in front of a text. `before` and
    `after` say whether a tag head may have ended just before the piece and just before the text
    behind it. -/
def Scans (position : Position) (before : Bool) (piece : Text) (tokens : List Token) (after : Bool)
    (rest : Text) : Prop :=
  scanFrom position before (piece ++ rest) =
    (scanFrom (position.past piece) after rest).map (tokens ++ ·)

/-- No piece is no token. -/
theorem scans_nil (position : Position) (before : Bool) (rest : Text) :
    Scans position before [] [] before rest := by
  unfold Scans
  exact (congrFun Except.map_id _).symm

/-- Pieces that follow one another are scanned as the tokens of the first and those of the second. -/
theorem scans_append {position : Position} {before between after : Bool}
    {first second rest : Text} {front back : List Token}
    (firstScans : Scans position before first front between (second ++ rest))
    (secondScans : Scans (position.past first) between second back after rest) :
    Scans position before (first ++ second) (front ++ back) after rest := by
  unfold Scans at *
  rw [List.append_assoc, firstScans, secondScans, Result.map_map, Position.past_append]
  simp only [List.append_assoc]

/-- A piece that one step consumes is scanned as the token that the step emits. -/
theorem scans_of_step {position : Position} {before : Bool} {first : Char} {others rest : Text}
    {emitted : Option Token}
    (done : step position before first (others ++ rest) = .ok ⟨emitted, first :: others, rest⟩) :
    Scans position before (first :: others) emitted.toList (emitted.any (·.kind.endsHead)) rest :=
  scanFrom_of_step done

/-- A space is skipped. -/
theorem scans_space (position : Position) (before : Bool) (rest : Text) :
    Scans position before [' '] [] false rest :=
  scans_of_step (show step position before ' ' ([] ++ rest) = .ok ⟨none, [' '], rest⟩ from rfl)

/-- The character that ends a head is skipped, unless it is an at sign in front of a slash. -/
theorem scans_terminator (layout : Layout) (position : Position) {rest : Text}
    (unslashed : layout = .compact → rest.head? ≠ some '/') :
    Scans position true [layout.terminator] [] false rest := by
  cases layout with
  | spaced => exact scans_space position true rest
  | compact =>
    have ended : step position true '@' ([] ++ rest) = .ok ⟨none, ['@'], rest⟩ := by
      simp [step, unslashed rfl, show Text.isBlank '@' = false from rfl]
    exact scans_of_step ended

/-- A tag name in front of a text that does not continue it. -/
theorem tagName_ok (kind : Kind) (position : Position) (mark : Text) {name rest : Text}
    (named : Source.IsName name) (ends : EndsRun isWordChar rest) :
    tagName kind position mark (name ++ rest) =
      .ok ⟨some ⟨kind, name, position⟩, mark ++ name, rest⟩ := by
  simp [tagName, Text.takeWhile_run named.2 ends, Text.dropWhile_run named.2 ends, named.1]

/-- An opening tag up to the end of its name is one token. -/
theorem scans_opening (position : Position) {name rest : Text} (named : Source.IsName name)
    (ends : EndsRun isWordChar rest) :
    Scans position false ('@' :: name) [⟨.tagOpen, name, position⟩] true rest := by
  have slashless : (name ++ rest).head? ≠ some '/' := by
    obtain ⟨present, word⟩ := named
    obtain ⟨c, others, rfl⟩ := List.exists_cons_of_ne_nil present
    rintro slash
    obtain rfl := Option.some.inj slash
    exact absurd (word '/' List.mem_cons_self) (by decide)
  have tagged : step position false '@' (name ++ rest) =
      .ok ⟨some ⟨.tagOpen, name, position⟩, '@' :: name, rest⟩ := by
    simp [step, tag, if_neg slashless, tagName_ok _ _ _ named ends,
      show Text.isBlank '@' = false from rfl, -List.head?_append]
  exact scans_of_step tagged

/-- A closing tag up to the end of its name is one token. -/
theorem scans_closing (position : Position) (before : Bool) {name rest : Text}
    (named : Source.IsName name) (ends : EndsRun isWordChar rest) :
    Scans position before ('@' :: '/' :: name) [⟨.tagClose, name, position⟩] true rest := by
  have tagged : step position before '@' ('/' :: name ++ rest) =
      .ok ⟨some ⟨.tagClose, name, position⟩, '@' :: '/' :: name, rest⟩ := by
    simp [step, tag, tagName_ok _ _ _ named ends, show Text.isBlank '@' = false from rfl]
  exact scans_of_step tagged

/-- The characters that open a tag, a comment or a value, and the slash, are not in names. -/
theorem ne_of_isWordChar {c : Char} (word : isWordChar c = true) :
    c ≠ '@' ∧ c ≠ '#' ∧ c ≠ '"' ∧ c ≠ '\'' ∧ c ≠ '=' := by
  refine ⟨?_, ?_, ?_, ?_, ?_⟩ <;> rintro rfl <;> exact absurd word (by decide)

/-- A character of a name may begin the name of an attribute exactly if it is no digit. -/
theorem mayBegin_iff {c : Char} (word : isWordChar c = true) :
    (c.isAlpha || c == '_') = true ↔ c.isDigit = false := by
  have code := Lexeme.code_of_isWordChar word
  have underscore : c = '_' ↔ c.toNat = 95 :=
    ⟨by rintro rfl; rfl, fun same => Char.toNat_inj.mp same⟩
  rw [Bool.or_eq_true, beq_iff_eq, Lexeme.isAlpha_iff, underscore, ← Bool.not_eq_true,
    Lexeme.isDigit_iff]
  omega

/-- The word in front of a source and the equals sign behind it are an attribute name exactly if
    the word can be one. -/
theorem attributeName_eq_some_iff {position : Position} {source : Text} {result : Step} :
    attributeName? position source = some result ↔
      ∃ name rest, source = name ++ '=' :: rest ∧ Source.IsAttributeName name ∧
        result = ⟨some ⟨.attributeName, name, position⟩, name ++ ['='], rest⟩ := by
  have endsName (rest : Text) : EndsRun isWordChar ('=' :: rest) := by
    rintro c first
    obtain rfl := Option.some.inj first
    rfl
  have begins {name : Text} (word : ∀ c ∈ name, isWordChar c = true) :
      name.head?.any (fun c => c.isAlpha || c == '_') = true ↔
        name ≠ [] ∧ ∀ c ∈ name.head?, c.isDigit = false := by
    cases name with
    | nil => simp
    | cons c others => simpa using mayBegin_iff (word c List.mem_cons_self)
  unfold attributeName?
  dsimp only
  constructor
  · intro found
    split at found
    next both =>
      have word : ∀ c ∈ source.takeWhile isWordChar, isWordChar c = true :=
        fun c member => List.mem_takeWhile_imp member
      obtain ⟨rest, behind⟩ := List.head?_eq_some_iff.mp both.2
      obtain ⟨present, noDigit⟩ := (begins word).mp both.1
      refine ⟨_, rest, ?_, ⟨⟨present, word⟩, noDigit⟩, ?_⟩
      · rw [← behind, List.takeWhile_append_dropWhile]
      · rw [← Option.some.inj found, behind, List.tail_cons]
    next => contradiction
  · rintro ⟨name, rest, rfl, ⟨⟨present, word⟩, noDigit⟩, rfl⟩
    have first := (begins word).mpr ⟨present, noDigit⟩
    simp [Text.takeWhile_run word (endsName rest), Text.dropWhile_run word (endsName rest), first]

/-- An attribute name with its equals sign is one token. -/
theorem scans_attributeName (position : Position) (before : Bool) {name : Text}
    (named : Source.IsAttributeName name) (rest : Text) :
    Scans position before (name ++ ['=']) [⟨.attributeName, name, position⟩] false rest := by
  have found : attributeName? position (name ++ '=' :: rest) =
      some ⟨some ⟨.attributeName, name, position⟩, name ++ ['='], rest⟩ :=
    attributeName_eq_some_iff.mpr ⟨name, rest, rfl, named, rfl⟩
  obtain ⟨⟨present, word⟩, noDigit⟩ := named
  obtain ⟨c, others, rfl⟩ := List.exists_cons_of_ne_nil present
  have letter := word c List.mem_cons_self
  obtain ⟨noTag, noHash, noDouble, noSingle, -⟩ := ne_of_isWordChar letter
  have stepped : step position before c (others ++ ['='] ++ rest) =
      .ok ⟨some ⟨.attributeName, c :: others, position⟩, c :: (others ++ ['=']), rest⟩ := by
    have whole : c :: (others ++ ['='] ++ rest) = c :: others ++ '=' :: rest := by simp
    simp only [step, whole, found, Lexeme.isBlank_of_isWordChar letter, noTag, noDouble, noSingle]
    simp [List.cons_prefix_cons, Ne.symm noHash]
  exact scans_of_step stepped

/-- The quote for a value is a quote and does not occur in it. -/
theorem quoteFor_spec {value : Text} (valued : Source.IsValue value) :
    (Source.quoteFor value = '"' ∨ Source.quoteFor value = '\'') ∧
      Source.quoteFor value ∉ value := by
  unfold Source.quoteFor
  split
  next double => exact ⟨.inr rfl, fun single => valued ⟨double, single⟩⟩
  next noDouble => exact ⟨.inl rfl, noDouble⟩

/-- A value between quotes is one token. -/
theorem scans_value (position : Position) (before : Bool) {value : Text}
    (valued : Source.IsValue value) (rest : Text) :
    Scans position before (Source.quoteFor value :: value ++ [Source.quoteFor value])
      [⟨.attributeValue, value, position⟩] true rest := by
  obtain ⟨isQuote, absent⟩ := quoteFor_spec valued
  generalize Source.quoteFor value = quote at isQuote absent ⊢
  have cut := Text.cutAt_single absent rest
  have stepped : step position before quote (value ++ [quote] ++ rest) =
      .ok ⟨some ⟨.attributeValue, value, position⟩, quote :: (value ++ [quote]), rest⟩ := by
    rcases isQuote with rfl | rfl <;>
      simp [step, delimited, cut, List.cons_prefix_cons, Text.isBlank]
  exact scans_of_step stepped

/-- A comment is one token. -/
theorem scans_comment (position : Position) (before : Bool) {content : Text}
    (commented : Source.IsComment content) (rest : Text) :
    Scans position before (Source.comment content) [⟨.comment, content, position⟩] false rest := by
  have outside := Source.not_hashes_infix_of_isComment commented
  have cut : Text.cutAt? ['#', '#'] (content ++ '#' :: '#' :: rest) = some (content, rest) :=
    (Text.cutAt_eq_some_iff (List.cons_ne_nil _ _)).mpr ⟨by simp, outside⟩
  have stepped : step position before '#' ('#' :: content ++ ['#', '#'] ++ rest) =
      .ok ⟨some ⟨.comment, content, position⟩, Source.comment content, rest⟩ := by
    simp [step, delimited, cut, Source.comment, Text.isBlank]
  exact scans_of_step stepped

/-- Whether a text in front of these characters ends there. -/
def StopsText (rest : Text) : Prop := rest = [] ∨ rest.head? = some '@' ∨ ['#', '#'] <+: rest

/-- No character belongs to a text that ends at once. -/
theorem spanText_of_stopsText {rest : Text} (stops : StopsText rest) :
    spanText rest = ([], rest) := by
  cases rest with
  | nil => rfl
  | cons c others =>
    have delimiter : c = '@' ∨ ['#', '#'] <+: c :: others := by simpa [StopsText] using stops
    rw [spanText, if_pos delimiter]

/-- A text that may be written is not the beginning of an attribute, also together with what ends
    it. -/
theorem attributeName_of_isPlain (position : Position) {content rest : Text}
    (written : Source.IsPlain content) (stops : StopsText rest) :
    attributeName? position (content ++ rest) = none := by
  rw [Option.eq_none_iff_forall_ne_some]
  intro result found
  obtain ⟨name, behind, whole, named, -⟩ := attributeName_eq_some_iff.mp found
  have noWord : ∀ c ∈ rest.head?, isWordChar c = false ∧ c ≠ '=' := by
    intro c first
    rcases stops with rfl | atSign | ⟨others, rfl⟩
    · contradiction
    · obtain rfl := Option.some.inj (atSign.symm.trans first)
      decide
    · obtain rfl := Option.some.inj first
      decide
  rcases List.append_eq_append_iff.mp whole with ⟨others, rfl, behind⟩ | ⟨others, rfl, equals⟩
  · cases others with
    | nil =>
      obtain rfl := behind
      exact (noWord '=' rfl).2 rfl
    | cons c more =>
      obtain rfl := behind
      have word := named.1.2 c (List.mem_append_right content List.mem_cons_self)
      rw [(noWord c rfl).1] at word
      contradiction
  · cases others with
    | nil =>
      obtain rfl := equals
      exact (noWord '=' rfl).2 rfl
    | cons c more =>
      obtain ⟨rfl, -⟩ := List.cons.inj equals
      exact written.unnamed name named ⟨more, by simp⟩

/-- A text is one token in front of what ends it, unless its last hash belongs to a comment. -/
theorem scans_plain (position : Position) (before : Bool) {content rest : Text}
    (written : Source.IsPlain content) (stops : StopsText rest)
    (border : content.getLast? = some '#' → rest.head? ≠ some '#') :
    Scans position before content [⟨.text, content, position⟩] false rest := by
  have unnamed := attributeName_of_isPlain position written stops
  have noComment : ¬ ['#', '#'] <:+: content ++ rest.take 1 := by
    cases rest with
    | nil => simpa using written.noComment
    | cons c others =>
      rw [List.take_succ_cons, List.take_zero, Source.hashes_infix_concat_iff]
      rintro (inside | ⟨last, rfl⟩)
      · exact written.noComment inside
      · exact border last rfl
  have span := spanText_piece written.noTag noComment
  rw [spanText_of_stopsText stops, List.append_nil] at span
  obtain ⟨c, others, rfl⟩ := List.exists_cons_of_ne_nil written.present
  obtain ⟨visible, noDouble, noSingle⟩ := written.begins c rfl
  have noTag : c ≠ '@' := by
    rintro rfl
    exact written.noTag List.mem_cons_self
  have opensNone : ¬ ['#', '#'] <+: c :: (others ++ rest) := by
    intro opens
    rw [List.cons_append, spanText, if_pos (.inr opens)] at span
    exact List.cons_ne_nil _ _ (congrArg Prod.fst span).symm
  have stepped : step position before c (others ++ rest) =
      .ok ⟨some ⟨.text, c :: others, position⟩, c :: others, rest⟩ := by
    rw [List.cons_append] at unnamed span
    simp [step, visible, noTag, opensNone, noDouble, noSingle, unnamed, plain, span]
  exact scans_of_step stepped

end FlashMarkup.Token.Characters
