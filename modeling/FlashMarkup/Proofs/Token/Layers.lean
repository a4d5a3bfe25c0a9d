import FlashMarkup.Proofs.Lexeme
import FlashMarkup.Proofs.Token.Characters

/-!
# One layer and two

Scanning lexemes and scanning characters give the same tokens and the same failures. The
invariant is that the lexemes still to be read are always the ones that the remaining source
would be split into by itself, so that every question a step asks about lexemes is a question
about characters: a lexeme of some class comes next, a lexeme of some class comes later, a word
lexeme is all of a word.
-/

namespace FlashMarkup.Token

open Lexeme (Leads Kind.ofChar split split_append split_induction isWordChar)

/-- The lexemes of a class are the occurrences of a delimiter: a first lexeme of the class is the
    delimiter, and in any other first lexeme the delimiter does not begin. -/
def Delimits (kind : Lexeme.Kind) (delimiter : Text) : Prop :=
  ∀ (lexeme : Lexeme) (rest : Text), Leads lexeme rest →
    if lexeme.kind = kind then lexeme.text = delimiter
    else Text.cutAt? delimiter (lexeme.text ++ rest) =
      (Text.cutAt? delimiter rest).map fun (before, after) => (lexeme.text ++ before, after)

/-- A character that always stands alone in its class delimits by itself. -/
theorem delimits_single {q : Char} (alone : (Kind.ofChar q).grows = false)
    (only : ∀ c, Kind.ofChar c = Kind.ofChar q → c = q) : Delimits (Kind.ofChar q) [q] := by
  intro lexeme rest leads
  split
  next same =>
    cases leads with
    | @single c => rw [only c same]
    | run grows =>
      rw [show Kind.ofChar _ = Kind.ofChar q from same, alone] at grows
      contradiction
    | pair => exact absurd same.symm (Lexeme.ofChar_ne_commentDelimiter q)
    | lone =>
      rw [← show Lexeme.Kind.hash = Kind.ofChar q from same] at alone
      contradiction
  next different =>
    apply Text.cutAt_append
    intro member
    rcases leads.kind_of_mem member with same | ⟨_, rfl⟩
    · exact different same
    · contradiction

/-- Comment delimiters are the occurrences of two hashes. An odd hash at the end of a run is not
    followed by another one, so no occurrence begins there. -/
theorem delimits_comment : Delimits .commentDelimiter ['#', '#'] := by
  intro lexeme rest leads
  split
  next same =>
    cases leads with
    | single => exact absurd same (Lexeme.ofChar_ne_commentDelimiter _)
    | run => exact absurd same (Lexeme.ofChar_ne_commentDelimiter _)
    | pair => rfl
    | lone => contradiction
  next different =>
    by_cases hash : '#' ∈ lexeme.text
    · obtain ⟨lone, ends⟩ := leads.lone_of_mem different hash
      have absent : ¬ ['#', '#'] <+: '#' :: rest := by
        rintro ⟨others, same⟩
        exact ends (by rw [← (List.cons.inj same).2]; rfl)
      rw [lone]
      exact Text.cutAt_cons absent
    · exact Text.cutAt_append hash rest

/-- The first lexeme of a class is found where its delimiter first occurs. What is left behind it
    is split as a source of its own. -/
theorem enclosed_split {kind : Lexeme.Kind} {delimiter : Text} (delimits : Delimits kind delimiter)
    (visible : delimiter ≠ []) (source : Text) :
    (enclosed kind (split source)).map
        (fun found => (Lexeme.concat found.1, found.2.1.text, found.2.2)) =
      (Text.cutAt? delimiter source).map
        fun cut => (cut.1, delimiter, split cut.2) := by
  induction source using split_induction with
  | nil => simp [Text.cutAt?, visible, show split [] = [] from rfl, enclosed]
  | append lexeme rest leads ih =>
    have decided := delimits lexeme rest leads
    rw [split_append leads]
    by_cases same : lexeme.kind = kind
    · rw [if_pos same] at decided
      rw [decided, Text.cutAt_self_append visible]
      simp [enclosed, same, decided, Lexeme.concat]
    · rw [if_neg same] at decided
      rw [decided]
      have shifted := congrArg
        (Option.map fun cut => (lexeme.text ++ cut.1, cut.2.1, cut.2.2)) ih
      simpa [enclosed, same, Option.map_map, Function.comp_def, Lexeme.concat] using shifted

/-- A step over characters as a step over lexemes: the rest is split. -/
def Characters.Step.lexed (step : Characters.Step) : Token.Step :=
  ⟨step.emitted, step.consumed, split step.rest⟩

/-- Delimited tokens are found in both layers alike, and so are missing delimiters. -/
theorem delimited_split (kind : Kind) (position : Position) (opening : Lexeme) (source : Text)
    (failure : Position → LexError) (delimits : Delimits opening.kind opening.text)
    (visible : opening.text ≠ []) :
    delimited kind position opening (split source) failure =
      (Characters.delimited kind position opening.text source failure).map
        Characters.Step.lexed := by
  have found := enclosed_split delimits visible source
  unfold delimited Characters.delimited
  cases lexemes : enclosed opening.kind (split source) with
  | none =>
    rw [lexemes, Option.map_none, eq_comm, Option.map_eq_none_iff] at found
    have whole : Lexeme.concat (opening :: split source) = opening.text ++ source :=
      congrArg (opening.text ++ ·) (Lexeme.concat_split source)
    simp only [found, whole]
    rfl
  | some result =>
    obtain ⟨inside, close, after⟩ := result
    rw [lexemes, Option.map_some, eq_comm, Option.map_eq_some_iff] at found
    obtain ⟨⟨before, behind⟩, cut, same⟩ := found
    simp only [Prod.mk.injEq] at same
    obtain ⟨rfl, closing, rfl⟩ := same
    simp only [cut, ← closing]
    rfl

/-- A source that begins with a character of a name is split into its first word and the rest. -/
theorem split_word {c : Char} {rest : Text} (word : isWordChar c = true) :
    split (c :: rest) = ⟨.word, (c :: rest).takeWhile isWordChar⟩ ::
      split ((c :: rest).dropWhile isWordChar) := by
  have leads : Leads ⟨.word, (c :: rest).takeWhile isWordChar⟩ _ := Lexeme.leads_word word
  have front := split_append leads
  rwa [List.takeWhile_append_dropWhile] at front

/-- A character that stands alone in its class is the first lexeme. -/
theorem split_single {c : Char} (alone : (Kind.ofChar c).grows = false) (rest : Text) :
    split (c :: rest) = ⟨Kind.ofChar c, [c]⟩ :: split rest :=
  split_append (.single alone)

/-- Whether a slash comes next can be seen from the next character. -/
theorem nextIs_slash_split (source : Text) :
    nextIs .slash (split source) = decide (source.head? = some '/') := by
  cases source with
  | nil => rfl
  | cons c rest =>
    obtain ⟨lexeme, behind, -, -, front, classed⟩ := Lexeme.exists_split c rest
    have slash : lexeme.kind = .slash ↔ c = '/' :=
      (classed .slash (by decide) (by decide)).trans Lexeme.ofChar_eq_single.2.1
    rw [front, Bool.eq_iff_iff]
    simp [nextIs, slash]

/-- A tag name is the same in both layers. -/
theorem tagName_split (kind : Kind) (position : Position) (mark source : Text) :
    tagName kind position mark (split source) =
      (Characters.tagName kind position mark source).map Characters.Step.lexed := by
  cases source with
  | nil => rfl
  | cons c rest =>
    by_cases word : isWordChar c = true
    · rw [split_word word]
      simp [tagName, Characters.tagName, word]
      rfl
    · obtain ⟨lexeme, behind, -, -, front, classed⟩ := Lexeme.exists_split c rest
      have other : lexeme.kind ≠ .word := by
        rw [Ne, classed .word (by decide) (by decide), Lexeme.ofChar_eq_word_iff]
        exact word
      rw [front]
      simp [tagName, Characters.tagName, word, other]
      rfl

/-- A tag is the same in both layers. -/
theorem tag_split (position : Position) (source : Text) :
    tag position ['@'] (split source) =
      (Characters.tag position source).map Characters.Step.lexed := by
  cases source with
  | nil => rfl
  | cons c rest =>
    by_cases slash : c = '/'
    · subst slash
      rw [split_single rfl]
      exact tagName_split .tagClose position ['@', '/'] rest
    · obtain ⟨lexeme, behind, -, -, front, classed⟩ := Lexeme.exists_split c rest
      have other : lexeme.kind ≠ .slash := by
        rw [Ne, classed .slash (by decide) (by decide), Lexeme.ofChar_eq_single.2.1]
        exact slash
      have named := tagName_split .tagOpen position ['@'] (c :: rest)
      rw [front] at named ⊢
      simpa [tag, Characters.tag, other, slash] using named

/-- An attribute name is the same in both layers: the lexeme of its word is followed by that of an
    equals sign. -/
theorem attributeName_split (position : Position) (source : Text) :
    attributeName? position ⟨.word, source.takeWhile isWordChar⟩
        (split (source.dropWhile isWordChar)) =
      (Characters.attributeName? position source).map Characters.Step.lexed := by
  unfold Characters.attributeName?
  generalize source.takeWhile isWordChar = name
  generalize source.dropWhile isWordChar = behind
  cases behind with
  | nil => simp [attributeName?, show split [] = [] from rfl]
  | cons c rest =>
    by_cases equals : c = '='
    · subst equals
      rw [split_single rfl]
      by_cases named : name.head?.any (fun c => c.isAlpha || c == '_') = true
      · simp [attributeName?, named, show Kind.ofChar '=' = .equals from rfl,
          Characters.Step.lexed]
      · simp [attributeName?, named]
    · obtain ⟨lexeme, others, -, -, front, classed⟩ := Lexeme.exists_split c rest
      have other : lexeme.kind ≠ .equals := by
        rw [Ne, classed .equals (by decide) (by decide), Lexeme.ofChar_eq_single.2.2.2.1]
        exact equals
      rw [front]
      simp [attributeName?, other, equals]

/-- A text ends in front of a lexeme exactly where a tag or a comment begins with its characters. -/
theorem spanText_of_leads {lexeme : Lexeme} {rest : Text} (leads : Leads lexeme rest) :
    Characters.spanText (lexeme.text ++ rest) =
      if endsText lexeme then ([], lexeme.text ++ rest)
      else (lexeme.text ++ (Characters.spanText rest).1, (Characters.spanText rest).2) := by
  split
  next ends =>
    simp only [endsText, Bool.or_eq_true, beq_iff_eq] at ends
    cases leads with
    | single alone =>
      have atSign := ends.resolve_right (Lexeme.ofChar_ne_commentDelimiter _)
      simp [Characters.spanText, Lexeme.ofChar_eq_single.1.mp atSign]
    | run grows =>
      have atSign := ends.resolve_right (Lexeme.ofChar_ne_commentDelimiter _)
      simp [show Kind.ofChar _ = .atSign from atSign, Lexeme.Kind.grows] at grows
    | pair => simp [Characters.spanText]
    | lone => simp at ends
  next inside =>
    simp only [endsText, Bool.or_eq_true, beq_iff_eq, not_or] at inside
    have classed : ∀ c ∈ lexeme.text, lexeme.kind = Kind.ofChar c := by
      intro c member
      exact (leads.kind_of_mem member).resolve_right fun both => inside.2 both.1
    apply Characters.spanText_piece
    · intro member
      exact inside.1 (classed '@' member)
    · intro hashes
      by_cases hash : '#' ∈ lexeme.text
      · obtain ⟨lone, ends⟩ := leads.lone_of_mem inside.2 hash
        have short : (lexeme.text ++ rest.take 1).length ≤ 2 := by
          rw [lone, List.length_append, List.length_singleton, Nat.add_comm]
          exact Nat.succ_le_succ (List.length_take_le 1 rest)
        have whole := hashes.eq_of_length_le short
        rw [lone, List.singleton_append] at whole
        have next := (List.cons.inj whole).2
        cases rest with
        | nil => contradiction
        | cons c others => exact ends (by rw [List.head?_cons, ← (List.cons.inj next).1])
      · have twice := hashes.sublist.count_le '#'
        have once : (rest.take 1).count '#' ≤ 1 :=
          List.count_le_length.trans (List.length_take_le 1 rest)
        rw [List.count_append, List.count_eq_zero_of_not_mem hash] at twice
        have two : ['#', '#'].count '#' = 2 := rfl
        omega

/-- Cutting lexemes off in front of the first that ends a text cuts the text off in front of the
    same character, and leaves the lexemes of what begins there. -/
theorem span_split (source : Text) :
    Lexeme.concat ((split source).takeWhile fun lexeme => !endsText lexeme) =
        (Characters.spanText source).1 ∧
      ((split source).dropWhile fun lexeme => !endsText lexeme) =
        split (Characters.spanText source).2 := by
  induction source using split_induction with
  | nil => exact ⟨rfl, rfl⟩
  | append lexeme rest leads ih =>
    rw [spanText_of_leads leads, split_append leads]
    by_cases ends : endsText lexeme = true
    · simp [ends, Lexeme.concat, split_append leads]
    · simp only [Bool.not_eq_true] at ends
      simp [ends, Lexeme.concat, ← ih.1, ih.2]

/-- A text that begins with a lexeme is the same in both layers. -/
theorem plain_split (position : Position) {lexeme : Lexeme} {rest : Text}
    (leads : Leads lexeme rest) (inside : endsText lexeme = false) :
    plain position lexeme (split rest) =
      (Characters.plain position (lexeme.text ++ rest)).lexed := by
  obtain ⟨taken, dropped⟩ := span_split rest
  simp [plain, Characters.plain, Characters.Step.lexed, spanText_of_leads leads, inside, taken,
    dropped]

/-- Whether a step over the characters of a source is a step over its first lexeme. -/
def StepsAlike (position : Position) (afterHead : Bool) (c : Char) (rest : Text) : Prop :=
  ∃ lexeme behind, split (c :: rest) = lexeme :: behind ∧
    step position afterHead lexeme behind =
      (Characters.step position afterHead c rest).map Characters.Step.lexed

/-- An at sign closes a head or begins a tag in both layers. -/
theorem stepsAlike_atSign (position : Position) (afterHead : Bool) (rest : Text) :
    StepsAlike position afterHead '@' rest := by
  refine ⟨_, _, split_single rfl rest, ?_⟩
  simp only [step, show Kind.ofChar '@' = .atSign from rfl, Characters.step,
    show Text.isBlank '@' = false from rfl, nextIs_slash_split, Bool.false_eq_true, if_false,
    if_true, Bool.and_eq_true, Bool.not_eq_true', decide_eq_false_iff_not, ne_eq]
  split_ifs
  · rfl
  · exact tag_split position rest

/-- Two hashes begin a comment in both layers. -/
theorem stepsAlike_hashes (position : Position) (afterHead : Bool) (rest : Text) :
    StepsAlike position afterHead '#' ('#' :: rest) := by
  refine ⟨_, _, split_append .pair, ?_⟩
  have found := delimited_split .comment position ⟨.commentDelimiter, ['#', '#']⟩ rest
    (.unterminatedComment position) delimits_comment (List.cons_ne_nil _ _)
  simpa [step, Characters.step, show Text.isBlank '#' = false from rfl] using found

/-- A quote begins a value in both layers. -/
theorem stepsAlike_quote (position : Position) (afterHead : Bool) {quote : Char}
    (isQuote : quote = '"' ∨ quote = '\'') (rest : Text) :
    StepsAlike position afterHead quote rest := by
  have alone : (Kind.ofChar quote).grows = false := by rcases isQuote with rfl | rfl <;> rfl
  have only : ∀ d, Kind.ofChar d = Kind.ofChar quote → d = quote := by
    rcases isQuote with rfl | rfl
    · intro d same
      exact Lexeme.ofChar_eq_single.2.2.2.2.1.mp same
    · intro d same
      exact Lexeme.ofChar_eq_single.2.2.2.2.2.mp same
  have lexemes : step position afterHead ⟨Kind.ofChar quote, [quote]⟩ (split rest) =
      delimited .attributeValue position ⟨Kind.ofChar quote, [quote]⟩ (split rest)
        (.unterminatedValue quote position) := by
    rcases isQuote with rfl | rfl <;> rfl
  have characters : Characters.step position afterHead quote rest =
      Characters.delimited .attributeValue position [quote] rest
        (.unterminatedValue quote position) := by
    rcases isQuote with rfl | rfl <;> simp [Characters.step, Text.isBlank, List.cons_prefix_cons]
  refine ⟨_, _, split_single alone rest, ?_⟩
  rw [lexemes, characters]
  exact delimited_split .attributeValue position ⟨Kind.ofChar quote, [quote]⟩ rest
    (.unterminatedValue quote position) (delimits_single alone only) (List.cons_ne_nil _ _)

/-- A word is an attribute name or begins a text in both layers. -/
theorem stepsAlike_word (position : Position) (afterHead : Bool) {c : Char} {rest : Text}
    (word : isWordChar c = true)
    (characters : Characters.step position afterHead c rest =
      .ok ((Characters.attributeName? position (c :: rest)).getD
        (Characters.plain position (c :: rest)))) :
    StepsAlike position afterHead c rest := by
  have leads : Leads ⟨.word, (c :: rest).takeWhile isWordChar⟩ _ := Lexeme.leads_word word
  have text := plain_split position leads rfl
  rw [List.takeWhile_append_dropWhile] at text
  refine ⟨_, _, split_word word, ?_⟩
  rw [characters]
  simp only [step, attributeName_split, text]
  cases Characters.attributeName? position (c :: rest) <;> rfl

/-- Anything that begins nothing else begins a text in both layers. -/
theorem stepsAlike_other (position : Position) (afterHead : Bool) {c : Char} {rest : Text}
    (visible : Text.isBlank c = false) (atSign : c ≠ '@') (hashes : ¬ ['#', '#'] <+: c :: rest)
    (quote : ¬ (c = '"' ∨ c = '\'')) (word : isWordChar c = false)
    (characters : Characters.step position afterHead c rest =
      .ok ((Characters.attributeName? position (c :: rest)).getD
        (Characters.plain position (c :: rest)))) :
    StepsAlike position afterHead c rest := by
  obtain ⟨lexeme, behind, same, leads, front, classed⟩ := Lexeme.exists_split c rest
  have unnamed : Characters.attributeName? position (c :: rest) = none := by
    simp [Characters.attributeName?, word]
  have unpaired : lexeme.kind ≠ .commentDelimiter := by
    intro paired
    cases leads with
    | single => exact Lexeme.ofChar_ne_commentDelimiter _ paired
    | run => exact Lexeme.ofChar_ne_commentDelimiter _ paired
    | pair => exact hashes ⟨behind, same.symm⟩
    | lone => contradiction
  have noBlank : lexeme.kind ≠ .blank := by
    simp [classed, Lexeme.ofChar_eq_blank_iff, visible]
  have noTag : lexeme.kind ≠ .atSign := by simp [classed, Lexeme.ofChar_eq_single, atSign]
  have noQuote : lexeme.kind ≠ .doubleQuote ∧ lexeme.kind ≠ .singleQuote := by
    simpa [classed, Lexeme.ofChar_eq_single] using quote
  have noWord : lexeme.kind ≠ .word := by simp [classed, Lexeme.ofChar_eq_word_iff, word]
  have text : step position afterHead lexeme (split behind) =
      .ok (plain position lexeme (split behind)) := by
    unfold step
    split <;> simp_all
  refine ⟨lexeme, split behind, front, ?_⟩
  rw [text, characters, unnamed, same,
    plain_split position leads (by simp [endsText, noTag, unpaired])]
  rfl

/-- A step over the characters of a source is a step over its lexemes, unless it skips a blank: then
    the lexeme is the whole run of blanks. The cases are those of a step over characters. -/
theorem step_split (position : Position) (afterHead : Bool) {c : Char} {rest : Text}
    (visible : Text.isBlank c = false) : StepsAlike position afterHead c rest := by
  by_cases atSign : c = '@'
  · subst atSign
    exact stepsAlike_atSign position afterHead rest
  by_cases hashes : ['#', '#'] <+: c :: rest
  · obtain ⟨others, same⟩ := hashes
    obtain ⟨rfl, rfl⟩ := List.cons.inj same
    exact stepsAlike_hashes position afterHead others
  by_cases quote : c = '"' ∨ c = '\''
  · exact stepsAlike_quote position afterHead quote rest
  have characters : Characters.step position afterHead c rest =
      .ok ((Characters.attributeName? position (c :: rest)).getD
        (Characters.plain position (c :: rest))) := by
    simp [Characters.step, visible, atSign, hashes, quote]
  cases word : isWordChar c with
  | true => exact stepsAlike_word position afterHead word characters
  | false => exact stepsAlike_other position afterHead visible atSign hashes quote word characters

/-- Skipping blanks one by one comes to where skipping their run comes to. -/
theorem scanFrom_blanks {run : Text} (blanks : ∀ c ∈ run, Text.isBlank c = true)
    (present : run ≠ []) (rest : Text) (position : Position) (afterHead : Bool) :
    Characters.scanFrom position afterHead (run ++ rest) =
      Characters.scanFrom (position.past run) false rest := by
  induction run generalizing position afterHead with
  | nil => exact absurd rfl present
  | cons c others ih =>
    rw [List.cons_append, Characters.scanFrom_blank (blanks c List.mem_cons_self)]
    cases others with
    | nil => rfl
    | cons d more =>
      exact ih (fun e member => blanks e (List.mem_cons_of_mem c member)) (List.cons_ne_nil _ _) _ _

/-- A step over lexemes that succeeds is followed by scanning what it leaves. -/
theorem scanFrom_of_step {position : Position} {afterHead : Bool} {first : Lexeme}
    {rest : List Lexeme} {result : Step} (done : step position afterHead first rest = .ok result) :
    scanFrom position afterHead (first :: rest) =
      (scanFrom (position.past result.consumed) result.endsHead result.rest).map
        (result.emitted.toList ++ ·) := by
  rw [scanFrom.eq_def]
  dsimp only
  split
  next failed => rw [done] at failed; contradiction
  next other stepped =>
    rw [done] at stepped
    cases stepped
    rfl

/-- The first step over lexemes that fails decides the failure. -/
theorem scanFrom_of_failure {position : Position} {afterHead : Bool} {first : Lexeme}
    {rest : List Lexeme} {failure : LexError}
    (failed : step position afterHead first rest = .error failure) :
    scanFrom position afterHead (first :: rest) = .error failure := by
  rw [scanFrom.eq_def]
  dsimp only
  split
  next other stepped =>
    rw [failed] at stepped
    cases stepped
    rfl
  next done => rw [failed] at done; contradiction

/-- Scanning the lexemes of a source from any position is scanning its characters from there.

    Induct on the length of the source. Where a blank comes first, both scanners skip the same run.
    Elsewhere one step of either emits the same token and consumes the same text, and what it leaves
    is shorter. -/
theorem scanFrom_split (position : Position) (afterHead : Bool) (source : Text) :
    scanFrom position afterHead (split source) =
      Characters.scanFrom position afterHead source := by
  match source with
  | [] => rw [Characters.scanFrom_nil, show split [] = [] from rfl, scanFrom.eq_def]
  | c :: rest =>
    cases blank : Text.isBlank c with
    | true =>
      have leads : Leads ⟨.blank, (c :: rest).takeWhile Text.isBlank⟩ _ := Lexeme.leads_blank blank
      have front := split_append leads
      have skipped := scanFrom_blanks (fun d member => List.mem_takeWhile_imp member)
        leads.text_ne_nil ((c :: rest).dropWhile Text.isBlank) position afterHead
      rw [List.takeWhile_append_dropWhile] at front skipped
      have shorter : ((c :: rest).dropWhile Text.isBlank).length < (c :: rest).length := by
        rw [List.dropWhile_cons_of_pos blank]
        exact Nat.lt_succ_of_le (List.dropWhile_sublist _).length_le
      rw [front, skipped, scanFrom_of_step rfl]
      exact (congrFun Except.map_id _).trans (scanFrom_split _ _ _)
    | false =>
      obtain ⟨lexeme, behind, front, simulated⟩ := step_split position afterHead blank
      rw [front]
      cases stepped : Characters.step position afterHead c rest with
      | error failure =>
        rw [stepped] at simulated
        rw [Characters.scanFrom_of_failure stepped, scanFrom_of_failure simulated]
      | ok result =>
        rw [stepped] at simulated
        have shorter : result.rest.length < (c :: rest).length := Characters.length_of_step stepped
        rw [Characters.scanFrom_of_step stepped, scanFrom_of_step simulated]
        exact congrArg _ (scanFrom_split _ _ _)
termination_by source.length
decreasing_by all_goals exact shorter

/-- The tokens of a source, their kinds, values and positions, or the failure with its positions,
    are what scanning the characters of the source gives: lexemes decide nothing. -/
theorem scan_eq_characters (source : Text) : scan source = Characters.scan source :=
  scanFrom_split Position.start false source

end FlashMarkup.Token
