import FlashMarkup.Lexeme
import FlashMarkup.Proofs.Text.Run
import Mathlib.Data.List.SplitBy

/-!
# Cutting a source one lexeme at a time

Splitting looks at the whole source at once: it forms the runs and then pairs the hashes of each
run. Here the same lexemes are obtained from the left, one after the other, each from the
characters it consists of and the one behind it. What remains behind a lexeme is split as if it
were a source of its own. Any prefix of lexemes can therefore be consumed without losing track
of how the rest is cut, also in the middle of a run of hashes.
-/

namespace FlashMarkup.Lexeme

open FlashMarkup.Text (EndsRun)

/-- The code points of the digits. -/
theorem isDigit_iff (c : Char) : c.isDigit = true ↔ 48 ≤ c.toNat ∧ c.toNat ≤ 57 := by
  change (decide (48 ≤ c.val) && decide (c.val ≤ 57)) = true ↔ _
  rw [Bool.and_eq_true, decide_eq_true_eq, decide_eq_true_eq]
  exact Iff.rfl

/-- The code points of the letters. -/
theorem isAlpha_iff (c : Char) :
    c.isAlpha = true ↔ (65 ≤ c.toNat ∧ c.toNat ≤ 90) ∨ (97 ≤ c.toNat ∧ c.toNat ≤ 122) := by
  change (decide (65 ≤ c.val ∧ c.val ≤ 90) || (decide (97 ≤ c.val) && decide (c.val ≤ 122))) =
    true ↔ _
  rw [Bool.or_eq_true, Bool.and_eq_true, decide_eq_true_eq, decide_eq_true_eq, decide_eq_true_eq]
  exact Iff.rfl

/-- The code points of the characters that occur in names. -/
theorem code_of_isWordChar {c : Char} (word : isWordChar c = true) :
    (48 ≤ c.toNat ∧ c.toNat ≤ 57) ∨ (65 ≤ c.toNat ∧ c.toNat ≤ 90) ∨ c.toNat = 95 ∨
      (97 ≤ c.toNat ∧ c.toNat ≤ 122) := by
  have underscore : c = '_' → c.toNat = 95 := by rintro rfl; rfl
  rw [isWordChar, Char.isAlphanum, Bool.or_eq_true, Bool.or_eq_true, isAlpha_iff, isDigit_iff,
    beq_iff_eq] at word
  rcases word with ((upper | lower) | digit) | same
  · exact .inr (.inl upper)
  · exact .inr (.inr (.inr lower))
  · exact .inl digit
  · exact .inr (.inr (.inl (underscore same)))

/-- No character of a name is blank. -/
theorem isBlank_of_isWordChar {c : Char} (word : isWordChar c = true) :
    Text.isBlank c = false := by
  have code := code_of_isWordChar word
  simp only [Text.isBlank, Bool.or_eq_false_iff, Bool.and_eq_false_iff, decide_eq_false_iff_not,
    beq_eq_false_iff_ne]
  omega

/-- A character is classed as a blank exactly if it is blank: no blank has a class of its own. -/
theorem ofChar_eq_blank_iff (c : Char) : Kind.ofChar c = .blank ↔ Text.isBlank c = true := by
  by_cases special : c = '@' ∨ c = '/' ∨ c = '#' ∨ c = '=' ∨ c = '"' ∨ c = '\''
  · rcases special with rfl | rfl | rfl | rfl | rfl | rfl <;> decide
  · simp only [not_or] at special
    simp only [Kind.ofChar, special, if_false]
    split_ifs with blank word <;> simp [blank]

/-- A character is classed as a word exactly if it may occur in a name. -/
theorem ofChar_eq_word_iff (c : Char) : Kind.ofChar c = .word ↔ isWordChar c = true := by
  by_cases special : c = '@' ∨ c = '/' ∨ c = '#' ∨ c = '=' ∨ c = '"' ∨ c = '\''
  · rcases special with rfl | rfl | rfl | rfl | rfl | rfl <;> decide
  · simp only [not_or] at special
    simp only [Kind.ofChar, special, if_false]
    split_ifs with blank word
    · simp only [false_iff]
      intro word
      simp [isBlank_of_isWordChar word] at blank
    · simp [word]
    · simp [word]

/-- A character with a class of its own is the only one of that class. -/
theorem ofChar_eq_single {c : Char} :
    (Kind.ofChar c = .atSign ↔ c = '@') ∧ (Kind.ofChar c = .slash ↔ c = '/') ∧
      (Kind.ofChar c = .hash ↔ c = '#') ∧ (Kind.ofChar c = .equals ↔ c = '=') ∧
      (Kind.ofChar c = .doubleQuote ↔ c = '"') ∧ (Kind.ofChar c = .singleQuote ↔ c = '\'') := by
  simp only [Kind.ofChar]
  split_ifs <;> simp_all

/-- No single character is a comment delimiter. -/
theorem ofChar_ne_commentDelimiter (c : Char) : Kind.ofChar c ≠ .commentDelimiter := by
  simp only [Kind.ofChar]
  split_ifs <;> simp

/-- The first lexeme of a source, with what stands behind it. A run goes as far as its class does,
    hashes are taken in pairs, and a hash is alone only where no other hash follows. -/
inductive Leads : Lexeme → Text → Prop where
  | single {c : Char} {rest : Text} (alone : (Kind.ofChar c).grows = false) :
      Leads ⟨Kind.ofChar c, [c]⟩ rest
  | run {c : Char} {others rest : Text} (grows : (Kind.ofChar c).grows = true)
      (unpaired : Kind.ofChar c ≠ .hash) (same : ∀ d ∈ others, sameRun c d = true)
      (ends : EndsRun (sameRun c) rest) : Leads ⟨Kind.ofChar c, c :: others⟩ rest
  | pair {rest : Text} : Leads ⟨.commentDelimiter, ['#', '#']⟩ rest
  | lone {rest : Text} (ends : rest.head? ≠ some '#') : Leads ⟨.hash, ['#']⟩ rest

/-- The characters of one run, the first of which fixes the class. -/
theorem isChain_run {c : Char} {others : Text} (same : ∀ d ∈ others, sameRun c d = true) :
    (c :: others).IsChain fun first second => sameRun first second = true := by
  induction others generalizing c with
  | nil => exact List.isChain_singleton c
  | cons d rest ih =>
    have joined : sameRun c d = true := same d List.mem_cons_self
    refine List.isChain_cons_cons.mpr ⟨joined, ih fun e member => ?_⟩
    have far : sameRun c e = true := same e (List.mem_cons_of_mem d member)
    simp only [sameRun, Bool.and_eq_true, beq_iff_eq] at joined far ⊢
    rw [← joined.1]
    exact far

/-- The first run of a source is taken off the front; its lexemes come first. -/
theorem split_cons (c : Char) (rest : Text) :
    split (c :: rest) =
      ofRun (c :: rest.takeWhile (sameRun c)) ++ split (rest.dropWhile (sameRun c)) := by
  have all : ∀ d ∈ rest.takeWhile (sameRun c), sameRun c d = true :=
    fun d member => List.mem_takeWhile_imp member
  have chain := isChain_run all
  have border : ∀ d ∈ (c :: rest.takeWhile (sameRun c)).getLast?,
      ∀ e ∈ (rest.dropWhile (sameRun c)).head?, sameRun d e = false := by
    intro d last e first
    have outside : sameRun c e = false := Text.endsRun_dropWhile (sameRun c) rest e first
    have member : d ∈ c :: rest.takeWhile (sameRun c) := List.mem_of_getLast? last
    rcases List.mem_cons.mp member with rfl | member
    · exact outside
    · have inside : sameRun c d = true := all d member
      simp only [sameRun, Bool.and_eq_true, beq_iff_eq] at inside outside ⊢
      rw [← inside.1]
      exact outside
  have whole : c :: rest =
      (c :: rest.takeWhile (sameRun c)) ++ rest.dropWhile (sameRun c) := by simp
  unfold split
  rw [whole, List.splitBy_append border, List.splitBy_of_isChain (List.cons_ne_nil _ _) chain,
    List.flatMap_append]
  simp

/-- A source that starts with hashes is split into their pairs and the rest. -/
theorem split_hashes (rest : Text) :
    split rest =
      pairHashes (rest.takeWhile (sameRun '#')) ++ split (rest.dropWhile (sameRun '#')) := by
  cases rest with
  | nil => rfl
  | cons c others =>
    by_cases hash : c = '#'
    · subst hash
      rw [split_cons]
      rfl
    · have apart : sameRun '#' c = false := by
        have other : Kind.ofChar c ≠ .hash := by
          intro same
          exact hash (ofChar_eq_single.2.2.1.mp same)
        simp [sameRun, show Kind.ofChar '#' = .hash from rfl, other.symm]
      simp [apart, pairHashes]

/-- The first lexeme is taken off the front, and the rest is split on its own. -/
theorem split_append {lexeme : Lexeme} {rest : Text} (leads : Leads lexeme rest) :
    split (lexeme.text ++ rest) = lexeme :: split rest := by
  cases leads with
  | @single c _ alone =>
    have unpaired : Kind.ofChar c ≠ .hash := by
      intro hash
      simp [hash, Kind.grows] at alone
    have ends : EndsRun (sameRun c) rest := by
      intro d _
      simp [sameRun, alone]
    rw [List.singleton_append, split_cons, Text.takeWhile_of_endsRun ends,
      Text.dropWhile_of_endsRun ends]
    simp [ofRun, unpaired]
  | @run c others _ grows unpaired same ends =>
    rw [List.cons_append, split_cons, Text.takeWhile_run same ends, Text.dropWhile_run same ends]
    simp [ofRun, unpaired]
  | pair =>
    rw [split_hashes rest]
    exact split_cons '#' ('#' :: rest)
  | lone ends =>
    have border : EndsRun (sameRun '#') rest := by
      intro c first
      have other : Kind.ofChar c ≠ .hash := by
        intro same
        obtain rfl := ofChar_eq_single.2.2.1.mp same
        exact ends first
      simp [sameRun, show Kind.ofChar '#' = .hash from rfl, other.symm]
    rw [List.singleton_append, split_cons, Text.takeWhile_of_endsRun border,
      Text.dropWhile_of_endsRun border]
    rfl

/-- Every source that is not empty has a first lexeme. -/
theorem exists_leads (c : Char) (rest : Text) :
    ∃ lexeme behind, c :: rest = lexeme.text ++ behind ∧ Leads lexeme behind := by
  by_cases hash : Kind.ofChar c = .hash
  · obtain rfl := ofChar_eq_single.2.2.1.mp hash
    by_cases paired : rest.head? = some '#'
    · obtain ⟨others, rfl⟩ := List.head?_eq_some_iff.mp paired
      exact ⟨_, others, rfl, .pair⟩
    · exact ⟨_, rest, rfl, .lone paired⟩
  · by_cases grows : (Kind.ofChar c).grows = true
    · refine ⟨⟨Kind.ofChar c, c :: rest.takeWhile (sameRun c)⟩, rest.dropWhile (sameRun c), ?_, ?_⟩
      · simp
      · exact .run grows hash (fun d member => List.mem_takeWhile_imp member)
          (Text.endsRun_dropWhile _ _)
    · exact ⟨⟨Kind.ofChar c, [c]⟩, rest, rfl, .single (by simpa using grows)⟩

/-- A class of characters that form runs, given by a test, leads with all characters up to the first
    that fails the test. -/
theorem leads_run {kind : Kind} {test : Char → Bool} (grows : kind.grows = true)
    (unpaired : kind ≠ .hash) (classed : ∀ d, Kind.ofChar d = kind ↔ test d = true) {c : Char}
    {rest : Text} (passes : test c = true) :
    Leads ⟨kind, (c :: rest).takeWhile test⟩ ((c :: rest).dropWhile test) := by
  obtain rfl := (classed c).mpr passes
  have joined : sameRun c = test := by
    funext d
    rw [Bool.eq_iff_iff, ← classed d, sameRun, grows]
    simpa using eq_comm
  rw [List.takeWhile_cons_of_pos passes, List.dropWhile_cons_of_pos passes, ← joined]
  exact .run grows unpaired (fun d member => List.mem_takeWhile_imp member)
    (Text.endsRun_dropWhile _ _)

/-- A source that begins with a character of a name begins with the lexeme of the whole word. -/
theorem leads_word {c : Char} {rest : Text} (word : isWordChar c = true) :
    Leads ⟨.word, (c :: rest).takeWhile isWordChar⟩ ((c :: rest).dropWhile isWordChar) :=
  leads_run rfl (by decide) ofChar_eq_word_iff word

/-- A source that begins with a blank begins with the lexeme of all its leading blanks. -/
theorem leads_blank {c : Char} {rest : Text} (blank : Text.isBlank c = true) :
    Leads ⟨.blank, (c :: rest).takeWhile Text.isBlank⟩ ((c :: rest).dropWhile Text.isBlank) :=
  leads_run rfl (by decide) ofChar_eq_blank_iff blank

/-- A lexeme at the front of a source has at least one character. -/
theorem Leads.text_ne_nil {lexeme : Lexeme} {rest : Text} (leads : Leads lexeme rest) :
    lexeme.text ≠ [] := by
  cases leads <;> simp

/-- Every character of the first lexeme has the class of the lexeme, unless that is a pair of
    hashes. -/
theorem Leads.kind_of_mem {lexeme : Lexeme} {rest : Text} (leads : Leads lexeme rest) {c : Char}
    (member : c ∈ lexeme.text) :
    lexeme.kind = Kind.ofChar c ∨ lexeme.kind = .commentDelimiter ∧ c = '#' := by
  cases leads with
  | single => exact .inl (by rw [List.mem_singleton.mp member])
  | run _ _ same _ =>
    rcases List.mem_cons.mp member with rfl | member
    · exact .inl rfl
    · have joined := same c member
      simp only [sameRun, Bool.and_eq_true, beq_iff_eq] at joined
      exact .inl joined.1
  | pair => exact .inr ⟨rfl, by simpa using member⟩
  | lone => exact .inl (by rw [List.mem_singleton.mp member]; rfl)

/-- A first lexeme with a hash in it that is no pair of hashes is a hash without another one behind
    it. -/
theorem Leads.lone_of_mem {lexeme : Lexeme} {rest : Text} (leads : Leads lexeme rest)
    (unpaired : lexeme.kind ≠ .commentDelimiter) (hash : '#' ∈ lexeme.text) :
    lexeme.text = ['#'] ∧ rest.head? ≠ some '#' := by
  have classed : lexeme.kind = .hash :=
    (leads.kind_of_mem hash).resolve_right fun both => unpaired both.1
  cases leads with
  | single alone =>
    rw [show Kind.ofChar _ = .hash from classed] at alone
    contradiction
  | run _ other => exact absurd classed other
  | pair => exact absurd rfl unpaired
  | lone ends => exact ⟨rfl, ends⟩

/-- Every source that is not empty is split into a first lexeme and the lexemes of the rest. Hashes
    apart, the class of the first lexeme is that of the first character. -/
theorem exists_split (c : Char) (rest : Text) :
    ∃ lexeme behind, c :: rest = lexeme.text ++ behind ∧ Leads lexeme behind ∧
      split (c :: rest) = lexeme :: split behind ∧
      ∀ kind, kind ≠ .hash → kind ≠ .commentDelimiter →
        (lexeme.kind = kind ↔ Kind.ofChar c = kind) := by
  obtain ⟨lexeme, behind, same, leads⟩ := exists_leads c rest
  have member : c ∈ lexeme.text := by
    cases text : lexeme.text with
    | nil => exact absurd text leads.text_ne_nil
    | cons d others =>
      rw [text, List.cons_append] at same
      rw [(List.cons.inj same).1]
      exact List.mem_cons_self
  refine ⟨lexeme, behind, same, leads, same ▸ split_append leads, ?_⟩
  intro kind noHash noPair
  rcases leads.kind_of_mem member with classed | ⟨paired, rfl⟩
  · rw [classed]
  · rw [paired, show Kind.ofChar '#' = .hash from rfl]
    exact iff_of_false noPair.symm noHash.symm

/-- What holds of the empty source, and of a source whenever it holds behind its first lexeme,
    holds of every source. -/
theorem split_induction {motive : Text → Prop} (nil : motive [])
    (append : ∀ (lexeme : Lexeme) (rest : Text), Leads lexeme rest → motive rest →
      motive (lexeme.text ++ rest)) (source : Text) : motive source := by
  match source with
  | [] => exact nil
  | c :: others =>
    obtain ⟨lexeme, behind, same, leads⟩ := exists_leads c others
    have shorter : behind.length < (c :: others).length := by
      rw [same, List.length_append]
      have positive := List.length_pos_of_ne_nil leads.text_ne_nil
      omega
    rw [same]
    exact append lexeme behind leads (split_induction nil append behind)
termination_by source.length
decreasing_by all_goals exact shorter

/-- Splitting a source loses none of it. -/
theorem concat_split (source : Text) : concat (split source) = source := by
  induction source using split_induction with
  | nil => rfl
  | append lexeme rest leads ih =>
    rw [split_append leads]
    exact congrArg (lexeme.text ++ ·) ih

end FlashMarkup.Lexeme
