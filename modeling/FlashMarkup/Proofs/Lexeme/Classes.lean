import FlashMarkup.Proofs.Lexeme

/-!
# Texts of a class

Which texts are in a class of lexemes is said without cutting a source: a mark is itself, a run is
made of characters that pass the test of its class. A lexeme leads a source exactly if its text is in
its class and what stands behind it does not go on with it, and a source is cut into the only
lexemes that lead it one after the other.
-/

namespace FlashMarkup.Lexeme

/-- The characters that have a class of their own. -/
def markChars : List Char := ['@', '/', '#', '=', '"', '\'']

/-- Whether a text is in a class of lexemes. -/
def Kind.Matches (kind : Kind) (content : Text) : Prop :=
  match kind with
  | .atSign => content = ['@']
  | .slash => content = ['/']
  | .commentDelimiter => content = ['#', '#']
  | .hash => content = ['#']
  | .equals => content = ['=']
  | .doubleQuote => content = ['"']
  | .singleQuote => content = ['\'']
  | .blank => content ≠ [] ∧ ∀ c ∈ content, Text.isBlank c = true
  | .word => content ≠ [] ∧ ∀ c ∈ content, isWordChar c = true
  | .other =>
    content ≠ [] ∧
      ∀ c ∈ content, c ∉ markChars ∧ Text.isBlank c = false ∧ isWordChar c = false

/-- The classes whose neighbouring characters form one lexeme, however many there are. -/
def Kind.runs : List Kind := [.blank, .word, .other]

/-- A character is classed as another one exactly if it has no class of its own and is neither blank
    nor part of a word. -/
theorem ofChar_eq_other_iff (c : Char) :
    Kind.ofChar c = .other ↔
      c ∉ markChars ∧ Text.isBlank c = false ∧ isWordChar c = false := by
  by_cases special : c = '@' ∨ c = '/' ∨ c = '#' ∨ c = '=' ∨ c = '"' ∨ c = '\''
  · rcases special with rfl | rfl | rfl | rfl | rfl | rfl <;> decide
  · simp only [not_or] at special
    simp only [Kind.ofChar, special, if_false, markChars, List.mem_cons, List.not_mem_nil, or_self,
      not_false_eq_true, true_and]
    split_ifs with blank word <;> simp_all

/-- A class forms runs if its characters do, hashes apart. -/
theorem Kind.mem_runs_iff (kind : Kind) : kind ∈ runs ↔ kind.grows = true ∧ kind ≠ .hash := by
  cases kind <;> decide

/-- A text is in a class that forms runs exactly if it has characters and all are of the class. -/
theorem Kind.matches_run_iff {kind : Kind} (run : kind ∈ runs) (content : Text) :
    kind.Matches content ↔ content ≠ [] ∧ ∀ c ∈ content, ofChar c = kind := by
  simp only [runs, List.mem_cons, List.not_mem_nil, or_false] at run
  rcases run with rfl | rfl | rfl
  · simp only [Matches, ofChar_eq_blank_iff]
  · simp only [Matches, ofChar_eq_word_iff]
  · simp only [Matches, ofChar_eq_other_iff]

/-- A character that forms no runs is a text of its class. -/
theorem Kind.matches_single {c : Char} (alone : (ofChar c).grows = false) :
    (ofChar c).Matches [c] := by
  obtain ⟨atSign, slash, -, equals, doubleQuote, singleQuote⟩ := @ofChar_eq_single c
  have noPair := ofChar_ne_commentDelimiter c
  cases kind : ofChar c <;> simp_all [grows, Matches]

/-- A text in a class that is no pair of hashes has characters of just that class. -/
theorem Kind.Matches.ofChar_of_mem {kind : Kind} {content : Text} (classed : kind.Matches content)
    (unpaired : kind ≠ .commentDelimiter) {c : Char} (member : c ∈ content) :
    ofChar c = kind := by
  by_cases run : kind ∈ runs
  · exact ((matches_run_iff run content).mp classed).2 c member
  · cases kind <;> simp_all [Matches, runs] <;> rfl

/-- A text of a class has at least one character. -/
theorem Kind.Matches.ne_nil {kind : Kind} {content : Text} (classed : kind.Matches content) :
    content ≠ [] := by
  cases kind <;> simp_all [Matches]

/-- What may stand behind a lexeme: nothing that would go on with it. -/
structure Ends (lexeme : Lexeme) (rest : Text) : Prop where
  run : lexeme.kind ∈ Kind.runs → ∀ c ∈ rest.head?, Kind.ofChar c ≠ lexeme.kind
  lone : lexeme.kind = .hash → rest.head? ≠ some '#'

/-- A lexeme that leads a source has a text of its class. -/
theorem Leads.matches {lexeme : Lexeme} {rest : Text} (leads : Leads lexeme rest) :
    lexeme.kind.Matches lexeme.text := by
  have characters := @leads.kind_of_mem
  cases leads with
  | single alone => exact Kind.matches_single alone
  | @run c others _ grows unpaired same ends =>
    have noPair := ofChar_ne_commentDelimiter c
    have run := (Kind.mem_runs_iff _).mpr ⟨grows, unpaired⟩
    refine (Kind.matches_run_iff run _).mpr ⟨List.cons_ne_nil c others, fun d member => ?_⟩
    exact ((characters member).resolve_right fun pair => noPair pair.1).symm
  | pair => rfl
  | lone => rfl

/-- What stands behind a leading lexeme does not go on with it. -/
theorem Leads.ends {lexeme : Lexeme} {rest : Text} (leads : Leads lexeme rest) :
    lexeme.Ends rest := by
  cases leads with
  | single alone =>
    refine ⟨fun run => ?_, fun hash => ?_⟩
    · rw [((Kind.mem_runs_iff _).mp run).1] at alone
      contradiction
    · rw [show Kind.ofChar _ = .hash from hash] at alone
      contradiction
  | run grows unpaired same ends =>
    refine ⟨fun _ d first other => ?_, fun hash => absurd hash unpaired⟩
    have apart := ends d first
    rw [sameRun, other, grows] at apart
    simp at apart
  | pair => exact ⟨fun run => absurd run (by decide), fun hash => absurd hash (by decide)⟩
  | lone ends => exact ⟨fun run => absurd run (by decide), fun _ => ends⟩

/-- A text of a class leads a source whose rest does not go on with it. -/
theorem leads_of_matches {lexeme : Lexeme} {rest : Text}
    (classed : lexeme.kind.Matches lexeme.text) (ends : lexeme.Ends rest) : Leads lexeme rest := by
  obtain ⟨kind, content⟩ := lexeme
  dsimp only at classed
  by_cases run : kind ∈ Kind.runs
  · obtain ⟨present, all⟩ := (Kind.matches_run_iff run content).mp classed
    obtain ⟨c, others, rfl⟩ := List.exists_cons_of_ne_nil present
    obtain rfl := all c List.mem_cons_self
    obtain ⟨grows, unpaired⟩ := (Kind.mem_runs_iff _).mp run
    refine .run grows unpaired (fun d member => ?_) fun d first => ?_
    · simp [sameRun, grows, all d (List.mem_cons_of_mem c member)]
    · simp [sameRun, Ne.symm (ends.run run d first)]
  · cases kind with
    | atSign => obtain rfl := classed; exact @Leads.single '@' rest rfl
    | slash => obtain rfl := classed; exact @Leads.single '/' rest rfl
    | equals => obtain rfl := classed; exact @Leads.single '=' rest rfl
    | doubleQuote => obtain rfl := classed; exact @Leads.single '"' rest rfl
    | singleQuote => obtain rfl := classed; exact @Leads.single '\'' rest rfl
    | commentDelimiter => obtain rfl := classed; exact .pair
    | hash => obtain rfl := classed; exact .lone (ends.lone rfl)
    | blank => exact absurd (by decide) run
    | word => exact absurd (by decide) run
    | other => exact absurd (by decide) run

/-! ## All lexemes of a source -/

/-- Whether each of some lexemes leads what it and the lexemes behind it consist of. -/
def LeadAll : List Lexeme → Prop
  | [] => True
  | lexeme :: rest => Leads lexeme (concat rest) ∧ LeadAll rest

/-- The lexemes of a source lead it one after the other. -/
theorem leadAll_split (source : Text) : LeadAll (split source) := by
  induction source using split_induction with
  | nil => trivial
  | append lexeme rest leads ih =>
    rw [split_append leads]
    exact ⟨by rwa [concat_split], ih⟩

/-- Lexemes that lead one after the other are those of what they consist of. -/
theorem split_concat {lexemes : List Lexeme} (lead : LeadAll lexemes) :
    split (concat lexemes) = lexemes := by
  induction lexemes with
  | nil => rfl
  | cons lexeme rest ih => exact (split_append lead.1).trans (congrArg _ (ih lead.2))

/-- Lexemes lead one after the other if each leads what the lexemes behind it consist of. -/
theorem leadAll_of_forall {lexemes : List Lexeme}
    (lead : ∀ before lexeme after, lexemes = before ++ lexeme :: after →
      Leads lexeme (concat after)) : LeadAll lexemes := by
  induction lexemes with
  | nil => trivial
  | cons lexeme rest ih =>
    refine ⟨lead [] lexeme rest rfl, ih fun before other after same => ?_⟩
    exact lead (lexeme :: before) other after (by rw [same, List.cons_append])

/-- What leads one after the other is in front of what the lexemes behind it consist of. -/
theorem LeadAll.leads {before : List Lexeme} {lexeme : Lexeme} {after : List Lexeme}
    (lead : LeadAll (before ++ lexeme :: after)) : Leads lexeme (concat after) := by
  induction before with
  | nil => exact lead.1
  | cons other rest ih => exact ih lead.2

/-- Neighbouring lexemes that lead one after the other are not of one class that forms runs. -/
theorem LeadAll.apart {lexemes : List Lexeme} (lead : LeadAll lexemes) :
    (lexemes.map kind).IsChain fun first second => first = second → first ∉ Kind.runs := by
  induction lexemes with
  | nil => exact .nil
  | cons lexeme rest ih =>
    cases rest with
    | nil => exact .singleton _
    | cons next more =>
      refine .cons_cons (fun same run => ?_) (ih lead.2)
      have classed := lead.2.1.matches
      obtain ⟨c, others, text⟩ := List.exists_cons_of_ne_nil classed.ne_nil
      have first : c ∈ (concat (next :: more)).head? := by simp [concat, text]
      have unpaired : next.kind ≠ .commentDelimiter := by
        rintro pair
        rw [same, pair] at run
        contradiction
      refine lead.1.ends.run run c first ?_
      rw [same]
      exact classed.ofChar_of_mem unpaired (by rw [text]; exact List.mem_cons_self)

/-- Where the classes of neighbours are apart, nothing goes on with a lexeme that forms runs. -/
theorem not_going_on {before : List Lexeme} {lexeme : Lexeme} {after : List Lexeme}
    (apart : ((before ++ lexeme :: after).map kind).IsChain fun first second =>
      first = second → first ∉ Kind.runs)
    (matched : ∀ other ∈ after, other.kind.Matches other.text) (run : lexeme.kind ∈ Kind.runs)
    {c : Char} (first : c ∈ (concat after).head?) : Kind.ofChar c ≠ lexeme.kind := by
  intro same
  cases after with
  | nil => contradiction
  | cons next more =>
    have classed := matched next List.mem_cons_self
    have inside : c ∈ next.text := by
      obtain ⟨d, others, text⟩ := List.exists_cons_of_ne_nil classed.ne_nil
      obtain rfl : d = c := by simpa [concat, text] using first
      rw [text]
      exact List.mem_cons_self
    have unpaired : next.kind ≠ .commentDelimiter := by
      intro pair
      rw [pair] at classed
      obtain rfl : c = '#' := by
        rw [show next.text = ['#', '#'] from classed] at inside
        simpa using inside
      rw [← same] at run
      contradiction
    rw [List.map_append, List.map_cons, List.map_cons] at apart
    have kinds := (List.isChain_append_cons_cons.mp apart).2.1
    exact kinds (same.symm.trans (classed.ofChar_of_mem unpaired inside)) run

end FlashMarkup.Lexeme
