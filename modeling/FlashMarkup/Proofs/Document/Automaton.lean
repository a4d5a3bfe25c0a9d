import FlashMarkup.Proofs.Document.Grammar

/-!
# An automaton for token lists

Parsing is a recursion that looks one token ahead. The automaton goes through the same tokens from
the left to the right and holds nothing but the opening tags of the elements that are open and the
kind of the token before. Where it can go on behind a token, where the input may end and what the
failure is at every other token is said of what it holds and of that token alone.

It goes through the tokens of derived nodes with the same elements open before and behind them, and
from wherever it is some tokens lead to where the input may end.
-/

namespace FlashMarkup.Document

/-- What the automaton holds between two tokens: the opening tags of the elements that are open, the
    innermost first, and the kind of the token before, if there is one. -/
structure Automaton where
  opened : List Token
  previous : Option Token.Kind
deriving DecidableEq, Repr

namespace Automaton

/-- In front of the first token no element is open. -/
def start : Automaton := ⟨[], none⟩

/-- Whether the token before is an attribute name, so that only its value may follow. -/
def AwaitsValue (state : Automaton) : Prop := state.previous = some .attributeName

/-- Whether attributes may follow: behind the name of an opening tag and behind other attributes. -/
def InHead (state : Automaton) : Prop :=
  state.previous = some .tagOpen ∨ state.previous = some .attributeValue

instance (state : Automaton) : Decidable state.AwaitsValue :=
  inferInstanceAs (Decidable (state.previous = some .attributeName))

instance (state : Automaton) : Decidable state.InHead :=
  inferInstanceAs
    (Decidable (state.previous = some .tagOpen ∨ state.previous = some .attributeValue))

/-- The elements that are open behind a token, if the token may stand where the automaton is. -/
def openedBehind? (state : Automaton) (token : Token) : Option (List Token) :=
  if state.AwaitsValue then if token.kind = .attributeValue then some state.opened else none
  else
    match token.kind with
    | .text | .comment => some state.opened
    | .attributeName => if state.InHead then some state.opened else none
    | .tagOpen =>
      if state.opened.length < maxNesting then some (token :: state.opened) else none
    | .tagClose =>
      match state.opened with
      | innermost :: outer => if token.closes innermost.value then some outer else none
      | [] => none
    | .attributeValue | .endOfInput => none

/-- What the automaton holds behind a token, if it can go on there. -/
def step (state : Automaton) (token : Token) : Option Automaton :=
  (state.openedBehind? token).map fun opened => ⟨opened, some token.kind⟩

/-- What the automaton holds behind several tokens, if it can go on behind each of them. -/
def run (state : Automaton) : List Token → Option Automaton
  | [] => some state
  | token :: rest => (state.step token).bind fun next => next.run rest

/-- Whether the input may end where the automaton is: no element is open and no value is missing. -/
def MayEnd (state : Automaton) : Prop := state.opened = [] ∧ ¬ state.AwaitsValue

instance (state : Automaton) : Decidable state.MayEnd :=
  inferInstanceAs (Decidable (state.opened = [] ∧ ¬ state.AwaitsValue))

/-- Whether the automaton accepts a token: it can go on behind it, or the token ends the input where
    it may end. -/
def Accepts (state : Automaton) (token : Token) : Prop :=
  (state.step token).isSome = true ∨ token.isEnd = true ∧ state.MayEnd

instance (state : Automaton) (token : Token) : Decidable (state.Accepts token) :=
  inferInstanceAs
    (Decidable ((state.step token).isSome = true ∨ token.isEnd = true ∧ state.MayEnd))

/-- The failure at a token that is not accepted: a missing value first, then an element that is
    still open at the end of the input, or an opening tag inside as many elements as may be open.
    Every other token is where no such token may stand. -/
def failure (state : Automaton) (found : Token) : SyntaxError :=
  if state.AwaitsValue then .unexpectedToken (some .attributeValue) found
  else
    match found.kind, state.opened with
    | .endOfInput, innermost :: _ =>
      .missingClosingTag innermost.value innermost.position found.position
    | .tagOpen, opened =>
      if opened.length = maxNesting then .nestingTooDeep found.value maxNesting found.position
      else .unexpectedToken none found
    | _, _ => .unexpectedToken none found

/-- The only kind of token that is ever asked for is a value. -/
theorem expected_of_failure {state : Automaton} {found other : Token} {kind : Token.Kind}
    (same : state.failure found = .unexpectedToken (some kind) other) : kind = .attributeValue := by
  unfold failure at same
  split at same
  next =>
    cases same
    rfl
  next =>
    split at same
    next => cases same
    next => split at same <;> cases same
    next => cases same

/-- The failure of going on through tokens in front of the one that ends the input; nothing if the
    automaton accepts all of them. -/
def verdict (stop : Token) (state : Automaton) : List Token → Option SyntaxError
  | [] => if state.MayEnd then none else some (state.failure stop)
  | token :: rest =>
    match state.step token with
    | some next => next.verdict stop rest
    | none => some (state.failure token)

section Steps

variable {state : Automaton} {token : Token}

/-- No value is missing in the head of a tag. -/
theorem InHead.complete (inHead : state.InHead) : ¬ state.AwaitsValue := by
  rcases inHead with same | same <;> simp [AwaitsValue, same]

/-- A text or a comment leaves the same elements open. -/
theorem step_content (complete : ¬ state.AwaitsValue)
    (content : token.kind = .text ∨ token.kind = .comment) :
    state.step token = some ⟨state.opened, some token.kind⟩ := by
  rcases content with kind | kind <;> simp [step, openedBehind?, complete, kind]

/-- An attribute name follows in the head of a tag. -/
theorem step_name (inHead : state.InHead) (kind : token.kind = .attributeName) :
    state.step token = some ⟨state.opened, some .attributeName⟩ := by
  simp [step, openedBehind?, inHead.complete, kind, inHead]

/-- A value follows an attribute name. -/
theorem step_value (awaits : state.AwaitsValue) (kind : token.kind = .attributeValue) :
    state.step token = some ⟨state.opened, some .attributeValue⟩ := by
  simp [step, openedBehind?, awaits, kind]

/-- An opening tag opens an element inside few enough others. -/
theorem step_open (complete : ¬ state.AwaitsValue) (kind : token.kind = .tagOpen)
    (shallow : state.opened.length < maxNesting) :
    state.step token = some ⟨token :: state.opened, some .tagOpen⟩ := by
  simp [step, openedBehind?, complete, kind, shallow]

/-- A closing tag closes the innermost element, if it has its name. -/
theorem step_close {opening : Token} {outer : List Token} (complete : ¬ state.AwaitsValue)
    (opened : state.opened = opening :: outer) (closes : token.closes opening.value = true) :
    state.step token = some ⟨outer, some .tagClose⟩ := by
  have kind : token.kind = .tagClose := by
    simp only [Token.closes, Bool.and_eq_true, beq_iff_eq] at closes
    exact closes.1
  simp [step, openedBehind?, complete, kind, opened, closes]

/-- The automaton does not go on behind the end of the input. -/
theorem step_isEnd (ends : token.isEnd = true) : state.step token = none := by
  rw [Token.isEnd, beq_iff_eq] at ends
  simp [step, openedBehind?, ends]

end Steps

/-- A run through two lists is a run through the first and then through the second. -/
theorem run_append (state : Automaton) (first second : List Token) :
    state.run (first ++ second) = (state.run first).bind fun next => next.run second := by
  induction first generalizing state with
  | nil => rfl
  | cons token rest ih =>
    rw [List.cons_append, run, run]
    cases state.step token with
    | none => rfl
    | some next => exact ih next

/-- A run leaves the kind of its last token behind. -/
theorem previous_of_run {state next : Automaton} {tokens : List Token}
    (reached : state.run tokens = some next) :
    next.previous = (tokens.getLast?.map Token.kind).or state.previous := by
  induction tokens generalizing state with
  | nil =>
    cases reached
    rfl
  | cons token rest ih =>
    obtain ⟨between, stepped, later⟩ := Option.bind_eq_some_iff.mp reached
    obtain ⟨opened, -, rfl⟩ := Option.map_eq_some_iff.mp stepped
    rw [ih later, List.getLast?_cons]
    cases rest.getLast? <;> rfl

/-- The verdict on tokens behind a step is that of going on where the step has led. -/
theorem verdict_of_step (stop : Token) {state next : Automaton} {token : Token}
    (stepped : state.step token = some next) (rest : List Token) :
    state.verdict stop (token :: rest) = next.verdict stop rest := by
  rw [verdict, stepped]

/-- The verdict on tokens behind a run is that of going on where the run has led. -/
theorem verdict_of_run (stop : Token) {state next : Automaton} {front : List Token}
    (reached : state.run front = some next) (rest : List Token) :
    state.verdict stop (front ++ rest) = next.verdict stop rest := by
  induction front generalizing state with
  | nil =>
    cases reached
    rfl
  | cons token others ih =>
    obtain ⟨between, stepped, later⟩ := Option.bind_eq_some_iff.mp reached
    rw [List.cons_append, verdict_of_step stop stepped, ih later]

/-- A failure is that of a token behind a run, or that of the end of the input behind all tokens. -/
theorem exists_stuck_of_verdict {stop : Token} {state : Automaton} {tokens : List Token}
    {failure : SyntaxError} (failed : state.verdict stop tokens = some failure) :
    ∃ front next, state.run front = some next ∧
      ((∃ found rest, tokens = front ++ found :: rest ∧ next.step found = none ∧
          next.failure found = failure) ∨
        tokens = front ∧ ¬ next.MayEnd ∧ next.failure stop = failure) := by
  induction tokens generalizing state with
  | nil =>
    rw [verdict] at failed
    split at failed
    next => contradiction
    next unended => exact ⟨[], state, rfl, .inr ⟨rfl, unended, Option.some.inj failed⟩⟩
  | cons token rest ih =>
    rw [verdict] at failed
    split at failed
    next next stepped =>
      obtain ⟨front, last, reached, stuck⟩ := ih failed
      refine ⟨token :: front, last, ?_, ?_⟩
      · rw [run, stepped]
        exact reached
      · rcases stuck with ⟨found, others, rfl, refused, same⟩ | ⟨rfl, unended, same⟩
        · exact .inl ⟨found, others, rfl, refused, same⟩
        · exact .inr ⟨rfl, unended, same⟩
    next refused =>
      exact ⟨[], state, rfl, .inl ⟨token, rest, rfl, refused, Option.some.inj failed⟩⟩

/-- The automaton goes through attributes, and further ones may follow. -/
theorem run_of_attributed (state : Automaton) {head : List Token} {pairs : List (Text × Text)}
    (attributed : Attributed head pairs) (inHead : state.InHead) :
    ∃ previous, state.run head = some ⟨state.opened, previous⟩ ∧
      InHead ⟨state.opened, previous⟩ := by
  induction attributed generalizing state with
  | nil => exact ⟨state.previous, rfl, inHead⟩
  | @cons name value rest pairs named valued others ih =>
    have nameStep := step_name inHead named
    have valueStep : step ⟨state.opened, some .attributeName⟩ value = _ := step_value rfl valued
    obtain ⟨previous, reached, inside⟩ := ih ⟨state.opened, some .attributeValue⟩ (.inr rfl)
    refine ⟨previous, ?_, inside⟩
    rw [run, nameStep, Option.bind_some, run, valueStep, Option.bind_some, reached]

/-- Whether no attribute goes on in front of the tokens: no value is missing, and the tokens begin
    with no attribute or no attribute may follow. -/
def Settled (state : Automaton) (tokens : List Token) : Prop :=
  ¬ state.AwaitsValue ∧ (StartsNoAttribute tokens ∨ ¬ state.InHead)

/-- Behind a text, a comment or a closing tag no attribute goes on. -/
theorem settled_of_content {opened : List Token} {kind : Token.Kind}
    (content : kind = .text ∨ kind = .comment ∨ kind = .tagClose) (tokens : List Token) :
    Settled ⟨opened, some kind⟩ tokens := by
  rcases content with rfl | rfl | rfl <;> simp [Settled, AwaitsValue, InHead]

/-- The automaton goes through derived nodes inside few enough elements, and the same elements are
    open behind them.

    Induct on the derivation. The children of an element are gone through with its opening tag on
    top of what is open, and its closing tag takes that off again. -/
theorem run_of_derives {tokens : List Token} {nodes : List Node} (derives : Derives tokens nodes)
    (state : Automaton) (fits : state.opened.length + Node.nestings nodes ≤ maxNesting)
    {left : List Token} (settled : state.Settled (tokens ++ left)) :
    ∃ previous, state.run tokens = some ⟨state.opened, previous⟩ ∧
      Settled ⟨state.opened, previous⟩ left := by
  induction derives generalizing state left with
  | nil => exact ⟨state.previous, rfl, settled⟩
  | @text token rest siblings kind others ih =>
    simp only [Node.nestings, Node.nesting, Nat.zero_max] at fits
    have stepped : state.step token = _ := step_content settled.1 (.inl kind)
    obtain ⟨previous, reached, later⟩ :=
      ih ⟨state.opened, some token.kind⟩ fits (settled_of_content (.inl kind) _)
    exact ⟨previous, by rw [run, stepped, Option.bind_some, reached], later⟩
  | @comment token rest siblings kind others ih =>
    simp only [Node.nestings, Node.nesting, Nat.zero_max] at fits
    have stepped : state.step token = _ := step_content settled.1 (.inr kind)
    obtain ⟨previous, reached, later⟩ :=
      ih ⟨state.opened, some token.kind⟩ fits (settled_of_content (.inr (.inl kind)) _)
    exact ⟨previous, by rw [run, stepped, Option.bind_some, reached], later⟩
  | @element opening close head body rest pairs attributes children siblings kind attributed
      collected inside closes others childrenRun siblingsRun =>
    simp only [Node.nestings, Node.nesting] at fits
    have shallow : state.opened.length < maxNesting := by omega
    have opens := step_open settled.1 kind shallow
    obtain ⟨headEnd, headRun, inHead⟩ :=
      run_of_attributed ⟨opening :: state.opened, some .tagOpen⟩ attributed (.inl rfl)
    have childrenFit : (opening :: state.opened).length + Node.nestings children ≤ maxNesting := by
      rw [List.length_cons]
      omega
    have childrenSettled :
        Settled ⟨opening :: state.opened, headEnd⟩ (body ++ close :: (rest ++ left)) :=
      ⟨inHead.complete, .inl (startsNoAttribute_of_derives inside closes _)⟩
    obtain ⟨bodyEnd, bodyRun, bodySettled⟩ :=
      childrenRun ⟨opening :: state.opened, headEnd⟩ childrenFit childrenSettled
    have closed : step ⟨opening :: state.opened, bodyEnd⟩ close = _ :=
      step_close bodySettled.1 rfl closes
    have siblingsFit : state.opened.length + Node.nestings siblings ≤ maxNesting := by omega
    obtain ⟨previous, reached, later⟩ := siblingsRun ⟨state.opened, some .tagClose⟩ siblingsFit
      (settled_of_content (.inr (.inr rfl)) _)
    refine ⟨previous, ?_, later⟩
    rw [List.append_assoc, List.cons_append, run, opens, Option.bind_some, run_append, headRun,
      Option.bind_some, run_append, bodyRun, Option.bind_some, run, closed, Option.bind_some,
      reached]

/-- No run goes through the end of the input. -/
theorem not_isEnd_of_run {state next : Automaton} {tokens : List Token}
    (reached : state.run tokens = some next) : ∀ token ∈ tokens, token.isEnd = false := by
  induction tokens generalizing state with
  | nil => simp
  | cons token rest ih =>
    obtain ⟨between, stepped, later⟩ := Option.bind_eq_some_iff.mp reached
    refine List.forall_mem_cons.mpr ⟨?_, ih later⟩
    rw [Bool.eq_false_iff]
    intro ends
    rw [step_isEnd ends] at stepped
    contradiction

/-- A closing tag for an element that is open. -/
def closingFor (opening : Token) : Token := ⟨.tagClose, opening.value, opening.position⟩

/-- Closing tags for all elements that are open lead to where the input may end. -/
theorem run_closings (state : Automaton) (complete : ¬ state.AwaitsValue) :
    ∃ last, state.run (state.opened.map closingFor) = some last ∧ last.MayEnd := by
  obtain ⟨opened, previous⟩ := state
  induction opened generalizing previous with
  | nil => exact ⟨⟨[], previous⟩, rfl, rfl, complete⟩
  | cons opening outer ih =>
    have closes : (closingFor opening).closes opening.value = true := by
      simp [closingFor, Token.closes]
    have stepped : step ⟨opening :: outer, previous⟩ (closingFor opening) = _ :=
      step_close complete rfl closes
    obtain ⟨last, reached, ended⟩ := ih (some .tagClose) (by simp [AwaitsValue])
    exact ⟨last, by rw [List.map_cons, run, stepped, Option.bind_some, reached], ended⟩

/-- Wherever the automaton is, there are tokens that lead to where the input may end: a value if one
    is missing, and the closing tags. -/
theorem exists_completion (state : Automaton) :
    ∃ more last, state.run more = some last ∧ last.MayEnd := by
  by_cases awaits : state.AwaitsValue
  · let value : Token := ⟨.attributeValue, [], .start⟩
    have stepped : state.step value = _ := step_value awaits rfl
    obtain ⟨last, reached, ended⟩ :=
      run_closings ⟨state.opened, some .attributeValue⟩ (by simp [AwaitsValue])
    exact ⟨value :: state.opened.map closingFor, last,
      by rw [run, stepped, Option.bind_some, reached], ended⟩
  · obtain ⟨last, reached, ended⟩ := run_closings state awaits
    exact ⟨_, last, reached, ended⟩

end Automaton

end FlashMarkup.Document
