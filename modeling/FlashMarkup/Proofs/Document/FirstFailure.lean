import FlashMarkup.Proofs.Document.Automaton
import Mathlib.Data.List.TakeWhile

/-!
# The first token that cannot be accepted

Parsing fails exactly where the automaton is stuck, and with the failure of that token. What stands
in front of the token can still be completed to a list that is parsed, and what stands behind it is
never looked at: so the failure is the first one of the list.

The recursion is compared with the automaton where it fails. All it read before is derived, so the
automaton has gone through it, and the elements it holds are those the recursion is inside of.
-/

namespace FlashMarkup.Document

/-- Behind the attributes that are read no further attribute begins. -/
theorem startsNoAttribute_of_readAttributes {stop : Token} {tokens left : List Token}
    {pairs : List (Text × Text)} (done : readAttributes stop tokens = .ok (pairs, left)) :
    StartsNoAttribute left := by
  fun_induction readAttributes stop tokens generalizing pairs left with
  | case1 =>
    cases done
    simp [StartsNoAttribute]
  | case2 => contradiction
  | case3 name named value after valued ih =>
    obtain ⟨⟨others, remaining⟩, inner, same⟩ := Result.map_eq_ok_iff.mp done
    obtain ⟨-, rfl⟩ := Prod.mk.inj same
    exact ih inner
  | case4 => contradiction
  | case5 name rest other =>
    cases done
    intro token first
    rwa [← Option.some.inj first]

/-- An element fails in its children, at the end of the input, at a token that is not its closing
    tag, or in its siblings. -/
theorem readElement_error {stop : Token} {depth : Nat} {opening : Token}
    {pairs : List (Text × Text)} {body : List Token} {failure : SyntaxError}
    (failed : readElement stop depth opening pairs body = .error failure) :
    readFront stop (depth + 1) body = .error failure ∨
      ∃ children tail, readFront stop (depth + 1) body = .ok (children, tail) ∧
        match tail with
        | [] => failure = .missingClosingTag opening.value opening.position stop.position
        | close :: after =>
          if close.closes opening.value then readFront stop depth after = .error failure
          else failure = .unexpectedToken none close := by
  unfold readElement at failed
  cases inner : readFront stop (depth + 1) body with
  | error other =>
    rw [inner] at failed
    cases failed
    exact .inl rfl
  | ok result =>
    obtain ⟨children, tail⟩ := result
    rw [inner] at failed
    refine .inr ⟨children, tail, rfl, ?_⟩
    cases tail with
    | nil =>
      cases failed
      rfl
    | cons close after =>
      simp only [bind, Except.bind] at failed ⊢
      split at failed
      next closes =>
        rw [if_pos closes]
        exact Result.map_eq_error_iff.mp failed
      next other =>
        cases failed
        rw [if_neg other]

/-- A token list that is refused fails in its nodes or at a token behind them. -/
theorem ofTokens_eq_error {tokens : List Token} {failure : SyntaxError}
    (failed : ofTokens tokens = .error failure) :
    readFront (endToken tokens) 0 (meaningful tokens) = .error failure ∨
      ∃ nodes token rest,
        readFront (endToken tokens) 0 (meaningful tokens) = .ok (nodes, token :: rest) ∧
          failure = .unexpectedToken none token := by
  unfold ofTokens at failed
  unfold readFront meaningful
  cases read : readNodes (endToken tokens) 0 (tokens.takeWhile fun token => !token.isEnd) with
  | error other =>
    rw [read] at failed
    cases failed
    exact .inl rfl
  | ok result =>
    obtain ⟨nodes, left, bound⟩ := result
    rw [read] at failed
    cases left with
    | nil => contradiction
    | cons token rest =>
      cases failed
      exact .inr ⟨nodes, token, rest, rfl, rfl⟩

namespace Automaton

/-- Attributes that cannot be read are judged by the token that is no value. -/
theorem verdict_of_unattributed {stop : Token} (state : Automaton) {tokens : List Token}
    {failure : SyntaxError} (inHead : state.InHead)
    (failed : readAttributes stop tokens = .error failure) :
    state.verdict stop tokens = some failure := by
  fun_induction readAttributes stop tokens generalizing state with
  | case1 => contradiction
  | case2 name named =>
    cases failed
    have awaits : AwaitsValue ⟨state.opened, some .attributeName⟩ := rfl
    simp [verdict, step_name inHead named, MayEnd, Automaton.failure, awaits]
  | case3 name named value after valued ih =>
    have nameStep := step_name inHead named
    have valueStep : step ⟨state.opened, some .attributeName⟩ value = _ := step_value rfl valued
    cases inner : readAttributes stop after with
    | ok result => rw [inner] at failed; contradiction
    | error other =>
      rw [inner] at failed
      cases failed
      rw [verdict_of_step stop nameStep, verdict_of_step stop valueStep]
      exact ih ⟨state.opened, some .attributeValue⟩ (.inr rfl) inner
  | case4 name named value after other =>
    cases failed
    have awaits : AwaitsValue ⟨state.opened, some .attributeName⟩ := rfl
    have refused : step ⟨state.opened, some .attributeName⟩ value = none := by
      simp [step, openedBehind?, awaits, other]
    simp [verdict, step_name inHead named, refused, Automaton.failure, awaits]
  | case5 => contradiction

/-- A token at which a list of nodes ends and which does not close the innermost element is refused
    as one that may not stand there. -/
theorem refused_of_startsNoNode {state : Automaton} {token : Token} {rest : List Token}
    (settled : state.Settled (token :: rest)) (ends : StartsNoNode (token :: rest))
    (inner : token.isEnd = false)
    (other : ∀ opening ∈ state.opened.head?, ¬ token.closes opening.value = true) :
    state.step token = none ∧ state.failure token = .unexpectedToken none token := by
  obtain ⟨complete, noName⟩ := settled
  obtain ⟨noText, noComment, noTag⟩ := ends token rfl
  cases kind : token.kind with
  | text => contradiction
  | comment => contradiction
  | tagOpen => contradiction
  | endOfInput => simp [Token.isEnd, kind] at inner
  | attributeName =>
    have outside : ¬ state.InHead := noName.resolve_left fun none => none token rfl kind
    simp [step, openedBehind?, failure, complete, kind, outside]
  | attributeValue => simp [step, openedBehind?, failure, complete, kind]
  | tagClose =>
    refine ⟨?_, by simp [failure, complete, kind]⟩
    cases opened : state.opened with
    | nil => simp [step, openedBehind?, complete, kind, opened]
    | cons opening outer =>
      have different := other opening (by rw [opened]; rfl)
      simp [step, openedBehind?, complete, kind, opened, different]

/-- Where reading behind the head of an element fails, the automaton gives the same verdict, if it
    does so in the children and in the siblings. -/
theorem verdict_of_readElement {stop : Token} (ends : stop.kind = .endOfInput)
    {opened : List Token} {opening : Token} {previous : Option Token.Kind}
    {pairs : List (Text × Text)} {body : List Token} {failure : SyntaxError}
    (inner : ∀ token ∈ body, token.isEnd = false) (shallow : opened.length < maxNesting)
    (settled : Settled ⟨opening :: opened, previous⟩ body)
    (inChildren : readFront stop (opened.length + 1) body = .error failure →
      verdict stop ⟨opening :: opened, previous⟩ body = some failure)
    (inSiblings : ∀ after, after.length < body.length → (∀ token ∈ after, token.isEnd = false) →
      readFront stop opened.length after = .error failure →
        verdict stop ⟨opened, some .tagClose⟩ after = some failure)
    (failed : readElement stop opened.length opening pairs body = .error failure) :
    verdict stop ⟨opening :: opened, previous⟩ body = some failure := by
  rcases readElement_error failed with children | ⟨children, tail, read, behind⟩
  · exact inChildren children
  obtain ⟨consumed, rfl, derives, noNode, fits⟩ := derives_of_readFront shallow read
  obtain ⟨last, reached, atTail⟩ :=
    run_of_derives derives ⟨opening :: opened, previous⟩ fits settled
  rw [verdict_of_run stop reached]
  cases tail with
  | nil =>
    cases behind
    simp [verdict, MayEnd, Automaton.failure, atTail.1, ends]
  | cons close after =>
    have innerTail := (List.forall_mem_append.mp inner).2
    dsimp only at behind
    split at behind
    next closes =>
      rw [verdict_of_step stop (step_close atTail.1 rfl closes)]
      apply inSiblings after _ (List.forall_mem_cons.mp innerTail).2 behind
      simp only [List.length_append, List.length_cons]
      omega
    next other =>
      have unclosed : ∀ innermost ∈ (opening :: opened).head?,
          ¬ close.closes innermost.value = true := by
        intro innermost top
        obtain rfl := Option.some.inj top
        exact other
      obtain ⟨refused, same⟩ :=
        refused_of_startsNoNode atTail noNode (innerTail close List.mem_cons_self) unclosed
      rw [verdict, refused, same, behind]

/-- Where reading nodes fails, the automaton gives the same verdict.

    Recurse on the number of tokens. Whatever was read in front of the failure is derived, so the
    automaton has gone through it, with the same elements open as the recursion is inside of. -/
theorem verdict_of_readFront {stop : Token} (ends : stop.kind = .endOfInput) (state : Automaton)
    {tokens : List Token} (inner : ∀ token ∈ tokens, token.isEnd = false)
    (fits : state.opened.length ≤ maxNesting) (settled : state.Settled tokens)
    {failure : SyntaxError} (failed : readFront stop state.opened.length tokens = .error failure) :
    state.verdict stop tokens = some failure := by
  match tokens with
  | [] =>
    rw [readFront_stop stop _ (by simp [StartsNoNode])] at failed
    contradiction
  | token :: rest =>
    have innerRest : ∀ token ∈ rest, token.isEnd = false := (List.forall_mem_cons.mp inner).2
    have shorterRest : rest.length < (token :: rest).length := Nat.lt_succ_self _
    by_cases content : token.kind = .text ∨ token.kind = .comment
    · have behind : readFront stop state.opened.length rest = .error failure := by
        rcases content with kind | kind
        · rwa [readFront_text stop _ kind, Result.map_eq_error_iff] at failed
        · rwa [readFront_comment stop _ kind, Result.map_eq_error_iff] at failed
      rw [verdict_of_step stop (step_content settled.1 content)]
      exact verdict_of_readFront ends ⟨state.opened, some token.kind⟩ innerRest fits
        (settled_of_content (content.imp_right .inl) _) behind
    by_cases kind : token.kind = .tagOpen
    · by_cases deep : maxNesting ≤ state.opened.length
      · have full : state.opened.length = maxNesting := Nat.le_antisymm fits deep
        rw [readFront_deep stop _ kind rest deep] at failed
        cases failed
        simp [verdict, step, openedBehind?, Automaton.failure, settled.1, kind, full]
      have shallow : state.opened.length < maxNesting := Nat.lt_of_not_le deep
      rw [verdict_of_step stop (step_open settled.1 kind shallow)]
      cases attributes : readAttributes stop rest with
      | error other =>
        rw [readFront_unattributed stop _ kind shallow attributes] at failed
        cases failed
        exact verdict_of_unattributed _ (.inl rfl) attributes
      | ok result =>
        obtain ⟨pairs, body⟩ := result
        rw [readFront_open stop _ kind shallow attributes] at failed
        have shorterBody : body.length < (token :: rest).length :=
          Nat.lt_succ_of_le (length_of_readAttributes attributes)
        obtain ⟨head, split, attributed⟩ := attributed_of_readAttributes attributes
        obtain ⟨previous, reached, inHead⟩ :=
          run_of_attributed ⟨token :: state.opened, some .tagOpen⟩ attributed (.inl rfl)
        rw [split] at innerRest
        have innerBody := (List.forall_mem_append.mp innerRest).2
        have bodySettled : Settled ⟨token :: state.opened, previous⟩ body :=
          ⟨inHead.complete, .inl (startsNoAttribute_of_readAttributes attributes)⟩
        rw [split, verdict_of_run stop reached]
        apply verdict_of_readElement ends innerBody shallow bodySettled _ _ failed
        · intro children
          exact verdict_of_readFront ends ⟨token :: state.opened, previous⟩ innerBody shallow
            bodySettled children
        · intro after shorter innerAfter siblings
          have shorterAfter : after.length < (token :: rest).length :=
            Nat.lt_trans shorter shorterBody
          exact verdict_of_readFront ends ⟨state.opened, some .tagClose⟩ innerAfter fits
            (settled_of_content (.inr (.inr rfl)) _) siblings
    · rw [readFront_stop stop _ ?_] at failed
      · contradiction
      · intro first found
        obtain rfl := Option.some.inj found
        exact ⟨fun text => content (.inl text), fun comment => content (.inr comment), kind⟩
termination_by tokens.length
decreasing_by
  · exact shorterRest
  · exact shorterBody
  · exact shorterAfter

end Automaton

/-- The end of the input as it counts behind a token list: without a value, at the position of the
    last token. -/
def endBehind (tokens : List Token) : Token :=
  ⟨.endOfInput, [], (tokens.getLast?.map Token.position).getD .start⟩

/-- Up to the first token that ends the input, counting the one behind the list, stand the
    meaningful tokens. -/
theorem exists_meaningful_split (tokens : List Token) :
    ∃ rest, tokens ++ [endBehind tokens] = meaningful tokens ++ endToken tokens :: rest := by
  cases found : tokens.find? Token.isEnd with
  | none =>
    have inner : ∀ token ∈ tokens, (!token.isEnd) = true := by
      simpa using List.find?_eq_none.mp found
    have whole : meaningful tokens = tokens := List.takeWhile_eq_self_iff.mpr inner
    exact ⟨[], by rw [whole, endToken, found]; rfl⟩
  | some stop =>
    obtain ⟨ends, front, rest, rfl, inner⟩ := List.find?_eq_some_iff_append.mp found
    have whole : meaningful (front ++ stop :: rest) = front := by
      rw [meaningful, List.takeWhile_append_of_pos inner,
        List.takeWhile_cons_of_neg (by simp [ends]), List.append_nil]
    refine ⟨rest ++ [endBehind (front ++ stop :: rest)], ?_⟩
    rw [whole, endToken, found]
    simp

/-- The token at which reading ends is the end of the input. -/
theorem kind_endToken (tokens : List Token) : (endToken tokens).kind = .endOfInput := by
  unfold endToken
  cases found : tokens.find? Token.isEnd with
  | none => rfl
  | some stop => simpa [Token.isEnd] using List.find?_some found

/-- Meaningful tokens do not end the input. -/
theorem not_isEnd_of_mem_meaningful {tokens : List Token} :
    ∀ token ∈ meaningful tokens, token.isEnd = false := by
  intro token member
  simpa using List.mem_takeWhile_imp member

namespace Automaton

/-- In front of all tokens nothing goes on. -/
theorem settled_start (tokens : List Token) : start.Settled tokens := by
  simp [Settled, start, AwaitsValue, InHead]

/-- The automaton has no objection to a token list that is parsed. -/
theorem verdict_of_ok {tokens : List Token} {document : Document}
    (parsed : ofTokens tokens = .ok document) :
    start.verdict (endToken tokens) (meaningful tokens) = none := by
  obtain ⟨derives, shallow⟩ := (ofTokens_iff_derived tokens document).mp parsed
  have fits : start.opened.length + Node.nestings document.children ≤ maxNesting := by
    simpa [start, nesting] using shallow
  obtain ⟨last, reached, settled⟩ := run_of_derives derives start fits (settled_start (_ ++ []))
  have verdict := verdict_of_run (endToken tokens) reached []
  rw [List.append_nil] at verdict
  rw [verdict, Automaton.verdict, if_pos ⟨rfl, settled.1⟩]

/-- The automaton gives the failure of a token list that is refused. -/
theorem verdict_of_error {tokens : List Token} {failure : SyntaxError}
    (failed : ofTokens tokens = .error failure) :
    start.verdict (endToken tokens) (meaningful tokens) = some failure := by
  have shallow : start.opened.length ≤ maxNesting := Nat.zero_le _
  rcases ofTokens_eq_error failed with inNodes | ⟨nodes, token, rest, read, rfl⟩
  · exact verdict_of_readFront (kind_endToken tokens) start not_isEnd_of_mem_meaningful shallow
      (settled_start _) inNodes
  · obtain ⟨consumed, whole, derives, noNode, fits⟩ := derives_of_readFront (Nat.zero_le _) read
    obtain ⟨last, reached, settled⟩ :=
      run_of_derives derives start fits (settled_start (consumed ++ token :: rest))
    have inner : token.isEnd = false := by
      apply not_isEnd_of_mem_meaningful token
      rw [whole]
      exact List.mem_append_right consumed List.mem_cons_self
    obtain ⟨refused, same⟩ := refused_of_startsNoNode settled noNode inner (by simp [start])
    rw [whole, verdict_of_run _ reached, verdict, refused, same]

/-- A token list is parsed if the automaton has no objection to it. -/
theorem exists_document_of_verdict {tokens : List Token}
    (accepted : start.verdict (endToken tokens) (meaningful tokens) = none) :
    ∃ document, ofTokens tokens = .ok document := by
  cases result : ofTokens tokens with
  | ok document => exact ⟨document, rfl⟩
  | error failure =>
    rw [verdict_of_error result] at accepted
    contradiction

/-- A token list is refused with the failure that the automaton gives. -/
theorem ofTokens_of_verdict {tokens : List Token} {failure : SyntaxError}
    (refused : start.verdict (endToken tokens) (meaningful tokens) = some failure) :
    ofTokens tokens = .error failure := by
  cases result : ofTokens tokens with
  | ok document =>
    rw [verdict_of_ok result] at refused
    contradiction
  | error other =>
    rw [verdict_of_error result] at refused
    rw [Option.some.inj refused]

/-- A token that is not accepted decides the failure, whatever stands behind it. -/
theorem ofTokens_of_refused {front : List Token} {state : Automaton} {found : Token}
    (reached : start.run front = some state) (refused : ¬ state.Accepts found)
    (others : List Token) : ofTokens (front ++ found :: others) = .error (state.failure found) := by
  have inner : ∀ token ∈ front, (!token.isEnd) = true := by
    simpa using not_isEnd_of_run reached
  rw [Accepts, not_or, Bool.not_eq_true, Option.isSome_eq_false_iff, Option.isNone_iff_eq_none]
    at refused
  obtain ⟨stepless, unended⟩ := refused
  apply ofTokens_of_verdict
  by_cases ends : found.isEnd = true
  · have noEnd : front.find? Token.isEnd = none := by simpa using inner
    have whole : meaningful (front ++ found :: others) = front := by
      rw [meaningful, List.takeWhile_append_of_pos inner,
        List.takeWhile_cons_of_neg (by simp [ends]), List.append_nil]
    have stop : endToken (front ++ found :: others) = found := by
      rw [endToken, List.find?_append, noEnd, Option.none_or, List.find?_cons_of_pos ends]
      rfl
    have verdict := verdict_of_run found reached []
    rw [List.append_nil] at verdict
    rw [whole, stop, verdict, Automaton.verdict, if_neg fun may => unended ⟨ends, may⟩]
  · have whole : meaningful (front ++ found :: others) = front ++ found :: meaningful others := by
      rw [meaningful, List.takeWhile_append_of_pos inner,
        List.takeWhile_cons_of_pos (by simp [ends]), meaningful]
    rw [whole, verdict_of_run _ reached, verdict, stepless]

end Automaton

/-- The end of the input may as well be written behind a token list that is refused. -/
theorem ofTokens_of_endBehind {tokens : List Token} {failure : SyntaxError}
    (failed : ofTokens (tokens ++ [endBehind tokens]) = .error failure) :
    ofTokens tokens = .error failure := by
  have stop : endToken (tokens ++ [endBehind tokens]) = endToken tokens := by
    rw [endToken, endToken, List.find?_append]
    cases tokens.find? Token.isEnd <;> rfl
  have whole : meaningful (tokens ++ [endBehind tokens]) = meaningful tokens := by
    obtain ⟨rest, split⟩ := exists_meaningful_split tokens
    have inner : ∀ token ∈ meaningful tokens, (!token.isEnd) = true := by
      simpa using not_isEnd_of_mem_meaningful
    have ends : (endToken tokens).isEnd = true := by simp [Token.isEnd, kind_endToken]
    rw [split, meaningful, List.takeWhile_append_of_pos inner,
      List.takeWhile_cons_of_neg (by simp [ends]), List.append_nil]
  have verdict := Automaton.verdict_of_error failed
  rw [stop, whole] at verdict
  exact Automaton.ofTokens_of_verdict verdict

/-- Where the automaton is stuck in a token list: it goes through the tokens in front of one that it
    does not accept. The end of the input counts as a token behind the list. -/
structure Stuck (tokens front : List Token) (state : Automaton) (found : Token) : Prop where
  split : ∃ rest, tokens ++ [endBehind tokens] = front ++ found :: rest
  reached : Automaton.start.run front = some state
  refused : ¬ state.Accepts found

/-- Where the automaton is stuck, the token list is refused with the failure of that token. -/
theorem Stuck.failure {tokens front : List Token} {state : Automaton} {found : Token}
    (stuck : Stuck tokens front state found) : ofTokens tokens = .error (state.failure found) := by
  obtain ⟨rest, split⟩ := stuck.split
  apply ofTokens_of_endBehind
  rw [split]
  exact Automaton.ofTokens_of_refused stuck.reached stuck.refused rest

/-- In a token list that is refused the automaton is stuck. -/
theorem exists_stuck {tokens : List Token} {failure : SyntaxError}
    (failed : ofTokens tokens = .error failure) :
    ∃ front state found, Stuck tokens front state found ∧ state.failure found = failure := by
  obtain ⟨rest, split⟩ := exists_meaningful_split tokens
  have verdict := Automaton.verdict_of_error failed
  obtain ⟨front, state, reached, inside | atEnd⟩ := Automaton.exists_stuck_of_verdict verdict
  · obtain ⟨found, behind, whole, stepless, same⟩ := inside
    have inner : found.isEnd = false := by
      apply not_isEnd_of_mem_meaningful found
      rw [whole]
      exact List.mem_append_right front List.mem_cons_self
    refine ⟨front, state, found, ⟨⟨behind ++ endToken tokens :: rest, ?_⟩, reached, ?_⟩, same⟩
    · rw [split, whole, List.append_assoc, List.cons_append]
    · simp [Automaton.Accepts, stepless, inner]
  · obtain ⟨whole, unended, same⟩ := atEnd
    have ends : (endToken tokens).isEnd = true := by simp [Token.isEnd, kind_endToken]
    refine ⟨front, state, endToken tokens, ⟨⟨rest, whole ▸ split⟩, reached, ?_⟩, same⟩
    simp [Automaton.Accepts, Automaton.step_isEnd ends, unended]

/-- What the automaton has gone through can be completed to a token list that is parsed. -/
theorem exists_parsed_of_run {front : List Token} {state : Automaton}
    (reached : Automaton.start.run front = some state) :
    ∃ more document, ofTokens (front ++ more) = .ok document := by
  obtain ⟨more, last, completed, ended⟩ := state.exists_completion
  have through : Automaton.start.run (front ++ more) = some last := by
    rw [Automaton.run_append, reached, Option.bind_some, completed]
  have inner : ∀ token ∈ front ++ more, (!token.isEnd) = true := by
    simpa using Automaton.not_isEnd_of_run through
  have whole : meaningful (front ++ more) = front ++ more := List.takeWhile_eq_self_iff.mpr inner
  refine ⟨more, Automaton.exists_document_of_verdict ?_⟩
  have verdict := Automaton.verdict_of_run (endToken (front ++ more)) through []
  rw [List.append_nil] at verdict
  rw [whole, verdict, Automaton.verdict, if_pos ended]

/-- A token list is refused exactly if the automaton is stuck in it, with the failure of the token
    at which it is stuck. What it held there tells whether the token before was an attribute name.
    The tokens in front of that token can be completed to a list that is parsed, so no earlier token
    is at fault, and the tokens behind it do not matter. Only a value is ever asked for by kind. -/
theorem ofTokens_fails_where_stuck (tokens : List Token) (failure : SyntaxError) :
    (ofTokens tokens = .error failure ↔
      ∃ front state found, Stuck tokens front state found ∧ state.failure found = failure) ∧
    ∀ front state found, Stuck tokens front state found →
      state.previous = front.getLast?.map Token.kind ∧
      (∃ more document, ofTokens (front ++ more) = .ok document) ∧
      (∀ others, ofTokens (front ++ found :: others) = .error (state.failure found)) ∧
      ∀ kind other,
        state.failure found = .unexpectedToken (some kind) other → kind = .attributeValue := by
  refine ⟨⟨exists_stuck, ?_⟩, ?_⟩
  · rintro ⟨front, state, found, stuck, rfl⟩
    exact stuck.failure
  · intro front state found stuck
    refine ⟨?_, exists_parsed_of_run stuck.reached,
      Automaton.ofTokens_of_refused stuck.reached stuck.refused, ?_⟩
    · simpa [Automaton.start] using Automaton.previous_of_run stuck.reached
    · intro kind other same
      exact Automaton.expected_of_failure same

/-- An element inside another one whose attribute has no value. -/
def valuelessTokens : List Token :=
  [⟨.tagOpen, "a", ⟨1, 1⟩⟩, ⟨.text, "Hi ", ⟨1, 4⟩⟩, ⟨.tagOpen, "b", ⟨1, 7⟩⟩,
    ⟨.attributeName, "x", ⟨1, 10⟩⟩, ⟨.tagClose, "b", ⟨1, 13⟩⟩, ⟨.tagClose, "a", ⟨1, 17⟩⟩]

/-- The closing tag that stands in place of the value. -/
def valuelessClose : Token := ⟨.tagClose, "b", ⟨1, 13⟩⟩

/-- Two elements are open and the token before is an attribute name. -/
def valuelessState : Automaton :=
  ⟨[⟨.tagOpen, "b", ⟨1, 7⟩⟩, ⟨.tagOpen, "a", ⟨1, 1⟩⟩], some .attributeName⟩

/-- The automaton is stuck at the closing tag, so the tokens are refused there. What stands in front
    can be completed, and without what stands behind the failure is the same. -/
theorem ofTokens_fails_where_stuck_valueless :
    Stuck valuelessTokens (valuelessTokens.take 4) valuelessState valuelessClose ∧
      ofTokens valuelessTokens = .error (.unexpectedToken (some .attributeValue) valuelessClose) ∧
      (∃ more document, ofTokens (valuelessTokens.take 4 ++ more) = .ok document) ∧
      ofTokens (valuelessTokens.take 4 ++ [valuelessClose]) =
        .error (.unexpectedToken (some .attributeValue) valuelessClose) := by
  have stuck : Stuck valuelessTokens (valuelessTokens.take 4) valuelessState valuelessClose :=
    ⟨⟨_, rfl⟩, rfl, by decide⟩
  obtain ⟨refused, atStuck⟩ := ofTokens_fails_where_stuck valuelessTokens
    (.unexpectedToken (some .attributeValue) valuelessClose)
  obtain ⟨-, completed, others, -⟩ := atStuck _ _ _ stuck
  exact ⟨stuck, refused.mpr ⟨_, _, _, stuck, rfl⟩, completed, others []⟩

end FlashMarkup.Document
