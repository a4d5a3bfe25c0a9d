import FlashMarkup.Lexeme
import FlashMarkup.Token.Basic

/-!
# Scanning

Scanning turns the lexemes of a source into tokens. Each step consumes some of the remaining
source and emits at most one token; blanks between tokens are skipped. An at sign directly
behind a tag name or an attribute value closes the head of the tag and is skipped too, unless a
slash follows it. A comment or a quoted value whose closing delimiter is missing, and an at sign
without a name, are the only failures.
-/

namespace FlashMarkup

/-- What can be wrong with a source before any tag is understood. -/
inductive LexError where
  /-- A comment opened at `start`, and the input ends at `stop` without its closing delimiter. -/
  | unterminatedComment (start stop : Position)
  /-- A value was opened at `start` by a quote that does not occur again up to `stop`. -/
  | unterminatedValue (quote : Char) (start stop : Position)
  /-- An at sign has no tag name behind it. -/
  | missingTagName (position : Position)
deriving DecidableEq, Repr

/-- Where the failure was noticed. -/
def LexError.position : LexError → Position
  | .unterminatedComment _ stop => stop
  | .unterminatedValue _ _ stop => stop
  | .missingTagName position => position

/-- The message that reports the failure. -/
def LexError.message : LexError → Text
  | .unterminatedComment start stop =>
    "closing '##' not found for the comment opened at " ++ start.toText ++ " (end of input at " ++
      stop.toText ++ ")"
  | .unterminatedValue quote start stop =>
    "closing quote " ++ [quote] ++ " not found for the attribute value opened at " ++
      start.toText ++ " (end of input at " ++ stop.toText ++ ")"
  | .missingTagName position => "expected a tag name after '@' at " ++ position.toText

namespace Token

/-- One step of scanning: the token it emits, the text it consumes, the lexemes it leaves. -/
structure Step where
  emitted : Option Token
  consumed : Text
  rest : List Lexeme
deriving Repr

/-- Whether an at sign directly behind the step closes the head of a tag. -/
def Step.endsHead (step : Step) : Bool := step.emitted.any (·.kind.endsHead)

/-- The lexemes before the first of the given class, that lexeme, and the lexemes behind it. -/
def enclosed (kind : Lexeme.Kind) : List Lexeme → Option (List Lexeme × Lexeme × List Lexeme)
  | [] => none
  | lexeme :: rest =>
    if lexeme.kind = kind then some ([], lexeme, rest)
    else (enclosed kind rest).map fun (inside, close, after) => (lexeme :: inside, close, after)

/-- Whether the next lexeme has the given class. -/
def nextIs (kind : Lexeme.Kind) (lexemes : List Lexeme) : Bool :=
  lexemes.head?.any (·.kind == kind)

/-- Whether text ends before this lexeme. -/
def endsText (lexeme : Lexeme) : Bool :=
  lexeme.kind == .atSign || lexeme.kind == .commentDelimiter

/-- The name of a tag, which has to follow its opening mark at once. -/
def tagName (kind : Kind) (position : Position) (mark : Text) :
    List Lexeme → Except LexError Step
  | [] => .error (.missingTagName position)
  | lexeme :: rest =>
    if lexeme.kind = .word then
      .ok ⟨some ⟨kind, lexeme.text, position⟩, mark ++ lexeme.text, rest⟩
    else .error (.missingTagName position)

/-- A tag behind its at sign: a slash makes it a closing one. -/
def tag (position : Position) (mark : Text) : List Lexeme → Except LexError Step
  | [] => .error (.missingTagName position)
  | lexeme :: rest =>
    if lexeme.kind = .slash then tagName .tagClose position (mark ++ lexeme.text) rest
    else tagName .tagOpen position mark (lexeme :: rest)

/-- Everything up to the next lexeme of the class that opened it, or a failure. -/
def delimited (kind : Kind) (position : Position) (opening : Lexeme) (rest : List Lexeme)
    (failure : Position → LexError) : Except LexError Step :=
  match enclosed opening.kind rest with
  | some (inside, close, after) =>
    let value := Lexeme.concat inside
    .ok ⟨some ⟨kind, value, position⟩, opening.text ++ value ++ close.text, after⟩
  | none => .error (failure (position.past (Lexeme.concat (opening :: rest))))

/-- An attribute name with its equals sign, if the word may start a name. -/
def attributeName? (position : Position) (word : Lexeme) : List Lexeme → Option Step
  | [] => none
  | equals :: rest =>
    let named := word.text.head?.any fun c => c.isAlpha || c == '_'
    if named ∧ equals.kind = .equals then
      some ⟨some ⟨.attributeName, word.text, position⟩, word.text ++ equals.text, rest⟩
    else none

/-- Text up to the next at sign or comment. Its first lexeme belongs to it whatever it is. -/
def plain (position : Position) (first : Lexeme) (rest : List Lexeme) : Step :=
  let value := first.text ++ Lexeme.concat (rest.takeWhile fun lexeme => !endsText lexeme)
  ⟨some ⟨.text, value, position⟩, value, rest.dropWhile fun lexeme => !endsText lexeme⟩

/-- One step of scanning. `afterHead` says whether a tag head may have ended just before the
    first lexeme. -/
def step (position : Position) (afterHead : Bool) (first : Lexeme) (rest : List Lexeme) :
    Except LexError Step :=
  match first.kind with
  | .blank => .ok ⟨none, first.text, rest⟩
  | .atSign =>
    if afterHead && !nextIs .slash rest then .ok ⟨none, first.text, rest⟩
    else tag position first.text rest
  | .commentDelimiter =>
    delimited .comment position first rest (.unterminatedComment position)
  | .doubleQuote =>
    delimited .attributeValue position first rest (.unterminatedValue '"' position)
  | .singleQuote =>
    delimited .attributeValue position first rest (.unterminatedValue '\'' position)
  | .word => .ok ((attributeName? position first rest).getD (plain position first rest))
  | _ => .ok (plain position first rest)

/-- What is left behind a closing delimiter is shorter than where the search started. -/
theorem length_of_enclosed {kind : Lexeme.Kind} {lexemes inside after : List Lexeme}
    {close : Lexeme} (found : enclosed kind lexemes = some (inside, close, after)) :
    after.length < lexemes.length := by
  induction lexemes generalizing inside with
  | nil => simp [enclosed] at found
  | cons lexeme rest ih =>
    by_cases same : lexeme.kind = kind
    · simp only [enclosed, same, if_true, Option.some.injEq, Prod.mk.injEq] at found
      simp [found.2.2]
    · simp only [enclosed, same, if_false, Option.map_eq_some_iff, Prod.mk.injEq] at found
      obtain ⟨⟨others, closing, remaining⟩, inner, -, rfl, rfl⟩ := found
      exact Nat.lt_succ_of_lt (ih inner)

/-- A delimited token leaves no more than what stood behind its opening. -/
theorem length_of_delimited {kind : Kind} {position : Position} {opening : Lexeme}
    {rest : List Lexeme} {failure : Position → LexError} {result : Step}
    (done : delimited kind position opening rest failure = .ok result) :
    result.rest.length ≤ rest.length := by
  unfold delimited at done
  split at done
  next inside close after found =>
    cases done
    exact Nat.le_of_lt (length_of_enclosed found)
  next => contradiction

/-- A tag name leaves no more than what stood behind the mark. -/
theorem length_of_tagName {kind : Kind} {position : Position} {mark : Text}
    {rest : List Lexeme} {result : Step} (done : tagName kind position mark rest = .ok result) :
    result.rest.length ≤ rest.length := by
  unfold tagName at done
  split at done
  next => contradiction
  next lexeme after =>
    split at done
    next => cases done; exact Nat.le_succ _
    next => contradiction

/-- A tag leaves no more than what stood behind its at sign. -/
theorem length_of_tag {position : Position} {mark : Text} {rest : List Lexeme} {result : Step}
    (done : tag position mark rest = .ok result) : result.rest.length ≤ rest.length := by
  unfold tag at done
  split at done
  next => contradiction
  next lexeme after =>
    split at done
    next => exact Nat.le_succ_of_le (length_of_tagName done)
    next => exact length_of_tagName done

/-- An attribute name leaves no more than what stood behind its word. -/
theorem length_of_attributeName {position : Position} {word : Lexeme} {rest : List Lexeme}
    {result : Step} (done : attributeName? position word rest = some result) :
    result.rest.length ≤ rest.length := by
  unfold attributeName? at done
  split at done
  next => contradiction
  next equals after =>
    simp only at done
    split at done
    next => cases done; exact Nat.le_succ _
    next => contradiction

/-- Text leaves no more than what stood behind its first lexeme. -/
theorem length_of_plain (position : Position) (first : Lexeme) (rest : List Lexeme) :
    (plain position first rest).rest.length ≤ rest.length :=
  (List.dropWhile_sublist _).length_le

/-- A step consumes its first lexeme at least. -/
theorem length_of_step {position : Position} {afterHead : Bool} {first : Lexeme}
    {rest : List Lexeme} {result : Step} (done : step position afterHead first rest = .ok result) :
    result.rest.length ≤ rest.length := by
  unfold step at done
  split at done
  next => cases done; exact Nat.le_refl _
  next =>
    split at done
    next => cases done; exact Nat.le_refl _
    next => exact length_of_tag done
  next => exact length_of_delimited done
  next => exact length_of_delimited done
  next => exact length_of_delimited done
  next =>
    cases done
    cases named : attributeName? position first rest with
    | none => exact length_of_plain position first rest
    | some result => exact length_of_attributeName named
  next => cases done; exact length_of_plain position first rest

/-- The tokens of the remaining lexemes, the first of which stands at the given position. -/
def scanFrom (position : Position) (afterHead : Bool) :
    List Lexeme → Except LexError (List Token)
  | [] => .ok [⟨.endOfInput, [], position⟩]
  | first :: rest =>
    match _done : step position afterHead first rest with
    | .error failure => .error failure
    | .ok result =>
      (scanFrom (position.past result.consumed) result.endsHead result.rest).map
        (result.emitted.toList ++ ·)
termination_by lexemes => lexemes.length
decreasing_by exact Nat.lt_succ_of_le (length_of_step _done)

/-- The tokens of a source, the last of which is the end of the input, or the first failure. -/
def scan (source : Text) : Except LexError (List Token) :=
  scanFrom Position.start false (Lexeme.split source)

end Token

end FlashMarkup
