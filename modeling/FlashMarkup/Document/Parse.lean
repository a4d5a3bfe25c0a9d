import FlashMarkup.Document.Basic
import FlashMarkup.Token.Basic

/-!
# Parsing

A document is a list of nodes up to the first end-of-input token, and

    node       ::= element | text | comment
    element    ::= opening tag, attributes, nodes, closing tag of the same name
    attributes ::= (attribute name, attribute value)*

Elements nest at most `maxNesting` deep. Reading a list of nodes stops, without failing, at the
first token that starts no node; the one who asked for the list decides whether that token is
acceptable. A token list without an end-of-input token counts as ended behind its last token.
-/

namespace FlashMarkup

/-- What can be wrong with the order of tokens. -/
inductive SyntaxError where
  /-- A token stands where another kind is required, or where no such token may stand. -/
  | unexpectedToken (expected : Option Token.Kind) (found : Token)
  /-- The input ends inside an element. -/
  | missingClosingTag (tag : Text) (openedAt position : Position)
  /-- An element is nested deeper than elements may be. -/
  | nestingTooDeep (tag : Text) (limit : Nat) (position : Position)
deriving DecidableEq, Repr

/-- Where the failure was noticed. -/
def SyntaxError.position : SyntaxError → Position
  | .unexpectedToken _ found => found.position
  | .missingClosingTag _ _ position => position
  | .nestingTooDeep _ _ position => position

/-- The message that reports the failure. -/
def SyntaxError.message : SyntaxError → Text
  | .unexpectedToken (some expected) found =>
    "expected " ++ expected.describe ++ ", found " ++ found.describe ++ " at " ++
      found.position.toText
  | .unexpectedToken none found =>
    "unexpected " ++ found.describe ++ " at " ++ found.position.toText
  | .missingClosingTag tag openedAt position =>
    "missing closing tag for '" ++ tag ++ "' opened at " ++ openedAt.toText ++
      " (end of input at " ++ position.toText ++ ")"
  | .nestingTooDeep tag limit position =>
    "'" ++ tag ++ "' at " ++ position.toText ++ " is nested more than " ++ Text.decimal limit ++
      " elements deep"

namespace Document

/-- How many elements may be open at once. -/
def maxNesting : Nat := 256

/-- The attributes at the front of a token list, and the tokens behind them. `stop` is the token
    that stands behind the list. -/
def readAttributes (stop : Token) :
    List Token → Except SyntaxError (List (Text × Text) × List Token)
  | [] => .ok ([], [])
  | name :: rest =>
    if name.kind = .attributeName then
      match rest with
      | [] => .error (.unexpectedToken (some .attributeValue) stop)
      | value :: after =>
        if value.kind = .attributeValue then
          (readAttributes stop after).map fun (pairs, left) =>
            ((name.value, value.value) :: pairs, left)
        else .error (.unexpectedToken (some .attributeValue) value)
    else .ok ([], name :: rest)

/-- Reading attributes leaves no more tokens than there were. -/
theorem length_of_readAttributes {stop : Token} {tokens left : List Token}
    {pairs : List (Text × Text)} (done : readAttributes stop tokens = .ok (pairs, left)) :
    left.length ≤ tokens.length := by
  fun_induction readAttributes stop tokens generalizing pairs left with
  | case1 =>
    cases done
    exact Nat.le_refl _
  | case2 => contradiction
  | case3 name named value after valued ih =>
    cases inner : readAttributes stop after with
    | error failure => rw [inner] at done; contradiction
    | ok result =>
      rw [inner] at done
      obtain ⟨others, remaining⟩ := result
      cases done
      exact Nat.le_succ_of_le (Nat.le_succ_of_le (ih inner))
  | case4 => contradiction
  | case5 name rest other =>
    cases done
    exact Nat.le_refl _

/-- The nodes at the front of a token list, inside `depth` open elements, and the tokens behind
    them. -/
def readNodes (stop : Token) (depth : Nat) (tokens : List Token) :
    Except SyntaxError (List Node × { left : List Token // left.length ≤ tokens.length }) :=
  match tokens with
  | [] => .ok ([], ⟨[], Nat.le_refl _⟩)
  | token :: rest =>
    match token.kind with
    | .text => do
      let (siblings, ⟨left, bound⟩) ← readNodes stop depth rest
      .ok (.text token.value token.position :: siblings, ⟨left, Nat.le_succ_of_le bound⟩)
    | .comment => do
      let (siblings, ⟨left, bound⟩) ← readNodes stop depth rest
      .ok (.comment token.value token.position :: siblings, ⟨left, Nat.le_succ_of_le bound⟩)
    | .tagOpen =>
      if maxNesting ≤ depth then .error (.nestingTooDeep token.value maxNesting token.position)
      else
        match attributed : readAttributes stop rest with
        | .error failure => .error failure
        | .ok (pairs, body) =>
          have shorter : body.length ≤ rest.length := length_of_readAttributes attributed
          do
            let (children, ⟨tail, bound⟩) ← readNodes stop (depth + 1) body
            match tail, bound with
            | [], _ => .error (.missingClosingTag token.value token.position stop.position)
            | close :: after, bound =>
              if close.closes token.value then do
                have inside : after.length < rest.length := Nat.lt_of_lt_of_le bound shorter
                let (siblings, ⟨left, remaining⟩) ← readNodes stop depth after
                let element := .element token.value (.ofList pairs) children token.position
                .ok (element :: siblings,
                  ⟨left, Nat.le_trans remaining (Nat.le_succ_of_le (Nat.le_of_lt inside))⟩)
              else .error (.unexpectedToken none close)
    | _ => .ok ([], ⟨token :: rest, Nat.le_refl _⟩)
termination_by tokens.length
decreasing_by
  · exact Nat.lt_succ_self _
  · exact Nat.lt_succ_self _
  · exact Nat.lt_succ_of_le shorter
  · exact Nat.lt_succ_of_lt inside

/-- The token at which reading ends: the first end of input, or one made up behind the list. -/
def endToken (tokens : List Token) : Token :=
  (tokens.find? Token.isEnd).getD
    ⟨.endOfInput, [], (tokens.getLast?.map Token.position).getD .start⟩

/-- The document that a token list stands for, or the first failure. -/
def ofTokens (tokens : List Token) : Except SyntaxError Document := do
  let (children, ⟨left, _⟩) ←
    readNodes (endToken tokens) 0 (tokens.takeWhile fun token => !token.isEnd)
  match left with
  | [] => .ok ⟨children⟩
  | token :: _ => .error (.unexpectedToken none token)

end Document

end FlashMarkup
