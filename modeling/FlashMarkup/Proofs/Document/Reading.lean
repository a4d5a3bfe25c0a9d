import FlashMarkup.Document.Parse

/-!
# Reading nodes from the front of a token list

Reading a list of nodes carries a proof that it leaves no more tokens than it found. Here the
proof is left out of the result, and one equation for each kind of token says what is read and
what is left: a text or a comment is one node, an opening tag is an element up to its closing tag,
and every other token ends the list.
-/

namespace FlashMarkup.Document

/-- The nodes at the front of a token list inside `depth` open elements, and the tokens left. -/
def readFront (stop : Token) (depth : Nat) (tokens : List Token) :
    Except SyntaxError (List Node × List Token) :=
  (readNodes stop depth tokens).map fun (nodes, left) => (nodes, left.val)

/-- What is read behind the attributes of an opening tag: the children, the closing tag and the
    siblings behind it. -/
def readElement (stop : Token) (depth : Nat) (opening : Token) (pairs : List (Text × Text))
    (body : List Token) : Except SyntaxError (List Node × List Token) := do
  let (children, tail) ← readFront stop (depth + 1) body
  match tail with
  | [] => .error (.missingClosingTag opening.value opening.position stop.position)
  | close :: after =>
    if close.closes opening.value then
      (readFront stop depth after).map fun (siblings, left) =>
        (.element opening.value (.ofList pairs) children opening.position :: siblings, left)
    else .error (.unexpectedToken none close)

/-- Whether no node begins with the first token of a list. -/
def StartsNoNode (tokens : List Token) : Prop :=
  ∀ token ∈ tokens.head?, token.kind ≠ .text ∧ token.kind ≠ .comment ∧ token.kind ≠ .tagOpen

variable (stop : Token) (depth : Nat)

/-- A text token is a text. -/
theorem readFront_text {token : Token} (kind : token.kind = .text) (rest : List Token) :
    readFront stop depth (token :: rest) = (readFront stop depth rest).map
      fun (siblings, left) => (.text token.value token.position :: siblings, left) := by
  unfold readFront
  rw [readNodes.eq_def]
  simp only [kind]
  cases readNodes stop depth rest <;> rfl

/-- A comment token is a comment. -/
theorem readFront_comment {token : Token} (kind : token.kind = .comment) (rest : List Token) :
    readFront stop depth (token :: rest) = (readFront stop depth rest).map
      fun (siblings, left) => (.comment token.value token.position :: siblings, left) := by
  unfold readFront
  rw [readNodes.eq_def]
  simp only [kind]
  cases readNodes stop depth rest <;> rfl

/-- The list of nodes ends where no node begins. -/
theorem readFront_stop {tokens : List Token} (ends : StartsNoNode tokens) :
    readFront stop depth tokens = .ok ([], tokens) := by
  unfold readFront
  rw [readNodes.eq_def]
  cases tokens with
  | nil => rfl
  | cons token rest =>
    obtain ⟨noText, noComment, noTag⟩ := ends token rfl
    dsimp only
    split <;> first | contradiction | rfl

/-- An opening tag inside too many elements is refused. -/
theorem readFront_deep {token : Token} (kind : token.kind = .tagOpen) (rest : List Token)
    (deep : maxNesting ≤ depth) : readFront stop depth (token :: rest) =
      .error (.nestingTooDeep token.value maxNesting token.position) := by
  unfold readFront
  rw [readNodes.eq_def]
  simp only [kind, deep, if_true]
  rfl

/-- Attributes that cannot be read refuse the element. -/
theorem readFront_unattributed {token : Token} (kind : token.kind = .tagOpen) {rest : List Token}
    (shallow : depth < maxNesting) {failure : SyntaxError}
    (failed : readAttributes stop rest = .error failure) :
    readFront stop depth (token :: rest) = .error failure := by
  unfold readFront
  rw [readNodes.eq_def]
  simp only [kind, Nat.not_le_of_lt shallow, if_false]
  split
  next other attributed =>
    rw [failed] at attributed
    cases attributed
    rfl
  next attributed => rw [failed] at attributed; contradiction

/-- An opening tag is the attributes behind it and an element. -/
theorem readFront_open {token : Token} (kind : token.kind = .tagOpen) {rest body : List Token}
    {pairs : List (Text × Text)} (shallow : depth < maxNesting)
    (attributed : readAttributes stop rest = .ok (pairs, body)) :
    readFront stop depth (token :: rest) = readElement stop depth token pairs body := by
  unfold readElement readFront
  rw [readNodes.eq_def]
  simp only [kind, Nat.not_le_of_lt shallow, if_false]
  split
  next failed => rw [failed] at attributed; contradiction
  next others tail found =>
    rw [attributed] at found
    cases found
    cases readNodes stop (depth + 1) body with
    | error failure => rfl
    | ok result =>
      obtain ⟨children, tail, bound⟩ := result
      cases tail with
      | nil => rfl
      | cons close after =>
        by_cases closed : close.closes token.value = true
        · simp only [Except.map, bind, Except.bind, closed, if_true]
          cases readNodes stop depth after <;> rfl
        · simp only [Except.map, bind, Except.bind, closed]
          rfl

end FlashMarkup.Document
