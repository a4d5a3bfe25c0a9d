import FlashMarkup.Document.Expectation

/-!
# What a script states

A script states one thing after the other about nodes, each of them addressed by the indices that
lead to it. Every single statement is true or false of the node it addresses, and a false one has
a complaint. Here this is said without running the script: the statements are listed in the order
in which the script goes through them, those about an element before what follows it.

Judging statements in order ends at the first false one, with its complaint. What comes of it is
determined by the statements, so whatever judges them comes to the same.
-/

namespace FlashMarkup.Expectation

/-- What can be stated about a document or an element. -/
inductive Statement where
  | childCount (count : Nat)
  | text (index : Nat) (content : Text)
  | comment (index : Nat) (content : Text)
  | element (index : Nat)
  | tag (name : Text)
  | attributeValue (name value : Text)
  | attributeCount (count : Nat)

/-- A statement with the indices that lead to the element it is about; none lead to the document. -/
structure Addressed where
  address : List Nat
  statement : Statement

mutual

/-- What an expectation states about the document or the element at an address. -/
def statements (address : List Nat) : Expectation → List Addressed
  | .childCount count => [⟨address, .childCount count⟩]
  | .text index content => [⟨address, .text index content⟩]
  | .comment index content => [⟨address, .comment index content⟩]
  | .element index script =>
    ⟨address, .element index⟩ :: elementStatementsAll (address ++ [index]) script

/-- What an expectation on an element states about it. -/
def elementStatements (address : List Nat) : ElementExpectation → List Addressed
  | .within expectation => statements address expectation
  | .tag name => [⟨address, .tag name⟩]
  | .attributeValue name value => [⟨address, .attributeValue name value⟩]
  | .attributeCount count => [⟨address, .attributeCount count⟩]

/-- What expectations on an element state about it, one after the other. -/
def elementStatementsAll (address : List Nat) : List ElementExpectation → List Addressed
  | [] => []
  | expectation :: rest => elementStatements address expectation ++ elementStatementsAll address rest

end

/-- What expectations state about the document or the element at an address, one after the other. -/
def statementsAll (address : List Nat) (script : List Expectation) : List Addressed :=
  script.flatMap (statements address)

/-- What is looked at when a statement is judged: the document, or an element with its tag and its
    attributes. -/
structure Focus where
  place : Text
  head : Option (Text × Attributes)
  children : List Node

namespace Focus

/-- The document itself. -/
def ofDocument (document : Document) : Focus := ⟨"document", none, document.children⟩

/-- An element with the place where it stands. -/
def ofSubject (subject : Subject) : Focus :=
  ⟨subject.place, some (subject.tag, subject.attributes), subject.children⟩

/-- The child element at an index. -/
def below (focus : Focus) (index : Nat) : Option Focus :=
  match focus.children[index]? with
  | some (.element tag attributes children _) =>
    some ⟨childPlace focus.place index, some (tag, attributes), children⟩
  | _ => none

/-- The element to which indices lead, through elements only. -/
def at? (focus : Focus) : List Nat → Option Focus
  | [] => some focus
  | index :: rest => (focus.below index).bind fun child => child.at? rest

/-- Whether a statement is true of what it is about. -/
def Satisfies (focus : Focus) : Statement → Prop
  | .childCount count => focus.children.length = count
  | .text index content => ∃ position, focus.children[index]? = some (.text content position)
  | .comment index content => ∃ position, focus.children[index]? = some (.comment content position)
  | .element index => ∃ tag attributes children position,
      focus.children[index]? = some (.element tag attributes children position)
  | .tag name => ∃ attributes, focus.head = some (name, attributes)
  | .attributeValue name value => ∃ tag attributes, focus.head = some (tag, attributes) ∧
      (name, value) ∈ attributes.entries
  | .attributeCount count => ∃ tag attributes, focus.head = some (tag, attributes) ∧
      attributes.entries.length = count

/-- The complaint that there is no child at an index, where `place` is what it speaks about. -/
def missing (focus : Focus) (place : Text) (index : Nat) : Text :=
  place ++ ": child index " ++ Text.decimal index ++ " out of bounds (" ++
    Text.decimal focus.children.length ++ " children: [" ++ summary focus.children ++ "])"

/-- The complaint about the child at an index that has no content of a kind, or another one. -/
def wrongContent (focus : Focus) (kind : Text) (contentOf : Node → Option Text) (index : Nat)
    (content : Text) : Text :=
  let place := childPlace focus.place index
  match focus.children[index]? with
  | none => focus.missing focus.place index
  | some node =>
    match contentOf node with
    | some found => mismatch (place ++ (": " ++ kind ++ " mismatch")) found.quoted content.quoted
    | none => place ++ (": expected " ++ kind ++ ", found ") ++ nodeSummary node

/-- The content of a text. -/
def textOf : Node → Option Text
  | .text content _ => some content
  | _ => none

/-- The content of a comment. -/
def commentOf : Node → Option Text
  | .comment content _ => some content
  | _ => none

/-- The complaint about a false statement. -/
def complaint (focus : Focus) : Statement → Text
  | .childCount count =>
    mismatch
      (focus.place ++ ": expected " ++ Text.decimal count ++ " children, found " ++
        Text.decimal focus.children.length ++ ": [" ++ summary focus.children ++ "]")
      (Text.decimal focus.children.length) (Text.decimal count)
  | .text index content => focus.wrongContent "text" textOf index content
  | .comment index content => focus.wrongContent "comment" commentOf index content
  | .element index =>
    let place := childPlace focus.place index
    match focus.children[index]? with
    | none => focus.missing place index
    | some node => place ++ ": expected an element, found " ++ nodeSummary node
  | .tag name =>
    let tag := (focus.head.map Prod.fst).getD []
    mismatch (focus.place ++ ": expected tag '" ++ name ++ "', found '" ++ tag ++ "'")
      tag.quoted name.quoted
  | .attributeValue name value =>
    let attributes := (focus.head.map Prod.snd).getD .empty
    match attributes.get? name with
    | some found =>
      mismatch
        (focus.place ++ ": attribute '" ++ name ++ "' expected '" ++ value ++ "', found '" ++
          found ++ "'")
        found.quoted value.quoted
    | none =>
      focus.place ++ ": missing attribute '" ++ name ++ "' (has: [" ++
        Text.join ", " attributes.names ++ "])"
  | .attributeCount count =>
    let found := ((focus.head.map Prod.snd).getD .empty).size
    mismatch
      (focus.place ++ ": expected " ++ Text.decimal count ++ " attributes, found " ++
        Text.decimal found)
      (Text.decimal found) (Text.decimal count)

end Focus

/-- Whether an addressed statement is true: it addresses something, and is true of that. -/
def Addressed.Holds (addressed : Addressed) (root : Focus) : Prop :=
  ∃ focus, root.at? addressed.address = some focus ∧ focus.Satisfies addressed.statement

/-- The complaint about an addressed statement, if it addresses anything. -/
def Addressed.complaint? (addressed : Addressed) (root : Focus) : Option Text :=
  (root.at? addressed.address).map fun focus => focus.complaint addressed.statement

/-! ## Judging statements in order -/

/-- What comes of judging statements in order: nothing is wrong with any of them, or the first false
    one is complained about. -/
inductive Judged (root : Focus) : List Addressed → Except Text Unit → Prop where
  | none : Judged root [] (.ok ())
  | holds {first : Addressed} {rest : List Addressed} {result : Except Text Unit}
      (holds : first.Holds root) (later : Judged root rest result) :
      Judged root (first :: rest) result
  | fails {first : Addressed} {rest : List Addressed} {message : Text}
      (fails : ¬ first.Holds root) (complaint : first.complaint? root = some message) :
      Judged root (first :: rest) (.error message)

variable {root : Focus}

/-- Nothing is wrong exactly if all statements hold. -/
theorem judged_ok_iff (listed : List Addressed) :
    Judged root listed (.ok ()) ↔ ∀ statement ∈ listed, statement.Holds root := by
  induction listed with
  | nil => exact ⟨fun _ => by simp, fun _ => .none⟩
  | cons first rest ih =>
    rw [List.forall_mem_cons, ← ih]
    constructor
    · rintro (- | ⟨holds, later⟩)
      exact ⟨holds, later⟩
    · rintro ⟨holds, later⟩
      exact .holds holds later

/-- A statement is complained about exactly if it is the first false one. -/
theorem judged_error_iff (listed : List Addressed) (message : Text) :
    Judged root listed (.error message) ↔
      ∃ before first after, listed = before ++ first :: after ∧
        (∀ statement ∈ before, statement.Holds root) ∧ ¬ first.Holds root ∧
          first.complaint? root = some message := by
  constructor
  · intro judged
    generalize failed : Except.error message = result at judged
    induction judged with
    | none => contradiction
    | @holds first rest _ holds later ih =>
      obtain ⟨before, wrong, after, rfl, earlier, fails, complaint⟩ := ih failed
      exact ⟨first :: before, wrong, after, rfl,
        List.forall_mem_cons.mpr ⟨holds, earlier⟩, fails, complaint⟩
    | @fails first rest _ fails complaint =>
      obtain rfl := Except.error.inj failed
      exact ⟨[], first, rest, rfl, by simp, fails, complaint⟩
  · rintro ⟨before, first, after, rfl, earlier, fails, complaint⟩
    induction before with
    | nil => exact .fails fails complaint
    | cons other rest ih =>
      obtain ⟨holds, later⟩ := List.forall_mem_cons.mp earlier
      exact .holds holds (ih later)

/-- Only one thing comes of judging statements. -/
theorem Judged.unique {listed : List Addressed} {first second : Except Text Unit}
    (one : Judged root listed first) (other : Judged root listed second) : first = second := by
  induction one with
  | none => cases other; rfl
  | holds holds _ ih =>
    cases other with
    | holds _ later => exact ih later
    | fails fails _ => exact absurd holds fails
  | fails fails complaint =>
    cases other with
    | holds holds _ => exact absurd holds fails
    | fails _ complaint' => rw [Option.some.inj (complaint.symm.trans complaint')]

/-- Further statements are judged only if nothing is wrong so far. -/
theorem Judged.bind {listed more : List Addressed} {first second : Except Text Unit}
    (one : Judged root listed first) (other : Judged root more second) :
    Judged root (listed ++ more) (first >>= fun _ => second) := by
  induction one with
  | none => exact other
  | holds holds _ ih => exact .holds holds ih
  | fails fails complaint => exact .fails fails complaint

/-- Whether a result decides about a statement: it goes through if the statement is true, and is its
    complaint otherwise. -/
def Focus.Decides (focus : Focus) (statement : Statement) (result : Except Text Unit) : Prop :=
  focus.Satisfies statement ∧ result = .ok () ∨
    ¬ focus.Satisfies statement ∧ result = .error (focus.complaint statement)

/-- A statement holds if it is true of what it addresses. -/
theorem holds_iff {address : List Nat} {focus : Focus} (found : root.at? address = some focus)
    (statement : Statement) :
    (Addressed.mk address statement).Holds root ↔ focus.Satisfies statement := by
  constructor
  · rintro ⟨other, same, holds⟩
    obtain rfl := Option.some.inj (found.symm.trans same)
    exact holds
  · intro holds
    exact ⟨focus, found, holds⟩

/-- The complaint about a statement is made about what it addresses. -/
theorem complaint?_eq {address : List Nat} {focus : Focus} (found : root.at? address = some focus)
    (statement : Statement) :
    (Addressed.mk address statement).complaint? root = some (focus.complaint statement) := by
  rw [Addressed.complaint?, found]
  rfl

/-- A statement is judged by what decides about it where it is addressed to. -/
theorem judged_single {address : List Nat} {focus : Focus} {statement : Statement}
    {result : Except Text Unit} (found : root.at? address = some focus)
    (decided : focus.Decides statement result) : Judged root [⟨address, statement⟩] result := by
  rw [Focus.Decides, ← holds_iff found] at decided
  rcases decided with ⟨holds, rfl⟩ | ⟨fails, rfl⟩
  · exact .holds holds .none
  · exact .fails fails (complaint?_eq found statement)

end FlashMarkup.Expectation
