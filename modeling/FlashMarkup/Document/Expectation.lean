import FlashMarkup.Document.Basic
import FlashMarkup.Text.Quoted

/-!
# Expectations

A script of expectations states what a document should look like, node by node. Expectations are
checked in the order of the script, those on an element before what follows it, and the first one
that fails is reported with the place it speaks about.
-/

namespace FlashMarkup

mutual

/-- One expectation on the children of a document or of an element. -/
inductive Expectation where
  | childCount (count : Nat)
  | text (index : Nat) (content : Text)
  | comment (index : Nat) (content : Text)
  | element (index : Nat) (script : List ElementExpectation)

/-- One expectation on an element: on its children, its tag or its attributes. -/
inductive ElementExpectation where
  | within (expectation : Expectation)
  | tag (name : Text)
  | attributeValue (name value : Text)
  | attributeCount (count : Nat)

end

namespace Expectation

/-- A list of child nodes with the place where they stand. -/
structure Siblings where
  place : Text
  nodes : List Node

/-- An element with the place where it stands. -/
structure Subject where
  place : Text
  tag : Text
  attributes : Attributes
  children : List Node

/-- The children of an element, at the place of the element. -/
def Subject.siblings (subject : Subject) : Siblings := ⟨subject.place, subject.children⟩

/-- The place of a child. -/
def childPlace (place : Text) (index : Nat) : Text :=
  place ++ ".children[" ++ Text.decimal index ++ "]"

/-- A node in a few words. -/
def nodeSummary : Node → Text
  | .element name _ _ _ => "@" ++ name
  | .text content _ => "Text(" ++ content.quoted ++ ")"
  | .comment content _ => "Comment(" ++ content.quoted ++ ")"

/-- Several nodes in a few words. -/
def summary (nodes : List Node) : Text := Text.join ", " (nodes.map nodeSummary)

/-- The message of two values that should be equal and are not. -/
def mismatch (message actual expected : Text) : Text :=
  "assertion `left == right` failed: " ++ message ++ "\n  left: " ++ actual ++ "\n right: " ++
    expected

/-- Fail with a message unless a condition holds. -/
def ensure (condition : Bool) (message : Text) : Except Text Unit :=
  if condition then .ok () else .error message

/-- The child at an index. `place` is the place that a failure names. -/
def childAt (place : Text) (children : List Node) (index : Nat) : Except Text Node :=
  match children[index]? with
  | some node => .ok node
  | none =>
    .error (place ++ ": child index " ++ Text.decimal index ++ " out of bounds (" ++
      Text.decimal children.length ++ " children: [" ++ summary children ++ "])")

/-- Check the number of children. -/
def checkChildCount (siblings : Siblings) (count : Nat) : Except Text Unit :=
  let found := siblings.nodes.length
  ensure (found == count)
    (mismatch
      (siblings.place ++ ": expected " ++ Text.decimal count ++ " children, found " ++
        Text.decimal found ++ ": [" ++ summary siblings.nodes ++ "]")
      (Text.decimal found) (Text.decimal count))

/-- Check that a child is a text with exactly the given content. -/
def checkText (siblings : Siblings) (index : Nat) (content : Text) : Except Text Unit := do
  let place := childPlace siblings.place index
  match ← childAt siblings.place siblings.nodes index with
  | .text found _ =>
    ensure (found == content)
      (mismatch (place ++ ": text mismatch") found.quoted content.quoted)
  | node => .error (place ++ ": expected text, found " ++ nodeSummary node)

/-- Check that a child is a comment with exactly the given content. -/
def checkComment (siblings : Siblings) (index : Nat) (content : Text) : Except Text Unit := do
  let place := childPlace siblings.place index
  match ← childAt siblings.place siblings.nodes index with
  | .comment found _ =>
    ensure (found == content)
      (mismatch (place ++ ": comment mismatch") found.quoted content.quoted)
  | node => .error (place ++ ": expected comment, found " ++ nodeSummary node)

/-- The subject that a child element is. -/
def elementAt (siblings : Siblings) (index : Nat) : Except Text Subject := do
  let place := childPlace siblings.place index
  match ← childAt place siblings.nodes index with
  | .element name attributes children _ => .ok ⟨place, name, attributes, children⟩
  | node => .error (place ++ ": expected an element, found " ++ nodeSummary node)

/-- Check the tag of an element. -/
def checkTag (subject : Subject) (name : Text) : Except Text Unit :=
  ensure (subject.tag == name)
    (mismatch
      (subject.place ++ ": expected tag '" ++ name ++ "', found '" ++ subject.tag ++ "'")
      subject.tag.quoted name.quoted)

/-- Check the value of an attribute. -/
def checkAttributeValue (subject : Subject) (name value : Text) : Except Text Unit :=
  match subject.attributes.get? name with
  | some found =>
    ensure (found == value)
      (mismatch
        (subject.place ++ ": attribute '" ++ name ++ "' expected '" ++ value ++ "', found '" ++
          found ++ "'")
        found.quoted value.quoted)
  | none =>
    .error (subject.place ++ ": missing attribute '" ++ name ++ "' (has: [" ++
      Text.join ", " subject.attributes.names ++ "])")

/-- Check the number of attributes. -/
def checkAttributeCount (subject : Subject) (count : Nat) : Except Text Unit :=
  let found := subject.attributes.size
  ensure (found == count)
    (mismatch
      (subject.place ++ ": expected " ++ Text.decimal count ++ " attributes, found " ++
        Text.decimal found)
      (Text.decimal found) (Text.decimal count))

mutual

/-- Check one expectation; the error is the message of the first failure. -/
def check (siblings : Siblings) : Expectation → Except Text Unit
  | .childCount count => checkChildCount siblings count
  | .text index content => checkText siblings index content
  | .comment index content => checkComment siblings index content
  | .element index script => do
    let subject ← elementAt siblings index
    checkElementAll subject script

/-- Check one expectation on an element. -/
def checkElement (subject : Subject) : ElementExpectation → Except Text Unit
  | .within expectation => check subject.siblings expectation
  | .tag name => checkTag subject name
  | .attributeValue name value => checkAttributeValue subject name value
  | .attributeCount count => checkAttributeCount subject count

/-- Check expectations on an element in order. -/
def checkElementAll (subject : Subject) : List ElementExpectation → Except Text Unit
  | [] => .ok ()
  | expectation :: rest => do
    checkElement subject expectation
    checkElementAll subject rest

end

/-- Check expectations in order. -/
def checkAll (siblings : Siblings) : List Expectation → Except Text Unit
  | [] => .ok ()
  | expectation :: rest => do
    check siblings expectation
    checkAll siblings rest

end Expectation

/-- Check a script of expectations on a document. -/
def Document.meets (document : Document) (expectations : List Expectation) : Except Text Unit :=
  Expectation.checkAll ⟨"document", document.children⟩ expectations

end FlashMarkup
