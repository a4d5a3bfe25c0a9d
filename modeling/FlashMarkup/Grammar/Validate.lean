import FlashMarkup.Document.Basic
import FlashMarkup.Grammar.Rule

/-!
# Validation

Validation collects every violation of the grammar in document order and never stops early. An
element with an unknown tag is reported alone: neither its attributes nor its subtree are
looked at. Every other element reports first where it stands, then the required attributes it
lacks in the order of its rule, then the attributes it may not carry in written order.
-/

namespace FlashMarkup

/-- The ways in which a document can violate the grammar. -/
inductive Violation where
  | missingRoot (root : Text)
  | unknownTag (tag : Text)
  | disallowedParent (tag : Text) (parent : Option Text)
  | missingAttribute (tag name : Text)
  | disallowedAttribute (tag name : Text)
deriving DecidableEq, Repr

namespace Violation

/-- The identifier of the kind of violation. -/
def identifier : Violation → Text
  | .missingRoot _ => "missing_root"
  | .unknownTag _ => "unknown_tag"
  | .disallowedParent _ _ => "disallowed_parent"
  | .missingAttribute _ _ => "missing_attribute"
  | .disallowedAttribute _ _ => "disallowed_attribute"

/-- The message that reports the violation. -/
def message : Violation → Text
  | .missingRoot root => "root element '" ++ root ++ "' is required"
  | .unknownTag tag => "unknown tag '" ++ tag ++ "'"
  | .disallowedParent tag (some parent) =>
    "'" ++ tag ++ "' is not allowed inside '" ++ parent ++ "'"
  | .disallowedParent tag none => "'" ++ tag ++ "' is not allowed at document level"
  | .missingAttribute tag name =>
    "attribute '" ++ name ++ "' is required on '" ++ tag ++ "'"
  | .disallowedAttribute tag name =>
    "attribute '" ++ name ++ "' is not allowed on '" ++ tag ++ "'"

end Violation

/-- A violation with the position of its element. A missing root has no position. -/
structure Diagnostic where
  violation : Violation
  position : Option Position
deriving DecidableEq, Repr

/-- The diagnostic in one line. -/
def Diagnostic.toText (diagnostic : Diagnostic) : Text :=
  match diagnostic.position with
  | some position => diagnostic.violation.message ++ " at " ++ position.toText
  | none => diagnostic.violation.message

namespace Node

/-- The violations of an element with a known tag, not counting those of its children. -/
def ownDiagnostics (rule : TagRule) (parent : Option Text) (tag : Text) (attributes : Attributes)
    (position : Position) : List Diagnostic :=
  let report (violation : Violation) : Diagnostic := ⟨violation, some position⟩
  (if rule.allowsParent parent then [] else [report (.disallowedParent tag parent)]) ++
    (rule.required.filter fun name => !attributes.contains name).map
      (fun name => report (.missingAttribute tag name)) ++
    (attributes.names.filter fun name => !rule.allowsAttribute name).map
      (fun name => report (.disallowedAttribute tag name))

mutual

/-- The violations in a tree whose root stands inside the named element, or at document level. -/
def diagnostics (parent : Option Text) : Node → List Diagnostic
  | .element tag attributes children position =>
    match Tag.ruleOf? tag with
    | none => [⟨.unknownTag tag, some position⟩]
    | some rule =>
      ownDiagnostics rule parent tag attributes position ++ diagnosticsOf (some tag) children
  | .text _ _ => []
  | .comment _ _ => []

/-- The violations in several trees, one after the other. -/
def diagnosticsOf (parent : Option Text) : List Node → List Diagnostic
  | [] => []
  | node :: rest => diagnostics parent node ++ diagnosticsOf parent rest

end

end Node

namespace Document

/-- Whether some top-level element is the root that documents have to have. -/
def hasRoot (document : Document) : Bool := document.topTags.contains Tag.root.name

/-- Every violation of the grammar in a document, in document order. -/
def validate (document : Document) : List Diagnostic :=
  (if document.hasRoot then [] else [⟨.missingRoot Tag.root.name, none⟩]) ++
    Node.diagnosticsOf none document.children

end Document

end FlashMarkup
