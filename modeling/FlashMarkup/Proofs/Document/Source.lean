import FlashMarkup.Document.Basic
import FlashMarkup.Lexeme
import FlashMarkup.Proofs.Document.Tree
import FlashMarkup.Proofs.Text.Run
import Mathlib.Data.List.Infix

/-!
# Writing documents as sources

A document is written node by node. A text is written as it is, a comment between two pairs of
hashes, and an element as an opening tag with its attributes, its children and a closing tag. The
two layouts differ in the character behind each tag head: a space, or the at sign that closes the
head.

Not every document can be written so that reading the source gives it back: a text that begins
with a quote would be read as a value, two neighbouring texts as one. `Document.Writable` lists
what the parts of a document must not contain, and which nodes must not be neighbours. The
conditions are about characters only and mention neither tokens nor scanning.
-/

namespace FlashMarkup

/-- The two ways of ending the head of a tag. -/
inductive Layout where
  | spaced
  | compact
deriving DecidableEq, Repr

/-- The character behind the head of a tag. -/
def Layout.terminator : Layout → Char
  | .spaced => ' '
  | .compact => '@'

namespace Source

/-- A quote that does not occur in a value, unless both do. -/
def quoteFor (value : Text) : Char := if '"' ∈ value then '\'' else '"'

/-- One attribute with a space in front. -/
def entry (name value : Text) : Text :=
  ' ' :: name ++ '=' :: quoteFor value :: value ++ [quoteFor value]

/-- The attributes of an element in order. -/
def entries (pairs : List (Text × Text)) : Text :=
  pairs.flatMap fun (name, value) => entry name value

/-- An opening tag with its attributes and the end of its head. -/
def opening (layout : Layout) (tag : Text) (pairs : List (Text × Text)) : Text :=
  '@' :: tag ++ entries pairs ++ [layout.terminator]

/-- A closing tag with the end of its head. -/
def closing (layout : Layout) (tag : Text) : Text := '@' :: '/' :: tag ++ [layout.terminator]

/-- A comment between its delimiters. -/
def comment (content : Text) : Text := ['#', '#'] ++ content ++ ['#', '#']

/-- Whether a text can be the name of a tag. -/
def IsName (name : Text) : Prop := name ≠ [] ∧ ∀ c ∈ name, Lexeme.isWordChar c = true

/-- Whether a text can be the name of an attribute. -/
def IsAttributeName (name : Text) : Prop :=
  IsName name ∧ ∀ c ∈ name.head?, c.isDigit = false

/-- Whether a text can be a value: one of the quotes does not occur in it. -/
def IsValue (value : Text) : Prop := ¬ ('"' ∈ value ∧ '\'' ∈ value)

/-- Whether a text can stand in a comment: the closing delimiter occurs neither in it nor across its
    end. -/
def IsComment (content : Text) : Prop :=
  ¬ ['#', '#'] <:+: content ∧ content.getLast? ≠ some '#'

/-- Whether a text can stand between tags: no tag and no comment begins in it, and its beginning is
    neither skipped nor the beginning of a value or of an attribute. -/
structure IsPlain (content : Text) : Prop where
  present : content ≠ []
  noTag : '@' ∉ content
  noComment : ¬ ['#', '#'] <:+: content
  begins : ∀ c ∈ content.head?, Text.isBlank c = false ∧ c ≠ '"' ∧ c ≠ '\''
  unnamed : ∀ name, IsAttributeName name → ¬ name ++ ['='] <+: content

/-- An attribute begins a text exactly if the first word of the text can be its name and an equals
    sign stands directly behind the word. -/
theorem isAttributeName_prefix_iff (content : Text) :
    (∃ name, IsAttributeName name ∧ name ++ ['='] <+: content) ↔
      IsAttributeName (content.takeWhile Lexeme.isWordChar) ∧
        (content.dropWhile Lexeme.isWordChar).head? = some '=' := by
  constructor
  · rintro ⟨name, named, others, rfl⟩
    have ends : Text.EndsRun Lexeme.isWordChar ('=' :: others) := by
      intro c first
      obtain rfl := Option.some.inj first
      rfl
    have whole : name ++ ['='] ++ others = name ++ '=' :: others := by simp
    rw [whole, Text.takeWhile_run named.1.2 ends, Text.dropWhile_run named.1.2 ends]
    exact ⟨named, rfl⟩
  · rintro ⟨named, equals⟩
    obtain ⟨others, behind⟩ := List.head?_eq_some_iff.mp equals
    refine ⟨_, named, others, ?_⟩
    rw [List.append_assoc, List.singleton_append, ← behind, List.takeWhile_append_dropWhile]

instance (name : Text) : Decidable (IsName name) :=
  have : Decidable (∀ c ∈ name, Lexeme.isWordChar c = true) := List.decidableBAll _ name
  inferInstanceAs (Decidable (name ≠ [] ∧ ∀ c ∈ name, Lexeme.isWordChar c = true))

instance (name : Text) : Decidable (IsAttributeName name) :=
  have : Decidable (∀ c ∈ name.head?, c.isDigit = false) := Option.decidableForallMem _
  inferInstanceAs (Decidable (IsName name ∧ ∀ c ∈ name.head?, c.isDigit = false))

instance (value : Text) : Decidable (IsValue value) :=
  inferInstanceAs (Decidable (¬ ('"' ∈ value ∧ '\'' ∈ value)))

instance (content : Text) : Decidable (IsComment content) :=
  inferInstanceAs (Decidable (¬ ['#', '#'] <:+: content ∧ content.getLast? ≠ some '#'))

/-- The conditions on a text in the order in which they are listed, the last of them on its first
    word. -/
theorem isPlain_iff (content : Text) :
    IsPlain content ↔
      content ≠ [] ∧ '@' ∉ content ∧ ¬ ['#', '#'] <:+: content ∧
        (∀ c ∈ content.head?, Text.isBlank c = false ∧ c ≠ '"' ∧ c ≠ '\'') ∧
        ¬ (IsAttributeName (content.takeWhile Lexeme.isWordChar) ∧
          (content.dropWhile Lexeme.isWordChar).head? = some '=') := by
  rw [← isAttributeName_prefix_iff]
  constructor
  · rintro ⟨present, noTag, noComment, begins, unnamed⟩
    exact ⟨present, noTag, noComment, begins, fun ⟨name, named, front⟩ => unnamed name named front⟩
  · rintro ⟨present, noTag, noComment, begins, unnamed⟩
    exact ⟨present, noTag, noComment, begins, fun name named front => unnamed ⟨name, named, front⟩⟩

instance (content : Text) : Decidable (IsPlain content) :=
  have : Decidable (∀ c ∈ content.head?, Text.isBlank c = false ∧ c ≠ '"' ∧ c ≠ '\'') :=
    Option.decidableForallMem _
  decidable_of_iff' _ (isPlain_iff content)

/-- Two hashes occur in a text with one more character exactly if they occur in the text, or if the
    last character of the text and the one behind it are hashes. -/
theorem hashes_infix_concat_iff (content : Text) (c : Char) :
    ['#', '#'] <:+: content ++ [c] ↔
      ['#', '#'] <:+: content ∨ (content.getLast? = some '#' ∧ c = '#') := by
  have border : ['#', '#'] <:+ content ++ [c] ↔ content.getLast? = some '#' ∧ c = '#' := by
    rw [List.getLast?_eq_some_iff]
    constructor
    · rintro ⟨front, whole⟩
      have split : (front ++ ['#']) ++ ['#'] = content ++ [c] := by simpa using whole
      obtain ⟨rfl, last⟩ := List.append_inj' split rfl
      exact ⟨⟨front, rfl⟩, (List.cons.inj last).1.symm⟩
    · rintro ⟨⟨front, rfl⟩, rfl⟩
      exact ⟨front, by simp⟩
  rw [List.infix_concat_iff, border, or_comm]

/-- The closing delimiter of a comment is found behind the comment and not before. -/
theorem not_hashes_infix_of_isComment {content : Text} (commented : IsComment content) :
    ¬ ['#', '#'] <:+: content ++ ['#'] := by
  rw [hashes_infix_concat_iff]
  rintro (inside | ⟨last, -⟩)
  · exact commented.1 inside
  · exact commented.2 last

end Source

namespace Node

mutual

/-- The source of a node. -/
def source (layout : Layout) : Node → Text
  | .element tag attributes children _ =>
    Source.opening layout tag attributes.entries ++ sources layout children ++
      Source.closing layout tag
  | .text content _ => content
  | .comment content _ => Source.comment content

/-- The source of several nodes, one after the other. -/
def sources (layout : Layout) : List Node → Text
  | [] => []
  | node :: rest => source layout node ++ sources layout rest

end

/-- Whether a node can stand directly in front of another one. Two texts would be read as one, and
    a hash in front of a comment would be taken for a part of its delimiter. -/
def MayPrecede : Node → Node → Prop
  | .text _ _, .text _ _ => False
  | .text content _, .comment _ _ => content.getLast? ≠ some '#'
  | _, _ => True

mutual

/-- Whether a tree can be written. -/
def Writable : Node → Prop
  | .element tag attributes children _ =>
    Source.IsName tag ∧
      (∀ entry ∈ attributes.entries, Source.IsAttributeName entry.1 ∧ Source.IsValue entry.2) ∧
      Writables children
  | .text content _ => Source.IsPlain content
  | .comment content _ => Source.IsComment content

/-- Whether several trees can be written one after the other. -/
def Writables : List Node → Prop
  | [] => True
  | node :: rest => Writable node ∧ (∀ next ∈ rest.head?, MayPrecede node next) ∧ Writables rest

end

mutual

/-- Whether no text of a tree begins with a slash, which would make a closing tag of an at sign in
    front of it. -/
def Unslashed : Node → Prop
  | .element _ _ children _ => Unslasheds children
  | .text content _ => content.head? ≠ some '/'
  | .comment _ _ => True

/-- Whether no text of several trees begins with a slash. -/
def Unslasheds : List Node → Prop
  | [] => True
  | node :: rest => Unslashed node ∧ Unslasheds rest

end

mutual

/-- A tree with all positions forgotten. -/
def unplaced : Node → Node
  | .element tag attributes children _ => .element tag attributes (unplaceds children) .start
  | .text content _ => .text content .start
  | .comment content _ => .comment content .start

/-- Several trees with all positions forgotten. -/
def unplaceds : List Node → List Node
  | [] => []
  | node :: rest => unplaced node :: unplaceds rest

end

instance (node next : Node) : Decidable (MayPrecede node next) :=
  match node, next with
  | .text _ _, .text _ _ => isFalse id
  | .text content _, .comment _ _ => inferInstanceAs (Decidable (content.getLast? ≠ some '#'))
  | .text _ _, .element _ _ _ _ => isTrue trivial
  | .element _ _ _ _, _ => isTrue trivial
  | .comment _ _, _ => isTrue trivial

mutual

/-- Whether a tree can be written is found by looking at its parts. -/
def decideWritable : (node : Node) → Decidable node.Writable
  | .element tag attributes children _ =>
    have : Decidable (Writables children) := decideWritables children
    have : Decidable (∀ entry ∈ attributes.entries,
        Source.IsAttributeName entry.1 ∧ Source.IsValue entry.2) :=
      List.decidableBAll _ attributes.entries
    inferInstanceAs (Decidable (Source.IsName tag ∧
      (∀ entry ∈ attributes.entries, Source.IsAttributeName entry.1 ∧ Source.IsValue entry.2) ∧
      Writables children))
  | .text content _ => inferInstanceAs (Decidable (Source.IsPlain content))
  | .comment content _ => inferInstanceAs (Decidable (Source.IsComment content))

/-- Whether several trees can be written is found tree by tree. -/
def decideWritables : (nodes : List Node) → Decidable (Writables nodes)
  | [] => isTrue trivial
  | node :: rest =>
    have : Decidable node.Writable := decideWritable node
    have : Decidable (Writables rest) := decideWritables rest
    have : Decidable (∀ next ∈ rest.head?, MayPrecede node next) := Option.decidableForallMem _
    inferInstanceAs (Decidable (node.Writable ∧ (∀ next ∈ rest.head?, MayPrecede node next) ∧
      Writables rest))

end

instance (nodes : List Node) : Decidable (Writables nodes) := decideWritables nodes

/-- Forgetting positions keeps how elements contain one another. -/
theorem nestings_unplaceds (nodes : List Node) : nestings (unplaceds nodes) = nestings nodes := by
  match nodes with
  | [] => rfl
  | node :: rest =>
    have later := nestings_unplaceds rest
    cases node with
    | element tag attributes children position =>
      have inside := nestings_unplaceds children
      simp only [unplaceds, unplaced, nestings, nesting, later, inside]
    | text => simp only [unplaceds, unplaced, nestings, nesting, later]
    | comment => simp only [unplaceds, unplaced, nestings, nesting, later]

end Node

namespace Document

/-- The source of a document. -/
def source (layout : Layout) (document : Document) : Text := Node.sources layout document.children

/-- Whether a document can be written. The names of an element's attributes are distinct by
    construction, so nothing is asked of them. -/
structure Writable (document : Document) : Prop where
  parts : Node.Writables document.children
  shallow : document.nesting ≤ 256

/-- The conditions on a document in the order in which they are listed. -/
theorem writable_iff (document : Document) :
    document.Writable ↔ Node.Writables document.children ∧ document.nesting ≤ 256 := by
  constructor
  · rintro ⟨parts, shallow⟩
    exact ⟨parts, shallow⟩
  · rintro ⟨parts, shallow⟩
    exact ⟨parts, shallow⟩

instance (document : Document) : Decidable document.Writable :=
  decidable_of_iff' _ (writable_iff document)

/-- Whether no text of a document begins with a slash. -/
def Unslashed (document : Document) : Prop := Node.Unslasheds document.children

/-- A document with all positions forgotten. -/
def unplaced (document : Document) : Document := ⟨Node.unplaceds document.children⟩

end Document

end FlashMarkup
