import FlashMarkup.Proofs.Document.Attributes
import FlashMarkup.Proofs.Document.Reading
import FlashMarkup.Proofs.Document.Tree
import FlashMarkup.Proofs.Result

/-!
# The grammar of tokens

The grammar says which token lists a list of nodes stands for, without saying how to read them:

    nodes      ::= (element | text | comment)*
    element    ::= opening tag, attributes, nodes, closing tag of the same name
    attributes ::= (attribute name, attribute value)*

Reading accepts exactly what the grammar derives with elements nested at most `maxNesting` deep,
and gives the derived document. Nothing is read twice or dropped: the nodes of each kind are as
many as the tokens that begin them.
-/

namespace FlashMarkup

namespace Document

/-- The tokens of attributes, a name and its value each, and the pairs they stand for. -/
inductive Attributed : List Token → List (Text × Text) → Prop where
  | nil : Attributed [] []
  | cons {name value : Token} {rest : List Token} {pairs : List (Text × Text)}
      (named : name.kind = .attributeName) (valued : value.kind = .attributeValue)
      (others : Attributed rest pairs) :
      Attributed (name :: value :: rest) ((name.value, value.value) :: pairs)

/-- The token lists that a list of nodes stands for. A node has the position of the token that
    begins it, and the attributes of an element collect its pairs: a name that is repeated keeps its
    first place and takes its last value. -/
inductive Derives : List Token → List Node → Prop where
  | nil : Derives [] []
  | text {token : Token} {rest : List Token} {siblings : List Node} (kind : token.kind = .text)
      (others : Derives rest siblings) :
      Derives (token :: rest) (.text token.value token.position :: siblings)
  | comment {token : Token} {rest : List Token} {siblings : List Node}
      (kind : token.kind = .comment) (others : Derives rest siblings) :
      Derives (token :: rest) (.comment token.value token.position :: siblings)
  | element {opening close : Token} {head body rest : List Token} {pairs : List (Text × Text)}
      {attributes : Attributes} {children siblings : List Node} (kind : opening.kind = .tagOpen)
      (attributed : Attributed head pairs) (collected : attributes.Collects pairs)
      (inside : Derives body children) (closes : close.closes opening.value = true)
      (others : Derives rest siblings) :
      Derives (opening :: head ++ body ++ close :: rest)
        (.element opening.value attributes children opening.position :: siblings)

/-- Whether no attribute begins with the first token of a list. -/
def StartsNoAttribute (tokens : List Token) : Prop :=
  ∀ token ∈ tokens.head?, token.kind ≠ .attributeName

/-- The attributes that are read are derived by the tokens in front of those left. -/
theorem attributed_of_readAttributes {stop : Token} {tokens left : List Token}
    {pairs : List (Text × Text)} (done : readAttributes stop tokens = .ok (pairs, left)) :
    ∃ head, tokens = head ++ left ∧ Attributed head pairs := by
  fun_induction readAttributes stop tokens generalizing pairs left with
  | case1 =>
    cases done
    exact ⟨[], rfl, .nil⟩
  | case2 => contradiction
  | case3 name named value after valued ih =>
    cases inner : readAttributes stop after with
    | error failure => rw [inner] at done; contradiction
    | ok result =>
      obtain ⟨others, remaining⟩ := result
      rw [inner] at done
      cases done
      obtain ⟨head, rfl, attributed⟩ := ih inner
      exact ⟨name :: value :: head, rfl, .cons named valued attributed⟩
  | case4 => contradiction
  | case5 name rest other =>
    cases done
    exact ⟨[], rfl, .nil⟩

/-- Derived attributes are read if no further attribute follows them. -/
theorem readAttributes_of_attributed (stop : Token) {head left : List Token}
    {pairs : List (Text × Text)} (attributed : Attributed head pairs)
    (ends : StartsNoAttribute left) : readAttributes stop (head ++ left) = .ok (pairs, left) := by
  induction attributed with
  | nil =>
    cases left with
    | nil => rfl
    | cons token rest =>
      have other : token.kind ≠ .attributeName := ends token rfl
      unfold readAttributes
      simp [other]
  | cons named valued others ih =>
    simp only [List.cons_append, readAttributes, named, valued, if_true, ih]
    rfl

/-- The closing tag behind derived nodes, or their first token, begins no attribute. -/
theorem startsNoAttribute_of_derives {tokens : List Token} {nodes : List Node}
    (derives : Derives tokens nodes) {close : Token} {name : Text}
    (closes : close.closes name = true) (rest : List Token) :
    StartsNoAttribute (tokens ++ close :: rest) := by
  have closing : close.kind = .tagClose := by
    simp only [Token.closes, Bool.and_eq_true, beq_iff_eq] at closes
    exact closes.1
  intro token first
  cases derives with
  | nil => obtain rfl := Option.some.inj first; simp [closing]
  | text kind => obtain rfl := Option.some.inj first; simp [kind]
  | comment kind => obtain rfl := Option.some.inj first; simp [kind]
  | element kind => obtain rfl := Option.some.inj first; simp [kind]

/-- A closing tag begins no node. -/
theorem startsNoNode_of_closes {close : Token} {name : Text} (closes : close.closes name = true)
    (rest : List Token) : StartsNoNode (close :: rest) := by
  intro token first
  obtain rfl := Option.some.inj first
  simp only [Token.closes, Bool.and_eq_true, beq_iff_eq] at closes
  simp [closes.1]

/-- Derived nodes are read, up to a token that begins no node, inside few enough elements. Every
    element of the derivation is read with its attributes, its children up to its closing tag and
    then its siblings.

    Induct on the derivation: what follows a sublist of the tokens begins no node, because it is
    either the closing tag or what follows the whole list. -/
theorem readFront_of_derives (stop : Token) {tokens : List Token} {nodes : List Node}
    (derives : Derives tokens nodes) {depth : Nat}
    (shallow : depth + Node.nestings nodes ≤ maxNesting) {left : List Token}
    (ends : StartsNoNode left) : readFront stop depth (tokens ++ left) = .ok (nodes, left) := by
  induction derives generalizing depth left with
  | nil => exact readFront_stop stop depth ends
  | text kind others ih =>
    simp only [Node.nestings, Node.nesting] at shallow
    rw [List.cons_append, readFront_text stop depth kind, ih (by omega) ends]
    rfl
  | comment kind others ih =>
    simp only [Node.nestings, Node.nesting] at shallow
    rw [List.cons_append, readFront_comment stop depth kind, ih (by omega) ends]
    rfl
  | @element opening close head body rest pairs attributes children siblings kind attributed
      collected inside closes others childrenRead siblingsRead =>
    simp only [Node.nestings, Node.nesting] at shallow
    obtain rfl := Attributes.eq_of_collects (Attributes.collects_ofList pairs) collected
    have attributes := readAttributes_of_attributed stop attributed
      (startsNoAttribute_of_derives inside closes (rest ++ left))
    have childrenFit : depth + 1 + Node.nestings children ≤ maxNesting := by omega
    have children := childrenRead childrenFit (startsNoNode_of_closes closes (rest ++ left))
    have siblingsFit : depth + Node.nestings siblings ≤ maxNesting := by omega
    have siblings := siblingsRead siblingsFit ends
    have whole : opening :: head ++ body ++ close :: rest ++ left =
        opening :: (head ++ (body ++ close :: (rest ++ left))) := by simp
    rw [whole, readFront_open stop depth kind (by omega) attributes, readElement, children]
    simp only [bind, Except.bind, closes, if_true, siblings]
    rfl

/-- An element that is read has its children in front of its closing tag, and its siblings behind. -/
theorem readElement_ok {stop : Token} {depth : Nat} {opening : Token} {pairs : List (Text × Text)}
    {body left : List Token} {nodes : List Node}
    (done : readElement stop depth opening pairs body = .ok (nodes, left)) :
    ∃ children close after siblings,
      readFront stop (depth + 1) body = .ok (children, close :: after) ∧
      close.closes opening.value = true ∧ readFront stop depth after = .ok (siblings, left) ∧
      nodes = .element opening.value (.ofList pairs) children opening.position :: siblings := by
  obtain ⟨⟨children, tail⟩, inner, done⟩ := Result.bind_eq_ok_iff.mp done
  cases tail with
  | nil => contradiction
  | cons close after =>
    dsimp only at done
    split at done
    next closes =>
      obtain ⟨⟨siblings, remaining⟩, read, same⟩ := Result.map_eq_ok_iff.mp done
      obtain ⟨rfl, rfl⟩ := Prod.mk.inj same
      exact ⟨children, close, after, siblings, inner, closes, read, rfl⟩
    next => contradiction

/-- An opening tag that is read has its attributes behind it and, inside few enough elements, an
    element and its siblings behind those. -/
theorem readFront_open_ok {stop : Token} {depth : Nat} {opening : Token} {rest left : List Token}
    {nodes : List Node} (kind : opening.kind = .tagOpen)
    (done : readFront stop depth (opening :: rest) = .ok (nodes, left)) :
    depth < maxNesting ∧ ∃ head pairs body, rest = head ++ body ∧ Attributed head pairs ∧
      readElement stop depth opening pairs body = .ok (nodes, left) := by
  by_cases deep : maxNesting ≤ depth
  · rw [readFront_deep stop depth kind rest deep] at done
    contradiction
  have shallow : depth < maxNesting := Nat.lt_of_not_le deep
  cases attributes : readAttributes stop rest with
  | error failure =>
    rw [readFront_unattributed stop depth kind shallow attributes] at done
    contradiction
  | ok result =>
    obtain ⟨pairs, body⟩ := result
    obtain ⟨head, split, attributed⟩ := attributed_of_readAttributes attributes
    rw [readFront_open stop depth kind shallow attributes] at done
    exact ⟨shallow, head, pairs, body, split, attributed, done⟩

/-- Nodes that are read are derived by the tokens in front of those left, they nest no deeper than
    elements may, and no node begins with the tokens left.

    Recurse on the number of tokens. The children of an element are read from the tokens behind its
    attributes, its siblings from those behind its closing tag. -/
theorem derives_of_readFront {stop : Token} {depth : Nat} {tokens left : List Token}
    {nodes : List Node} (bounded : depth ≤ maxNesting)
    (done : readFront stop depth tokens = .ok (nodes, left)) :
    ∃ consumed, tokens = consumed ++ left ∧ Derives consumed nodes ∧ StartsNoNode left ∧
      depth + Node.nestings nodes ≤ maxNesting := by
  match tokens with
  | [] =>
    have ends : StartsNoNode [] := by simp [StartsNoNode]
    rw [readFront_stop stop depth ends] at done
    cases done
    exact ⟨[], rfl, .nil, ends, bounded⟩
  | token :: rest =>
    by_cases isText : token.kind = .text
    · rw [readFront_text stop depth isText, Result.map_eq_ok_iff] at done
      obtain ⟨⟨siblings, remaining⟩, read, same⟩ := done
      obtain ⟨rfl, rfl⟩ := Prod.mk.inj same
      obtain ⟨consumed, rfl, derives, ends, fits⟩ := derives_of_readFront bounded read
      refine ⟨token :: consumed, rfl, .text isText derives, ends, ?_⟩
      simpa [Node.nestings, Node.nesting] using fits
    by_cases isComment : token.kind = .comment
    · rw [readFront_comment stop depth isComment, Result.map_eq_ok_iff] at done
      obtain ⟨⟨siblings, remaining⟩, read, same⟩ := done
      obtain ⟨rfl, rfl⟩ := Prod.mk.inj same
      obtain ⟨consumed, rfl, derives, ends, fits⟩ := derives_of_readFront bounded read
      refine ⟨token :: consumed, rfl, .comment isComment derives, ends, ?_⟩
      simpa [Node.nestings, Node.nesting] using fits
    by_cases isOpen : token.kind = .tagOpen
    · obtain ⟨shallow, head, pairs, body, rfl, attributed, element⟩ := readFront_open_ok isOpen done
      obtain ⟨children, close, after, siblings, inner, closes, read, rfl⟩ := readElement_ok element
      have shorterBody : body.length < (token :: (head ++ body)).length := by
        simp only [List.length_cons, List.length_append]
        omega
      obtain ⟨consumed, rfl, inside, -, childrenFit⟩ := derives_of_readFront shallow inner
      have shorterRest :
          after.length < (token :: (head ++ (consumed ++ close :: after))).length := by
        simp only [List.length_cons, List.length_append]
        omega
      obtain ⟨behind, rfl, others, ends, siblingsFit⟩ := derives_of_readFront bounded read
      have derives : Derives (token :: head ++ consumed ++ close :: behind) _ :=
        .element isOpen attributed (Attributes.collects_ofList pairs) inside closes others
      refine ⟨token :: head ++ consumed ++ close :: behind, by simp, derives, ends, ?_⟩
      simp only [Node.nestings, Node.nesting]
      omega
    · have ends : StartsNoNode (token :: rest) := by
        intro first found
        obtain rfl := Option.some.inj found
        exact ⟨isText, isComment, isOpen⟩
      rw [readFront_stop stop depth ends] at done
      cases done
      exact ⟨[], rfl, .nil, ends, bounded⟩
termination_by tokens.length

/-- Whether a token of this kind begins a node. -/
def startsNode (token : Token) : Bool :=
  token.kind == .tagOpen || token.kind == .text || token.kind == .comment

/-- Attributes consist of names and values only. -/
theorem kind_of_attributed {head : List Token} {pairs : List (Text × Text)}
    (attributed : Attributed head pairs) :
    ∀ token ∈ head, token.kind = .attributeName ∨ token.kind = .attributeValue := by
  induction attributed with
  | nil => simp
  | cons named valued others ih => simpa [named, valued] using ih

/-- The nodes of a derived document begin, in order, with the tokens that begin nodes: none of these
    is dropped, doubled or moved. -/
theorem openings_of_derives {tokens : List Token} {nodes : List Node}
    (derives : Derives tokens nodes) :
    (Node.inOrders nodes).map Node.opening = tokens.filter startsNode := by
  induction derives with
  | nil => rfl
  | @text token _ _ kind others ih =>
    have starts : startsNode token = true := by simp [startsNode, kind]
    simp only [Node.inOrders, Node.inOrder, List.singleton_append, List.map_cons, Node.opening,
      List.filter_cons_of_pos starts, ih, ← kind]
  | @comment token _ _ kind others ih =>
    have starts : startsNode token = true := by simp [startsNode, kind]
    simp only [Node.inOrders, Node.inOrder, List.singleton_append, List.map_cons, Node.opening,
      List.filter_cons_of_pos starts, ih, ← kind]
  | @element opening close head body rest pairs attributes children siblings kind attributed
      collected inside closes others childrenOpenings siblingsOpenings =>
    have starts : startsNode opening = true := by simp [startsNode, kind]
    have noneInHead : head.filter startsNode = [] := by
      rw [List.filter_eq_nil_iff]
      intro token member
      rcases kind_of_attributed attributed token member with same | same <;> simp [startsNode, same]
    have closing : startsNode close = false := by
      simp only [Token.closes, Bool.and_eq_true, beq_iff_eq] at closes
      simp [startsNode, closes.1]
    simp only [Node.inOrders, Node.inOrder, List.cons_append, List.map_cons, List.map_append,
      Node.opening, List.filter_cons_of_pos starts, List.filter_append, noneInHead,
      List.nil_append, List.filter_cons_of_neg (Bool.eq_false_iff.mp closing), childrenOpenings,
      siblingsOpenings, ← kind]

/-- The nodes that begin with a token of some kind are as many as the tokens of that kind. -/
theorem countP_of_derives {tokens : List Token} {nodes : List Node}
    (derives : Derives tokens nodes) {kind : Token.Kind}
    (starts : ∀ token : Token, token.kind = kind → startsNode token = true) :
    ((Node.inOrders nodes).map Node.opening).countP (·.kind == kind) =
      tokens.countP (·.kind == kind) := by
  rw [openings_of_derives derives, List.countP_filter]
  apply List.countP_congr
  intro token _
  simpa using starts token

/-- Every opening tag has its closing tag. -/
theorem countP_tagClose_of_derives {tokens : List Token} {nodes : List Node}
    (derives : Derives tokens nodes) :
    tokens.countP (·.kind == .tagClose) = tokens.countP (·.kind == .tagOpen) := by
  induction derives with
  | nil => rfl
  | text isText others ih => simp [ih, isText]
  | comment isComment others ih => simp [ih, isComment]
  | @element opening close head body rest pairs attributes children siblings isOpen attributed
      collected inside closes others childrenCount siblingsCount =>
    have noTag : ∀ kind : Token.Kind, kind = .tagOpen ∨ kind = .tagClose →
        head.countP (·.kind == kind) = 0 := by
      intro kind tag
      rw [List.countP_eq_zero]
      intro token member
      rcases kind_of_attributed attributed token member with same | same <;>
        rcases tag with rfl | rfl <;> simp [same]
    simp only [Token.closes, Bool.and_eq_true, beq_iff_eq] at closes
    simp [childrenCount, siblingsCount, isOpen, closes.1, noTag .tagOpen (.inl rfl),
      noTag .tagClose (.inr rfl)]
    omega

/-- The tokens in front of the first end of the input. -/
def meaningful (tokens : List Token) : List Token := tokens.takeWhile fun token => !token.isEnd

/-- Whether the tokens in front of the first end of the input derive a document whose elements nest
    no deeper than they may. -/
def Derived (tokens : List Token) (document : Document) : Prop :=
  Derives (meaningful tokens) document.children ∧ document.nesting ≤ maxNesting

/-- A document is read if its nodes are read and no token in front of the end is left. -/
theorem ofTokens_eq_ok_iff {tokens : List Token} {document : Document} :
    ofTokens tokens = .ok document ↔
      readFront (endToken tokens) 0 (meaningful tokens) = .ok (document.children, []) := by
  unfold ofTokens readFront meaningful
  cases readNodes (endToken tokens) 0 (tokens.takeWhile fun token => !token.isEnd) with
  | error failure => simp [bind, Except.bind, Except.map]
  | ok result =>
    obtain ⟨children, left, bound⟩ := result
    obtain ⟨nodes⟩ := document
    cases left <;> simp [bind, Except.bind, Except.map]

/-- A token list stands for the documents that it derives, and for no other. -/
theorem ofTokens_iff_derived (tokens : List Token) (document : Document) :
    ofTokens tokens = .ok document ↔ Derived tokens document := by
  rw [ofTokens_eq_ok_iff]
  constructor
  · intro done
    obtain ⟨consumed, whole, derives, -, fits⟩ := derives_of_readFront (Nat.zero_le _) done
    rw [List.append_nil] at whole
    exact ⟨whole ▸ derives, by simpa [nesting] using fits⟩
  · rintro ⟨derives, fits⟩
    have ends : StartsNoNode [] := by simp [StartsNoNode]
    have few : 0 + Node.nestings document.children ≤ maxNesting := by simpa [nesting] using fits
    simpa using readFront_of_derives (endToken tokens) derives few ends

/-- Parsing accepts a token list exactly if the tokens in front of the first end of the input derive
    a document that is not nested too deep, and gives that document. There is at most one, its
    nodes of each kind are as many as the tokens that begin them, and its levels are the document
    itself, the elements and a text or comment inside the innermost.

    That there is only one document follows from the equivalence, for parsing gives one result. -/
theorem ofTokens_accepts_grammar (tokens : List Token) (document : Document) :
    (ofTokens tokens = .ok document ↔ Derived tokens document) ∧
      (Derived tokens document →
        (∀ other, Derived tokens other → other = document) ∧
        document.elementCount = (meaningful tokens).countP (·.kind == .tagOpen) ∧
        document.elementCount = (meaningful tokens).countP (·.kind == .tagClose) ∧
        document.count .text = (meaningful tokens).countP (·.kind == .text) ∧
        document.count .comment = (meaningful tokens).countP (·.kind == .comment) ∧
        document.depth ≤ 258) := by
  refine ⟨ofTokens_iff_derived tokens document, ?_⟩
  intro derived
  have parsed := (ofTokens_iff_derived tokens document).mpr derived
  obtain ⟨derives, fits⟩ := derived
  have elements : document.elementCount = (meaningful tokens).countP (·.kind == .tagOpen) :=
    (Node.elementCounts_eq_countP document.children).trans
      (countP_of_derives derives fun token kind => by simp [startsNode, kind])
  refine ⟨?_, elements, ?_, ?_, ?_, ?_⟩
  · intro other derived
    have same := ((ofTokens_iff_derived tokens other).mpr derived).symm.trans parsed
    exact Except.ok.inj same
  · exact elements.trans (countP_tagClose_of_derives derives).symm
  · apply countP_of_derives derives
    intro token kind
    simp [startsNode, kind]
  · apply countP_of_derives derives
    intro token kind
    simp [startsNode, kind]
  · have levels := Node.depths_le_nestings document.children
    simp only [depth, nesting, maxNesting] at fits ⊢
    omega

/-- Three attributes, the last of which repeats the name of the first. -/
def repeatedHead : List Token :=
  [⟨.attributeName, "x", ⟨1, 4⟩⟩, ⟨.attributeValue, "1", ⟨1, 6⟩⟩, ⟨.attributeName, "y", ⟨1, 10⟩⟩,
    ⟨.attributeValue, "2", ⟨1, 12⟩⟩, ⟨.attributeName, "x", ⟨1, 16⟩⟩,
    ⟨.attributeValue, "3", ⟨1, 18⟩⟩]

/-- A comment in front of a text. -/
def repeatedBody : List Token := [⟨.comment, "c", ⟨1, 22⟩⟩, ⟨.text, "Hi ", ⟨1, 27⟩⟩]

/-- An element with these attributes and children. What stands behind the end of the input does not
    count. -/
def repeatedTokens : List Token :=
  ⟨.tagOpen, "a", ⟨1, 1⟩⟩ :: repeatedHead ++ repeatedBody ++ ⟨.tagClose, "a", ⟨1, 30⟩⟩ ::
    [⟨.endOfInput, [], ⟨1, 33⟩⟩, ⟨.tagClose, "b", ⟨1, 33⟩⟩]

/-- The element, its attributes in the order of their first appearance and with their last values. -/
def repeatedDocument : Document :=
  ⟨[.element "a" ⟨[("x", "3"), ("y", "2")], by decide⟩
    [.comment "c" ⟨1, 22⟩, .text "Hi " ⟨1, 27⟩] ⟨1, 1⟩]⟩

/-- The tokens derive the document and no other one, and it is parsed from them. -/
theorem ofTokens_accepts_grammar_repeated :
    Derived repeatedTokens repeatedDocument ∧
      (∀ other, Derived repeatedTokens other → other = repeatedDocument) ∧
      ofTokens repeatedTokens = .ok repeatedDocument := by
  let opening : Token := ⟨.tagOpen, "a", ⟨1, 1⟩⟩
  have attributed : Attributed repeatedHead [("x", "1"), ("y", "2"), ("x", "3")] :=
    .cons rfl rfl (.cons rfl rfl (.cons rfl rfl .nil))
  have collected : Attributes.Collects [("x", "1"), ("y", "2"), ("x", "3")]
      ⟨[("x", "3"), ("y", "2")], by decide⟩ := ⟨by decide, by decide⟩
  have inside : Derives repeatedBody [.comment "c" ⟨1, 22⟩, .text "Hi " ⟨1, 27⟩] :=
    .comment rfl (.text rfl .nil)
  have derived : Derived repeatedTokens repeatedDocument :=
    ⟨.element (show opening.kind = .tagOpen from rfl) attributed collected inside rfl .nil,
      by decide⟩
  obtain ⟨accepted, unique⟩ := ofTokens_accepts_grammar repeatedTokens repeatedDocument
  exact ⟨derived, (unique derived).1, accepted.mpr derived⟩

end Document

end FlashMarkup
