import FlashMarkup.Proofs.Compile.RoundTrip
import FlashMarkup.Proofs.Grammar.Conformance
import FlashMarkup.Proofs.Token.Coverage
import Mathlib.Data.List.Nodup

/-!
# Positions name what stands there

A token keeps the position at which its written form begins, a node the position of the token that
begins it, and a diagnostic the position of the element that it is about. So the position of a node
or of a diagnostic, looked up in the source, leads to the written form of the node, and both come in
the order of the source.

The order is that of the tokens: the nodes of a tree, in the order in which validation meets them,
begin with some of the tokens, and these stand one behind the other.
-/

namespace FlashMarkup

namespace Token

/-- Whether the written form of a token stands in a source at the position of the token. -/
def StandsIn (source : Text) (token : Token) : Prop :=
  ∃ lexeme, token.IsWrittenAs lexeme ∧ lexeme <+: source.startingAt token.position

/-- Each token of a run of pieces stands in their source. -/
theorem Laid.stands {before final : Text} {previous : Option Token} {pieces : List Piece}
    (laid : Laid before previous final pieces) :
    ∀ piece ∈ pieces, piece.token.StandsIn (before ++ Piece.join pieces final) := by
  intro piece member
  obtain ⟨front, back, rfl⟩ := List.append_of_mem member
  have fits := laid.fits
  have split : before ++ Piece.join (front ++ piece :: back) final =
      (before ++ Piece.join front [] ++ piece.gap) ++ (piece.lexeme ++ Piece.join back final) := by
    simp [Piece.join, Piece.text]
  refine ⟨piece.lexeme, fits.lexeme, ?_⟩
  rw [split, fits.position, Position.startingAt_behind]
  exact List.prefix_append _ _

/-- The tokens of a source stand in it one behind the other, and the end of the input behind it. -/
theorem stands_of_scan {source : Text} {tokens : List Token} (scanned : scan source = .ok tokens) :
    ∃ front, tokens = front ++ [⟨.endOfInput, [], .behind source⟩] ∧
      (∀ token ∈ front, token.StandsIn source) ∧
      tokens.Pairwise fun first second => first.position.Precedes second.position := by
  rw [scan, scanFrom_split] at scanned
  have start : IsGap none [] source := .inl Text.blank_nil
  obtain ⟨pieces, final, whole, listed, laid⟩ := laid_of_scanFrom [] [] start (by simp) scanned
  rw [List.nil_append] at whole
  rw [List.append_nil, List.nil_append] at listed
  refine ⟨pieces.map Piece.token, listed, ?_, ?_⟩
  · intro token member
    obtain ⟨piece, inside, rfl⟩ := List.mem_map.mp member
    rw [whole]
    exact laid.stands piece inside
  · rw [listed, whole]
    exact laid.increasing

end Token

namespace Node

/-- The beginning of the written form of a node: an element begins with an at sign and its tag, a
    text is written as it is and a comment between pairs of hashes. -/
def beginning : Node → Text
  | .element tag _ _ _ => '@' :: tag
  | .text content _ => content
  | .comment content _ => ['#', '#'] ++ content ++ ['#', '#']

/-- The token that begins a node is written as the node begins. -/
theorem eq_beginning {node : Node} {lexeme : Text} (written : node.opening.IsWrittenAs lexeme) :
    lexeme = node.beginning := by
  cases node <;> exact written

/-- A node with a tag begins with an at sign and the tag. -/
theorem beginning_of_tag {node : Node} {tag : Text} (tagged : node.tag? = some tag) :
    node.beginning = '@' :: tag := by
  cases node with
  | element => cases tagged; rfl
  | text => contradiction
  | comment => contradiction

/-- A node has the position of the token that begins it. -/
theorem opening_position (node : Node) : node.opening.position = node.position := by
  cases node <;> rfl

/-- The elements of several trees are those of their nodes that begin with an opening tag. -/
theorem openings_occurrencesOf (ancestors : List Text) (nodes : List Node) :
    (occurrencesOf ancestors nodes).map (fun element => ⟨.tagOpen, element.tag, element.position⟩) =
      ((inOrders nodes).map opening).filter (·.kind == .tagOpen) := by
  match nodes with
  | [] => rfl
  | node :: rest =>
    have later := openings_occurrencesOf ancestors rest
    cases node with
    | element tag attributes children position =>
      have inside := openings_occurrencesOf (tag :: ancestors) children
      simp [occurrencesOf, occurrences, inOrders, inOrder, opening, inside, later]
    | text => simp [occurrencesOf, occurrences, inOrders, inOrder, opening, later]
    | comment => simp [occurrencesOf, occurrences, inOrders, inOrder, opening, later]

end Node

/-- The tag that a violation is about. A missing root is about no tag of the document. -/
def Violation.tag? : Violation → Option Text
  | .missingRoot _ => none
  | .unknownTag tag => some tag
  | .disallowedParent tag _ => some tag
  | .missingAttribute tag _ => some tag
  | .disallowedAttribute tag _ => some tag

/-- What is reported about an element names its tag and has its position. -/
theorem Occurrence.about_of_mem_block {element : Occurrence} {diagnostic : Diagnostic}
    (member : diagnostic ∈ element.block) :
    diagnostic.violation.tag? = some element.tag ∧ diagnostic.position = some element.position := by
  obtain ⟨violation, inside, rfl⟩ := List.mem_map.mp member
  refine ⟨?_, rfl⟩
  unfold violations at inside
  split at inside
  next =>
    rw [List.mem_singleton.mp inside]
    rfl
  next rule _ =>
    rcases List.mem_append.mp inside with misplaced | listed
    · split at misplaced
      next => contradiction
      next =>
        rw [List.mem_singleton.mp misplaced]
        rfl
    · rcases List.mem_append.mp listed with missing | disallowed
      · obtain ⟨name, -, rfl⟩ := List.mem_map.mp missing
        rfl
      · obtain ⟨name, -, rfl⟩ := List.mem_map.mp disallowed
        rfl

/-- Reports about elements that stand one behind the other come in the order of their positions. -/
theorem Occurrence.ordered_blocks {elements : List Occurrence}
    (increasing : elements.Pairwise fun first second => first.position.Precedes second.position) :
    (elements.flatMap block).Pairwise fun first second => first.position = second.position ∨
      ∃ former ∈ first.position, ∃ latter ∈ second.position, former.Precedes latter := by
  refine List.pairwise_flatMap.mpr ⟨?_, increasing.imp ?_⟩
  · intro element _
    exact List.pairwise_map.mpr (List.pairwise_of_forall fun _ _ => .inl rfl)
  · intro element other before first firstMember second secondMember
    have firstPosition := (about_of_mem_block firstMember).2
    have secondPosition := (about_of_mem_block secondMember).2
    exact .inr ⟨_, firstPosition, _, secondPosition, before⟩

/-- Nothing is reported twice about elements that stand one behind the other. -/
theorem Occurrence.nodup_blocks {elements : List Occurrence}
    (increasing : elements.Pairwise fun first second => first.position.Precedes second.position) :
    (elements.flatMap block).Nodup := by
  refine List.nodup_flatMap.mpr ⟨fun element _ => element.nodup_block, increasing.imp ?_⟩
  intro element other before diagnostic first second
  have same : some element.position = some other.position :=
    (about_of_mem_block first).2.symm.trans (about_of_mem_block second).2
  rw [Option.some.inj same] at before
  exact other.position.not_precedes_self before

namespace Document

/-- Validation reports a missing root if at all, and then what is wrong with some of the elements,
    in their order. -/
theorem exists_blocks (document : Document) :
    ∃ root, ∃ elements : List Occurrence,
      document.validate = root ++ elements.flatMap Occurrence.block ∧
      elements.Sublist document.occurrences ∧
      (root = [] ∨ root = [⟨.missingRoot Tag.velocista.name, none⟩]) := by
  have below := Node.diagnosticsOf_eq_blocks [] (by simp) document.children
  rw [List.head?_nil] at below
  refine ⟨_, document.occurrences.filter (·.Checked), congrArg _ below, List.filter_sublist, ?_⟩
  split
  next => exact .inl rfl
  next => exact .inr rfl

/-- The tokens that begin the nodes of a parsed document are some of those of its source, in order.
    -/
theorem openings_of_parse {source : Text} {document : Document}
    (parsed : parse source = .ok document) :
    ∃ front, tokenize source = .ok (front ++ [⟨.endOfInput, [], .behind source⟩]) ∧
      (∀ token ∈ front, token.StandsIn source ∧ token.position.Precedes (.behind source)) ∧
      (front.Pairwise fun first second => first.position.Precedes second.position) ∧
      ((Node.inOrders document.children).map Node.opening).Sublist front := by
  obtain ⟨tokens, scanned, read⟩ := parse_eq_ok_iff.mp parsed
  obtain ⟨derives, -⟩ := (ofTokens_iff_derived tokens document).mp read
  obtain ⟨front, rfl, stands, increasing⟩ := Token.stands_of_scan scanned
  obtain ⟨frontIncreasing, -, before⟩ := List.pairwise_append.mp increasing
  refine ⟨front, by rw [tokenize, scanned]; rfl, ?_, frontIncreasing, ?_⟩
  · intro token member
    exact ⟨stands token member, before token member _ (List.mem_singleton_self _)⟩
  · -- The end of the input begins no node, so it may as well be left in.
    have kept := (List.takeWhile_sublist (!Token.isEnd ·)
      (l := front ++ [⟨.endOfInput, [], .behind source⟩])).filter startsNode
    have inert : [⟨.endOfInput, [], .behind source⟩].filter startsNode = [] := rfl
    rw [List.filter_append, inert, List.append_nil] at kept
    rw [openings_of_derives derives]
    exact kept.trans List.filter_sublist

/-- The nodes of a parsed document begin before the end of the input, each where its position says.
    -/
theorem nodes_begin {source : Text} {document : Document} (parsed : parse source = .ok document) :
    ∃ front stop, tokenize source = .ok (front ++ [⟨.endOfInput, [], stop⟩]) ∧
      ∀ node ∈ Node.inOrders document.children,
        node.position.Precedes stop ∧ node.beginning <+: source.startingAt node.position := by
  obtain ⟨front, tokenized, stands, -, listed⟩ := openings_of_parse parsed
  refine ⟨front, _, tokenized, ?_⟩
  intro node member
  obtain ⟨⟨lexeme, written, prefixed⟩, before⟩ :=
    stands node.opening (listed.subset (List.mem_map_of_mem member))
  rw [Node.opening_position] at prefixed before
  exact ⟨before, Node.eq_beginning written ▸ prefixed⟩

/-- The tokens that begin the nodes of a parsed document stand one behind the other. -/
theorem openings_increasing {source : Text} {document : Document}
    (parsed : parse source = .ok document) :
    ((Node.inOrders document.children).map Node.opening).Pairwise
      fun first second => first.position.Precedes second.position := by
  obtain ⟨front, -, -, increasing, listed⟩ := openings_of_parse parsed
  exact increasing.sublist listed

/-- The nodes of a parsed document stand one behind the other. -/
theorem nodes_increasing {source : Text} {document : Document}
    (parsed : parse source = .ok document) :
    (Node.inOrders document.children).Pairwise
      fun first second => first.position.Precedes second.position := by
  have ordered := List.pairwise_map.mp (openings_increasing parsed)
  simpa only [Node.opening_position] using ordered

/-- An element of a document is a node of it, with its tag and its position. -/
theorem exists_node_of_occurrence {document : Document} {element : Occurrence}
    (member : element ∈ document.occurrences) :
    ∃ node ∈ Node.inOrders document.children, node.tag? = some element.tag ∧
      node.position = element.position := by
  have opened : (⟨.tagOpen, element.tag, element.position⟩ : Token) ∈
      ((Node.inOrders document.children).map Node.opening).filter (·.kind == .tagOpen) := by
    rw [← Node.openings_occurrencesOf []]
    exact List.mem_map_of_mem member
  obtain ⟨node, inside, same⟩ := List.mem_map.mp (List.mem_filter.mp opened).1
  cases node with
  | element tag attributes children position =>
    cases same
    exact ⟨_, inside, rfl, rfl⟩
  | text => cases same
  | comment => cases same

/-- The elements of a parsed document stand one behind the other. -/
theorem occurrences_increasing {source : Text} {document : Document}
    (parsed : parse source = .ok document) :
    document.occurrences.Pairwise fun first second =>
      first.position.Precedes second.position := by
  have openings := (openings_increasing parsed).filter (·.kind == .tagOpen)
  rwa [← Node.openings_occurrencesOf [], List.pairwise_map] at openings

/-- A missing root and what is reported about elements that stand one behind the other are not
    reported twice. -/
theorem nodup_report {root : List Diagnostic} {elements : List Occurrence}
    (rooted : root = [] ∨ root = [⟨.missingRoot Tag.velocista.name, none⟩])
    (increasing : elements.Pairwise fun first second => first.position.Precedes second.position) :
    (root ++ elements.flatMap Occurrence.block).Nodup := by
  have blocks := Occurrence.nodup_blocks increasing
  rcases rooted with rfl | rfl
  · exact blocks
  · refine List.nodup_cons.mpr ⟨?_, blocks⟩
    intro member
    obtain ⟨element, -, inside⟩ := List.mem_flatMap.mp member
    have placed := (Occurrence.about_of_mem_block inside).2
    contradiction

end Document

/-- Positions name what stands in the source. The nodes of a parsed document come one behind the
    other and before the end of the input, and each begins where its position says. What checking a
    source reports, but for a missing root in front, is about a node of its document: it names the
    tag of that node and has the position of its at sign. Reports come in the order of these
    positions, and none comes twice. -/
theorem positions_name_source {source : Text} {document : Document}
    (parsed : parse source = .ok document) :
    ((Node.inOrders document.children).Pairwise fun first second =>
        first.position.Precedes second.position) ∧
      (∃ front stop, tokenize source = .ok (front ++ [⟨.endOfInput, [], stop⟩]) ∧
        ∀ node ∈ Node.inOrders document.children,
          node.position.Precedes stop ∧ node.beginning <+: source.startingAt node.position) ∧
      ∃ root placed, check source = .ok (root ++ placed) ∧
        (root = [] ∨ root = [⟨.missingRoot Tag.velocista.name, none⟩]) ∧
        (∀ diagnostic ∈ placed, ∃ node ∈ Node.inOrders document.children, ∃ tag,
          node.tag? = some tag ∧ diagnostic.violation.tag? = some tag ∧
            diagnostic.position = some node.position ∧
            '@' :: tag <+: source.startingAt node.position) ∧
        (placed.Pairwise fun first second =>
          first.position = second.position ∨
            ∃ former ∈ first.position, ∃ latter ∈ second.position, former.Precedes latter) ∧
        (root ++ placed).Nodup := by
  obtain ⟨front, stop, tokenized, begins⟩ := Document.nodes_begin parsed
  obtain ⟨root, elements, validated, reported, rooted⟩ := document.exists_blocks
  have increasing := (Document.occurrences_increasing parsed).sublist reported
  refine ⟨Document.nodes_increasing parsed, ⟨front, stop, tokenized, begins⟩, root,
    elements.flatMap Occurrence.block, ?_, rooted, ?_, Occurrence.ordered_blocks increasing,
    Document.nodup_report rooted increasing⟩
  · rw [check, parsed, ← validated]
    rfl
  · intro diagnostic member
    obtain ⟨element, among, inside⟩ := List.mem_flatMap.mp member
    obtain ⟨named, placed⟩ := Occurrence.about_of_mem_block inside
    obtain ⟨node, nodeMember, tagged, same⟩ :=
      Document.exists_node_of_occurrence (reported.subset among)
    have begun := (begins node nodeMember).2
    rw [Node.beginning_of_tag tagged] at begun
    exact ⟨node, nodeMember, element.tag, tagged, named, same ▸ placed, begun⟩

/-- A source with a letter of two bytes, a break inside a comment, and no root. -/
def scatteredSource : Text := "é ##n\n## @foo x='1'@ ñ @/foo@\n @imagen b='2'@@/imagen@"

/-- The tree of the scattered source. -/
def scatteredDocument : Document :=
  ⟨[.text ("é " : String) ⟨1, 1⟩, .comment ("n\n" : String) ⟨1, 3⟩,
    .element ("foo" : String) (.ofList [(("x" : String), ("1" : String))])
      [.text ("ñ " : String) ⟨2, 16⟩] ⟨2, 4⟩,
    .element ("imagen" : String) (.ofList [(("b" : String), ("2" : String))]) [] ⟨3, 2⟩]⟩

/-- What is reported about it: the missing root, then one and then three violations of an element.
    -/
def scatteredDiagnostics : List Diagnostic :=
  [⟨.missingRoot Tag.velocista.name, none⟩, ⟨.unknownTag "foo", some ⟨2, 4⟩⟩,
    ⟨.disallowedParent "imagen" none, some ⟨3, 2⟩⟩, ⟨.missingAttribute "imagen" "src", some ⟨3, 2⟩⟩,
    ⟨.disallowedAttribute "imagen" "b", some ⟨3, 2⟩⟩]

/-- The scattered source is parsed as its tree, whose nodes stand where they say, and what is
    reported comes once each. -/
theorem positions_name_source_scattered :
    parse scatteredSource = .ok scatteredDocument ∧
      check scatteredSource = .ok scatteredDiagnostics ∧
      (∀ node ∈ Node.inOrders scatteredDocument.children,
        node.beginning <+: scatteredSource.startingAt node.position) ∧
      scatteredDiagnostics.Nodup := by
  have parsed : parse scatteredSource = .ok scatteredDocument := by decide +kernel
  have checked : check scatteredSource = .ok scatteredDiagnostics := by
    rw [check, parsed]
    decide +kernel
  obtain ⟨-, ⟨front, stop, -, begins⟩, root, placed, reported, -, -, -, once⟩ :=
    positions_name_source parsed
  rw [checked] at reported
  exact ⟨parsed, checked, fun node member => (begins node member).2, Except.ok.inj reported ▸ once⟩

end FlashMarkup
