import FlashMarkup.Proofs.Document.Attributes
import FlashMarkup.Proofs.Document.Grammar
import FlashMarkup.Proofs.Token.Valid

/-!
# Written documents and tokens

The source of a document is scanned as tokens that derive the document, whatever the layout. The
invariant of the walk over a tree is that what stands behind a list of nodes is the end of the
source or an at sign: then every text ends where its node ends, and every name where its tag head
ends.

In the other direction, valid tokens with the right neighbours derive only nodes that can be
written.
-/

namespace FlashMarkup.Document

open Lexeme (isWordChar)
open Text (EndsRun)
open Token.Characters (Scans StopsText scans_nil scans_append)

/-- The attributes of an element are scanned as names and values that stand for them. -/
theorem scans_entries (position : Position) {entries : List (Text × Text)}
    (valid : ∀ entry ∈ entries, Source.IsAttributeName entry.1 ∧ Source.IsValue entry.2)
    (rest : Text) :
    ∃ tokens, Attributed tokens entries ∧
      Scans position true (Source.entries entries) tokens true rest := by
  induction entries generalizing position with
  | nil => exact ⟨[], .nil, scans_nil position true rest⟩
  | cons entry others ih =>
    obtain ⟨name, value⟩ := entry
    obtain ⟨named, valued⟩ := valid _ List.mem_cons_self
    obtain ⟨tokens, attributed, later⟩ :=
      ih (position.past (Source.entry name value)) fun entry member =>
        valid entry (List.mem_cons_of_mem _ member)
    have space := Token.Characters.scans_space position true
      ((name ++ ['=']) ++ (Source.quoteFor value :: value ++ [Source.quoteFor value]) ++
        (Source.entries others ++ rest))
    have nameScans := Token.Characters.scans_attributeName (position.past [' ']) false named
      ((Source.quoteFor value :: value ++ [Source.quoteFor value]) ++
        (Source.entries others ++ rest))
    have valueScans := Token.Characters.scans_value
      ((position.past [' ']).past (name ++ ['='])) false valued (Source.entries others ++ rest)
    have entryScans := scans_append space (scans_append nameScans valueScans)
    have written : [' '] ++ ((name ++ ['=']) ++
        (Source.quoteFor value :: value ++ [Source.quoteFor value])) =
          Source.entry name value := by simp [Source.entry]
    rw [written] at entryScans
    exact ⟨_, .cons rfl rfl attributed, scans_append entryScans later⟩

/-- Whether the end of the source or an at sign follows. -/
def Bordered (rest : Text) : Prop := ∀ c ∈ rest.head?, c = '@'

/-- What follows the nodes of a document is the end of the source. -/
theorem bordered_nil : Bordered [] := by
  intro c first
  contradiction

/-- What follows the nodes of an element is an at sign. -/
theorem bordered_cons (rest : Text) : Bordered ('@' :: rest) := by
  intro c first
  exact (Option.some.inj first).symm

/-- No slash begins the source of nodes none of whose texts begins with one. -/
theorem head_sources_ne_slash {layout : Layout} {nodes : List Node}
    (writable : Node.Writables nodes) (unslashed : Node.Unslasheds nodes) {rest : Text}
    (border : Bordered rest) : (Node.sources layout nodes ++ rest).head? ≠ some '/' := by
  cases nodes with
  | nil =>
    intro slash
    exact absurd (border '/' slash) (by decide)
  | cons node others =>
    cases node with
    | element => simp [Node.sources, Node.source, Source.opening]
    | comment => simp [Node.sources, Node.source, Source.comment]
    | text content position =>
      obtain ⟨c, more, rfl⟩ := List.exists_cons_of_ne_nil writable.1.present
      simpa [Node.sources, Node.source, Node.Unslashed] using unslashed.1

/-- A text ends where the sources of its following siblings begin, and no comment takes a hash of
    it. -/
theorem stopsText_sources (layout : Layout) {content : Text} {position : Position}
    {siblings : List Node}
    (neighbours : ∀ next ∈ siblings.head?, Node.MayPrecede (.text content position) next)
    {rest : Text} (border : Bordered rest) :
    StopsText (Node.sources layout siblings ++ rest) ∧
      (content.getLast? = some '#' →
        (Node.sources layout siblings ++ rest).head? ≠ some '#') := by
  cases siblings with
  | nil =>
    cases rest with
    | nil => exact ⟨.inl rfl, fun _ => by simp [Node.sources]⟩
    | cons c others =>
      obtain rfl := border c rfl
      exact ⟨.inr (.inl rfl), fun _ => by simp [Node.sources]⟩
  | cons node others =>
    have neighbour := neighbours node rfl
    cases node with
    | element => exact ⟨.inr (.inl rfl), fun _ => by simp [Node.sources, Node.source, Source.opening]⟩
    | text => exact neighbour.elim
    | comment => exact ⟨.inr (.inr ⟨_, rfl⟩), fun last => absurd last neighbour⟩

/-- A name ends in front of the terminator of its head. -/
theorem endsRun_terminator (layout : Layout) (rest : Text) :
    EndsRun isWordChar (layout.terminator :: rest) := by
  intro c first
  obtain rfl := Option.some.inj first
  cases layout <;> rfl

/-- A tag name ends in front of the attributes and the terminator of its head. -/
theorem endsRun_entries (layout : Layout) (entries : List (Text × Text)) (rest : Text) :
    EndsRun isWordChar (Source.entries entries ++ layout.terminator :: rest) := by
  cases entries with
  | nil => exact endsRun_terminator layout rest
  | cons entry others =>
    intro c first
    obtain rfl := Option.some.inj first
    rfl

/-- The head of an element is scanned as its opening tag and its attributes. -/
theorem scans_head (layout : Layout) (position : Position) {tag rest : Text}
    {entries : List (Text × Text)} (named : Source.IsName tag)
    (valid : ∀ entry ∈ entries, Source.IsAttributeName entry.1 ∧ Source.IsValue entry.2)
    (unslashed : layout = .compact → rest.head? ≠ some '/') :
    ∃ head, Attributed head entries ∧
      Scans position false (Source.opening layout tag entries)
        (⟨.tagOpen, tag, position⟩ :: head) false rest := by
  have nameEnds : EndsRun isWordChar (Source.entries entries ++ ([layout.terminator] ++ rest)) :=
    endsRun_entries layout entries rest
  obtain ⟨head, attributed, headScans⟩ :=
    scans_entries (position.past ('@' :: tag)) valid ([layout.terminator] ++ rest)
  have nameScans := Token.Characters.scans_opening position named nameEnds
  have terminatorScans := Token.Characters.scans_terminator layout
    (position.past ('@' :: tag ++ Source.entries entries)) unslashed
  have whole := scans_append (scans_append nameScans headScans) terminatorScans
  rw [List.append_nil] at whole
  exact ⟨head, attributed, whole⟩

/-- The end of an element is scanned as its closing tag. -/
theorem scans_closing (layout : Layout) (position : Position) {tag rest : Text}
    (named : Source.IsName tag) (unslashed : layout = .compact → rest.head? ≠ some '/') :
    Scans position false (Source.closing layout tag) [⟨.tagClose, tag, position⟩] false rest := by
  have nameScans := Token.Characters.scans_closing position false named
    (endsRun_terminator layout rest)
  have terminatorScans := Token.Characters.scans_terminator layout
    (position.past ('@' :: '/' :: tag)) unslashed
  exact scans_append nameScans terminatorScans

/-- Whether the source of nodes is scanned, in front of a text, as tokens that derive the nodes up to
    positions. -/
def ScansAs (layout : Layout) (position : Position) (nodes : List Node) (rest : Text) : Prop :=
  ∃ tokens read, Derives tokens read ∧ Node.unplaceds read = Node.unplaceds nodes ∧
    Scans position false (Node.sources layout nodes) tokens false rest

/-- A text is scanned as its token in front of its siblings. -/
theorem scansAs_text {layout : Layout} {position place : Position} {content rest : Text}
    {siblings : List Node} (plain : Source.IsPlain content)
    (neighbours : ∀ next ∈ siblings.head?, Node.MayPrecede (.text content place) next)
    (border : Bordered rest) (later : ScansAs layout (position.past content) siblings rest) :
    ScansAs layout position (.text content place :: siblings) rest := by
  obtain ⟨stops, hashes⟩ := stopsText_sources layout neighbours border
  obtain ⟨tokens, read, derives, same, siblingsScan⟩ := later
  have front := Token.Characters.scans_plain position false plain stops hashes
  refine ⟨_, _, .text rfl derives, ?_, scans_append front siblingsScan⟩
  simp only [Node.unplaceds, Node.unplaced, same]

/-- A comment is scanned as its token in front of its siblings. -/
theorem scansAs_comment {layout : Layout} {position place : Position} {content rest : Text}
    {siblings : List Node} (commented : Source.IsComment content)
    (later : ScansAs layout (position.past (Source.comment content)) siblings rest) :
    ScansAs layout position (.comment content place :: siblings) rest := by
  obtain ⟨tokens, read, derives, same, siblingsScan⟩ := later
  have front := Token.Characters.scans_comment position false commented
    (Node.sources layout siblings ++ rest)
  refine ⟨_, _, .comment rfl derives, ?_, scans_append front siblingsScan⟩
  simp only [Node.unplaceds, Node.unplaced, same]

/-- An element is scanned as its head, its children and its closing tag in front of its siblings. -/
theorem scansAs_element {layout : Layout} {position place : Position} {tag rest : Text}
    {attributes : Attributes} {children siblings : List Node} (named : Source.IsName tag)
    (valid : ∀ entry ∈ attributes.entries,
      Source.IsAttributeName entry.1 ∧ Source.IsValue entry.2)
    (headEnds : layout = .compact → (Node.sources layout children ++
      (Source.closing layout tag ++ Node.sources layout siblings ++ rest)).head? ≠ some '/')
    (closingEnds : layout = .compact → (Node.sources layout siblings ++ rest).head? ≠ some '/')
    (inside : ScansAs layout (position.past (Source.opening layout tag attributes.entries)) children
      (Source.closing layout tag ++ Node.sources layout siblings ++ rest))
    (later : ScansAs layout
      (((position.past (Source.opening layout tag attributes.entries)).past
        (Node.sources layout children)).past (Source.closing layout tag)) siblings rest) :
    ScansAs layout position (.element tag attributes children place :: siblings) rest := by
  obtain ⟨body, childrenRead, childrenDerive, sameChildren, childrenScan⟩ := inside
  obtain ⟨back, siblingsRead, siblingsDerive, sameSiblings, siblingsScan⟩ := later
  obtain ⟨head, attributed, headScans⟩ := scans_head layout position named valid headEnds
  have closingScans := scans_closing layout
    ((position.past (Source.opening layout tag attributes.entries)).past
      (Node.sources layout children)) named closingEnds
  have contentScans := scans_append childrenScan (scans_append closingScans siblingsScan)
  rw [← List.append_assoc] at headScans
  have whole := scans_append headScans contentScans
  have collected : attributes.Collects attributes.entries := by
    have made := Attributes.collects_ofList attributes.entries
    rwa [Attributes.ofList_entries] at made
  let opening : Token := ⟨.tagOpen, tag, position⟩
  let close : Token := ⟨.tagClose, tag, (position.past
    (Source.opening layout tag attributes.entries)).past (Node.sources layout children)⟩
  have closes : close.closes opening.value = true := by simp [Token.closes, close, opening]
  refine ⟨_, _, .element (show opening.kind = .tagOpen from rfl) attributed collected
    childrenDerive closes siblingsDerive, ?_, ?_⟩
  · simp only [Node.unplaceds, Node.unplaced, sameChildren, sameSiblings, opening]
  · simpa [Node.sources, Node.source, opening, close] using whole

/-- The source of writable nodes is scanned as tokens that derive the nodes, in front of the end of
    the source or an at sign.

    Recurse on the nodes. What stands behind the children of an element is its closing tag, so the
    children satisfy the same invariant as their parent. -/
theorem scans_sources (layout : Layout) (nodes : List Node) (writable : Node.Writables nodes)
    (unslashed : layout = .compact → Node.Unslasheds nodes) (position : Position) {rest : Text}
    (border : Bordered rest) : ScansAs layout position nodes rest := by
  match nodes with
  | [] => exact ⟨[], [], .nil, rfl, scans_nil position false rest⟩
  | .text content place :: siblings =>
    obtain ⟨plain, neighbours, others⟩ := writable
    exact scansAs_text plain neighbours border
      (scans_sources layout siblings others (fun compact => (unslashed compact).2) _ border)
  | .comment content place :: siblings =>
    obtain ⟨commented, -, others⟩ := writable
    exact scansAs_comment commented
      (scans_sources layout siblings others (fun compact => (unslashed compact).2) _ border)
  | .element tag attributes children place :: siblings =>
    obtain ⟨⟨named, valid, inside⟩, -, others⟩ := writable
    have closingBorder :
        Bordered (Source.closing layout tag ++ Node.sources layout siblings ++ rest) :=
      bordered_cons _
    apply scansAs_element named valid
    · intro compact
      exact head_sources_ne_slash inside (unslashed compact).1 closingBorder
    · intro compact
      exact head_sources_ne_slash others (unslashed compact).2 border
    · exact scans_sources layout children inside (fun compact => (unslashed compact).1) _
        closingBorder
    · exact scans_sources layout siblings others (fun compact => (unslashed compact).2) _ border

/-- Attributes that valid tokens stand for have names and values of the right form. -/
theorem valid_of_attributed {head : List Token} {pairs : List (Text × Text)}
    (attributed : Attributed head pairs) (valid : ∀ token ∈ head, token.Valid) :
    ∀ pair ∈ pairs, Source.IsAttributeName pair.1 ∧ Source.IsValue pair.2 := by
  induction attributed with
  | nil => simp
  | @cons name value rest pairs named valued others ih =>
    have nameValid := valid name List.mem_cons_self
    have valueValid := valid value (List.mem_cons_of_mem _ List.mem_cons_self)
    simp only [Token.Valid, named, valued] at nameValid valueValid
    intro pair member
    rcases List.mem_cons.mp member with rfl | later
    · exact ⟨nameValid, valueValid⟩
    · exact ih (fun token member =>
        valid token (List.mem_cons_of_mem _ (List.mem_cons_of_mem _ member))) pair later

/-- Derived nodes begin with the token that begins the first of them. -/
theorem head_of_derives {tokens : List Token} {node : Node} {others : List Node}
    (derives : Derives tokens (node :: others)) : tokens.head? = some node.opening := by
  cases derives with
  | text kind => simp [Node.opening, ← kind]
  | comment kind => simp [Node.opening, ← kind]
  | element kind => simp [Node.opening, ← kind]

/-- Nodes that valid tokens with the right neighbours stand for can be written.

    Induct on the derivation. The token behind a text begins the next sibling, if there is one. -/
theorem writables_of_derives {tokens : List Token} {nodes : List Node}
    (derives : Derives tokens nodes) (valid : ∀ token ∈ tokens, token.Valid)
    (chain : tokens.IsChain Token.MayPrecede) : Node.Writables nodes := by
  induction derives with
  | nil => trivial
  | @text token rest siblings kind others ih =>
    rw [List.isChain_cons] at chain
    have plain := valid token List.mem_cons_self
    simp only [Token.Valid, kind] at plain
    have validRest : ∀ token ∈ rest, token.Valid := (List.forall_mem_cons.mp valid).2
    refine ⟨plain, ?_, ih validRest chain.2⟩
    intro next first
    obtain ⟨more, rfl⟩ := List.head?_eq_some_iff.mp first
    obtain ⟨noText, border⟩ := chain.1 next.opening (head_of_derives others) kind
    cases next with
    | element => trivial
    | text => exact absurd rfl noText
    | comment => exact border rfl
  | @comment token rest siblings kind others ih =>
    rw [List.isChain_cons] at chain
    have commented := valid token List.mem_cons_self
    simp only [Token.Valid, kind] at commented
    have validRest : ∀ token ∈ rest, token.Valid := (List.forall_mem_cons.mp valid).2
    exact ⟨commented, fun next _ => trivial, ih validRest chain.2⟩
  | @element opening close head body rest pairs attributes children siblings kind attributed
      collected inside closes others childrenWritable siblingsWritable =>
    have named := valid opening (by simp)
    simp only [Token.Valid, kind] at named
    have bodyInside : body <:+: opening :: head ++ body ++ close :: rest :=
      ⟨opening :: head, close :: rest, rfl⟩
    have restInside : rest <:+: opening :: head ++ body ++ close :: rest :=
      ⟨opening :: head ++ body ++ [close], [], by simp⟩
    have bodyChain : body.IsChain Token.MayPrecede := List.IsChain.infix chain bodyInside
    have restChain : rest.IsChain Token.MayPrecede := List.IsChain.infix chain restInside
    have pairsValid := valid_of_attributed attributed fun token member =>
      valid token (by simp [member])
    refine ⟨⟨named, ?_, ?_⟩, fun next _ => trivial, ?_⟩
    · intro entry member
      exact pairsValid entry (collected.mem_pairs member)
    · apply childrenWritable _ bodyChain
      intro token member
      exact valid token (bodyInside.subset member)
    · apply siblingsWritable _ restChain
      intro token member
      exact valid token (restInside.subset member)

/-- Tokens that derive nodes do not end the input. -/
theorem meaningful_of_derives {tokens : List Token} {nodes : List Node}
    (derives : Derives tokens nodes) {stop : Token} (ends : stop.isEnd = true) :
    meaningful (tokens ++ [stop]) = tokens := by
  have inside : ∀ token ∈ tokens, token.isEnd = false := by
    induction derives with
    | nil => simp
    | text kind others ih => simpa [Token.isEnd, kind] using ih
    | comment kind others ih => simpa [Token.isEnd, kind] using ih
    | @element opening close head body rest pairs attributes children siblings kind attributed
        collected inside closes others childrenInside siblingsInside =>
      simp only [Token.closes, Bool.and_eq_true, beq_iff_eq] at closes
      have headInside : ∀ token ∈ head, token.isEnd = false := by
        intro token member
        rcases kind_of_attributed attributed token member with kind | kind <;>
          simp [Token.isEnd, kind]
      intro token member
      simp only [List.cons_append, List.mem_cons, List.mem_append, List.append_assoc] at member
      rcases member with rfl | member | member | rfl | member
      · simp [Token.isEnd, kind]
      · exact headInside token member
      · exact childrenInside token member
      · simp [Token.isEnd, closes.1]
      · exact siblingsInside token member
  rw [meaningful, List.takeWhile_append_of_pos (by simpa using inside)]
  simp [ends]

end FlashMarkup.Document
