import FlashMarkup.Proofs.Html.Rendering
import FlashMarkup.Proofs.Text.Lines

/-!
# Indentation

The HTML of nodes is made of chunks. A chunk is what is written between two indentations: a line, or
several lines where a text inside an element has line breaks. Which chunks there are and how deep
each of them stands depends on the nodes alone. The width of a level and the level of the first nodes
only say how many spaces are written in front of each chunk.

All spaces of the indentation are at the beginning of a line, because every chunk ends its line. So
no rendering differs from another one of the same nodes but in spaces at the beginnings of lines.
-/

namespace FlashMarkup.Html

/-- A text that is written behind the indentation of a depth. -/
structure Chunk where
  depth : Nat
  text : Text

namespace Chunk

/-- A chunk behind its indentation, with the width of a level and the level of depth zero. -/
def written (indent level : Nat) (chunk : Chunk) : Text :=
  Text.spaces (indent * (level + chunk.depth)) ++ chunk.text

/-- Whether a chunk ends its line. -/
def EndsLine (chunk : Chunk) : Prop := ['\n'] <:+ chunk.text

end Chunk

/-- What stands between the tags of an element that is written on one line. -/
def inline? : List Node → Option Text
  | [] => some []
  | [.text content _] => some (escapeText content)
  | _ => none

/-- The chunks of an element, with those of its children where these stand on lines of their own. -/
def elementChunks (depth : Nat) (tag : Text) (attributes : Attributes) (children : List Node)
    (inside : List Chunk) : List Chunk :=
  if tag = imageTag then [⟨depth, opening tag attributes ++ " />\n"⟩]
  else
    match inline? children with
    | some content => [⟨depth, opening tag attributes ++ ">" ++ content ++ closing tag⟩]
    | none => ⟨depth, opening tag attributes ++ ">\n"⟩ :: inside ++ [⟨depth, closing tag⟩]

mutual

/-- The chunks of a node at a depth. -/
def chunk (depth : Nat) : Node → List Chunk
  | .element tag attributes children _ =>
    elementChunks depth tag attributes children (chunks (depth + 1) children)
  | .text content _ =>
    if content.trim.isEmpty then [] else [⟨depth, escapeText content.trim ++ "\n"⟩]
  | .comment content _ => [⟨depth, commentLine [] content⟩]

/-- The chunks of several nodes at a depth, one after the other. -/
def chunks (depth : Nat) : List Node → List Chunk
  | [] => []
  | node :: rest => chunk depth node ++ chunks depth rest

end

/-- An element has its content on its line, or the lines of its children behind it. -/
theorem contentBefore_eq_inline (indent level : Nat) (tag rest : Text) (children : List Node) :
    contentBefore indent level tag rest children =
      match inline? children with
      | some content => content ++ (closing tag ++ rest)
      | none =>
        '\n' :: nodesBefore indent (level + 1)
          (Text.spaces (indent * level) ++ (closing tag ++ rest)) children := by
  rcases children with _ | ⟨_ | _ | _, _ | _⟩ <;> rfl

/-- An element is written chunk by chunk, if its children are. -/
theorem nodesBefore_elementChunks (indent level depth : Nat) (after tag : Text)
    (attributes : Attributes) {children : List Node} (position : Position) (siblings : List Node)
    (inside : ∀ behind, nodesBefore indent (level + (depth + 1)) behind children =
      (chunks (depth + 1) children).flatMap (Chunk.written indent level) ++ behind) :
    nodesBefore indent (level + depth) after
        (.element tag attributes children position :: siblings) =
      (elementChunks depth tag attributes children (chunks (depth + 1) children)).flatMap
        (Chunk.written indent level) ++ nodesBefore indent (level + depth) after siblings := by
  rw [nodesBefore_element, elementChunks, contentBefore_eq_inline, Nat.add_assoc level depth,
    inside]
  split
  next => simp [Chunk.written]
  next => cases inline? children <;> simp [Chunk.written]

/-- Nodes are written chunk by chunk. The level stays the same on the way down, and the depth of the
    chunks grows in its place. -/
theorem nodesBefore_eq_chunks (indent level depth : Nat) (after : Text) (nodes : List Node) :
    nodesBefore indent (level + depth) after nodes =
      (chunks depth nodes).flatMap (Chunk.written indent level) ++ after := by
  induction nodes using Node.forest_induction generalizing depth after with
  | nil => rfl
  | element tag attributes children position rest inside later =>
    have block := nodesBefore_elementChunks indent level depth after tag attributes position rest
      (inside (depth + 1))
    rw [block, later, chunks, chunk, List.flatMap_append, List.append_assoc]
  | text content position rest later =>
    rw [nodesBefore, nodeBefore, later, chunks, chunk, textLine]
    cases content.trim.isEmpty <;> simp [Chunk.written]
  | comment content position rest later =>
    rw [nodesBefore_comment, later, chunks, chunk]
    simp [Chunk.written]

/-- The end tag ends its line. -/
theorem endsLine_closing (tag : Text) : ['\n'] <:+ closing tag :=
  ⟨"</" ++ elementName tag ++ ">", by simp [closing]⟩

/-- The chunks of an element end their lines, if those of its children do. -/
theorem endsLine_elementChunks (depth : Nat) (tag : Text) (attributes : Attributes)
    (children : List Node) {inside : List Chunk} (ends : ∀ chunk ∈ inside, chunk.EndsLine) :
    ∀ chunk ∈ elementChunks depth tag attributes children inside, chunk.EndsLine := by
  have closes := endsLine_closing tag
  rw [elementChunks]
  split
  next =>
    rw [List.forall_mem_singleton]
    exact List.suffix_append_of_suffix ⟨" />", rfl⟩
  next =>
    cases inline? children with
    | some content =>
      rw [List.forall_mem_singleton]
      exact List.suffix_append_of_suffix closes
    | none =>
      rw [List.forall_mem_append, List.forall_mem_cons, List.forall_mem_singleton]
      exact ⟨⟨List.suffix_append_of_suffix ⟨">", rfl⟩, ends⟩, closes⟩

/-- Every chunk ends its line. -/
theorem endsLine_chunks (depth : Nat) (nodes : List Node) :
    ∀ chunk ∈ chunks depth nodes, chunk.EndsLine := by
  induction nodes using Node.forest_induction generalizing depth with
  | nil =>
    intro chunk member
    contradiction
  | element tag attributes children position rest inside later =>
    have block := endsLine_elementChunks depth tag attributes children (inside (depth + 1))
    exact List.forall_mem_append.mpr ⟨block, later depth⟩
  | text content position rest later =>
    refine List.forall_mem_append.mpr ⟨?_, later depth⟩
    rw [chunk]
    split
    next =>
      intro chunk member
      contradiction
    next =>
      rw [List.forall_mem_singleton]
      exact List.suffix_append _ _
  | comment content position rest later =>
    refine List.forall_mem_append.mpr ⟨?_, later depth⟩
    rw [chunk, List.forall_mem_singleton]
    exact List.suffix_append_of_suffix ⟨" -->", rfl⟩

/-- Without the spaces at the beginnings of lines, chunks that end their lines are their texts one
    behind the other. -/
theorem unindented_flatMap_written (indent level : Nat) {chunks : List Chunk}
    (ends : ∀ chunk ∈ chunks, chunk.EndsLine) :
    Text.unindented (chunks.flatMap (Chunk.written indent level)) =
      Text.unindented (chunks.flatMap Chunk.text) := by
  induction chunks with
  | nil => rfl
  | cons chunk rest ih =>
    obtain ⟨⟨front, text⟩, others⟩ := List.forall_mem_cons.mp ends
    have same := ih others
    rw [List.flatMap_cons, List.flatMap_cons, Chunk.written, List.append_assoc,
      Text.unindented_spaces, ← text, List.append_assoc, List.append_assoc, List.singleton_append,
      List.singleton_append, Text.unindented_append, Text.unindented_append, same]

/-- The chunks of two lists of nodes are those of the first one in front of those of the second. -/
theorem chunks_append (depth : Nat) (nodes others : List Node) :
    chunks depth (nodes ++ others) = chunks depth nodes ++ chunks depth others := by
  induction nodes with
  | nil => rfl
  | cons node rest ih => rw [List.cons_append, chunks, chunks, ih, List.append_assoc]

/-- Rendered nodes are their chunks, each behind its indentation. -/
theorem renderNodes_eq_chunks (indent level : Nat) (nodes : List Node) :
    renderNodes indent level nodes = (chunks 0 nodes).flatMap (Chunk.written indent level) := by
  have written := nodesBefore_eq_chunks indent level 0 [] nodes
  rwa [Nat.add_zero, List.append_nil] at written

/-- Indentation does not touch content. There are chunks that end their lines and are the same at
    every width and level, and every rendering is these chunks, each behind as many spaces as its
    depth takes. So two renderings of the same nodes are equal without the spaces at the beginnings
    of their lines, and nodes in front of others are rendered in front of them. -/
theorem indentation_keeps_content (nodes : List Node) :
    (∃ chunks : List Chunk, (∀ chunk ∈ chunks, ['\n'] <:+ chunk.text) ∧
      ∀ indent level, renderNodes indent level nodes =
        chunks.flatMap fun chunk => Text.spaces (indent * (level + chunk.depth)) ++ chunk.text) ∧
      (∀ indent level otherIndent otherLevel,
        Text.unindented (renderNodes indent level nodes) =
          Text.unindented (renderNodes otherIndent otherLevel nodes)) ∧
      ∀ indent level others, renderNodes indent level (nodes ++ others) =
        renderNodes indent level nodes ++ renderNodes indent level others := by
  refine ⟨⟨chunks 0 nodes, endsLine_chunks 0 nodes, ?_⟩, ?_, ?_⟩
  · intro indent level
    exact renderNodes_eq_chunks indent level nodes
  · intro indent level otherIndent otherLevel
    have ends := endsLine_chunks 0 nodes
    rw [renderNodes_eq_chunks, renderNodes_eq_chunks, unindented_flatMap_written indent level ends,
      unindented_flatMap_written otherIndent otherLevel ends]
  · intro indent level others
    rw [renderNodes_eq_chunks, renderNodes_eq_chunks, renderNodes_eq_chunks, chunks_append,
      List.flatMap_append]

end FlashMarkup.Html
