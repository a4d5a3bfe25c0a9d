import FlashMarkup.Proofs.Compile.RoundTrip
import FlashMarkup.Proofs.Grammar.Conformance
import Mathlib.Data.List.Forall2
import Mathlib.Data.List.Induction

/-!
# Attributes as an ordered map

Attributes are a map that remembers in which order its names were first written. Each way of
looking at them can be told from the pairs that were written: the names are those of the pairs,
each once and in order of first appearance, and the value of a name is that of the last pair with
it. Writing a value gives back the one that stood there before, and where one stood before,
neither the order nor any other value changes.

The attributes of a parsed element are this map for the pairs in the head of its tag: the names
and values of attributes directly behind its opening tag. The elements of a document and the heads
of its opening tags come in the same order.
-/

namespace FlashMarkup

namespace Attributes

/-- The value under a name after writing is the one written, or under another name the one that was
    there before. -/
theorem find?_write (name value other : Text) (entries : List (Text × Text)) :
    ((write name value entries).find? (·.1 == other)).map Prod.snd =
      if name = other then some value
      else (entries.find? (·.1 == other)).map Prod.snd := by
  induction entries with
  | nil => by_cases same : name = other <;> simp [write, same]
  | cons first rest ih =>
    obtain ⟨held, old⟩ := first
    by_cases here : held = name
    · by_cases same : name = other <;> simp [write, here, same]
    · rw [write, if_neg here]
      by_cases sought : held = other
      · have apart : name ≠ other := fun same => here (sought.trans same.symm)
        simp [sought, apart]
      · simp [sought, ih]

/-- The value under a name after an insertion. -/
theorem get?_insert (attributes : Attributes) (name value other : Text) :
    (attributes.insert name value).get? other =
      if name = other then some value else attributes.get? other :=
  find?_write name value other attributes.entries

/-- An insertion under a name that is there keeps the names and their order. -/
theorem names_insert_of_contains {attributes : Attributes} {name : Text}
    (known : attributes.contains name = true) (value : Text) :
    (attributes.insert name value).names = attributes.names := by
  have member : name ∈ attributes.entries.map Prod.fst := (attributes.contains_iff name).mp known
  exact (names_write name value attributes.entries).trans (if_pos member)

/-- The value that a new one replaces is the one under its name. -/
theorem replaced?_entries (attributes : Attributes) (name : Text) :
    replaced? name attributes.entries = attributes.get? name := by
  unfold get?
  induction attributes.entries with
  | nil => rfl
  | cons first rest ih =>
    obtain ⟨other, old⟩ := first
    by_cases same : other = name <;> simp [replaced?, same, ih]

/-- One more pair is written behind the others. -/
theorem ofList_append_singleton (pairs : List (Text × Text)) (name value : Text) :
    ofList (pairs ++ [(name, value)]) = (ofList pairs).insert name value := by
  rw [ofList, List.foldl_append]
  rfl

/-- The value of the last of several pairs that has a name. -/
def lastWritten? (name : Text) (pairs : List (Text × Text)) : Option Text :=
  (pairs.filter (·.1 == name)).getLast?.map Prod.snd

/-- The last pair decides about its name and no other. -/
theorem lastWritten?_append_singleton (pairs : List (Text × Text)) (name value other : Text) :
    lastWritten? other (pairs ++ [(name, value)]) =
      if name = other then some value else lastWritten? other pairs := by
  by_cases same : name = other <;> simp [lastWritten?, List.filter_append, same]

/-- The value under a name is that of the last pair that has it. -/
theorem get?_ofList (pairs : List (Text × Text)) (name : Text) :
    (ofList pairs).get? name = lastWritten? name pairs := by
  induction pairs using List.reverseRecOn with
  | nil => rfl
  | append_singleton pairs pair ih =>
    rw [ofList_append_singleton, get?_insert, lastWritten?_append_singleton, ih]

/-- Whether attributes are the map that pairs make when they are written in order. -/
structure IsMapOf (attributes : Attributes) (pairs : List (Text × Text)) : Prop where
  /-- No name is listed twice. -/
  distinct : attributes.names.Nodup
  /-- The names are listed in the order in which they were first written. -/
  order : attributes.names = (pairs.map Prod.fst).eraseDups
  /-- A name has the value that was written last under it, and none if none was. -/
  value : ∀ name, attributes.get? name = lastWritten? name pairs
  /-- The names that have a value are those under which one was written. -/
  present : ∀ name, attributes.contains name = true ↔ name ∈ pairs.map Prod.fst
  /-- Every name counts once. -/
  size : attributes.size = (pairs.map Prod.fst).eraseDups.length

/-- Pairs that are collected make their map. -/
theorem isMapOf_ofList (pairs : List (Text × Text)) : (ofList pairs).IsMapOf pairs where
  distinct := (ofList pairs).distinct
  order := (collects_ofList pairs).names
  value := get?_ofList pairs
  present name := by
    rw [contains_iff, (collects_ofList pairs).names, List.mem_eraseDups]
  size := by
    rw [← (collects_ofList pairs).names, names, List.length_map]
    rfl

end Attributes

namespace Token

/-- The pairs of attribute names and values at the front of a token list. -/
def pairsAhead : List Token → List (Text × Text)
  | name :: value :: rest =>
    if name.kind = .attributeName ∧ value.kind = .attributeValue then
      (name.value, value.value) :: pairsAhead rest
    else []
  | _ => []

/-- The heads of the tags that a token list opens, in order: the opening tag and the pairs of
    attributes directly behind it. -/
def heads : List Token → List (Token × List (Text × Text))
  | [] => []
  | token :: rest =>
    if token.kind = .tagOpen then (token, pairsAhead rest) :: heads rest else heads rest

/-- A token that opens no tag has no head. -/
theorem heads_cons_of_ne {token : Token} (other : token.kind ≠ .tagOpen) (rest : List Token) :
    heads (token :: rest) = heads rest := if_neg other

end Token

/-- Whether an element comes from the head of a tag: it has its tag and its position, and its
    attributes are the map of its pairs. -/
structure Occurrence.HasHead (element : Occurrence) (head : Token × List (Text × Text)) :
    Prop where
  tag : element.tag = head.1.value
  position : element.position = head.1.position
  attributes : element.attributes.IsMapOf head.2

namespace Document

/-- The pairs of derived attributes stand ahead if no further attribute follows. -/
theorem pairsAhead_of_attributed {head left : List Token} {pairs : List (Text × Text)}
    (attributed : Attributed head pairs) (ends : StartsNoAttribute left) :
    Token.pairsAhead (head ++ left) = pairs := by
  induction attributed with
  | nil =>
    match left with
    | [] => rfl
    | [_] => rfl
    | first :: second :: rest =>
      have other : first.kind ≠ .attributeName := ends first rfl
      simp [Token.pairsAhead, other]
  | cons named valued others ih => simp [Token.pairsAhead, named, valued, ih]

/-- Attributes open no tag. -/
theorem heads_of_attributed {head : List Token} {pairs : List (Text × Text)}
    (attributed : Attributed head pairs) (left : List Token) :
    Token.heads (head ++ left) = Token.heads left := by
  induction attributed with
  | nil => rfl
  | cons named valued others ih => simp [Token.heads, named, valued, ih]

/-- The elements of derived nodes come, in order, from the heads of the tags that their tokens
    open.

    Induct on the derivation, in front of any tokens that begin with no attribute. What ends the
    head of an element is the first token of its children, or its closing tag. -/
theorem heads_of_derives {tokens : List Token} {nodes : List Node}
    (derives : Derives tokens nodes) (ancestors : List Text) {left : List Token}
    (ends : StartsNoAttribute left) :
    ∃ heads, Token.heads (tokens ++ left) = heads ++ Token.heads left ∧
      List.Forall₂ Occurrence.HasHead (Node.occurrencesOf ancestors nodes) heads := by
  induction derives generalizing ancestors left with
  | nil => exact ⟨[], rfl, .nil⟩
  | text kind others ih =>
    obtain ⟨heads, split, alike⟩ := ih ancestors ends
    refine ⟨heads, ?_, alike⟩
    rw [List.cons_append, Token.heads_cons_of_ne (by simp [kind]), split]
  | comment kind others ih =>
    obtain ⟨heads, split, alike⟩ := ih ancestors ends
    refine ⟨heads, ?_, alike⟩
    rw [List.cons_append, Token.heads_cons_of_ne (by simp [kind]), split]
  | @element opening close head body rest pairs attributes children siblings kind attributed
      collected inside closes others childrenHeads siblingsHeads =>
    have closing : close.kind = .tagClose := by
      simp only [Token.closes, Bool.and_eq_true, beq_iff_eq] at closes
      exact closes.1
    have closeEnds : StartsNoAttribute (close :: (rest ++ left)) := by
      intro token first
      obtain rfl := Option.some.inj first
      simp [closing]
    obtain ⟨inner, innerSplit, innerAlike⟩ := childrenHeads (opening.value :: ancestors) closeEnds
    obtain ⟨later, laterSplit, laterAlike⟩ := siblingsHeads ancestors ends
    have ahead := pairsAhead_of_attributed attributed
      (startsNoAttribute_of_derives inside closes (rest ++ left))
    have whole : opening :: head ++ body ++ close :: rest ++ left =
        opening :: (head ++ (body ++ close :: (rest ++ left))) := by simp
    refine ⟨(opening, pairs) :: (inner ++ later), ?_, .cons ⟨rfl, rfl, ?_⟩ ?_⟩
    · rw [whole, Token.heads, if_pos kind, ahead, heads_of_attributed attributed, innerSplit,
        Token.heads_cons_of_ne (by simp [closing]), laterSplit]
      simp
    · rw [Attributes.eq_of_collects collected (Attributes.collects_ofList pairs)]
      exact Attributes.isMapOf_ofList pairs
    · exact List.rel_append innerAlike laterAlike

/-- The elements of a parsed document come, in order, from the heads of the tags that its source
    opens. -/
theorem heads_of_parse {source : Text} {document : Document} (parsed : parse source = .ok document) :
    ∃ tokens, Token.scan source = .ok tokens ∧
      List.Forall₂ Occurrence.HasHead document.occurrences (Token.heads (meaningful tokens)) := by
  obtain ⟨tokens, scanned, read⟩ := parse_eq_ok_iff.mp parsed
  have derives := ((ofTokens_iff_derived tokens document).mp read).1
  have ends : StartsNoAttribute [] := by simp [StartsNoAttribute]
  obtain ⟨heads, split, alike⟩ := heads_of_derives derives [] ends
  rw [List.append_nil, Token.heads, List.append_nil] at split
  exact ⟨tokens, scanned, split ▸ alike⟩

end Document

namespace Attributes

/-- Attributes are an insertion-ordered map. Those made of pairs are the map of the pairs. Inserting
    one more pair gives back the value under its name and makes the map of all of them, and where
    there was a value under the name, the names, their order and all other values stay. The elements
    of a parsed document have the maps of the pairs in the heads of their tags. -/
theorem insertion_ordered :
    (∀ pairs, (ofList pairs).IsMapOf pairs) ∧
      (∀ pairs name value, (ofList pairs).exchange name value =
        ((ofList pairs).get? name, ofList (pairs ++ [(name, value)]))) ∧
      (∀ (attributes : Attributes) (name value : Text), attributes.contains name = true →
        (attributes.exchange name value).2.names = attributes.names ∧
          ∀ other, other ≠ name →
            (attributes.exchange name value).2.get? other = attributes.get? other) ∧
      ∀ source document, parse source = .ok document →
        ∃ tokens, Token.scan source = .ok tokens ∧
          List.Forall₂ Occurrence.HasHead document.occurrences
            (Token.heads (Document.meaningful tokens)) := by
  refine ⟨isMapOf_ofList, ?_, ?_, ?_⟩
  · intro pairs name value
    rw [exchange, replaced?_entries, ofList_append_singleton]
  · intro attributes name value known
    refine ⟨names_insert_of_contains known value, ?_⟩
    intro other apart
    exact (attributes.get?_insert name value other).trans (if_neg apart.symm)
  · intro source document parsed
    exact Document.heads_of_parse parsed

/-- A character whose name is given twice, inside an episode. -/
def recastSource : Text :=
  "@episodio@@personaje nombre='Barry' actor='Grant' nombre='Wally'@@/personaje@@/episodio@"

/-- The tree of the source: the second name stands in the place of the first. -/
def recastDocument : Document :=
  ⟨[.element "episodio" .empty
    [.element "personaje" ⟨[("nombre", "Wally"), ("actor", "Grant")], by decide⟩ [] ⟨1, 11⟩] ⟨1, 1⟩]⟩

/-- The second name replaces the first and leaves the actor where and what he is, and so it does
    when the source is parsed. -/
theorem insertion_ordered_recast :
    let cast := ofList [("nombre", "Barry"), ("actor", "Grant")]
    cast.contains "nombre" = true ∧ (cast.exchange "nombre" "Wally").2.names = cast.names ∧
      (cast.exchange "nombre" "Wally").2.get? "actor" = cast.get? "actor" ∧
      parse recastSource = .ok recastDocument ∧
      ∃ tokens, Token.scan recastSource = .ok tokens ∧
        List.Forall₂ Occurrence.HasHead recastDocument.occurrences
          (Token.heads (Document.meaningful tokens)) := by
  intro cast
  have known : cast.contains "nombre" = true := by decide
  have parsed : parse recastSource = .ok recastDocument := by decide +kernel
  obtain ⟨-, -, keeps, parses⟩ := insertion_ordered
  obtain ⟨names, others⟩ := keeps cast "nombre" "Wally" known
  exact ⟨known, names, others "actor" (by decide), parsed, parses _ _ parsed⟩

end Attributes

end FlashMarkup
