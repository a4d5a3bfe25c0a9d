import FlashMarkup.Proofs.Html.Reference
import Mathlib.Data.List.Basic

/-!
# Escaping is a code

A table says which characters are written as references, and under which names. Whatever writes a
text character by character after such a table is a code: its outputs are read back in one pass, the
characters of the table are gone from them, and no ampersand is left but at the start of a reference.
The replacements of a text and of a value run one after the other over the whole output, and yet come
to this, because the ampersand is replaced first.
-/

namespace FlashMarkup.Html

/-- The characters that a text refers to, with the names of their references. -/
def textEntities : List (Char × Text) := [('&', "amp"), ('<', "lt"), ('>', "gt")]

/-- The characters that a value refers to, with the names of their references. -/
def attributeEntities : List (Char × Text) := ('"', "quot") :: textEntities

/-- The reference with a name. -/
def reference (name : Text) : Text := '&' :: (name ++ [';'])

/-- A character as it is written: as its reference if it has one, and as itself otherwise. -/
def substitute (entities : List (Char × Text)) (c : Char) : Text :=
  match entities.lookup c with
  | some name => reference name
  | none => [c]

/-- The laws of writing texts with the references of a table. -/
structure IsCode (entities : List (Char × Text)) (escape : Text → Text) : Prop where
  /-- Each character is substituted on its own. -/
  substitutes : ∀ content, escape content = content.flatMap (substitute entities)
  /-- One pass from the left gives the text back. -/
  resolves : ∀ content, unescape (escape content) = content
  injective : Function.Injective escape
  /-- The characters of the table do not occur, the ampersand apart. -/
  clean : ∀ content, ∀ entity ∈ entities, entity.1 ≠ '&' → entity.1 ∉ escape content
  /-- Every ampersand is the first character of a reference of the table. -/
  starts : ∀ content front back, escape content = front ++ '&' :: back →
    ∃ entity ∈ entities, reference entity.2 <+: '&' :: back
  append : ∀ first second, escape (first ++ second) = escape first ++ escape second
  /-- The ampersand of a reference that is already there is written as a reference itself. -/
  again : ∀ front back, ∀ entity ∈ entities,
    escape (front ++ reference entity.2 ++ back) =
      escape front ++ (reference "amp" ++ entity.2 ++ [';']) ++ escape back

/-- What a table of references has to satisfy for reading to be the inverse of writing. -/
structure Resolvable (entities : List (Char × Text)) : Prop where
  ampersand : entities.lookup '&' = some "amp".toList
  /-- No character behind the ampersand of a reference has a reference itself. -/
  plain : ∀ entity ∈ entities, ∀ other ∈ entities, other.1 ∉ entity.2 ++ [';']
  /-- References are resolved to the characters they stand for. -/
  read : ∀ entity ∈ entities, ∀ rest,
    unescape (reference entity.2 ++ rest) = entity.1 :: unescape rest

/-- The references of texts are those that reading resolves. -/
theorem resolvable_textEntities : Resolvable textEntities where
  ampersand := rfl
  plain := by decide
  read := by
    intro entity member rest
    simp only [textEntities, List.mem_cons, List.not_mem_nil, or_false] at member
    rcases member with rfl | rfl | rfl <;> rfl

/-- The references of values are those that reading resolves. -/
theorem resolvable_attributeEntities : Resolvable attributeEntities where
  ampersand := rfl
  plain := by decide
  read := by
    intro entity member rest
    rcases List.mem_cons.mp member with rfl | text
    · rfl
    · exact resolvable_textEntities.read entity text rest

/-- A character of a text is substituted after the table of texts. -/
theorem textReference_eq_substitute (c : Char) : textReference c = substitute textEntities c := by
  simp only [textReference, substitute, textEntities, List.lookup_cons, List.lookup_nil]
  by_cases ampersand : c = '&'
  · simp [ampersand, reference]
  by_cases less : c = '<'
  · simp [less, reference]
  by_cases greater : c = '>'
  · simp [greater, reference]
  simp [beq_false_of_ne, ampersand, less, greater]

/-- A character of a value is substituted after the table of values. -/
theorem attributeReference_eq_substitute (c : Char) :
    attributeReference c = substitute attributeEntities c := by
  rw [attributeReference, textReference_eq_substitute]
  by_cases quote : c = '"'
  · subst quote
    rfl
  · simp only [quote, if_false, substitute, attributeEntities, List.lookup_cons,
      beq_false_of_ne quote]

namespace Resolvable

variable {entities : List (Char × Text)}

/-- A character with a reference is in the table under the name of the reference. -/
theorem mem_of_lookup {c : Char} {name : Text} (found : entities.lookup c = some name) :
    (c, name) ∈ entities := by
  obtain ⟨before, after, rfl, -⟩ := List.lookup_eq_some_iff.mp found
  exact List.mem_append_right before List.mem_cons_self

/-- The ampersand of a reference is its only character that has one. -/
theorem lookup_of_mem_tail (resolvable : Resolvable entities) {entity : Char × Text}
    (member : entity ∈ entities) {c : Char} (inside : c ∈ entity.2 ++ [';']) :
    entities.lookup c = none := by
  refine List.lookup_eq_none_iff.mpr fun other listed => ?_
  rw [bne_iff_ne]
  rintro rfl
  exact resolvable.plain entity member other listed inside

/-- A substituted character is read as itself. -/
theorem unescape_substitute (resolvable : Resolvable entities) (c : Char) (rest : Text) :
    unescape (substitute entities c ++ rest) = c :: unescape rest := by
  unfold substitute
  split
  next name found => exact resolvable.read (c, name) (mem_of_lookup found) rest
  next absent =>
    have plain : c ≠ '&' := by
      rintro rfl
      rw [resolvable.ampersand] at absent
      contradiction
    exact unescape_cons plain rest

/-- A character of the table other than the ampersand is in no substituted character. -/
theorem not_mem_substitute (resolvable : Resolvable entities) {entity : Char × Text}
    (member : entity ∈ entities) (other : entity.1 ≠ '&') (c : Char) :
    entity.1 ∉ substitute entities c := by
  unfold substitute
  split
  next name found =>
    intro inside
    rcases List.mem_cons.mp inside with ampersand | behind
    · exact other ampersand
    · exact resolvable.plain (c, name) (mem_of_lookup found) entity member behind
  next absent =>
    intro inside
    rw [← List.mem_singleton.mp inside] at absent
    simpa using List.lookup_eq_none_iff.mp absent entity member

/-- An ampersand among substituted characters is the first character of a reference.

    Induct on the characters. What stands in front of the ampersand is nothing, or it reaches beyond
    the first substituted character, since no ampersand is left inside that. -/
theorem starts_of_ampersand (resolvable : Resolvable entities) {content front back : Text}
    (split : content.flatMap (substitute entities) = front ++ '&' :: back) :
    ∃ entity ∈ entities, reference entity.2 <+: '&' :: back := by
  induction content generalizing front with
  | nil => simp at split
  | cons c rest ih =>
    rw [List.flatMap_cons] at split
    cases found : entities.lookup c with
    | none =>
      have written : substitute entities c = [c] := by simp [substitute, found]
      rw [written, List.singleton_append] at split
      cases front with
      | nil =>
        rw [List.nil_append] at split
        rw [(List.cons.inj split).1, resolvable.ampersand] at found
        contradiction
      | cons d others => exact ih (List.cons.inj split).2
    | some name =>
      have member := mem_of_lookup found
      have written : substitute entities c = '&' :: (name ++ [';']) := by
        simp [substitute, found, reference]
      rw [written, List.cons_append] at split
      cases front with
      | nil =>
        refine ⟨(c, name), member, rest.flatMap (substitute entities), ?_⟩
        exact split
      | cons d others =>
        rcases List.append_eq_append_iff.mp (List.cons.inj split).2 with
          ⟨beyond, -, later⟩ | ⟨between, inside, later⟩
        · exact ih later
        · cases between with
          | nil => exact ih (show _ = [] ++ '&' :: back from later.symm)
          | cons e more =>
            rw [← (List.cons.inj later).1] at inside
            have listed := mem_of_lookup resolvable.ampersand
            exact absurd (inside ▸ List.mem_append_right others List.mem_cons_self)
              (resolvable.plain (c, name) member _ listed)

/-- A reference is written as that of the ampersand and the characters behind its own. -/
theorem flatMap_reference (resolvable : Resolvable entities) {entity : Char × Text}
    (member : entity ∈ entities) :
    (reference entity.2).flatMap (substitute entities) = reference "amp" ++ entity.2 ++ [';'] := by
  have plain : (entity.2 ++ [';']).flatMap (substitute entities) = entity.2 ++ [';'] := by
    have single : ∀ c ∈ entity.2 ++ [';'], substitute entities c = [c] := by
      intro c inside
      simp [substitute, resolvable.lookup_of_mem_tail member inside]
    rw [List.flatMap_congr single, List.flatMap_singleton']
  have ampersand : substitute entities '&' = reference "amp" := by
    simp [substitute, resolvable.ampersand]
  rw [reference, List.flatMap_cons, plain, ampersand, List.append_assoc]

/-- Writing after a table whose references are resolved is a code. -/
theorem isCode (resolvable : Resolvable entities) {escape : Text → Text}
    (substitutes : ∀ content, escape content = content.flatMap (substitute entities)) :
    IsCode entities escape := by
  have resolves (content : Text) : unescape (escape content) = content := by
    have read := unescape_flatMap resolvable.unescape_substitute content []
    rwa [List.append_nil, ← substitutes, show unescape [] = [] from rfl, List.append_nil] at read
  have append (first second : Text) : escape (first ++ second) = escape first ++ escape second := by
    simp only [substitutes, List.flatMap_append]
  exact {
    substitutes
    resolves
    injective := Function.LeftInverse.injective resolves
    clean := by
      intro content entity member other inside
      rw [substitutes] at inside
      obtain ⟨c, -, inside⟩ := List.mem_flatMap.mp inside
      exact resolvable.not_mem_substitute member other c inside
    starts := by
      intro content front back split
      rw [substitutes] at split
      exact resolvable.starts_of_ampersand split
    append
    again := by
      intro front back entity member
      rw [append, append, substitutes (reference entity.2), resolvable.flatMap_reference member] }

end Resolvable

/-- Escaping is a code, in texts and in values. -/
theorem escaping_is_code :
    IsCode textEntities escapeText ∧ IsCode attributeEntities escapeAttribute := by
  constructor
  · refine resolvable_textEntities.isCode fun content => ?_
    rw [escapeText_eq_flatMap, funext textReference_eq_substitute]
  · refine resolvable_attributeEntities.isCode fun value => ?_
    rw [escapeAttribute_eq_flatMap, funext attributeReference_eq_substitute]

/-- Fragments of references are escaped like anything else. -/
example : escapeAttribute "&am<p;&quot" = "&amp;am&lt;p;&amp;quot" := by decide

end FlashMarkup.Html
