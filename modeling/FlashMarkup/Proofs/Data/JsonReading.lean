import FlashMarkup.Proofs.Data.JsonWords

/-!
# Values from their words

The second of two steps in which JSON is read: the words are put together to a value, with a stack
of the lists and records that are open. A comma has to stand between neighbours, and only there.
The words of a value put the value in its place, whatever is open around it. So a value is read
from either of its layouts, and each layout tells values apart.
-/

namespace FlashMarkup

namespace Json

/-- A list or a record that is open, with what has been read of it, the last first. A record also
    has the name of the field whose value is expected. -/
inductive Opened where
  | list (before : List Data)
  | record (before : List (Text × Data)) (name : Text)

mutual

/-- The value that words spell where a value is expected inside what is open. -/
def expectValue? (opened : List Opened) : List Word → Option Data
  | .null :: rest => placeValue? opened .null rest
  | .boolean value :: rest => placeValue? opened (.boolean value) rest
  | .number value :: rest => placeValue? opened (.number value) rest
  | .text content :: rest => placeValue? opened (.text content) rest
  | .openList :: rest => expectValue? (.list [] :: opened) rest
  | .closeList :: rest =>
    match opened with
    | .list [] :: outer => placeValue? outer (.list []) rest
    | _ => none
  | .openRecord :: .closeRecord :: rest => placeValue? opened (.record []) rest
  | .openRecord :: rest => expectField? opened [] rest
  | _ => none

/-- The value that words spell where a field is expected behind those of a record. -/
def expectField? (opened : List Opened) (before : List (Text × Data)) :
    List Word → Option Data
  | .text name :: .colon :: rest => expectValue? (.record before name :: opened) rest
  | _ => none

/-- The value that words spell behind a value inside what is open. -/
def placeValue? (opened : List Opened) (value : Data) (words : List Word) : Option Data :=
  match opened, words with
  | [], [] => some value
  | .list before :: outer, .comma :: rest => expectValue? (.list (value :: before) :: outer) rest
  | .list before :: outer, .closeList :: rest =>
    placeValue? outer (.list (value :: before).reverse) rest
  | .record before name :: outer, .comma :: rest =>
    expectField? outer ((name, value) :: before) rest
  | .record before name :: outer, .closeRecord :: rest =>
    placeValue? outer (.record ((name, value) :: before).reverse) rest
  | _, _ => none

end

/-- The value that a text spells. -/
def read? (source : Text) : Option Data := (readWords? source).bind (expectValue? [])

end Json

namespace Data

open Json

mutual

/-- The words of a value put the value in its place, whatever is open. Recurse on the value; what
    has been read of a list or a record grows at its front. -/
theorem expectValue_words (opened : List Opened) (data : Data) (rest : List Word) :
    expectValue? opened (words data ++ rest) = placeValue? opened data rest := by
  match data with
  | .null => rfl
  | .boolean value => rfl
  | .number value => rfl
  | .text content => rfl
  | .list [] => rfl
  | .list (item :: others) =>
    exact expectValue_itemWords opened [] (List.cons_ne_nil item others) rest
  | .record [] => rfl
  | .record ((name, value) :: others) =>
    have fields := expectField_fieldWords opened [] (List.cons_ne_nil (name, value) others) rest
    cases others <;> exact fields

/-- The words of items add the items to the list that is open. -/
theorem expectValue_itemWords (opened : List Opened) (before : List Data) {items : List Data}
    (present : items ≠ []) (rest : List Word) :
    expectValue? (.list before :: opened) (itemWords items ++ rest) =
      placeValue? opened (.list (before.reverse ++ items)) rest := by
  match items with
  | [item] =>
    have placed := expectValue_words (.list before :: opened) item (.closeList :: rest)
    rw [itemWords, List.append_assoc, List.singleton_append, placed, placeValue?,
      List.reverse_cons]
  | item :: next :: others =>
    have placed := expectValue_words (.list before :: opened) item
      (.comma :: (itemWords (next :: others) ++ rest))
    have later := expectValue_itemWords opened (item :: before) (List.cons_ne_nil next others) rest
    rw [List.reverse_cons, List.append_assoc] at later
    have words : itemWords (item :: next :: others) =
        words item ++ .comma :: itemWords (next :: others) := rfl
    rw [words, List.append_assoc, List.cons_append, placed, placeValue?, later]
    rfl

/-- The words of fields add the fields to the record that is open. -/
theorem expectField_fieldWords (opened : List Opened) (before : List (Text × Data))
    {fields : List (Text × Data)} (present : fields ≠ []) (rest : List Word) :
    expectField? opened before (fieldWords fields ++ rest) =
      placeValue? opened (.record (before.reverse ++ fields)) rest := by
  match fields with
  | [(name, value)] =>
    have placed := expectValue_words (.record before name :: opened) value (.closeRecord :: rest)
    have words : fieldWords [(name, value)] ++ rest =
        .text name :: .colon :: (words value ++ .closeRecord :: rest) := by
      simp [fieldWords]
    rw [words, expectField?, placed, placeValue?, List.reverse_cons]
  | (name, value) :: next :: others =>
    have placed := expectValue_words (.record before name :: opened) value
      (.comma :: (fieldWords (next :: others) ++ rest))
    have later := expectField_fieldWords opened ((name, value) :: before)
      (List.cons_ne_nil next others) rest
    rw [List.reverse_cons, List.append_assoc] at later
    have words : fieldWords ((name, value) :: next :: others) ++ rest =
        .text name :: .colon ::
          (words value ++ .comma :: (fieldWords (next :: others) ++ rest)) := by
      simp [fieldWords]
    rw [words, expectField?, placed, placeValue?, later]
    rfl

end

/-- A text that begins with the words of a value, and holds nothing else, spells the value. -/
theorem read_of_begins {source : Text} {data : Data} (begins : Begins source (words data) []) :
    read? source = some data := by
  have nothing : readWords? [] = some [] := by
    rw [readWords?.eq_def]
    rfl
  have value := expectValue_words [] data []
  rw [Begins, nothing, Option.map_some, List.append_nil] at begins
  rw [List.append_nil] at value
  rw [read?, begins, Option.bind_some, value]
  rfl

/-- The compact layout of a value spells the value. -/
theorem read_toJson (data : Data) : read? data.toJson = some data :=
  read_of_begins (begins_compactBefore data (Text.endsRun_nil Char.isDigit))

/-- The indented layout of a value spells the value. -/
theorem read_toJsonPretty (data : Data) : read? data.toJsonPretty = some data :=
  read_of_begins (begins_indentedBefore 0 data (Text.endsRun_nil Char.isDigit))

end Data

end FlashMarkup
