import FlashMarkup.Data.Json
import FlashMarkup.Number.Decimal
import FlashMarkup.Proofs.Text.Run

/-!
# Words of JSON

The first of two steps in which JSON is read: a text is cut into brackets, commas, colons, strings
with their escapes resolved, and words without quotes. Only what stands between words differs
between the two layouts of a value, so both have the words of the value.

Strings are read with all escapes of the notation, also those that are never written, and so is
white space. Of numbers only the natural ones are read, as data has no others.
-/

namespace FlashMarkup

namespace Json

open Text (EndsRun)

/-- A word of JSON. A string is given as the text it stands for. -/
inductive Word where
  | openList
  | closeList
  | openRecord
  | closeRecord
  | comma
  | colon
  | null
  | boolean (value : Bool)
  | number (value : Nat)
  | text (content : Text)
deriving DecidableEq, Repr

/-- Whether a character may stand between words. -/
def isSpace (c : Char) : Bool := c == ' ' || c == '\n' || c == '\r' || c == '\t'

/-- Four hexadecimal digits: one unit of a character. -/
def readUnit? : Text → Option (Nat × Text)
  | a :: b :: c :: d :: rest => (Text.digits? 16 [a, b, c, d]).map fun unit => (unit, rest)
  | _ => none

/-- The second unit of a character that needs two, with the mark in front of it. -/
def readLowUnit? : Text → Option (Nat × Text)
  | '\\' :: 'u' :: rest =>
    match readUnit? rest with
    | some (unit, behind) =>
      if 0xDC00 ≤ unit ∧ unit < 0xE000 then some (unit - 0xDC00, behind) else none
    | none => none
  | _ => none

/-- A character behind the mark of its first unit. -/
def readUnits? (source : Text) : Option (Char × Text) :=
  match readUnit? source with
  | some (unit, rest) =>
    if 0xD800 ≤ unit ∧ unit < 0xDC00 then
      (readLowUnit? rest).map fun (low, behind) =>
        (Char.ofNat (0x10000 + (unit - 0xD800) * 0x400 + low), behind)
    else if 0xDC00 ≤ unit ∧ unit < 0xE000 then none
    else some (Char.ofNat unit, rest)
  | none => none

/-- The letters that stand for one character behind a backslash. -/
def escapes : List (Char × Char) :=
  [('"', '"'), ('\\', '\\'), ('/', '/'), ('b', '\x08'), ('f', '\x0c'), ('n', '\n'), ('r', '\r'),
    ('t', '\t')]

/-- A character behind a backslash. -/
def readEscape? : Text → Option (Char × Text)
  | 'u' :: rest => readUnits? rest
  | letter :: rest => (escapes.lookup letter).map fun c => (c, rest)
  | [] => none

/-- A character of a string. -/
def readChar? : Text → Option (Char × Text)
  | '\\' :: rest => readEscape? rest
  | c :: rest => if c = '"' ∨ c.toNat < 0x20 then none else some (c, rest)
  | [] => none

/-- A unit leaves less than there was. -/
theorem length_of_readUnit {source left : Text} {unit : Nat}
    (read : readUnit? source = some (unit, left)) : left.length < source.length := by
  unfold readUnit? at read
  split at read
  next =>
    obtain ⟨_, -, made⟩ := Option.map_eq_some_iff.mp read
    cases made
    simp only [List.length_cons]
    omega
  next => contradiction

/-- A second unit leaves less than there was. -/
theorem length_of_readLowUnit {source left : Text} {unit : Nat}
    (read : readLowUnit? source = some (unit, left)) : left.length < source.length := by
  unfold readLowUnit? at read
  split at read
  next =>
    split at read
    next low behind inner =>
      have shorter := length_of_readUnit inner
      split at read
      next =>
        obtain ⟨-, rfl⟩ := Prod.mk.inj (Option.some.inj read)
        simp only [List.length_cons]
        omega
      next => contradiction
    next => contradiction
  next => contradiction

/-- The units of a character leave less than there was. -/
theorem length_of_readUnits {source left : Text} {c : Char}
    (read : readUnits? source = some (c, left)) : left.length < source.length := by
  unfold readUnits? at read
  split at read
  next unit rest first =>
    have shorter := length_of_readUnit first
    split at read
    next =>
      obtain ⟨_, second, made⟩ := Option.map_eq_some_iff.mp read
      obtain ⟨-, rfl⟩ := Prod.mk.inj made
      exact Nat.lt_trans (length_of_readLowUnit second) shorter
    next =>
      split at read
      next => contradiction
      next =>
        cases read
        exact shorter
  next => contradiction

/-- A character of a string leaves less than there was. -/
theorem length_of_readChar {source left : Text} {c : Char}
    (read : readChar? source = some (c, left)) : left.length < source.length := by
  unfold readChar? at read
  split at read
  next rest =>
    unfold readEscape? at read
    split at read
    next units =>
      have shorter := length_of_readUnits read
      simp only [List.length_cons]
      omega
    next =>
      obtain ⟨_, -, made⟩ := Option.map_eq_some_iff.mp read
      cases made
      simp only [List.length_cons]
      omega
    next => contradiction
  next =>
    split at read
    next => contradiction
    next =>
      cases read
      exact Nat.lt_succ_self _
  next => contradiction

/-- The characters of a string behind its opening quote, and what stands behind the closing one. -/
def readString? (source : Text) : Option (Text × Text) :=
  match _read : readChar? source with
  | some (c, rest) => (readString? rest).map fun (content, behind) => (c :: content, behind)
  | none =>
    match source with
    | '"' :: rest => some ([], rest)
    | _ => none
termination_by source.length
decreasing_by exact length_of_readChar _read

/-- A string leaves less than there was. -/
theorem length_of_readString {source content left : Text}
    (read : readString? source = some (content, left)) : left.length < source.length := by
  fun_induction readString? source generalizing content with
  | case1 source c rest first ih =>
    obtain ⟨⟨others, behind⟩, inner, made⟩ := Option.map_eq_some_iff.mp read
    cases made
    exact Nat.lt_trans (ih inner) (length_of_readChar first)
  | case2 rest none =>
    cases read
    exact Nat.lt_succ_self _
  | case3 => contradiction

/-- A number at the front: all digits, if that is how the number is written. -/
def readNumber? (source : Text) : Option (Word × Text) :=
  let digits := source.takeWhile Char.isDigit
  let value := Nat.ofDigitChars 10 digits 0
  if Text.decimal value = digits then some (.number value, source.dropWhile Char.isDigit) else none

/-- The word at the front, and what stands behind it. -/
def readWord? : Text → Option (Word × Text)
  | '[' :: rest => some (.openList, rest)
  | ']' :: rest => some (.closeList, rest)
  | '\x7b' :: rest => some (.openRecord, rest)
  | '\x7d' :: rest => some (.closeRecord, rest)
  | ',' :: rest => some (.comma, rest)
  | ':' :: rest => some (.colon, rest)
  | '"' :: rest => (readString? rest).map fun (content, behind) => (.text content, behind)
  | 'n' :: 'u' :: 'l' :: 'l' :: rest => some (.null, rest)
  | 't' :: 'r' :: 'u' :: 'e' :: rest => some (.boolean true, rest)
  | 'f' :: 'a' :: 'l' :: 's' :: 'e' :: rest => some (.boolean false, rest)
  | source => readNumber? source

/-- A number leaves less than there was. -/
theorem length_of_readNumber {source left : Text} {word : Word}
    (read : readNumber? source = some (word, left)) : left.length < source.length := by
  unfold readNumber? at read
  dsimp only at read
  split at read
  next written =>
    cases read
    have split := congrArg List.length
      (List.takeWhile_append_dropWhile (p := Char.isDigit) (l := source))
    have present : source.takeWhile Char.isDigit ≠ [] := by
      rw [← written]
      exact Nat.toDigits_ne_nil
    have positive := List.length_pos_iff.mpr present
    rw [List.length_append] at split
    omega
  next => contradiction

/-- A word leaves less than there was. -/
theorem length_of_readWord {source left : Text} {word : Word}
    (read : readWord? source = some (word, left)) : left.length < source.length := by
  unfold readWord? at read
  split at read
  case h_7 rest =>
    obtain ⟨⟨content, behind⟩, inner, made⟩ := Option.map_eq_some_iff.mp read
    cases made
    exact Nat.lt_succ_of_lt (length_of_readString inner)
  case h_11 => exact length_of_readNumber read
  all_goals
    cases read
    simp only [List.length_cons]
    omega

/-- All words of a text, if nothing but white space stands between them. -/
def readWords? (source : Text) : Option (List Word) :=
  match _read : readWord? source with
  | some (word, rest) => (readWords? rest).map (word :: ·)
  | none =>
    match source with
    | [] => some []
    | c :: rest => if isSpace c then readWords? rest else none
termination_by source.length
decreasing_by
  · exact length_of_readWord _read
  · exact Nat.lt_succ_self _

/-- The unit that is written for a control character is read as its code. -/
theorem readUnit_hexPair {code : Nat} (control : code < 0x20) (rest : Text) :
    readUnit? (['0', '0'] ++ Text.hexPair code ++ rest) = some (code, rest) := by
  have spelled : ∀ code < 0x20, Text.digits? 16 (['0', '0'] ++ Text.hexPair code) = some code := by
    decide
  have here := spelled code control
  simp only [Text.hexPair, List.cons_append, List.nil_append] at here
  simp [readUnit?, Text.hexPair, here]

/-- A character is read as it is written in a string. -/
theorem readChar_jsonChar (c : Char) (rest : Text) :
    readChar? (Data.jsonChar c ++ rest) = some (c, rest) := by
  unfold Data.jsonChar
  -- Seven characters have an escape of their own.
  iterate 7
    split
    next => subst c; rfl
  -- Of the others, control characters are given by their code, and all that remain by themselves.
  split
  next control =>
    have character : readUnits? (['0', '0'] ++ Text.hexPair c.toNat ++ rest) = some (c, rest) := by
      rw [readUnits?, readUnit_hexPair control rest]
      dsimp only
      rw [if_neg (by omega), if_neg (by omega), Char.ofNat_toNat]
    exact character
  next quote backslash _ _ _ _ _ visible =>
    rw [List.singleton_append, readChar?.eq_def]
    split
    next same => exact absurd (List.cons.inj same).1 backslash
    next d others _ same =>
      obtain ⟨rfl, rfl⟩ := List.cons.inj same
      exact if_neg (not_or.mpr ⟨quote, visible⟩)
    next same => contradiction

/-- The characters of a string are read as they are written, up to the closing quote. -/
theorem readString_flatMap (content rest : Text) :
    readString? (content.flatMap Data.jsonChar ++ '"' :: rest) = some (content, rest) := by
  induction content with
  | nil => rw [readString?.eq_def]; rfl
  | cons c others ih =>
    rw [List.flatMap_cons, List.append_assoc, readString?.eq_def]
    split
    next d behind read =>
      cases (readChar_jsonChar c _).symm.trans read
      rw [ih]
      rfl
    next none =>
      rw [readChar_jsonChar] at none
      contradiction

/-- A number is written with digits. -/
theorem isDigit_of_mem_decimal {value : Nat} {c : Char} (member : c ∈ Text.decimal value) :
    c.isDigit = true :=
  Nat.isDigit_of_mem_toDigits (by decide) (by decide) member

/-- A number is read as it is written, if no digit stands behind it. -/
theorem readNumber_decimal (value : Nat) {rest : Text} (ends : EndsRun Char.isDigit rest) :
    readNumber? (Text.decimal value ++ rest) = some (.number value, rest) := by
  have digits : ∀ c ∈ Text.decimal value, c.isDigit = true := fun c => isDigit_of_mem_decimal
  have returns : Nat.ofDigitChars 10 (Text.decimal value) 0 = value :=
    Nat.ofDigitChars_toDigits (by decide) (by decide)
  rw [readNumber?, Text.takeWhile_run digits ends, Text.dropWhile_run digits ends, returns]
  exact if_pos rfl

/-- Where no digit stands, no number is read. -/
theorem readNumber_of_endsRun {source : Text} (ends : EndsRun Char.isDigit source) :
    readNumber? source = none := by
  rw [readNumber?, Text.takeWhile_of_endsRun ends]
  exact if_neg Nat.toDigits_ne_nil

/-- The digits of a number are read as one word, if no digit stands behind them. -/
theorem readWord_decimal (value : Nat) {rest : Text} (ends : EndsRun Char.isDigit rest) :
    readWord? (Text.decimal value ++ rest) = some (.number value, rest) := by
  rw [← readNumber_decimal value ends]
  have present : Text.decimal value ≠ [] := Nat.toDigits_ne_nil
  obtain ⟨c, others, same⟩ := List.exists_cons_of_ne_nil present
  have digit : c.isDigit = true := isDigit_of_mem_decimal (same ▸ List.mem_cons_self)
  rw [same, List.cons_append, readWord?.eq_def]
  split
  case h_11 => rfl
  all_goals
    rename_i first
    rw [(List.cons.inj first).1] at digit
    contradiction

/-- Whether a text begins with words, whatever words stand behind them. -/
def Begins (source : Text) (words : List Word) (rest : Text) : Prop :=
  readWords? source = (readWords? rest).map (words ++ ·)

/-- A text begins with no words. -/
theorem Begins.refl (source : Text) : Begins source [] source := by
  simp [Begins]

/-- Words stand one behind the other. -/
theorem Begins.append {source middle rest : Text} {words others : List Word}
    (first : Begins source words middle) (second : Begins middle others rest) :
    Begins source (words ++ others) rest := by
  rw [Begins, first, second, Option.map_map]
  congr 1
  funext later
  simp

/-- A text begins with the word that is read. -/
theorem begins_of_readWord {source rest : Text} {word : Word}
    (read : readWord? source = some (word, rest)) : Begins source [word] rest := by
  rw [Begins, readWords?.eq_def]
  split
  next other behind again =>
    cases read.symm.trans again
    rfl
  next none =>
    rw [read] at none
    contradiction

/-- A string is one word. -/
theorem begins_jsonString (content rest : Text) :
    Begins (Data.jsonString content ++ rest) [.text content] rest := by
  apply begins_of_readWord
  have read := readString_flatMap content rest
  simp [Data.jsonString, readWord?, read]

/-- No word begins with white space. -/
theorem begins_space {c : Char} (space : isSpace c = true) (rest : Text) :
    Begins (c :: rest) [] rest := by
  have none : readWord? (c :: rest) = none := by
    simp only [isSpace, Bool.or_eq_true, beq_iff_eq] at space
    have noDigit : c.isDigit = false := by
      obtain ((rfl | rfl) | rfl) | rfl := space <;> rfl
    have noNumber := readNumber_of_endsRun (Text.endsRun_cons noDigit rest)
    obtain ((rfl | rfl) | rfl) | rfl := space <;> exact noNumber
  rw [Begins, readWords?.eq_def]
  split
  next other behind read =>
    rw [none] at read
    contradiction
  next =>
    simp [space]

/-- Spaces are no words. -/
theorem begins_spaces (width : Nat) (rest : Text) : Begins (Text.spaces width ++ rest) [] rest := by
  induction width with
  | zero => exact .refl rest
  | succ width ih => exact (begins_space rfl _).append ih

/-- A line break and an indentation are no words. -/
theorem begins_breakBefore (level : Nat) (rest : Text) :
    Begins (Data.breakBefore level rest) [] rest :=
  (begins_space rfl _).append (begins_spaces (2 * level) rest)

end Json

namespace Data

open Json

mutual

/-- The words of a value. -/
def words : Data → List Word
  | .null => [.null]
  | .boolean value => [.boolean value]
  | .number value => [.number value]
  | .text content => [.text content]
  | .list items => .openList :: itemWords items
  | .record fields => .openRecord :: fieldWords fields

/-- The words of the items of a list, with the closing bracket. -/
def itemWords : List Data → List Word
  | [] => [.closeList]
  | [item] => words item ++ [.closeList]
  | item :: rest => words item ++ .comma :: itemWords rest

/-- The words of the fields of a record, with the closing brace. -/
def fieldWords : List (Text × Data) → List Word
  | [] => [.closeRecord]
  | [(name, value)] => .text name :: .colon :: (words value ++ [.closeRecord])
  | (name, value) :: rest => .text name :: .colon :: (words value ++ .comma :: fieldWords rest)

end

mutual

/-- The compact layout has the words of the value. Recurse on the value; a comma or a closing
    bracket behind a value ends the digits of a number. -/
theorem begins_compactBefore (data : Data) {after : Text}
    (ends : Text.EndsRun Char.isDigit after) :
    Begins (compactBefore after data) (words data) after := by
  cases data with
  | null => exact begins_of_readWord rfl
  | boolean value => cases value <;> exact begins_of_readWord rfl
  | number value => exact begins_of_readWord (readWord_decimal value ends)
  | text content => exact begins_jsonString content after
  | list items => exact (begins_of_readWord rfl).append (begins_compactItems items after)
  | record fields => exact (begins_of_readWord rfl).append (begins_compactFields fields after)

/-- The items of a list have their words in the compact layout. -/
theorem begins_compactItems (items : List Data) (after : Text) :
    Begins (compactItems after items) (itemWords items) after := by
  match items with
  | [] => exact begins_of_readWord rfl
  | [item] =>
    have first := begins_compactBefore item (Text.endsRun_cons (c := ']') rfl after)
    exact first.append (begins_of_readWord rfl)
  | item :: next :: rest =>
    have first := begins_compactBefore item
      (Text.endsRun_cons (c := ',') rfl (compactItems after (next :: rest)))
    have later := begins_compactItems (next :: rest) after
    exact first.append ((begins_of_readWord rfl).append later)

/-- The fields of a record have their words in the compact layout. -/
theorem begins_compactFields (fields : List (Text × Data)) (after : Text) :
    Begins (compactFields after fields) (fieldWords fields) after := by
  match fields with
  | [] => exact begins_of_readWord rfl
  | [(name, value)] =>
    have first := begins_compactBefore value (Text.endsRun_cons (c := '\x7d') rfl after)
    exact (begins_jsonString name _).append ((begins_of_readWord rfl).append
      (first.append (begins_of_readWord rfl)))
  | (name, value) :: next :: rest =>
    have first := begins_compactBefore value
      (Text.endsRun_cons (c := ',') rfl (compactFields after (next :: rest)))
    have later := begins_compactFields (next :: rest) after
    exact (begins_jsonString name _).append ((begins_of_readWord rfl).append
      (first.append ((begins_of_readWord rfl).append later)))

end

mutual

/-- The indented layout has the words of the value, as the compact layout has: what it adds stands
    between words. -/
theorem begins_indentedBefore (level : Nat) (data : Data) {after : Text}
    (ends : Text.EndsRun Char.isDigit after) :
    Begins (indentedBefore level after data) (words data) after := by
  match data with
  | .null => exact begins_of_readWord rfl
  | .boolean value => cases value <;> exact begins_of_readWord rfl
  | .number value => exact begins_of_readWord (readWord_decimal value ends)
  | .text content => exact begins_jsonString content after
  | .list [] =>
    have opening : Begins ('[' :: ']' :: after) [.openList] (']' :: after) :=
      begins_of_readWord rfl
    exact opening.append (begins_of_readWord rfl)
  | .list (item :: rest) =>
    have inside := begins_indentedItems level (item :: rest) after
    exact (begins_of_readWord rfl).append ((begins_breakBefore (level + 1) _).append inside)
  | .record [] =>
    have opening : Begins ('\x7b' :: '\x7d' :: after) [.openRecord] ('\x7d' :: after) :=
      begins_of_readWord rfl
    exact opening.append (begins_of_readWord rfl)
  | .record (field :: rest) =>
    have inside := begins_indentedFields level (field :: rest) after
    exact (begins_of_readWord rfl).append ((begins_breakBefore (level + 1) _).append inside)

/-- The items of a list have their words in the indented layout. -/
theorem begins_indentedItems (level : Nat) (items : List Data) (after : Text) :
    Begins (indentedItems level after items) (itemWords items) after := by
  match items with
  | [] => exact begins_of_readWord rfl
  | [item] =>
    have first := begins_indentedBefore (level + 1) item
      (Text.endsRun_cons (c := '\n') rfl (Text.spaces (2 * level) ++ (']' :: after)))
    exact first.append ((begins_breakBefore level _).append (begins_of_readWord rfl))
  | item :: next :: rest =>
    have later := begins_indentedItems level (next :: rest) after
    have first := begins_indentedBefore (level + 1) item (Text.endsRun_cons (c := ',') rfl
      (breakBefore (level + 1) (indentedItems level after (next :: rest))))
    exact first.append ((begins_of_readWord rfl).append
      ((begins_breakBefore (level + 1) _).append later))

/-- The fields of a record have their words in the indented layout. -/
theorem begins_indentedFields (level : Nat) (fields : List (Text × Data)) (after : Text) :
    Begins (indentedFields level after fields) (fieldWords fields) after := by
  match fields with
  | [] => exact begins_of_readWord rfl
  | [(name, value)] =>
    have first := begins_indentedBefore (level + 1) value
      (Text.endsRun_cons (c := '\n') rfl (Text.spaces (2 * level) ++ ('\x7d' :: after)))
    exact (begins_jsonString name _).append ((begins_of_readWord rfl).append
      ((begins_space rfl _).append
        (first.append ((begins_breakBefore level _).append (begins_of_readWord rfl)))))
  | (name, value) :: next :: rest =>
    have later := begins_indentedFields level (next :: rest) after
    have first := begins_indentedBefore (level + 1) value (Text.endsRun_cons (c := ',') rfl
      (breakBefore (level + 1) (indentedFields level after (next :: rest))))
    exact (begins_jsonString name _).append ((begins_of_readWord rfl).append
      ((begins_space rfl _).append (first.append ((begins_of_readWord rfl).append
        ((begins_breakBefore (level + 1) _).append later)))))

end

end Data

end FlashMarkup
