import FlashMarkup.Document.Record
import Mathlib.Data.List.Infix

/-!
# Where the layouts of JSON end

A value is written in front of what follows it. Whatever that is, it stands behind the layout of
the value unchanged, so a list ends in its closing bracket and a record ends in its closing brace.
In particular no stored record ends in a line break.
-/

namespace FlashMarkup

namespace Data

mutual

/-- What follows a value stands behind its compact layout. -/
theorem suffix_compactBefore (after : Text) (data : Data) : after <:+ compactBefore after data := by
  match data with
  | .null => exact List.suffix_append _ _
  | .boolean true => exact List.suffix_append _ _
  | .boolean false => exact List.suffix_append _ _
  | .number value => exact List.suffix_append _ _
  | .text content => exact List.suffix_append _ _
  | .list items =>
    have closed := suffix_compactItems after items
    exact (List.suffix_cons _ _).trans (closed.trans (List.suffix_cons _ _))
  | .record fields =>
    have closed := suffix_compactFields after fields
    exact (List.suffix_cons _ _).trans (closed.trans (List.suffix_cons _ _))

/-- The items of a list end in its closing bracket in the compact layout. -/
theorem suffix_compactItems (after : Text) (items : List Data) :
    ']' :: after <:+ compactItems after items := by
  match items with
  | [] => exact List.suffix_rfl
  | [item] => exact suffix_compactBefore _ item
  | item :: next :: rest =>
    have later := suffix_compactItems after (next :: rest)
    have first := suffix_compactBefore (',' :: compactItems after (next :: rest)) item
    exact later.trans ((List.suffix_cons _ _).trans first)

/-- The fields of a record end in its closing brace in the compact layout. -/
theorem suffix_compactFields (after : Text) (fields : List (Text × Data)) :
    '\x7d' :: after <:+ compactFields after fields := by
  match fields with
  | [] => exact List.suffix_rfl
  | [(name, value)] =>
    have first := suffix_compactBefore ('\x7d' :: after) value
    exact first.trans ((List.suffix_cons _ _).trans (List.suffix_append _ _))
  | (name, value) :: next :: rest =>
    have later := suffix_compactFields after (next :: rest)
    have first := suffix_compactBefore (',' :: compactFields after (next :: rest)) value
    exact (later.trans ((List.suffix_cons _ _).trans first)).trans
      ((List.suffix_cons _ _).trans (List.suffix_append _ _))

end

/-- What follows a line break and an indentation stands behind them. -/
theorem suffix_breakBefore (level : Nat) (after : Text) : after <:+ breakBefore level after :=
  List.suffix_append _ _

mutual

/-- What follows a value stands behind its indented layout. -/
theorem suffix_indentedBefore (level : Nat) (after : Text) (data : Data) :
    after <:+ indentedBefore level after data := by
  match data with
  | .null => exact List.suffix_append _ _
  | .boolean true => exact List.suffix_append _ _
  | .boolean false => exact List.suffix_append _ _
  | .number value => exact List.suffix_append _ _
  | .text content => exact List.suffix_append _ _
  | .list [] => exact List.suffix_append _ _
  | .list (item :: rest) =>
    have closed := suffix_indentedItems level after (item :: rest)
    exact (List.suffix_cons _ _).trans (closed.trans
      ((suffix_breakBefore _ _).trans (List.suffix_cons _ _)))
  | .record [] => exact List.suffix_append _ _
  | .record (field :: rest) =>
    have closed := suffix_indentedFields level after (field :: rest)
    exact (List.suffix_cons _ _).trans (closed.trans
      ((suffix_breakBefore _ _).trans (List.suffix_cons _ _)))

/-- The items of a list end in its closing bracket in the indented layout. -/
theorem suffix_indentedItems (level : Nat) (after : Text) (items : List Data) :
    ']' :: after <:+ indentedItems level after items := by
  match items with
  | [] => exact List.suffix_rfl
  | [item] =>
    have first := suffix_indentedBefore (level + 1) (breakBefore level (']' :: after)) item
    exact (suffix_breakBefore _ _).trans first
  | item :: next :: rest =>
    have later := suffix_indentedItems level after (next :: rest)
    have first := suffix_indentedBefore (level + 1)
      (',' :: breakBefore (level + 1) (indentedItems level after (next :: rest))) item
    exact later.trans ((suffix_breakBefore _ _).trans ((List.suffix_cons _ _).trans first))

/-- The fields of a record end in its closing brace in the indented layout. -/
theorem suffix_indentedFields (level : Nat) (after : Text) (fields : List (Text × Data)) :
    '\x7d' :: after <:+ indentedFields level after fields := by
  match fields with
  | [] => exact List.suffix_rfl
  | [(name, value)] =>
    have first := suffix_indentedBefore (level + 1) (breakBefore level ('\x7d' :: after)) value
    exact ((suffix_breakBefore _ _).trans first).trans ((List.suffix_cons _ _).trans
      ((List.suffix_cons _ _).trans (List.suffix_append _ _)))
  | (name, value) :: next :: rest =>
    have later := suffix_indentedFields level after (next :: rest)
    have first := suffix_indentedBefore (level + 1)
      (',' :: breakBefore (level + 1) (indentedFields level after (next :: rest))) value
    exact (later.trans ((suffix_breakBefore _ _).trans ((List.suffix_cons _ _).trans first))).trans
      ((List.suffix_cons _ _).trans ((List.suffix_cons _ _).trans (List.suffix_append _ _)))

end

end Data

/-- A stored record ends in a brace, in either layout. -/
theorem Record.getLast?_toJson (options : Options) (record : Record) :
    (record.toJson options).getLast? = some '\x7d' := by
  obtain ⟨field, rest, fields⟩ : ∃ field rest, record.toData = .record (field :: rest) := by
    cases record <;> exact ⟨_, _, rfl⟩
  have closed : ['\x7d'] <:+ record.toJson options := by
    unfold toJson
    rw [fields]
    split
    next =>
      have closed := Data.suffix_indentedFields 0 [] (field :: rest)
      exact closed.trans ((Data.suffix_breakBefore 1 _).trans (List.suffix_cons _ _))
    next =>
      have closed := Data.suffix_compactFields [] (field :: rest)
      exact closed.trans (List.suffix_cons _ _)
  obtain ⟨front, spelled⟩ := closed
  rw [← spelled, List.getLast?_concat]

end FlashMarkup
