import FlashMarkup.Toml.Basic

/-!
# Tables of TOML files

A table is put together from statements. A header opens a table, or a new item of a series of
tables, and an assignment puts a value into the table that was opened last. Every key is given once:
no value is replaced, no table is opened twice, and a table that dotted keys have made belongs to
the statements that made it.
-/

namespace FlashMarkup.Toml

/-- How a table under construction came to be. -/
inductive Birth where
  /-- A header opened it. -/
  | header
  /-- A header of a table inside it implied it. -/
  | implied
  /-- A dotted key made it. -/
  | dotted
deriving DecidableEq, Repr

/-- What stands under a key of a table under construction. -/
inductive Entry where
  | value (value : Toml)
  | table (birth : Birth) (entries : List (Text × Entry))
  | series (earlier : List (List (Text × Entry))) (last : List (Text × Entry))

/-- A table under construction. -/
structure Draft where
  birth : Birth
  entries : List (Text × Entry)

/-- Change what stands under a key, if the change is allowed. -/
def alter (key : Text) (change : Option Entry → Option Entry) :
    List (Text × Entry) → Option (List (Text × Entry))
  | [] => (change none).map fun entry => [(key, entry)]
  | (other, old) :: rest =>
    if other = key then (change (some old)).map fun entry => (key, entry) :: rest
    else (alter key change rest).map ((other, old) :: ·)

/-- Change the table under a key, or the last table of a series. Without an entry a new table is
    made. A dotted key may not enter a table that a header has opened. -/
def enter (via : Birth) (change : Draft → Option Draft) : Option Entry → Option Entry
  | none => (change ⟨via, []⟩).map fun draft => .table draft.birth draft.entries
  | some (.table birth entries) =>
    if via = .dotted ∧ birth = .header then none
    else (change ⟨birth, entries⟩).map fun draft => .table draft.birth draft.entries
  | some (.series earlier last) =>
    (change ⟨.header, last⟩).map fun draft => .series earlier draft.entries
  | some (.value _) => none

/-- Change the table at the end of a path. -/
def within (via : Birth) (change : Draft → Option Draft) : List Text → Draft → Option Draft
  | [], draft => change draft
  | key :: path, draft =>
    (alter key (enter via (within via change path)) draft.entries).map fun entries =>
      ⟨draft.birth, entries⟩

/-- Put a value under a new key. The path that led to the table has to be dotted if and only if
    dotted keys made the table. -/
def assign (key : Text) (value : Toml) (isDotted : Bool) (draft : Draft) : Option Draft :=
  if isDotted = decide (draft.birth = .dotted) then
    (alter key (fun | none => some (.value value) | some _ => none) draft.entries).map fun entries =>
      ⟨draft.birth, entries⟩
  else none

/-- Put a value under a path of keys. -/
def assignAt (path : List Text) (value : Toml) (draft : Draft) : Option Draft :=
  match path.getLast? with
  | none => none
  | some key => within .dotted (assign key value (1 < path.length)) path.dropLast draft

/-- The entry that a header opens in the place of another one. -/
def openEntry? : Option Entry → Option Entry
  | none => some (.table .header [])
  | some (.table .implied entries) => some (.table .header entries)
  | _ => none

/-- The entry with a new item at the end of its series. -/
def extendEntry? : Option Entry → Option Entry
  | none => some (.series [] [])
  | some (.series earlier last) => some (.series (earlier ++ [last]) [])
  | _ => none

/-- Change the entry at the end of a path of headers. -/
def alterAt (path : List Text) (change : Option Entry → Option Entry) (draft : Draft) :
    Option Draft :=
  match path.getLast? with
  | none => none
  | some key =>
    within .implied
      (fun parent => (alter key change parent.entries).map fun entries => ⟨parent.birth, entries⟩)
      path.dropLast draft

/-- A statement of a TOML file. -/
inductive Statement where
  /-- A header in single brackets. -/
  | header (path : List Text)
  /-- A header in double brackets. -/
  | item (path : List Text)
  | assignment (path : List Text) (value : Toml)

/-- A file under construction, and the path of the table that was opened last. -/
structure FileDraft where
  root : Draft
  current : List Text

/-- A file before its first statement. -/
def FileDraft.start : FileDraft := ⟨⟨.header, []⟩, []⟩

/-- Carry out a statement, if it is allowed. -/
def FileDraft.carryOut (file : FileDraft) : Statement → Option FileDraft
  | .header path => (alterAt path openEntry? file.root).map fun root => ⟨root, path⟩
  | .item path => (alterAt path extendEntry? file.root).map fun root => ⟨root, path⟩
  | .assignment path value =>
    (within .implied (assignAt path value) file.current file.root).map fun root =>
      ⟨root, file.current⟩

mutual

/-- The finished value of an entry. -/
def Entry.finish : Entry → Toml
  | .value content => content
  | .table _ entries => .table (finishEntries entries)
  | .series earlier last => .list (finishTables earlier ++ [.table (finishEntries last)])

/-- The finished values of the entries of a table. -/
def Entry.finishEntries : List (Text × Entry) → List (Text × Toml)
  | [] => []
  | (key, entry) :: rest => (key, entry.finish) :: finishEntries rest

/-- The finished tables of a series. -/
def Entry.finishTables : List (List (Text × Entry)) → List Toml
  | [] => []
  | entries :: rest => .table (finishEntries entries) :: finishTables rest

end

/-- The table that assignments between braces make. -/
def inlineTable? (assignments : List (List Text × Toml)) : Option Toml := do
  let draft ← assignments.foldlM (fun draft (path, value) => assignAt path value draft)
    (⟨.header, []⟩ : Draft)
  some (.table (Entry.finishEntries draft.entries))

/-- The entries of the file that statements make. -/
def ofStatements? (statements : List Statement) : Option (List (Text × Toml)) :=
  (statements.foldlM FileDraft.carryOut .start).map fun file =>
    Entry.finishEntries file.root.entries

end FlashMarkup.Toml
