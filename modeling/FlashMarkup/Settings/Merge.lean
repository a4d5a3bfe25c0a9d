import FlashMarkup.Settings.KeyPath
import FlashMarkup.Settings.Value
import FlashMarkup.Text.Lowercase

/-!
# Writing settings over settings

A value that is written over another one replaces it, except that a table is written key by key, so
that it changes nothing that it does not mention; an empty table changes nothing at all. Keys are
compared in lower case. A step of a key path that finds no table or no list where it needs one makes
it, empty. A table or a list that is there keeps the file it belongs to.
-/

namespace FlashMarkup.Setting

/-- Put a value under a key: in the place of the key if it is there, else at the end. -/
def put (key : Text) (value : Setting) : List (Text × Setting) → List (Text × Setting)
  | [] => [(key, value)]
  | (other, old) :: rest =>
    if other = key then (key, value) :: rest else (other, old) :: put key value rest

/-- The file to which a table belongs, if it is one. -/
def tableOrigin : Option Setting → Option Text
  | some (.table origin _) => origin
  | _ => none

/-- The file to which a list belongs, if it is one. -/
def listOrigin : Option Setting → Option Text
  | some (.list origin _) => origin
  | _ => none

mutual

/-- The value that results from writing a value over what is there. -/
def overlay (old : Option Setting) : Setting → Setting
  | .table _ incoming =>
    if incoming.isEmpty then old.getD (.table none [])
    else .table (tableOrigin old) (overlayEntries ((old.map entries).getD []) incoming)
  | .scalar origin content => .scalar origin content
  | .list origin items => .list origin items

/-- The entries that result from writing entries over those that are there. -/
def overlayEntries (present : List (Text × Setting)) :
    List (Text × Setting) → List (Text × Setting)
  | [] => present
  | (key, value) :: rest =>
    let name := Text.toLower key
    overlayEntries (put name (overlay (present.lookup name) value) present) rest

end

/-- The place in a list that an index stands for. -/
def placeOf (position : Int) (count : Nat) : Nat :=
  if 0 ≤ position then position.toNat else count - (-position).toNat

/-- A list with an item replaced. The list grows by null values as far as it has to. -/
def putItem (place : Nat) (value : Setting) (items : List Setting) : List Setting :=
  (items ++ List.replicate (place + 1 - items.length) (Setting.scalar none .null)).set place value

/-- The value that results from writing a value at the end of some steps from what is there. -/
def overlayAt (value : Setting) : List KeyPath.Step → Option Setting → Setting
  | [], old => overlay old value
  | .key name :: steps, old =>
    let present := (old.map entries).getD []
    let key := Text.toLower name
    .table (tableOrigin old) (put key (overlayAt value steps (present.lookup key)) present)
  | .index position :: steps, old =>
    let present := (old.map items).getD []
    let place := placeOf position present.length
    let item := if steps.isEmpty then value else overlayAt value steps present[place]?
    .list (listOrigin old) (putItem place item present)

/-- A configuration with a value written at a key path. -/
def write (root : Setting) (path : KeyPath) (value : Setting) : Setting :=
  overlayAt value (.key path.first :: path.steps) (some root)

/-- A configuration with the entries of a file written over it. A key at the top of a file is a key
    path if it spells one. Files leave open in which order their entries are written, so none should
    have two that lead to the same value; here the later one counts. -/
def writeFile (root : Setting) (file : List (Text × Setting)) : Setting :=
  file.foldl
    (fun root (key, value) =>
      match KeyPath.ofText key with
      | .ok path => root.write path value
      | .error _ => root.write ⟨key, []⟩ value)
    root

end FlashMarkup.Setting
