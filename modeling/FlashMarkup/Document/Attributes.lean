import FlashMarkup.Text.Basic

/-!
# Attributes

The attributes of an element are pairs of a name and a value in the order in which the names
first appeared. Writing a name again replaces its value and keeps its place, so no name occurs
twice.
-/

namespace FlashMarkup

/-- Pairs of names and values, in order of first appearance, with distinct names. -/
structure Attributes where
  entries : List (Text × Text)
  distinct : (entries.map Prod.fst).Nodup
deriving DecidableEq

namespace Attributes

/-- Write a value under a name: in the place of the name if there is one, else at the end. -/
def write (name value : Text) : List (Text × Text) → List (Text × Text)
  | [] => [(name, value)]
  | (other, old) :: rest =>
    if other = name then (name, value) :: rest else (other, old) :: write name value rest

/-- Writing keeps the names and their order, and adds a new name at the end. -/
theorem names_write (name value : Text) (entries : List (Text × Text)) :
    (write name value entries).map Prod.fst =
      if name ∈ entries.map Prod.fst then entries.map Prod.fst
      else entries.map Prod.fst ++ [name] := by
  induction entries with
  | nil => simp [write]
  | cons entry rest ih =>
    obtain ⟨other, old⟩ := entry
    by_cases same : other = name
    · simp [write, same]
    · have different : name ≠ other := fun equal => same equal.symm
      by_cases member : name ∈ rest.map Prod.fst
      · simp only [write, same, if_false, List.map_cons, ih, member, if_true, List.mem_cons,
          or_true]
      · simp only [write, same, if_false, List.map_cons, ih, member, List.mem_cons, different,
          false_or, List.cons_append]

/-- Writing keeps names distinct. -/
theorem nodup_write (name value : Text) {entries : List (Text × Text)}
    (distinct : (entries.map Prod.fst).Nodup) :
    ((write name value entries).map Prod.fst).Nodup := by
  rw [names_write]
  split
  next => exact distinct
  next absent =>
    rw [List.nodup_append]
    refine ⟨distinct, by simp, ?_⟩
    intro first member second last equal
    rw [List.mem_singleton] at last
    exact absent (last ▸ equal ▸ member)

/-- No attributes. -/
def empty : Attributes := ⟨[], List.nodup_nil⟩

instance : Inhabited Attributes := ⟨empty⟩

/-- The attributes with a value written under a name. -/
def insert (attributes : Attributes) (name value : Text) : Attributes :=
  ⟨write name value attributes.entries, nodup_write name value attributes.distinct⟩

/-- The value in whose place a value under the name is written. -/
def replaced? (name : Text) : List (Text × Text) → Option Text
  | [] => none
  | (other, old) :: rest => if other = name then some old else replaced? name rest

/-- The value that is replaced when a value is written under a name, and the attributes with the new
    one. -/
def exchange (attributes : Attributes) (name value : Text) : Option Text × Attributes :=
  (replaced? name attributes.entries, attributes.insert name value)

/-- The pairs written one after the other. -/
def ofList (pairs : List (Text × Text)) : Attributes :=
  pairs.foldl (fun attributes pair => attributes.insert pair.1 pair.2) empty

/-- The value under a name. -/
def get? (attributes : Attributes) (name : Text) : Option Text :=
  (attributes.entries.find? (·.1 == name)).map Prod.snd

/-- The names in order of first appearance. -/
def names (attributes : Attributes) : List Text := attributes.entries.map Prod.fst

/-- Whether a name has a value. -/
def contains (attributes : Attributes) (name : Text) : Bool := (attributes.get? name).isSome

/-- The number of names. -/
def size (attributes : Attributes) : Nat := attributes.entries.length

/-- Whether there is no attribute. -/
def isEmpty (attributes : Attributes) : Bool := attributes.entries.isEmpty

/-- Attributes with the same pairs in the same order are equal. -/
@[ext] theorem ext {first second : Attributes} (same : first.entries = second.entries) :
    first = second := by
  cases first
  cases second
  simpa using same

end Attributes

end FlashMarkup
