import FlashMarkup.Format.BuiltIn
import FlashMarkup.Proofs.Text.ByteOrder
import Mathlib.Data.Char
import Mathlib.Data.List.Induction
import Mathlib.Data.List.Nodup

/-!
# The registry as a map

A registry holds, for each name, the formatter that was registered last under it, and it lists the
names in the order of their bytes. Registering one formatter decides about its name and no other, and
what is found under each name decides about the whole registry, because the order of the names leaves
no choice. So formatters with different names can be registered in either order.
-/

namespace FlashMarkup

namespace Registry

/-- What is found under a name after a formatter has been put in its place. -/
theorem find?_place (formatter : Formatter) (name : Text) (formatters : List Formatter) :
    (place formatter formatters).find? (·.name == name) =
      if formatter.name = name then some formatter else formatters.find? (·.name == name) := by
  induction formatters with
  | nil => by_cases same : formatter.name = name <;> simp [place, same]
  | cons first rest ih =>
    unfold place
    split
    next here => by_cases same : formatter.name = name <;> simp [here, same]
    next here =>
      split
      next => by_cases same : formatter.name = name <;> simp [same]
      next =>
        by_cases sought : first.name = name
        · have apart : formatter.name ≠ name := fun same => here (sought.trans same.symm)
          simp [sought, apart]
        · simp [sought, ih]

/-- The formatter under a name after a registration. -/
theorem get?_register (registry : Registry) (formatter : Formatter) (name : Text) :
    (registry.register formatter).get? name =
      if formatter.name = name then some formatter else registry.get? name :=
  find?_place formatter name registry.formatters

/-- Placing a formatter adds nothing else. -/
theorem mem_place {formatter other : Formatter} {formatters : List Formatter}
    (member : other ∈ place formatter formatters) : other = formatter ∨ other ∈ formatters := by
  induction formatters with
  | nil => exact .inl (List.mem_singleton.mp member)
  | cons first rest ih =>
    unfold place at member
    split at member
    next =>
      obtain same | later := List.mem_cons.mp member
      · exact .inl same
      · exact .inr (List.mem_cons_of_mem _ later)
    next =>
      split at member
      next => exact List.mem_cons.mp member
      next =>
        obtain same | later := List.mem_cons.mp member
        · exact .inr (same ▸ List.mem_cons_self)
        · exact (ih later).imp_right (List.mem_cons_of_mem _)

/-- Whether formatters stand in ascending order of the bytes of their names. -/
def Ascending (formatters : List Formatter) : Prop :=
  formatters.Pairwise fun first second => first.name.toBytes < second.name.toBytes

/-- Formatters in ascending order stay so when one more is put in its place. -/
theorem Ascending.place {formatters : List Formatter} (ascending : Ascending formatters)
    (formatter : Formatter) : Ascending (place formatter formatters) := by
  induction formatters with
  | nil => exact List.pairwise_singleton _ _
  | cons first rest ih =>
    obtain ⟨least, others⟩ := List.pairwise_cons.mp ascending
    unfold Registry.place
    split
    next same => exact List.pairwise_cons.mpr ⟨same ▸ least, others⟩
    next different =>
      split
      next before =>
        have less := (Text.precedes_iff_toBytes_lt _ _).mp before
        refine List.pairwise_cons.mpr ⟨?_, ascending⟩
        intro other member
        obtain rfl | later := List.mem_cons.mp member
        · exact less
        · exact List.lt_trans less (least other later)
      next behind =>
        refine List.pairwise_cons.mpr ⟨?_, ih others⟩
        intro other member
        obtain rfl | later := mem_place member
        · obtain before | same | after := Text.precedes_trichotomy other.name first.name
          · exact absurd before behind
          · exact absurd same.symm different
          · exact (Text.precedes_iff_toBytes_lt _ _).mp after
        · exact least other later

/-- Formatters in ascending order have distinct names. -/
theorem Ascending.nodup_names {formatters : List Formatter} (ascending : Ascending formatters) :
    (formatters.map Formatter.name).Nodup := by
  refine List.pairwise_map.mpr (ascending.imp ?_)
  intro first second less same
  exact List.lt_irrefl _ (same ▸ less)

/-- Under distinct names, the formatter that is found under a name is the one that has it. -/
theorem get?_eq_some_iff {registry : Registry}
    (distinct : (registry.formatters.map Formatter.name).Nodup) {name : Text}
    {formatter : Formatter} :
    registry.get? name = some formatter ↔
      formatter ∈ registry.formatters ∧ formatter.name = name := by
  have within {other : Formatter} (found : registry.get? name = some other) :
      other ∈ registry.formatters ∧ other.name = name := by
    have named : (other.name == name) = true :=
      List.find?_some (p := fun candidate : Formatter => candidate.name == name) found
    exact ⟨List.mem_of_find?_eq_some found, beq_iff_eq.mp named⟩
  constructor
  · exact within
  · rintro ⟨member, named⟩
    cases found : registry.get? name with
    | none =>
      have absent := List.find?_eq_none.mp found formatter member
      exact absurd (beq_iff_eq.mpr named) absent
    | some other =>
      obtain ⟨otherMember, otherNamed⟩ := within found
      rw [List.inj_on_of_nodup_map distinct otherMember member (otherNamed.trans named.symm)]

/-- Registries in ascending order in which the same is found under each name are the same. -/
theorem eq_of_get? {first second : Registry} (firstAscending : Ascending first.formatters)
    (secondAscending : Ascending second.formatters)
    (found : ∀ name, first.get? name = second.get? name) : first = second := by
  have distinct := firstAscending.nodup_names
  have others := secondAscending.nodup_names
  have members (formatter : Formatter) :
      formatter ∈ first.formatters ↔ formatter ∈ second.formatters := by
    have same : first.get? formatter.name = some formatter ↔ _ :=
      Eq.congr_left (found formatter.name)
    simpa [get?_eq_some_iff distinct, get?_eq_some_iff others] using same
  have permuted := (List.perm_ext_iff_of_nodup distinct.of_map others.of_map).mpr members
  have same := permuted.eq_of_pairwise
    (fun _ _ _ _ less greater => absurd greater (List.lt_asymm less)) firstAscending secondAscending
  exact congrArg Registry.mk same

/-- The registry after registrations, one after the other. -/
def registerAll (registry : Registry) (formatters : List Formatter) : Registry :=
  formatters.foldl register registry

/-- Formatters are registered behind others. -/
theorem registerAll_append (registry : Registry) (formatters later : List Formatter) :
    registry.registerAll (formatters ++ later) =
      (registry.registerAll formatters).registerAll later :=
  List.foldl_append

/-- The empty registry is in ascending order. -/
theorem ascending_empty : Ascending empty.formatters := List.Pairwise.nil

/-- A registration keeps the formatters in ascending order. -/
theorem Ascending.register {registry : Registry} (ascending : Ascending registry.formatters)
    (formatter : Formatter) : Ascending (registry.register formatter).formatters :=
  ascending.place formatter

/-- Registrations keep the formatters in ascending order. -/
theorem Ascending.registerAll {registry : Registry} (ascending : Ascending registry.formatters)
    (formatters : List Formatter) : Ascending (registry.registerAll formatters).formatters := by
  induction formatters generalizing registry with
  | nil => exact ascending
  | cons formatter rest ih => exact ih (ascending.register formatter)

/-- The last of several formatters that has a name. -/
def latest? (name : Text) (registered : List Formatter) : Option Formatter :=
  (registered.filter (·.name == name)).getLast?

/-- A formatter that is registered last is the latest under its name. -/
theorem latest?_append_singleton (registered : List Formatter) (formatter : Formatter)
    (name : Text) :
    latest? name (registered ++ [formatter]) =
      if formatter.name = name then some formatter else latest? name registered := by
  by_cases same : formatter.name = name <;> simp [latest?, List.filter_append, same]

/-- A name has a latest formatter exactly if one was registered under it. -/
theorem exists_latest?_iff (name : Text) (registered : List Formatter) :
    (∃ formatter, latest? name registered = some formatter) ↔
      ∃ formatter ∈ registered, formatter.name = name := by
  rw [← Option.isSome_iff_exists, latest?, List.getLast?_isSome]
  simp [List.filter_eq_nil_iff]

/-- Under each name, the formatter that was registered last is found. -/
theorem get?_registerAll_empty (registered : List Formatter) (name : Text) :
    (empty.registerAll registered).get? name = latest? name registered := by
  induction registered using List.reverseRecOn with
  | nil => rfl
  | append_singleton registered formatter ih =>
    rw [registerAll_append, registerAll, List.foldl_cons, List.foldl_nil, get?_register,
      latest?_append_singleton, ih]

/-- Whether a registry is the map that formatters make when they are registered in order. -/
structure IsMapOf (registry : Registry) (registered : List Formatter) : Prop where
  /-- The names are listed in strictly ascending order of their bytes. -/
  ascending : registry.names.Pairwise fun first second => first.toBytes < second.toBytes
  /-- The names that are listed are those of the formatters. -/
  listed : ∀ name, name ∈ registry.names ↔ ∃ formatter ∈ registered, formatter.name = name
  /-- The registry has exactly the names that are listed. -/
  present : ∀ name, registry.has name = true ↔ name ∈ registry.names
  /-- Something is found exactly under the names that are listed. -/
  found : ∀ name, (registry.get? name).isSome = true ↔ name ∈ registry.names
  /-- A name has the formatter that was registered last under it, and none if none was. -/
  latest : ∀ name, registry.get? name = latest? name registered
  /-- Every name that is listed is described once, in the order of the list. -/
  describes : registry.describe.map Prod.fst = registry.names
  /-- A name is described as the formatter that was registered last under it describes itself. -/
  described : ∀ name description, (name, description) ∈ registry.describe ↔
    ∃ formatter, latest? name registered = some formatter ∧ formatter.description = description
  /-- A document is rendered by the formatter that was registered last under the name, and a name
      that is not listed is reported as not found. -/
  rendered : ∀ document name, registry.serialize document name =
    match latest? name registered with
    | some formatter => formatter.render document
    | none => .error (.notFound name)

/-- A name is listed exactly if something is found under it. -/
theorem mem_names_iff {registry : Registry}
    (distinct : (registry.formatters.map Formatter.name).Nodup) (name : Text) :
    name ∈ registry.names ↔ ∃ formatter, registry.get? name = some formatter := by
  simp [names, get?_eq_some_iff distinct]

/-- A name is described as what is found under it describes itself. -/
theorem mem_describe_iff {registry : Registry}
    (distinct : (registry.formatters.map Formatter.name).Nodup) (name description : Text) :
    (name, description) ∈ registry.describe ↔
      ∃ formatter, registry.get? name = some formatter ∧ formatter.description = description := by
  simp only [get?_eq_some_iff distinct, describe, List.mem_map, Prod.mk.injEq, and_assoc]

/-- Formatters that are registered make their map. -/
theorem isMapOf_registerAll (registered : List Formatter) :
    (empty.registerAll registered).IsMapOf registered := by
  have ascending := ascending_empty.registerAll registered
  have distinct := ascending.nodup_names
  have latest := get?_registerAll_empty registered
  exact {
    ascending := List.pairwise_map.mpr ascending
    listed name := by
      rw [mem_names_iff distinct, latest, exists_latest?_iff]
    present name := by
      rw [mem_names_iff distinct, has, Option.isSome_iff_exists]
    found name := by
      rw [mem_names_iff distinct, Option.isSome_iff_exists]
    latest := latest
    describes := by
      rw [describe, List.map_map]
      rfl
    described name description := by
      rw [mem_describe_iff distinct, latest]
    rendered document name := by
      cases last : latest? name registered <;> simp only [serialize, latest, last] }

/-- Whether two registries show the same under a name. -/
structure AgreeAt (name : Text) (first second : Registry) : Prop where
  found : first.get? name = second.get? name
  present : first.has name = second.has name
  rendered : ∀ document, first.serialize document name = second.serialize document name
  listed : name ∈ first.names ↔ name ∈ second.names
  described : ∀ description, (name, description) ∈ first.describe ↔
    (name, description) ∈ second.describe

/-- What is found under a name decides about all that is shown under it. -/
theorem agreeAt_of_get? {first second : Registry} (firstAscending : Ascending first.formatters)
    (secondAscending : Ascending second.formatters) {name : Text}
    (found : first.get? name = second.get? name) : AgreeAt name first second where
  found := found
  present := by rw [has, has, found]
  rendered document := by rw [serialize, serialize, found]
  listed := by
    rw [mem_names_iff firstAscending.nodup_names, mem_names_iff secondAscending.nodup_names, found]
  described description := by
    rw [mem_describe_iff firstAscending.nodup_names, mem_describe_iff secondAscending.nodup_names,
      found]

/-- The registries to start with: without any formatter, or with the built-in ones under default or
    given options. -/
inductive Start where
  | empty
  | defaults
  | options (page : Html.Options) (record : Record.Options)

/-- The registry that is started with. -/
def Start.registry : Start → Registry
  | .empty => Registry.empty
  | .defaults => builtIn {} {}
  | .options page record => builtIn page record

/-- The formatters that are registered at the start. -/
def Start.formatters : Start → List Formatter
  | .empty => []
  | .defaults => [.json {}, .yaml, .html {}, .tree]
  | .options page record => [.json record, .yaml, .html page, .tree]

/-- To start with a registry is to register its formatters. -/
theorem Start.registerAll_formatters (start : Start) :
    Registry.empty.registerAll start.formatters = start.registry := by
  cases start <;> rfl

/-- A registry is a map. After registrations, whatever they started with, it is the map of all
    formatters that have been registered. One more registration changes nothing under other names,
    and two under different names make the same registry in either order. -/
theorem map_of_registrations (start : Start) (later : List Formatter) :
    let registry := start.registry.registerAll later
    registry.IsMapOf (start.formatters ++ later) ∧
      (∀ formatter name, name ≠ formatter.name →
        AgreeAt name (registry.register formatter) registry) ∧
      ∀ first second, first.name ≠ second.name →
        (registry.register first).register second = (registry.register second).register first := by
  intro registry
  have all : registry = empty.registerAll (start.formatters ++ later) := by
    rw [registerAll_append, start.registerAll_formatters]
  have ascending : Ascending registry.formatters :=
    all ▸ ascending_empty.registerAll _
  refine ⟨all ▸ isMapOf_registerAll _, ?_, ?_⟩
  · intro formatter name other
    have found : (registry.register formatter).get? name = registry.get? name := by
      rw [get?_register, if_neg other.symm]
    exact agreeAt_of_get? (ascending.register formatter) ascending found
  · intro first second different
    refine eq_of_get? ((ascending.register first).register second)
      ((ascending.register second).register first) fun name => ?_
    simp only [get?_register]
    by_cases isFirst : first.name = name
    · rw [if_pos isFirst, if_neg (isFirst ▸ different.symm), if_pos isFirst]
    · rw [if_neg isFirst, if_neg isFirst]

/-- A page of another kind, under the name of the built-in one. -/
def plainPage : Formatter := .undescribed "html" fun _ => .ok "plain"

/-- A format that is not built in. -/
def portable : Formatter := .undescribed "pdf" fun _ => .error (.serialization "no fonts")

/-- With the built-in page replaced, nothing changes under the other names, and it makes no
    difference whether the page is replaced before a format is added or behind. -/
theorem map_of_registrations_replaced :
    let registry := Start.defaults.registry.registerAll [plainPage]
    ("pdf" : Text) ≠ plainPage.name ∧ AgreeAt "pdf" (registry.register plainPage) registry ∧
      plainPage.name ≠ portable.name ∧
      (registry.register plainPage).register portable =
        (registry.register portable).register plainPage := by
  intro registry
  obtain ⟨-, agrees, commutes⟩ := map_of_registrations .defaults [plainPage]
  exact ⟨by decide, agrees plainPage "pdf" (by decide), by decide,
    commutes plainPage portable (by decide)⟩

end Registry

end FlashMarkup
