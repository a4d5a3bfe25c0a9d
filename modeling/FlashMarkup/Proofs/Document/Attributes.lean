import FlashMarkup.Document.Attributes
import Mathlib.Data.List.Nodup

/-!
# Pairs and attributes

Attributes are made from pairs by writing one after the other. What this comes to can be said
without writing: the names are those of the pairs in order of first appearance, and the value of a
name is that of its last pair. Every entry is one of the pairs, and where the names of the pairs are
distinct nothing is replaced, so the entries are the pairs.
-/

namespace FlashMarkup.Attributes

/-- An entry after writing is the one written or was there before. -/
theorem mem_write {name value : Text} {entries : List (Text × Text)} {entry : Text × Text}
    (member : entry ∈ write name value entries) : entry = (name, value) ∨ entry ∈ entries := by
  induction entries with
  | nil => exact .inl (List.mem_singleton.mp member)
  | cons first rest ih =>
    obtain ⟨other, old⟩ := first
    unfold write at member
    split at member
    next =>
      rcases List.mem_cons.mp member with same | later
      · exact .inl same
      · exact .inr (List.mem_cons_of_mem _ later)
    next =>
      rcases List.mem_cons.mp member with rfl | later
      · exact .inr List.mem_cons_self
      · exact (ih later).imp_right (List.mem_cons_of_mem _)

/-- The pair that is written is an entry. -/
theorem mem_write_self (name value : Text) (entries : List (Text × Text)) :
    (name, value) ∈ write name value entries := by
  induction entries with
  | nil => exact List.mem_singleton_self _
  | cons first rest ih =>
    obtain ⟨other, old⟩ := first
    unfold write
    split
    next => exact List.mem_cons_self
    next => exact List.mem_cons_of_mem _ ih

/-- The value under a name is the one that stands in an entry with it. -/
theorem get?_eq_some_iff (attributes : Attributes) (name value : Text) :
    attributes.get? name = some value ↔ (name, value) ∈ attributes.entries := by
  have found {entry : Text × Text} (sought : attributes.entries.find? (·.1 == name) = some entry) :
      entry ∈ attributes.entries ∧ entry.1 = name :=
    ⟨List.mem_of_find?_eq_some sought, by simpa using List.find?_some sought⟩
  rw [get?, Option.map_eq_some_iff]
  constructor
  · rintro ⟨entry, sought, rfl⟩
    obtain ⟨member, rfl⟩ := found sought
    exact member
  · intro member
    cases sought : attributes.entries.find? (·.1 == name) with
    | none => exact absurd (List.find?_eq_none.mp sought _ member) (by simp)
    | some entry =>
      obtain ⟨other, named⟩ := found sought
      exact ⟨entry, rfl, congrArg Prod.snd
        (List.inj_on_of_nodup_map attributes.distinct other member named)⟩

/-- What pairs come to as attributes: each name once, in order of first appearance, with the value
    of its last pair. -/
structure Collects (pairs : List (Text × Text)) (attributes : Attributes) : Prop where
  names : attributes.names = (pairs.map Prod.fst).eraseDups
  values : ∀ entry ∈ attributes.entries, pairs.reverse.lookup entry.1 = some entry.2

/-- Writing one more pair collects it too. A new name is appended, and a name that was there keeps
    its place and takes the new value. -/
theorem collects_insert {pairs : List (Text × Text)} {attributes : Attributes}
    (collected : Collects pairs attributes) (name value : Text) :
    Collects (pairs ++ [(name, value)]) (attributes.insert name value) := by
  constructor
  · have before : attributes.entries.map Prod.fst = (pairs.map Prod.fst).eraseDups :=
      collected.names
    rw [List.map_append, List.eraseDups_append, ← before]
    refine (names_write name value attributes.entries).trans ?_
    by_cases known : name ∈ attributes.entries.map Prod.fst
    · have member : name ∈ pairs.map Prod.fst := by rwa [before, List.mem_eraseDups] at known
      rw [if_pos known]
      simp [List.removeAll, member]
    · have absent : name ∉ pairs.map Prod.fst := by rwa [before, List.mem_eraseDups] at known
      rw [if_neg known]
      simp [List.removeAll, absent, List.eraseDups_cons]
  · intro entry member
    rw [List.reverse_append, List.reverse_singleton, List.singleton_append]
    by_cases same : entry.1 = name
    · have distinct := (attributes.insert name value).distinct
      have written := mem_write_self name value attributes.entries
      obtain rfl := List.inj_on_of_nodup_map distinct member written same
      exact List.lookup_cons_self
    · have old : entry ∈ attributes.entries :=
        (mem_write member).resolve_left fun equal => same (congrArg Prod.fst equal)
      rw [List.lookup_cons, beq_false_of_ne same]
      exact collected.values entry old

/-- Attributes made from pairs collect the pairs.

    Induct on the pairs still to be written, for attributes that collect those already written. -/
theorem collects_ofList (pairs : List (Text × Text)) : Collects pairs (ofList pairs) := by
  have folded (written remaining : List (Text × Text)) (attributes : Attributes)
      (collected : Collects written attributes) :
      Collects (written ++ remaining)
        (remaining.foldl (fun attributes pair => attributes.insert pair.1 pair.2) attributes) := by
    induction remaining generalizing written attributes with
    | nil => rwa [List.append_nil]
    | cons pair rest ih =>
      have later := ih _ _ (collects_insert collected pair.1 pair.2)
      rwa [List.append_assoc] at later
  have none : Collects [] empty := ⟨rfl, fun entry member => absurd member List.not_mem_nil⟩
  exact folded [] pairs empty none

/-- Every entry of attributes that collect pairs is one of the pairs. -/
theorem Collects.mem_pairs {pairs : List (Text × Text)} {attributes : Attributes}
    (collected : Collects pairs attributes) {entry : Text × Text}
    (member : entry ∈ attributes.entries) : entry ∈ pairs := by
  obtain ⟨later, earlier, split, -⟩ :=
    List.lookup_eq_some_iff.mp (collected.values entry member)
  apply List.mem_reverse.mp
  rw [split]
  exact List.mem_append_right later List.mem_cons_self

/-- No other attributes collect the same pairs. -/
theorem eq_of_collects {pairs : List (Text × Text)} {first second : Attributes}
    (firstCollects : Collects pairs first) (secondCollects : Collects pairs second) :
    first = second := by
  have determined {attributes : Attributes} (collected : Collects pairs attributes) :
      attributes.entries = (pairs.map Prod.fst).eraseDups.map
        fun name => (name, (pairs.reverse.lookup name).getD []) := by
    rw [← collected.names, names, List.map_map]
    refine (List.map_id' _).symm.trans (List.map_congr_left fun entry member => ?_)
    simp [collected.values entry member]
  exact Attributes.ext ((determined firstCollects).trans (determined secondCollects).symm)

/-- Writing a new name puts the pair at the end. -/
theorem write_of_not_mem {name : Text} (value : Text) {entries : List (Text × Text)}
    (absent : name ∉ entries.map Prod.fst) :
    write name value entries = entries ++ [(name, value)] := by
  induction entries with
  | nil => rfl
  | cons first rest ih =>
    obtain ⟨other, old⟩ := first
    simp only [List.map_cons, List.mem_cons, not_or] at absent
    simp only [write, Ne.symm absent.1, if_false, ih absent.2, List.cons_append]

/-- Attributes are made from their own entries. -/
theorem ofList_entries (attributes : Attributes) : ofList attributes.entries = attributes := by
  have folded (remaining : List (Text × Text)) (written : Attributes)
      (distinct : ((written.entries ++ remaining).map Prod.fst).Nodup) :
      (remaining.foldl (fun attributes pair =>
        attributes.insert pair.1 pair.2) written).entries = written.entries ++ remaining := by
    induction remaining generalizing written with
    | nil => simp
    | cons pair rest ih =>
      have absent : pair.1 ∉ written.entries.map Prod.fst := by
        rw [List.map_append, List.map_cons, List.nodup_append] at distinct
        exact fun member => distinct.2.2 _ member _ List.mem_cons_self rfl
      have grown : (written.insert pair.1 pair.2).entries = written.entries ++ [pair] :=
        write_of_not_mem pair.2 absent
      rw [List.foldl_cons, ih _ (by simpa [grown] using distinct), grown]
      simp
  exact Attributes.ext (folded attributes.entries empty attributes.distinct)

end FlashMarkup.Attributes
