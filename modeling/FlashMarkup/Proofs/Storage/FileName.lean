import FlashMarkup.Proofs.Text.Lines
import FlashMarkup.Storage.Path
import Mathlib.Data.List.TakeWhile

/-!
# File names and extensions

A path that names a file is made of what stands in front of the name, the name, and a trail that does
not count: slashes, and single dots behind slashes. Its parts are those in front and the name.

Replacing an extension takes two steps. As many bytes as the old extension has are cut from the end,
which may leave a part of the old one in front of the trail; then the new extension is put behind the
stem, whatever is left there. The result is the stem with the new extension, but for one stem: a dot
alone, when nothing is left behind the second dot, is a path without a file name.
-/

namespace FlashMarkup.Path

section

variable {separator : UInt8}

/-- Bytes with a separator are cut at the last one. -/
theorem exists_last_cut {bytes : Bytes} (present : separator ∈ bytes) :
    ∃ front back, bytes = front ++ separator :: back ∧ separator ∉ back := by
  obtain ⟨back, front, same, absent⟩ :=
    List.eq_append_cons_of_mem (List.mem_reverse.mpr present)
  refine ⟨front.reverse, back.reverse, ?_, by simpa using absent⟩
  rw [← List.reverse_reverse bytes, same]
  simp

/-- Read backwards, all bytes pass that are no separator. -/
theorem passes_reverse {back : Bytes} (absent : separator ∉ back) :
    ∀ byte ∈ back.reverse, (byte != separator) = true := by
  intro byte member
  rw [bne_iff_ne]
  rintro rfl
  exact absent (List.mem_reverse.mp member)

/-- Read backwards up to a separator, bytes without one are read to their end. -/
theorem backwards_of_not_mem {bytes : Bytes} (absent : separator ∉ bytes) :
    bytes.reverse.takeWhile (· != separator) = bytes.reverse ∧
      bytes.reverse.dropWhile (· != separator) = [] := by
  have passes := passes_reverse absent
  exact ⟨List.takeWhile_eq_self_iff.mpr passes, List.dropWhile_eq_nil_iff.mpr passes⟩

/-- Read backwards up to a separator, bytes are read to the last one. -/
theorem backwards_last_cut (front : Bytes) {back : Bytes} (absent : separator ∉ back) :
    (front ++ separator :: back).reverse.takeWhile (· != separator) = back.reverse ∧
      (front ++ separator :: back).reverse.dropWhile (· != separator) =
        separator :: front.reverse := by
  have passes := passes_reverse absent
  have turned : (front ++ separator :: back).reverse =
      back.reverse ++ separator :: front.reverse := by
    simp
  rw [turned, List.takeWhile_append_of_pos passes, List.dropWhile_append_of_pos passes]
  simp

end

variable {path : Path} {front name trail : Bytes}

/-- Whether a path ends in a piece: it is the piece behind nothing or behind a slash. -/
structure EndsIn (path : Path) (front name : Bytes) : Prop where
  bytes : path.bytes = front ++ name
  closed : front = [] ∨ ∃ above, front = above ++ [slash]
  single : slash ∉ name

/-- A path ends in some piece. -/
theorem exists_endsIn (path : Path) : ∃ front name, path.EndsIn front name := by
  by_cases cut : slash ∈ path.bytes
  · obtain ⟨above, name, spelled, single⟩ := exists_last_cut cut
    exact ⟨above ++ [slash], name, by simp [spelled], .inr ⟨above, rfl⟩, single⟩
  · exact ⟨[], path.bytes, rfl, .inl rfl, cut⟩

/-- With another piece in its place, a path ends in that piece. -/
theorem EndsIn.replace (ends : path.EndsIn front name) (other : Bytes) (single : slash ∉ other) :
    EndsIn ⟨front ++ other⟩ front other :=
  ⟨rfl, ends.closed, single⟩

/-- Nothing is dropped at the end of a path that does not end in a slash or a single dot. -/
theorem EndsIn.dropTrailing (ends : path.EndsIn front name) (visible : name ≠ [])
    (noDot : name ≠ [dot]) : dropTrailing path.bytes.reverse = path.bytes.reverse := by
  rw [ends.bytes, List.reverse_append]
  have passes := passes_reverse ends.single
  cases reversed : name.reverse with
  | nil => exact absurd (List.reverse_eq_nil_iff.mp reversed) visible
  | cons byte rest =>
    simp only [reversed, List.forall_mem_cons, bne_iff_ne] at passes
    obtain ⟨noSlash, restPasses⟩ := passes
    cases rest with
    | nil =>
      have otherByte : byte ≠ dot := by
        rintro rfl
        exact noDot (List.reverse_eq_iff.mp reversed)
      cases front.reverse <;> simp [Path.dropTrailing, noSlash, otherByte]
    | cons next others =>
      have nextNoSlash := restPasses next List.mem_cons_self
      simp [Path.dropTrailing, noSlash, nextNoSlash]

/-- The last part of a path is the piece in which what is left of the path ends. -/
theorem EndsIn.split_of_dropTrailing {bytes : Bytes} (ends : EndsIn ⟨bytes⟩ front name)
    (left : Path.dropTrailing path.bytes.reverse = bytes.reverse) : path.split = (front, name) := by
  obtain rfl : bytes = front ++ name := ends.bytes
  unfold Path.split
  rw [left]
  obtain rfl | ⟨above, rfl⟩ := ends.closed
  · obtain ⟨taken, left⟩ := backwards_of_not_mem ends.single
    simp only [List.nil_append, taken, left, List.reverse_reverse, List.reverse_nil]
  · obtain ⟨taken, left⟩ := backwards_last_cut above ends.single
    simp only [List.append_assoc, List.singleton_append, taken, left, List.reverse_reverse,
      List.reverse_cons]

/-- The last part of a path is the piece it ends in, unless that piece is empty or a dot. -/
theorem EndsIn.split (ends : path.EndsIn front name) (visible : name ≠ []) (noDot : name ≠ [dot]) :
    path.split = (front, name) :=
  ends.split_of_dropTrailing (ends.dropTrailing visible noDot)

/-- A path that ends in two dots names no file. -/
theorem EndsIn.fileName?_dots (ends : path.EndsIn front [dot, dot]) : path.fileName? = none := by
  rw [fileName?, ends.split (by decide) (by decide)]
  rfl

/-- A stem in front of a last dot is split from what stands behind the dot. -/
theorem splitName_append {stem old : Bytes} (visible : stem ≠ []) (plain : dot ∉ old) :
    splitName (stem ++ dot :: old) = (stem, some old) := by
  obtain ⟨taken, left⟩ := backwards_last_cut stem plain
  unfold splitName
  rw [taken, left]
  cases reversed : stem.reverse with
  | nil => exact absurd (List.reverse_eq_nil_iff.mp reversed) visible
  | cons last others => simp [← reversed]

/-- A name has a stem in front of its last dot, unless it starts with that dot. -/
theorem splitName_cases (name : Bytes) :
    splitName name = (name, none) ∨
      ∃ stem old, stem ≠ [] ∧ dot ∉ old ∧ name = stem ++ dot :: old := by
  by_cases dotted : dot ∈ name
  · obtain ⟨stem, old, rfl, plain⟩ := exists_last_cut dotted
    by_cases visible : stem = []
    · subst visible
      obtain ⟨taken, left⟩ := backwards_last_cut [] plain
      unfold splitName
      rw [left]
      exact .inl rfl
    · exact .inr ⟨stem, old, visible, plain, rfl⟩
  · unfold splitName
    rw [(backwards_of_not_mem dotted).2]
    exact .inl rfl

/-- Whether a piece of a path names something, and does not stand for a directory. -/
def Proper (name : Bytes) : Prop := name ≠ [] ∧ name ≠ [dot] ∧ name ≠ [dot, dot]

/-- What may stand behind the last part of a path: slashes, and single dots behind slashes. -/
inductive Trail : Bytes → Prop where
  | nil : Trail []
  | slash {trail : Bytes} : Trail trail → Trail (trail ++ [slash])
  | here {trail : Bytes} : Trail trail → Trail (trail ++ [slash, dot])

/-- A slash at the end is dropped. -/
theorem dropTrailing_slash (backwards : Bytes) :
    dropTrailing (slash :: backwards) = dropTrailing backwards := by
  cases backwards <;> simp [dropTrailing]

/-- A trail is dropped. -/
theorem dropTrailing_trail (trailing : Trail trail) (bytes : Bytes) :
    dropTrailing (bytes ++ trail).reverse = dropTrailing bytes.reverse := by
  induction trailing with
  | nil => rw [List.append_nil]
  | slash _ ih => rw [← List.append_assoc, List.reverse_concat, dropTrailing_slash, ih]
  | @here trail _ ih =>
    have turned : (bytes ++ (trail ++ [slash, dot])).reverse =
        dot :: slash :: (bytes ++ trail).reverse := by simp
    rw [turned, dropTrailing, if_pos (.inr ⟨rfl, rfl⟩), dropTrailing_slash, ih]

/-- What is dropped is a trail. -/
theorem exists_trail : ∀ backwards : Bytes,
    ∃ trail, Trail trail ∧ backwards.reverse = (dropTrailing backwards).reverse ++ trail
  | [] => ⟨[], .nil, rfl⟩
  | [byte] => by
    by_cases isSlash : byte = slash
    · exact ⟨[slash], Trail.nil.slash, by simp [dropTrailing, isSlash]⟩
    · exact ⟨[], .nil, by simp [dropTrailing, isSlash]⟩
  | byte :: next :: rest => by
    by_cases isSlash : byte = slash
    · obtain ⟨trail, trailing, split⟩ := exists_trail (next :: rest)
      refine ⟨trail ++ [slash], trailing.slash, ?_⟩
      rw [isSlash, dropTrailing_slash, List.reverse_cons, split, List.append_assoc]
    · by_cases isHere : byte = dot ∧ next = slash
      · obtain ⟨rfl, rfl⟩ := isHere
        obtain ⟨trail, trailing, split⟩ := exists_trail rest
        refine ⟨trail ++ [slash, dot], trailing.here, ?_⟩
        rw [dropTrailing, if_pos (.inr ⟨rfl, rfl⟩), dropTrailing_slash, List.reverse_cons,
          List.reverse_cons, split]
        simp
      · exact ⟨[], .nil, by simp [dropTrailing, isSlash, isHere]⟩

/-- A trail that is cut is a trail. -/
theorem Trail.take (trailing : Trail trail) (count : Nat) : Trail (trail.take count) := by
  induction trailing with
  | nil => simpa using Trail.nil
  | @slash trail before ih =>
    by_cases fits : count ≤ trail.length
    · rwa [List.take_append_of_le_length fits]
    · rw [List.take_of_length_le (by simp; omega)]
      exact before.slash
  | @here trail before ih =>
    by_cases fits : count ≤ trail.length
    · rwa [List.take_append_of_le_length fits]
    · by_cases one : count = trail.length + 1
      · rw [one, List.take_length_add_append]
        exact before.slash
      · rw [List.take_of_length_le (by simp; omega)]
        exact before.here

/-- A trail that is not empty starts with a slash. -/
theorem Trail.head? (trailing : Trail trail) : ∀ byte ∈ trail.head?, byte = Path.slash := by
  induction trailing with
  | nil => nofun
  | @slash trail before ih =>
    cases trail with
    | nil => simp
    | cons first rest => simpa using ih
  | @here trail before ih =>
    cases trail with
    | nil => simp
    | cons first rest => simpa using ih

/-- Whether a path is made of what stands in front of a file name, the name, and a trail. -/
structure Names (path : Path) (front name trail : Bytes) : Prop where
  bytes : path.bytes = front ++ name ++ trail
  closed : front = [] ∨ ∃ above, front = above ++ [slash]
  single : slash ∉ name
  proper : Proper name
  trailing : Trail trail

namespace Names

/-- Without its trail the path ends in the name. -/
theorem endsIn (names : path.Names front name trail) : EndsIn ⟨front ++ name⟩ front name :=
  ⟨rfl, names.closed, names.single⟩

/-- With another name and another trail, a path is made of them. -/
theorem replace (names : path.Names front name trail) {other rest : Bytes} (single : slash ∉ other)
    (proper : Proper other) (trailing : Trail rest) :
    Names ⟨front ++ other ++ rest⟩ front other rest :=
  ⟨rfl, names.closed, single, proper, trailing⟩

/-- The name is the last part of the path. -/
theorem split (names : path.Names front name trail) : path.split = (front, name) := by
  have whole := names.endsIn.dropTrailing names.proper.1 names.proper.2.1
  refine names.endsIn.split_of_dropTrailing ?_
  rw [names.bytes, dropTrailing_trail names.trailing, whole]

/-- The name of the file is the name. -/
theorem fileName? (names : path.Names front name trail) : path.fileName? = some name := by
  obtain ⟨visible, noDot, noDots⟩ := names.proper
  rw [Path.fileName?, names.split]
  simp [visible, noDot, noDots]

/-- The stem of the file is that of the name. -/
theorem fileStem? (names : path.Names front name trail) :
    path.fileStem? = some (splitName name).1 := by
  rw [Path.fileStem?, names.fileName?]
  rfl

/-- The extension of the file is that of the name. -/
theorem extension? (names : path.Names front name trail) :
    path.extension? = (splitName name).2 := by
  rw [Path.extension?, names.fileName?]
  rfl

/-- An extension is put behind the stem of the name, and nothing stands behind it. -/
theorem putExtension (names : path.Names front name trail) (extension : Text) :
    path.putExtension extension = ⟨front ++ ((splitName name).1 ++ dot :: extension.toBytes)⟩ := by
  rw [Path.putExtension, names.fileStem?, names.split, ← List.append_assoc]

end Names

/-- A path names a file exactly if it is made of a name and what stands around it. -/
theorem fileName?_eq_some_iff {name : Bytes} :
    path.fileName? = some name ↔ ∃ front trail, path.Names front name trail := by
  constructor
  · intro found
    obtain ⟨trail, trailing, cut⟩ := exists_trail path.bytes.reverse
    obtain ⟨front, last, ends⟩ := exists_endsIn ⟨(Path.dropTrailing path.bytes.reverse).reverse⟩
    have split := ends.split_of_dropTrailing (List.reverse_reverse _).symm
    simp only [Path.fileName?, split, Option.ite_none_left_eq_some, Option.some.injEq,
      not_or] at found
    obtain ⟨proper, rfl⟩ := found
    have whole : (Path.dropTrailing path.bytes.reverse).reverse = front ++ last := ends.bytes
    rw [List.reverse_reverse, whole] at cut
    exact ⟨front, trail, cut, ends.closed, ends.single, proper, trailing⟩
  · rintro ⟨front, trail, names⟩
    exact names.fileName?

/-- A path that names no file keeps its extension. -/
theorem withExtension_of_nameless (nameless : path.fileName? = none) (extension : Text) :
    path.withExtension extension = path := by
  simp [withExtension, extension?, putExtension, fileStem?, nameless]

section Extension

variable {stem old : Bytes}

/-- A path whose file has an extension is cut first. The cut takes bytes of the trail, and only then
    bytes of the old extension. -/
theorem Names.withExtension_eq_putExtension (names : path.Names front (stem ++ dot :: old) trail)
    (visible : stem ≠ []) (plain : dot ∉ old) (extension : Text) :
    path.withExtension extension =
      Path.putExtension ⟨front ++ (stem ++ dot :: old.take trail.length) ++
        trail.take (trail.length - old.length)⟩ extension := by
  have halves : path.bytes = (front ++ stem ++ [dot]) ++ (old ++ trail) := by
    rw [names.bytes]
    simp
  have count : path.bytes.length - old.length =
      (front ++ stem ++ [dot]).length + trail.length := by
    rw [halves]
    simp only [List.length_append]
    omega
  have left : path.bytes.take (path.bytes.length - old.length) =
      front ++ (stem ++ dot :: old.take trail.length) ++
        trail.take (trail.length - old.length) := by
    rw [count, halves, List.take_length_add_append, List.take_append]
    simp
  rw [Path.withExtension, names.extension?, splitName_append visible plain]
  dsimp only
  rw [left]

/-- What is left of the path names a file, unless the stem is a dot and nothing is left behind it. -/
theorem Names.cut (names : path.Names front (stem ++ dot :: old) trail) (visible : stem ≠ [])
    (kept : ¬(stem = [dot] ∧ trail = [])) :
    Names ⟨front ++ (stem ++ dot :: old.take trail.length) ++
      trail.take (trail.length - old.length)⟩ front (stem ++ dot :: old.take trail.length)
      (trail.take (trail.length - old.length)) := by
  have single : slash ∉ stem ++ dot :: old.take trail.length := by
    have absent := names.single
    simp only [List.mem_append, List.mem_cons, not_or] at absent ⊢
    exact ⟨absent.1, absent.2.1, fun member => absent.2.2 (List.mem_of_mem_take member)⟩
  have proper : Proper (stem ++ dot :: old.take trail.length) := by
    refine ⟨by simp, by simp [List.append_eq_singleton_iff, visible], ?_⟩
    intro dots
    obtain ⟨rfl, nothing⟩ : stem = [dot] ∧ old.take trail.length = [] := by
      cases stem with
      | nil => exact absurd rfl visible
      | cons first others => simpa [List.append_eq_singleton_iff, and_assoc] using dots
    obtain noTrail | noOld := List.take_eq_nil_iff.mp nothing
    · exact kept ⟨rfl, List.length_eq_zero_iff.mp noTrail⟩
    · exact names.proper.2.2 (by rw [noOld]; rfl)
  exact names.replace single proper (names.trailing.take _)

/-- How the extension of a path that names a file is replaced. The stem stands at the front of the
    name, in front of a dot or of the trail. -/
theorem Names.withExtension (names : path.Names front name trail) :
    ∃ stem rest, path.fileStem? = some stem ∧ stem ≠ [] ∧ name ++ trail = stem ++ rest ∧
      (∀ byte ∈ rest.head?, byte = dot ∨ byte = slash) ∧
      if stem = [dot] ∧ trail = [] then
        ∀ extension, path.withExtension extension = ⟨front ++ [dot, dot]⟩
      else
        ∀ extension, path.withExtension extension = ⟨front ++ (stem ++ dot :: extension.toBytes)⟩ := by
  obtain plain | ⟨stem, old, visible, noDot, rfl⟩ := splitName_cases name
  · refine ⟨name, trail, by rw [names.fileStem?, plain], names.proper.1, rfl, ?_, ?_⟩
    · exact fun byte first => .inr (names.trailing.head? byte first)
    · rw [if_neg fun alone => names.proper.2.1 alone.1]
      intro extension
      rw [Path.withExtension, names.extension?, plain]
      dsimp only
      rw [names.putExtension, plain]
  · have whole := splitName_append visible noDot
    refine ⟨stem, dot :: old ++ trail, by rw [names.fileStem?, whole], visible, by simp, by simp, ?_⟩
    split
    next alone =>
      obtain ⟨rfl, rfl⟩ := alone
      intro extension
      have dots : EndsIn ⟨front ++ [dot, dot]⟩ front [dot, dot] := ⟨rfl, names.closed, by decide⟩
      rw [names.withExtension_eq_putExtension visible noDot]
      simp [Path.putExtension, Path.fileStem?, dots.fileName?_dots]
    next kept =>
      intro extension
      rw [names.withExtension_eq_putExtension visible noDot, (names.cut visible kept).putExtension,
        splitName_append visible (fun member => noDot (List.mem_of_mem_take member))]

end Extension

/-- A path with its extension replaced has the same stem whatever the new extension is, unless no
    file name is left without the old one. -/
theorem EndsIn.withExtension_cases (ends : path.EndsIn front name) (proper : Proper name) :
    (∀ extension, path.withExtension extension = ⟨front ++ [dot, dot]⟩) ∨
      ∃ stem, slash ∉ stem ∧ ∀ extension,
        path.withExtension extension = ⟨front ++ (stem ++ dot :: extension.toBytes)⟩ := by
  have bytes : path.bytes = front ++ name ++ [] := by rw [List.append_nil, ends.bytes]
  have names : path.Names front name [] := ⟨bytes, ends.closed, ends.single, proper, .nil⟩
  obtain ⟨stem, rest, -, -, whole, -, replaced⟩ := names.withExtension
  split at replaced
  next => exact .inl replaced
  next =>
    refine .inr ⟨stem, fun member => ends.single ?_, replaced⟩
    rw [← List.append_nil name, whole]
    exact List.mem_append_left _ member

/-- The parts of a path are those of its pieces. -/
theorem parts_eq {bytes first : Bytes} {rest : List Bytes}
    (cut : pieces slash bytes = first :: rest) :
    parts ⟨bytes⟩ = (if isAbsolute ⟨bytes⟩ then [.root] else []) ++
      ((partOf? true first).toList ++ rest.filterMap (partOf? false)) := by
  rw [parts, cut]

/-- A piece behind a slash adds its part. -/
theorem parts_append_slash (front : Bytes) {piece : Bytes} (single : slash ∉ piece) :
    parts ⟨front ++ slash :: piece⟩ =
      parts ⟨front ++ [slash]⟩ ++ (partOf? false piece).toList := by
  obtain ⟨first, rest, cut⟩ := exists_pieces_eq_cons slash front
  have longer {piece : Bytes} (single : slash ∉ piece) :
      pieces slash (front ++ slash :: piece) = first :: (rest ++ [piece]) := by
    rw [pieces_append, cut, pieces_of_not_mem single, List.cons_append]
  have absolute : isAbsolute ⟨front ++ slash :: piece⟩ = isAbsolute ⟨front ++ [slash]⟩ := by
    cases front <;> rfl
  have own (piece : Bytes) :
      [piece].filterMap (partOf? false) = (partOf? false piece).toList := by
    cases counts : partOf? false piece <;> simp [counts]
  have nothing : partOf? false [] = none := rfl
  rw [parts_eq (longer single), parts_eq (longer List.not_mem_nil), absolute]
  simp only [List.filterMap_append, own, nothing, Option.toList_none, List.append_nil,
    List.append_assoc]

/-- A slash behind a part adds nothing. -/
theorem parts_append_singleton {bytes : Bytes} (present : bytes ≠ []) :
    parts ⟨bytes ++ [slash]⟩ = parts ⟨bytes⟩ := by
  obtain ⟨first, rest, cut⟩ := exists_pieces_eq_cons slash bytes
  have longer : pieces slash (bytes ++ [slash]) = first :: (rest ++ [[]]) := by
    rw [pieces_append, cut]
    rfl
  have absolute : isAbsolute ⟨bytes ++ [slash]⟩ = isAbsolute ⟨bytes⟩ := by
    cases bytes with
    | nil => exact absurd rfl present
    | cons _ _ => rfl
  rw [parts_eq longer, parts_eq cut, absolute]
  simp [List.filterMap_append, partOf?]

/-- A trail behind a part adds nothing. -/
theorem parts_append_trail {bytes : Bytes} (present : bytes ≠ []) (trailing : Trail trail) :
    parts ⟨bytes ++ trail⟩ = parts ⟨bytes⟩ := by
  induction trailing with
  | nil => rw [List.append_nil]
  | @slash trail _ ih =>
    rw [← List.append_assoc, parts_append_singleton (by simp [present]), ih]
  | @here trail _ ih =>
    have single : slash ∉ [dot] := by decide
    have behind : bytes ++ (trail ++ [slash, dot]) = (bytes ++ trail) ++ slash :: [dot] := by simp
    rw [behind, parts_append_slash _ single, parts_append_singleton (by simp [present]), ih]
    exact List.append_nil _

/-- The parts of a path that names a file are those in front of the name, and the name. -/
theorem Names.parts (names : path.Names front name trail) :
    path.parts = Path.parts ⟨front⟩ ++ [.name name] := by
  obtain ⟨bytes⟩ := path
  obtain rfl : bytes = front ++ name ++ trail := names.bytes
  obtain ⟨visible, noDot, noDots⟩ := names.proper
  rw [parts_append_trail (by simp [visible]) names.trailing]
  obtain rfl | ⟨above, rfl⟩ := names.closed
  · have relative : isAbsolute ⟨name⟩ = false := by
      have absent := names.single
      cases name with
      | nil => rfl
      | cons first _ => simpa [isAbsolute] using (List.ne_of_not_mem_cons absent).symm
    rw [List.nil_append, parts_eq (pieces_of_not_mem names.single), relative]
    simp [partOf?, visible, noDot, noDots]
    rfl
  · rw [List.append_assoc, List.singleton_append, parts_append_slash _ names.single]
    simp [partOf?, visible, noDot, noDots]

end FlashMarkup.Path
