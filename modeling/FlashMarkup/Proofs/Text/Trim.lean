import FlashMarkup.Proofs.Text.Run

/-!
# What trimming leaves

A text is blanks, a core and blanks again, where the core neither begins nor ends with a blank.
Trimming gives the core. Blanks around a text therefore never change what trimming gives, and a
trimmed text is trimmed already.
-/

namespace FlashMarkup.Text

/-- Whether all characters of a text are blank. -/
def Blank (content : Text) : Prop := ∀ c ∈ content, isBlank c = true

instance (content : Text) : Decidable (Blank content) :=
  List.decidableBAll (fun c => isBlank c = true) content

/-- A text without characters is blank. -/
theorem blank_nil : Blank [] := by
  intro c member
  contradiction

/-- A blank character by itself is blank. -/
theorem blank_singleton {c : Char} (blank : isBlank c = true) : Blank [c] := by
  intro d member
  rwa [List.mem_singleton.mp member]

/-- The blanks at the front of a text are blank. -/
theorem blank_takeWhile (content : Text) : Blank (content.takeWhile isBlank) := by
  intro c member
  exact List.mem_takeWhile_imp member

/-- The spaces of an indentation are blank. -/
theorem blank_spaces (width : Nat) : Blank (spaces width) := by
  intro c member
  rw [(List.mem_replicate.mp member).2]
  rfl

/-- A line break is blank. -/
theorem blank_newline : Blank ['\n'] := blank_singleton rfl

/-- Trimming takes the blanks around a core away, and nothing else. -/
theorem trim_of_core {front core back : Text} (frontBlank : Blank front) (backBlank : Blank back)
    (begins : EndsRun isBlank core) (ends : EndsRun isBlank core.reverse) :
    trim (front ++ core ++ back) = core := by
  have reversedBlank : ∀ c ∈ back.reverse, isBlank c = true := by simpa [Blank] using backBlank
  cases core with
  | nil =>
    have allBlank : ∀ c ∈ front ++ back, isBlank c = true := by
      intro c member
      rcases List.mem_append.mp member with member | member
      · exact frontBlank c member
      · exact backBlank c member
    simp [trim, trimEnd, trimStart, List.dropWhile_eq_nil_iff.mpr allBlank]
  | cons c others =>
    have borderStart : EndsRun isBlank (c :: others ++ back) := begins
    rw [trim, trimEnd, trimStart, trimStart, List.append_assoc, dropWhile_run frontBlank borderStart,
      List.reverse_append, dropWhile_run reversedBlank ends, List.reverse_reverse]

/-- Every text is a core with blanks around it, and the core is what trimming gives. -/
theorem exists_core (content : Text) :
    ∃ front back, content = front ++ trim content ++ back ∧ Blank front ∧ Blank back ∧
      EndsRun isBlank (trim content) ∧ EndsRun isBlank (trim content).reverse := by
  let middle := content.dropWhile isBlank
  let core := (middle.reverse.dropWhile isBlank).reverse
  let front := content.takeWhile isBlank
  let back := (middle.reverse.takeWhile isBlank).reverse
  have middleSplit : middle = core ++ back := by
    rw [← List.reverse_append, List.takeWhile_append_dropWhile, List.reverse_reverse]
  have whole : content = front ++ core ++ back := by
    rw [List.append_assoc, ← middleSplit, List.takeWhile_append_dropWhile]
  have frontBlank : Blank front := blank_takeWhile content
  have backBlank : Blank back := by
    intro c member
    exact blank_takeWhile middle.reverse c (List.mem_reverse.mp member)
  have ends : EndsRun isBlank core.reverse := by
    rw [List.reverse_reverse]
    exact endsRun_dropWhile isBlank middle.reverse
  have begins : EndsRun isBlank core := by
    intro c first
    obtain ⟨others, same⟩ := List.head?_eq_some_iff.mp first
    have middleFirst : middle.head? = some c := by rw [middleSplit, same]; rfl
    exact endsRun_dropWhile isBlank content c middleFirst
  exact ⟨front, back, whole, frontBlank, backBlank, begins, ends⟩

/-- Blanks around a text do not change what trimming gives. -/
theorem trim_append_blanks {front back : Text} (frontBlank : Blank front) (backBlank : Blank back)
    (content : Text) : trim (front ++ content ++ back) = trim content := by
  obtain ⟨before, after, whole, beforeBlank, afterBlank, begins, ends⟩ := exists_core content
  have outerFront : Blank (front ++ before) := List.forall_mem_append.mpr ⟨frontBlank, beforeBlank⟩
  have outerBack : Blank (after ++ back) := List.forall_mem_append.mpr ⟨afterBlank, backBlank⟩
  have shape : front ++ content ++ back = front ++ before ++ trim content ++ (after ++ back) :=
    calc front ++ content ++ back
      _ = front ++ (before ++ trim content ++ after) ++ back := by rw [← whole]
      _ = front ++ before ++ trim content ++ (after ++ back) := by simp
  rw [shape, trim_of_core outerFront outerBack begins ends]

/-- A trimmed text is trimmed already. -/
theorem trim_trim (content : Text) : trim (trim content) = trim content := by
  obtain ⟨-, -, -, -, -, begins, ends⟩ := exists_core content
  simpa using trim_of_core blank_nil blank_nil begins ends

/-- Trimming gives nothing exactly where all characters are blank. -/
theorem trim_eq_nil_iff (content : Text) : trim content = [] ↔ Blank content := by
  constructor
  · intro empty
    obtain ⟨front, back, whole, frontBlank, backBlank, -, -⟩ := exists_core content
    rw [empty, List.append_nil] at whole
    rw [whole]
    exact List.forall_mem_append.mpr ⟨frontBlank, backBlank⟩
  · intro blank
    have noCore : EndsRun isBlank [] := endsRun_nil isBlank
    simpa using trim_of_core blank blank_nil noCore noCore

/-- Whether a text is a core with blanks around it. -/
def Pads (core content : Text) : Prop :=
  ∃ front back, Blank front ∧ Blank back ∧ content = front ++ core ++ back

/-- Whether texts differ in blanks around them only. -/
def SameInside (first second : Text) : Prop := ∃ core, Pads core first ∧ Pads core second

/-- Texts that differ in blanks around them only are those from which trimming gives the same. -/
theorem sameInside_iff (first second : Text) :
    SameInside first second ↔ trim first = trim second := by
  constructor
  · rintro ⟨core, ⟨front, back, frontBlank, backBlank, rfl⟩, before, after, beforeBlank, afterBlank,
      rfl⟩
    rw [trim_append_blanks frontBlank backBlank, trim_append_blanks beforeBlank afterBlank]
  · intro same
    obtain ⟨front, back, whole, frontBlank, backBlank, -, -⟩ := exists_core first
    obtain ⟨before, after, other, beforeBlank, afterBlank, -, -⟩ := exists_core second
    rw [← same] at other
    exact ⟨trim first, ⟨front, back, frontBlank, backBlank, whole⟩,
      before, after, beforeBlank, afterBlank, other⟩

end FlashMarkup.Text
