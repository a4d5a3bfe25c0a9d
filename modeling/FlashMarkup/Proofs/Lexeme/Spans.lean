import FlashMarkup.Proofs.Lexeme.Classes
import FlashMarkup.Proofs.Position.Locator

/-!
# Spans of lexemes

Spans follow one another if each starts where the one before it stops. The spans of consecutive
lexemes do, and they select the texts of the lexemes. Going back, spans that follow one another and
select texts of their classes are those of lexemes: where a text of so many bytes stands in front of
a source, no other one does.
-/

namespace FlashMarkup.Lexeme

/-- Whether spans follow one another from a byte offset to another one. -/
def Contiguous (start : Nat) (spans : List Span) (stop : Nat) : Prop :=
  match spans with
  | [] => start = stop
  | span :: rest => span.start = start ∧ Contiguous span.stop rest stop

/-- Whether a span selects a text from a source. -/
def Span.Selects (span : Span) (source content : Text) : Prop :=
  ∃ front back, source = front ++ content ++ back ∧ span.start = front.byteLength ∧
    span.stop = (front ++ content).byteLength

/-- Spans of two parts follow one another if they do in each, and meet in between. -/
theorem contiguous_append {start stop : Nat} {front back : List Span} :
    Contiguous start (front ++ back) stop ↔
      ∃ middle, Contiguous start front middle ∧ Contiguous middle back stop := by
  induction front generalizing start with
  | nil => simp [Contiguous]
  | cons span rest ih => simp [Contiguous, ih, and_assoc]

/-- Spans that follow one another have a single start and a single end. -/
theorem Contiguous.unique {first second start stop : Nat} {spans : List Span}
    (present : spans ≠ []) (one : Contiguous first spans start)
    (other : Contiguous second spans stop) : first = second ∧ start = stop := by
  induction spans generalizing first second with
  | nil => contradiction
  | cons span rest ih =>
    obtain ⟨rfl, one⟩ := one
    obtain ⟨rfl, other⟩ := other
    cases rest with
    | nil => exact ⟨rfl, one.symm.trans other⟩
    | cons next more => exact ⟨rfl, (ih (List.cons_ne_nil next more) one other).2⟩

/-- Spans that follow one another and are not empty lie between their start and their end. -/
theorem Contiguous.bounds {start stop : Nat} {spans : List Span}
    (contiguous : Contiguous start spans stop)
    (nonempty : ∀ span ∈ spans, span.start < span.stop) :
    start ≤ stop ∧ ∀ span ∈ spans, start ≤ span.start ∧ span.stop ≤ stop := by
  induction spans generalizing start with
  | nil => exact ⟨Nat.le_of_eq contiguous, by simp⟩
  | cons span rest ih =>
    obtain ⟨rfl, later⟩ := contiguous
    have positive := nonempty span List.mem_cons_self
    obtain ⟨ordered, inside⟩ := ih later fun other member =>
      nonempty other (List.mem_cons_of_mem span member)
    refine ⟨by omega, fun other member => ?_⟩
    rcases List.mem_cons.mp member with rfl | behind
    · exact ⟨Nat.le_refl _, ordered⟩
    · have bounds := inside other behind
      omega

/-- Where spans follow one another, those between the start and the end of some of them are among
    these. -/
theorem Contiguous.mem_middle {low high start stop : Nat} {front middle back : List Span}
    (contiguous : Contiguous low (front ++ middle ++ back) high)
    (nonempty : ∀ span ∈ front ++ middle ++ back, span.start < span.stop)
    (present : middle ≠ []) (between : Contiguous start middle stop) {span : Span}
    (member : span ∈ front ++ middle ++ back) (inside : start ≤ span.start ∧ span.stop ≤ stop) :
    span ∈ middle := by
  obtain ⟨second, untilBack, fromBack⟩ := contiguous_append.mp contiguous
  obtain ⟨first, untilMiddle, within⟩ := contiguous_append.mp untilBack
  obtain ⟨rfl, rfl⟩ := within.unique present between
  have positive := nonempty span member
  simp only [List.append_assoc, List.mem_append] at nonempty member
  rcases member with ahead | inMiddle | behind
  · have bounds := (untilMiddle.bounds fun other member => nonempty other (.inl member)).2 span ahead
    omega
  · exact inMiddle
  · have bounds :=
      (fromBack.bounds fun other member => nonempty other (.inr (.inr member))).2 span behind
    omega

/-- The spans of consecutive lexemes follow one another. -/
theorem contiguous_spansFrom (start : Nat) (lexemes : List Lexeme) :
    Contiguous start (spansFrom start lexemes) (start + (concat lexemes).byteLength) := by
  induction lexemes generalizing start with
  | nil => rfl
  | cons lexeme rest ih =>
    have later := ih (start + lexeme.text.byteLength)
    rw [Nat.add_assoc, ← Text.byteLength_append] at later
    exact ⟨rfl, later⟩

/-- The spans of consecutive lexemes have their classes. -/
theorem map_kind_spansFrom (start : Nat) (lexemes : List Lexeme) :
    (spansFrom start lexemes).map Span.kind = lexemes.map kind := by
  induction lexemes generalizing start with
  | nil => rfl
  | cons lexeme rest ih => exact congrArg (lexeme.kind :: ·) (ih _)

/-- The spans of two parts are those of the first and, behind them, those of the second. -/
theorem spansFrom_append (start : Nat) (front back : List Lexeme) :
    spansFrom start (front ++ back) =
      spansFrom start front ++ spansFrom (start + (concat front).byteLength) back := by
  induction front generalizing start with
  | nil => rfl
  | cons lexeme rest ih =>
    have size : (concat (lexeme :: rest)).byteLength =
        lexeme.text.byteLength + (concat rest).byteLength := Text.byteLength_append _ _
    rw [List.cons_append, spansFrom, ih, size, ← Nat.add_assoc]
    rfl

/-- Lexemes of two parts concatenate to what each of them does. -/
theorem concat_append (front back : List Lexeme) :
    concat (front ++ back) = concat front ++ concat back := List.flatMap_append

/-- A span of consecutive lexemes is that of one of them, with what they consist of around it. -/
theorem exists_lexeme_of_mem {span : Span} {start : Nat} {lexemes : List Lexeme}
    (member : span ∈ spansFrom start lexemes) :
    ∃ before lexeme after, lexemes = before ++ lexeme :: after ∧
      span = ⟨lexeme.kind, start + (concat before).byteLength,
        start + (concat before ++ lexeme.text).byteLength⟩ := by
  induction lexemes generalizing start with
  | nil => contradiction
  | cons lexeme rest ih =>
    rcases List.mem_cons.mp member with rfl | later
    · exact ⟨[], lexeme, rest, rfl, rfl⟩
    · obtain ⟨before, other, after, rfl, rfl⟩ := ih later
      refine ⟨lexeme :: before, other, after, rfl, ?_⟩
      have size : (concat (lexeme :: before)) = lexeme.text ++ concat before := rfl
      simp only [size, Text.byteLength_append, Nat.add_assoc]

/-- Two texts at the front of a source are the same if they end at the same byte. -/
theorem front_unique {front other rest behind : Text} (same : front ++ rest = other ++ behind)
    (size : front.byteLength = other.byteLength) : front = other ∧ rest = behind := by
  have first : front <+: front ++ rest := List.prefix_append _ _
  have second : other <+: front ++ rest := same ▸ List.prefix_append _ _
  have shorter := Locator.prefix_of_byteLength_le first second (Nat.le_of_eq size)
  have longer := Locator.prefix_of_byteLength_le second first (Nat.le_of_eq size.symm)
  obtain rfl := shorter.eq_of_length_le longer.length_le
  exact ⟨rfl, List.append_cancel_left same⟩

/-- Spans that follow one another and select texts of their classes are those of lexemes.

    Induct on the spans, for a source of which the part in front of them has been passed. -/
theorem exists_lexemes {source front rest : Text} {spans : List Span}
    (whole : source = front ++ rest)
    (contiguous : Contiguous front.byteLength spans source.byteLength)
    (classed : ∀ span ∈ spans, ∃ content,
      span.Selects source content ∧ span.kind.Matches content) :
    ∃ lexemes : List Lexeme, spans = spansFrom front.byteLength lexemes ∧ rest = concat lexemes ∧
      ∀ lexeme ∈ lexemes, lexeme.kind.Matches lexeme.text := by
  induction spans generalizing front rest with
  | nil =>
    have sizes : front.byteLength = (front ++ rest).byteLength := whole ▸ contiguous
    have none : rest = [] := by
      by_contra present
      have positive := Text.byteLength_pos present
      rw [Text.byteLength_append] at sizes
      omega
    exact ⟨[], rfl, none, by simp⟩
  | cons span others ih =>
    obtain ⟨start, later⟩ := contiguous
    obtain ⟨content, ⟨before, back, selected, starts, stops⟩, fits⟩ :=
      classed span List.mem_cons_self
    rw [List.append_assoc, whole] at selected
    obtain ⟨rfl, rfl⟩ := front_unique selected (start.symm.trans starts)
    rw [stops] at later
    obtain ⟨lexemes, rfl, rfl, matched⟩ :=
      ih (by rw [whole, List.append_assoc]) later fun other member =>
        classed other (List.mem_cons_of_mem span member)
    refine ⟨⟨span.kind, content⟩ :: lexemes, ?_, rfl, ?_⟩
    · rw [spansFrom]
      dsimp only
      rw [← Text.byteLength_append, ← stops, ← start]
    · intro lexeme member
      rcases List.mem_cons.mp member with rfl | behind
      · exact fits
      · exact matched lexeme behind

end FlashMarkup.Lexeme
