import FlashMarkup.Position.Locator
import FlashMarkup.Proofs.Position.Behind

/-!
# Looking up positions at character boundaries

A locator counts from its last answer where it can. As long as the offsets it is asked for end at
characters, its last answer is the position of a part of the source, and so is the next one: the
line is found among the starts of lines up to the offset, and the column goes on from a part of the
same line. The answer is therefore the position behind the part of the source in front of the
offset, whatever was asked before.
-/

namespace FlashMarkup

namespace Text

/-- The bytes of a text are those of its first character and those of the rest. -/
theorem byteLength_cons (c : Char) (rest : Text) :
    byteLength (c :: rest) = c.utf8Size + byteLength rest := rfl

/-- The bytes of two texts are those of the first and those of the second. -/
theorem byteLength_append (first second : Text) :
    (first ++ second).byteLength = first.byteLength + second.byteLength := by
  induction first with
  | nil => exact (Nat.zero_add _).symm
  | cons c rest ih =>
    rw [List.cons_append, byteLength_cons, byteLength_cons, ih, Nat.add_assoc]

/-- A text that is not empty has bytes. -/
theorem byteLength_pos {content : Text} (present : content ≠ []) : 0 < content.byteLength := by
  obtain ⟨c, rest, rfl⟩ := List.exists_cons_of_ne_nil present
  exact Nat.lt_of_lt_of_le c.utf8Size_pos (Nat.le_add_right _ _)

/-- Dropping the bytes of the text in front leaves the text behind. -/
theorem dropBytes_append (front behind : Text) :
    (front ++ behind).dropBytes front.byteLength = some behind := by
  induction front with
  | nil => rw [List.nil_append, show byteLength [] = 0 from rfl, dropBytes.eq_1]
  | cons c rest ih =>
    have size := byteLength_cons c rest
    obtain ⟨count, positive⟩ : ∃ count, byteLength (c :: rest) = count + 1 :=
      Nat.exists_eq_add_one.mpr (byteLength_pos (List.cons_ne_nil c rest))
    have fits : c.utf8Size ≤ count + 1 := by omega
    have left : count + 1 - c.utf8Size = byteLength rest := by omega
    rw [positive, List.cons_append, dropBytes, if_pos fits, left, ih]

end Text

namespace Locator

/-- The distance between two character boundaries is the number of characters between them. -/
theorem distance_append (front between behind : Text) :
    distance (front ++ between ++ behind) front.byteLength (front ++ between).byteLength =
      between.length := by
  have high := Text.dropBytes_append (front ++ between) behind
  have low := Text.dropBytes_append front (between ++ behind)
  rw [← List.append_assoc] at low
  simp only [distance, low, high, List.length_append]
  omega

/-- The starts of the lines of two texts are those of the first and then those of the second. -/
theorem startsAfterBreaks_append (offset : Nat) (first second : Text) :
    startsAfterBreaks offset (first ++ second) =
      startsAfterBreaks offset first ++
        startsAfterBreaks (offset + first.byteLength) second := by
  induction first generalizing offset with
  | nil => rfl
  | cons c rest ih =>
    rw [Text.byteLength_cons, ← Nat.add_assoc]
    simp only [List.cons_append, startsAfterBreaks, ih]
    split <;> rfl

/-- Each line break of a text starts one line. -/
theorem length_startsAfterBreaks (offset : Nat) (content : Text) :
    (startsAfterBreaks offset content).length = content.count '\n' := by
  induction content generalizing offset with
  | nil => rfl
  | cons c rest ih =>
    simp only [startsAfterBreaks, List.count_cons, beq_iff_eq]
    split <;> simp [ih]

/-- Lines start behind the start of their text and not behind its end. -/
theorem bounds_of_mem_startsAfterBreaks {offset start : Nat} {content : Text}
    (member : start ∈ startsAfterBreaks offset content) :
    offset < start ∧ start ≤ offset + content.byteLength := by
  induction content generalizing offset with
  | nil => contradiction
  | cons c rest ih =>
    have size := Text.byteLength_cons c rest
    have positive := c.utf8Size_pos
    have later : start ∈ startsAfterBreaks (offset + c.utf8Size) rest →
        offset < start ∧ start ≤ offset + Text.byteLength (c :: rest) := by
      intro behind
      have bounds := ih behind
      omega
    simp only [startsAfterBreaks] at member
    split at member
    next =>
      rcases List.mem_cons.mp member with rfl | behind
      · omega
      · exact later behind
    next => exact later member

/-- No line starts behind the first one in a text without line breaks. -/
theorem startsAfterBreaks_unbroken (offset : Nat) {content : Text} (unbroken : '\n' ∉ content) :
    startsAfterBreaks offset content = [] := by
  apply List.eq_nil_of_length_eq_zero
  rw [length_startsAfterBreaks]
  exact List.count_eq_zero.mpr unbroken

/-- The last line of a text starts behind its earlier lines. -/
theorem getLast_starts (content : Text) :
    (0 :: startsAfterBreaks 0 content).getLast? = some content.earlierLines.byteLength := by
  have starts : startsAfterBreaks 0 content = startsAfterBreaks 0 content.earlierLines := by
    conv_lhs => rw [← content.earlierLines_append_lastLine]
    rw [startsAfterBreaks_append, startsAfterBreaks_unbroken _ content.break_not_mem_lastLine,
      List.append_nil]
  rw [starts]
  rcases content.earlierLines_spec with none | ⟨lines, ended⟩
  · rw [none]
    rfl
  · have last : startsAfterBreaks lines.byteLength ['\n'] = [lines.byteLength + 1] := rfl
    rw [ended, startsAfterBreaks_append, Nat.zero_add, last, ← List.cons_append,
      List.getLast?_concat, Text.byteLength_append]
    rfl

/-- The part of a line in front of an offset, as a locator remembers it. -/
def answerFor (front : Text) : Answer :=
  ⟨front.count '\n', front.byteLength, front.lastLine.length⟩

/-- A locator of a source whose last answer, if there was one, is right for the part of the source in
    front of the offset asked for. -/
structure Tracks (locator : Locator) (source : Text) : Prop where
  sourced : locator.source = source
  started : locator.lineStarts = 0 :: startsAfterBreaks 0 source
  answered : ∀ answer ∈ locator.last, ∃ front, front <+: source ∧ answer = answerFor front

/-- A new locator of a source has answered nothing. -/
theorem tracks_new (source : Text) : (new source).Tracks source :=
  ⟨rfl, rfl, fun answer member => by contradiction⟩

/-- The starts of lines up to a character boundary are those of the part in front of it. -/
theorem startsUpTo_boundary {locator : Locator} {front behind : Text}
    (tracks : locator.Tracks (front ++ behind)) :
    locator.startsUpTo front.byteLength = 0 :: startsAfterBreaks 0 front := by
  rw [startsUpTo, tracks.started, List.filter_cons_of_pos (by simp), startsAfterBreaks_append,
    Nat.zero_add, List.filter_append]
  have before : ∀ start ∈ startsAfterBreaks 0 front,
      decide (start ≤ front.byteLength) = true := by
    intro start member
    have bounds := bounds_of_mem_startsAfterBreaks member
    rw [decide_eq_true_eq]
    omega
  have after : ∀ start ∈ startsAfterBreaks front.byteLength behind,
      ¬ decide (start ≤ front.byteLength) = true := by
    intro start member
    have bounds := bounds_of_mem_startsAfterBreaks member
    rw [decide_eq_true_eq]
    omega
  rw [List.filter_eq_self.mpr before, List.filter_eq_nil_iff.mpr after, List.append_nil]

/-- Of two parts at the front of a source, the one with fewer bytes is at the front of the other. -/
theorem prefix_of_byteLength_le {first second source : Text} (firstFront : first <+: source)
    (secondFront : second <+: source) (shorter : first.byteLength ≤ second.byteLength) :
    first <+: second := by
  rcases List.prefix_or_prefix_of_prefix firstFront secondFront with inside | ⟨more, rfl⟩
  · exact inside
  · cases more with
    | nil => simp
    | cons c rest =>
      have positive := Text.byteLength_pos (List.cons_ne_nil c rest)
      rw [Text.byteLength_append] at shorter
      omega

/-- A locator counts from a part of the line, and knows how many characters of the line stand in
    front of it. -/
theorem anchor_boundary {locator : Locator} {front behind : Text}
    (tracks : locator.Tracks (front ++ behind)) :
    ∃ known between, front = known ++ between ∧
      locator.anchor (front.count '\n') front.byteLength front.earlierLines.byteLength =
        (known.byteLength, front.lastLine.length - between.length) ∧
      between.length ≤ front.lastLine.length := by
  have fresh : ∃ known between, front = known ++ between ∧
      (front.earlierLines.byteLength, 0) =
        (known.byteLength, front.lastLine.length - between.length) ∧
      between.length ≤ front.lastLine.length :=
    ⟨front.earlierLines, front.lastLine, front.earlierLines_append_lastLine.symm, by simp, by simp⟩
  unfold anchor
  split
  next answer remembered =>
    obtain ⟨earlier, inside, rfl⟩ := tracks.answered answer remembered
    split
    next same =>
      obtain ⟨between, rfl⟩ :=
        prefix_of_byteLength_le inside (List.prefix_append front behind) same.2
      have unbroken : '\n' ∉ between := by
        have lines : earlier.count '\n' = (earlier ++ between).count '\n' := same.1
        rw [List.count_append] at lines
        exact List.count_eq_zero.mp (by omega)
      refine ⟨earlier, between, rfl, ?_, ?_⟩
      · simp [answerFor, Text.lastLine_append earlier unbroken]
      · simp [Text.lastLine_append earlier unbroken]
    next => exact fresh
  next => exact fresh

/-- Asked for a character boundary, a locator answers with the position behind the part of the source
    in front of it, and it remembers a right answer. -/
theorem locate_boundary {locator : Locator} {front behind : Text}
    (tracks : locator.Tracks (front ++ behind)) :
    (locator.locate front.byteLength).1 = Position.behind front ∧
      (locator.locate front.byteLength).2.Tracks (front ++ behind) := by
  have inside : min front.byteLength locator.source.byteLength = front.byteLength := by
    rw [tracks.sourced, Text.byteLength_append]
    omega
  have starts := startsUpTo_boundary tracks
  have line : (0 :: startsAfterBreaks 0 front).length - 1 = front.count '\n' := by
    simp [length_startsAfterBreaks]
  obtain ⟨known, between, split, anchored, short⟩ := anchor_boundary tracks
  have apart : distance locator.source known.byteLength front.byteLength = between.length := by
    rw [tracks.sourced, split]
    exact distance_append known between behind
  have column : front.lastLine.length - between.length + between.length = front.lastLine.length :=
    Nat.sub_add_cancel short
  have answered : locator.locate front.byteLength =
      (Position.behind front, { locator with last := some (answerFor front) }) := by
    simp only [locate, inside, starts, line, getLast_starts, Option.getD_some, anchored, apart,
      column]
    rfl
  rw [answered]
  refine ⟨rfl, tracks.sourced, tracks.started, ?_⟩
  intro answer member
  obtain rfl := Option.some.inj member
  exact ⟨front, List.prefix_append _ _, rfl⟩

/-- The answers of a locator that is asked for several offsets one after the other. -/
def locateAll (locator : Locator) : List Nat → List Position
  | [] => []
  | offset :: rest => (locator.locate offset).1 :: (locator.locate offset).2.locateAll rest

end Locator

end FlashMarkup
