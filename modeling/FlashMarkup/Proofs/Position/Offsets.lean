import FlashMarkup.Proofs.Position.Locator
import Mathlib.Data.List.Basic

/-!
# What stands before a byte offset

Byte offsets are compared with those at which characters start and line breaks stand, so that an
offset inside a character is like any other. How many characters start in a stretch adds up over
stretches and never exceeds its bytes. A line starts at a boundary between characters, and of two
boundaries the first has the earlier line, or on the same line fewer characters before it.
-/

namespace FlashMarkup

namespace Text

/-- The byte offsets at which the characters of a text start, if the first of them starts at the
    given one. -/
def startsFrom (offset : Nat) : Text → List Nat
  | [] => []
  | c :: rest => offset :: startsFrom (offset + c.utf8Size) rest

/-- The byte offsets of the line breaks of a text, if its first character starts at the given
    one. -/
def breaksFrom (offset : Nat) : Text → List Nat
  | [] => []
  | c :: rest =>
    if c = '\n' then offset :: breaksFrom (offset + c.utf8Size) rest
    else breaksFrom (offset + c.utf8Size) rest

/-- The number of line breaks that stand before a byte offset. -/
def breaksBefore (source : Text) (offset : Nat) : Nat := (source.breaksFrom 0).countP (· < offset)

/-- The byte offset just past the last line break that stands before the given one, or that of the
    first character. -/
def lineStart (source : Text) (offset : Nat) : Nat :=
  (((source.breaksFrom 0).filter (· < offset)).getLast?.map (· + 1)).getD 0

/-- The number of characters that start at a byte offset or behind it, and before another one. -/
def charsWithin (source : Text) (low high : Nat) : Nat :=
  (source.startsFrom 0).countP fun start => low ≤ start && start < high

/-- Whether a character starts at a byte offset, or the text ends there. -/
def IsBoundary (source : Text) (offset : Nat) : Prop :=
  offset ∈ source.startsFrom 0 ∨ offset = source.byteLength

instance (source : Text) (offset : Nat) : Decidable (source.IsBoundary offset) :=
  inferInstanceAs (Decidable (offset ∈ source.startsFrom 0 ∨ offset = source.byteLength))

/-- A text has as many starts as characters. -/
theorem length_startsFrom (offset : Nat) (content : Text) :
    (startsFrom offset content).length = content.length := by
  induction content generalizing offset with
  | nil => rfl
  | cons c rest ih => rw [startsFrom, List.length_cons, ih, List.length_cons]

/-- Characters start at the start of their text or behind it, and before its end. -/
theorem bounds_of_mem_startsFrom {offset start : Nat} {content : Text}
    (member : start ∈ startsFrom offset content) :
    offset ≤ start ∧ start < offset + content.byteLength := by
  induction content generalizing offset with
  | nil => contradiction
  | cons c rest ih =>
    have size := byteLength_cons c rest
    have positive := c.utf8Size_pos
    rcases List.mem_cons.mp member with rfl | later
    · omega
    · have bounds := ih later
      omega

/-- A character that stands behind a text starts where the text ends. -/
theorem mem_startsFrom_append (offset : Nat) (front : Text) (c : Char) (rest : Text) :
    offset + front.byteLength ∈ startsFrom offset (front ++ c :: rest) := by
  induction front generalizing offset with
  | nil => exact List.mem_cons_self
  | cons d others ih =>
    refine List.mem_cons_of_mem offset ?_
    rw [byteLength_cons, ← Nat.add_assoc]
    exact ih (offset + d.utf8Size)

/-- The two parts of a source meet at a boundary. -/
theorem isBoundary_append (front back : Text) : (front ++ back).IsBoundary front.byteLength := by
  cases back with
  | nil => exact .inr (by rw [List.append_nil])
  | cons c rest =>
    have starts := mem_startsFrom_append 0 front c rest
    rw [Nat.zero_add] at starts
    exact .inl starts

/-- Behind a line break another character starts, or the text ends. -/
theorem boundary_of_mem_breaksFrom {offset stop : Nat} {content : Text}
    (member : stop ∈ breaksFrom offset content) :
    stop + 1 ∈ startsFrom offset content ∨ stop + 1 = offset + content.byteLength := by
  induction content generalizing offset with
  | nil => contradiction
  | cons c rest ih =>
    have size := byteLength_cons c rest
    have inner (later : stop ∈ breaksFrom (offset + c.utf8Size) rest) :
        stop + 1 ∈ startsFrom offset (c :: rest) ∨
          stop + 1 = offset + byteLength (c :: rest) := by
      rcases ih later with starts | ends
      · exact .inl (List.mem_cons_of_mem _ starts)
      · exact .inr (by omega)
    rw [breaksFrom] at member
    split at member
    next broken =>
      subst broken
      rcases List.mem_cons.mp member with rfl | later
      · cases rest with
        | nil => exact .inr rfl
        | cons d others => exact .inl (List.mem_cons_of_mem _ List.mem_cons_self)
      · exact inner later
    next => exact inner member

/-- No more characters start in a stretch than it has bytes. -/
theorem countP_startsFrom_le (offset low high : Nat) (content : Text) :
    (startsFrom offset content).countP (fun start => low ≤ start && start < high) ≤
      high - max low offset := by
  induction content generalizing offset with
  | nil => exact Nat.zero_le _
  | cons c rest ih =>
    have later := ih (offset + c.utf8Size)
    have positive := c.utf8Size_pos
    rw [startsFrom, List.countP_cons]
    by_cases inside : low ≤ offset ∧ offset < high
    · simp only [inside, decide_true, Bool.and_self, if_true]
      omega
    · have outside : ¬ (decide (low ≤ offset) && decide (offset < high)) = true := by
        simpa using inside
      rw [if_neg outside]
      omega

/-- The characters that start in two stretches are those of the first and those of the second. -/
theorem charsWithin_add (source : Text) {low middle high : Nat} (first : low ≤ middle)
    (second : middle ≤ high) :
    source.charsWithin low middle + source.charsWithin middle high =
      source.charsWithin low high := by
  unfold charsWithin
  induction source.startsFrom 0 with
  | nil => rfl
  | cons start rest ih =>
    simp only [List.countP_cons, Bool.and_eq_true, decide_eq_true_eq]
    split_ifs <;> omega

/-- No character starts in an empty stretch. -/
theorem charsWithin_self (source : Text) (offset : Nat) : source.charsWithin offset offset = 0 := by
  rw [charsWithin, List.countP_eq_zero]
  intro start member
  simp

/-- What is left behind some bytes has as many characters as start behind them. -/
theorem countP_of_dropBytes {count : Nat} {content rest : Text}
    (dropped : content.dropBytes count = some rest) (offset : Nat) :
    (startsFrom offset content).countP (offset + count ≤ ·) = rest.length := by
  induction content generalizing count offset with
  | nil =>
    cases count with
    | zero =>
      rw [dropBytes.eq_1] at dropped
      cases dropped
      rfl
    | succ count => contradiction
  | cons c others ih =>
    cases count with
    | zero =>
      rw [dropBytes.eq_1] at dropped
      cases dropped
      rw [← length_startsFrom offset, List.countP_eq_length]
      intro start member
      simpa using (bounds_of_mem_startsFrom member).1
    | succ count =>
      rw [dropBytes] at dropped
      split at dropped
      next fits =>
        have later := ih dropped (offset + c.utf8Size)
        have same : offset + c.utf8Size + (count + 1 - c.utf8Size) = offset + (count + 1) := by
          omega
        rw [same] at later
        rw [startsFrom, List.countP_cons, later]
        simp
      next => contradiction

/-- The characters that start in a stretch are those left behind its start and not behind its
    end. -/
theorem charsWithin_of_dropBytes {source fromLow fromHigh : Text} {low high : Nat}
    (ordered : low ≤ high) (lowDropped : source.dropBytes low = some fromLow)
    (highDropped : source.dropBytes high = some fromHigh) :
    source.charsWithin low high + fromHigh.length = fromLow.length := by
  have behindLow := countP_of_dropBytes lowDropped 0
  have behindHigh := countP_of_dropBytes highDropped 0
  rw [Nat.zero_add] at behindLow behindHigh
  rw [← behindLow, ← behindHigh, charsWithin]
  induction source.startsFrom 0 with
  | nil => rfl
  | cons start rest ih =>
    simp only [List.countP_cons, Bool.and_eq_true, decide_eq_true_eq]
    split_ifs <;> omega

/-- Something is left behind a boundary. -/
theorem dropBytes_of_boundary {offset boundary : Nat} {content : Text}
    (bounded : boundary ∈ startsFrom offset content ∨ boundary = offset + content.byteLength) :
    ∃ rest, content.dropBytes (boundary - offset) = some rest := by
  induction content generalizing offset with
  | nil =>
    have none : byteLength [] = 0 := rfl
    have here : boundary - offset = 0 := by
      rcases bounded with starts | ends
      · contradiction
      · omega
    rw [here]
    exact ⟨[], rfl⟩
  | cons c others ih =>
    have size := byteLength_cons c others
    by_cases here : boundary = offset
    · exact ⟨c :: others, by rw [here, Nat.sub_self, dropBytes.eq_1]⟩
    · have later : boundary ∈ startsFrom (offset + c.utf8Size) others ∨
          boundary = offset + c.utf8Size + byteLength others := by
        rcases bounded with starts | ends
        · exact .inl ((List.mem_cons.mp starts).resolve_left here)
        · exact .inr (by omega)
      obtain ⟨rest, dropped⟩ := ih later
      have behind : offset + c.utf8Size ≤ boundary := by
        rcases later with starts | ends
        · exact (bounds_of_mem_startsFrom starts).1
        · omega
      have positive := c.utf8Size_pos
      obtain ⟨count, same⟩ : ∃ count, boundary - offset = count + 1 :=
        Nat.exists_eq_add_one.mpr (by omega)
      have left : count + 1 - c.utf8Size = boundary - (offset + c.utf8Size) := by omega
      exact ⟨rest, by rw [same, dropBytes, if_pos (by omega), left, dropped]⟩

/-- The line of an offset starts at a boundary, at the offset or before it. -/
theorem lineStart_spec (source : Text) (offset : Nat) :
    source.IsBoundary (source.lineStart offset) ∧ source.lineStart offset ≤ offset := by
  unfold lineStart
  cases last : ((source.breaksFrom 0).filter (· < offset)).getLast? with
  | none =>
    refine ⟨?_, Nat.zero_le _⟩
    cases source with
    | nil => exact .inr rfl
    | cons c rest => exact .inl List.mem_cons_self
  | some stop =>
    obtain ⟨member, before⟩ := List.mem_filter.mp (List.mem_of_getLast? last)
    refine ⟨?_, of_decide_eq_true before⟩
    have bounded := boundary_of_mem_breaksFrom member
    rwa [Nat.zero_add] at bounded

/-- A line has one start: offsets with the same line breaks before them have the same line start. -/
theorem lineStart_of_same_line {source : Text} {first second : Nat} (ordered : first ≤ second)
    (same : source.breaksBefore first = source.breaksBefore second) :
    source.lineStart first = source.lineStart second := by
  have fewer : ((source.breaksFrom 0).filter (· < first)).Sublist
      ((source.breaksFrom 0).filter (· < second)) := by
    apply List.monotone_filter_right
    intro stop before
    have earlier : stop < first := of_decide_eq_true before
    exact decide_eq_true (Nat.lt_of_lt_of_le earlier ordered)
  rw [breaksBefore, breaksBefore, List.countP_eq_length_filter, List.countP_eq_length_filter]
    at same
  rw [lineStart, lineStart, fewer.eq_of_length same]

/-- Of two boundaries the first has the earlier position: it lies on an earlier line, or at least
    the character that starts there lies between them. -/
theorem counted_precedes {source : Text} {first second : Nat} (bounded : source.IsBoundary first)
    (ordered : first < second) (inside : second ≤ source.byteLength) :
    Position.Precedes
      ⟨source.breaksBefore first + 1, source.charsWithin (source.lineStart first) first + 1⟩
      ⟨source.breaksBefore second + 1,
        source.charsWithin (source.lineStart second) second + 1⟩ := by
  have lines : source.breaksBefore first ≤ source.breaksBefore second := by
    apply List.countP_mono_left
    intro stop member before
    have earlier : stop < first := of_decide_eq_true before
    exact decide_eq_true (Nat.lt_trans earlier ordered)
  by_cases same : source.breaksBefore first = source.breaksBefore second
  · have start := lineStart_of_same_line ordered.le same
    have starts : first ∈ source.startsFrom 0 := bounded.resolve_right (by omega)
    have one : 0 < source.charsWithin first second := by
      rw [charsWithin, List.countP_pos_iff]
      exact ⟨first, starts, by simpa using ordered⟩
    have added := source.charsWithin_add (source.lineStart_spec first).2 ordered.le
    refine .inr ⟨congrArg (· + 1) same, ?_⟩
    dsimp only
    rw [← start]
    omega
  · exact .inl (by dsimp only; omega)

end Text

end FlashMarkup
