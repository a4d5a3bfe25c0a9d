import FlashMarkup.Proofs.Position.Offsets

/-!
# Looking up positions at any offset

What a locator answers can be counted in the source without it: the line of a byte offset has a
number one above that of the line breaks in front of the offset, and its column one above that of
the characters that start on the line in front of the offset. The line is always the one that is
counted. The column is, as long as every offset asked for lies between two characters. An offset
inside a character makes the locator count bytes from there on, but never more of them than there
are, and never less than the characters that start there.

The invariant of a locator that has been asked for any offsets in any order is that its last answer
lies within these bounds. An answer goes on from the last one or from the start of the line, and
counts between two offsets what both bounds allow. No index is out of range in this and no
difference negative, as a look-up that checks them shows.
-/

namespace FlashMarkup

namespace Locator

open Text (charsWithin lineStart breaksBefore)

/-- Between any two offsets a locator counts at least the characters that start there and at most
    the bytes. -/
theorem distance_bounds (source : Text) {low high : Nat} (ordered : low ≤ high) :
    source.charsWithin low high ≤ distance source low high ∧
      distance source low high ≤ high - low := by
  have bytes : source.charsWithin low high ≤ high - low := by
    have counted := Text.countP_startsFrom_le 0 low high source
    rwa [Nat.max_zero] at counted
  unfold distance
  split
  next fromLow fromHigh lowDropped highDropped =>
    have counted := Text.charsWithin_of_dropBytes ordered lowDropped highDropped
    omega
  next => exact ⟨bytes, Nat.le_refl _⟩

/-- Between boundaries a locator counts characters. -/
theorem distance_of_boundaries {source : Text} {low high : Nat} (ordered : low ≤ high)
    (lowBounded : source.IsBoundary low) (highBounded : source.IsBoundary high) :
    distance source low high = source.charsWithin low high := by
  have dropped {boundary : Nat} (bounded : source.IsBoundary boundary) :
      ∃ rest, source.dropBytes boundary = some rest := by
    have here : boundary ∈ source.startsFrom 0 ∨ boundary = 0 + source.byteLength := by
      rwa [Nat.zero_add]
    exact Text.dropBytes_of_boundary here
  obtain ⟨fromLow, lowDropped⟩ := dropped lowBounded
  obtain ⟨fromHigh, highDropped⟩ := dropped highBounded
  have counted := Text.charsWithin_of_dropBytes ordered lowDropped highDropped
  simp only [distance, lowDropped, highDropped]
  omega

/-- The starts of lines behind the first one stand just past the line breaks. -/
theorem startsAfterBreaks_eq (offset : Nat) (content : Text) :
    startsAfterBreaks offset content = (Text.breaksFrom offset content).map (· + 1) := by
  induction content generalizing offset with
  | nil => rfl
  | cons c rest ih =>
    rw [startsAfterBreaks, Text.breaksFrom]
    split
    next broken =>
      subst broken
      rw [List.map_cons, ih]
      rfl
    next => exact ih _

/-- What may be remembered about an offset: the line that is counted, and a column between the
    number of characters that start on the line in front of the offset and the number of bytes
    there. -/
structure Answer.Bounded (answer : Answer) (source : Text) : Prop where
  inside : answer.offset ≤ source.byteLength
  line : answer.line = source.breaksBefore answer.offset
  least : source.charsWithin (source.lineStart answer.offset) answer.offset ≤ answer.column
  most : source.lineStart answer.offset + answer.column ≤ answer.offset

/-- What is remembered about a boundary: the column is that of the characters. -/
structure Answer.Exact (answer : Answer) (source : Text) : Prop where
  boundary : source.IsBoundary answer.offset
  column : answer.column = source.charsWithin (source.lineStart answer.offset) answer.offset

/-- A locator of a source whose last answer, if there was one, lies within the bounds. -/
structure Counts (locator : Locator) (source : Text) : Prop where
  sourced : locator.source = source
  started : locator.lineStarts = 0 :: startsAfterBreaks 0 source
  answered : ∀ answer ∈ locator.last, answer.Bounded source

/-- The starts of lines up to an offset are as many as its line has as number, and the last of them
    is the start of that line. -/
theorem startsUpTo_counted {locator : Locator} {source : Text} (counts : locator.Counts source)
    (offset : Nat) :
    (locator.startsUpTo offset).length = source.breaksBefore offset + 1 ∧
      (locator.startsUpTo offset).getLast? = some (source.lineStart offset) := by
  have starts : locator.startsUpTo offset =
      0 :: ((source.breaksFrom 0).filter (· < offset)).map (· + 1) := by
    rw [startsUpTo, counts.started, List.filter_cons_of_pos (by simp), startsAfterBreaks_eq,
      List.filter_map]
    rfl
  rw [starts]
  constructor
  · rw [List.length_cons, List.length_map, Text.breaksBefore, List.countP_eq_length_filter]
  · rw [List.getLast?_cons, List.getLast?_map]
    rfl

/-- From where, and with which column, a look-up may go on to an offset: from the same line, no
    further than the offset, and with a column within the bounds. -/
structure MayGoOn (locator : Locator) (source : Text) (offset low base : Nat) : Prop where
  behind : source.lineStart offset ≤ low
  ahead : low ≤ offset
  least : source.charsWithin (source.lineStart offset) low ≤ base
  most : source.lineStart offset + base ≤ low
  exact : (∀ answer ∈ locator.last, answer.Exact source) →
    source.IsBoundary low ∧ base = source.charsWithin (source.lineStart offset) low

/-- A look-up may go on from the start of the line. -/
theorem mayGoOn_lineStart (locator : Locator) (source : Text) (offset : Nat) :
    locator.MayGoOn source offset (source.lineStart offset) 0 := by
  obtain ⟨bounded, before⟩ := source.lineStart_spec offset
  have none := source.charsWithin_self (source.lineStart offset)
  exact ⟨Nat.le_refl _, before, none.le, Nat.le_refl _, fun _ => ⟨bounded, none.symm⟩⟩

/-- A look-up may go on from the last answer, if that lies on the same line and not behind the
    offset. -/
theorem mayGoOn_answer {locator : Locator} {source : Text} (counts : locator.Counts source)
    {answer : Answer} (remembered : locator.last = some answer) {offset : Nat}
    (sameLine : answer.line = source.breaksBefore offset) (ahead : answer.offset ≤ offset) :
    locator.MayGoOn source offset answer.offset answer.column := by
  have known := counts.answered answer remembered
  have same := Text.lineStart_of_same_line ahead (known.line.symm.trans sameLine)
  refine ⟨?_, ahead, same ▸ known.least, same ▸ known.most, fun exact => ?_⟩
  · rw [← same]
    exact (source.lineStart_spec answer.offset).2
  · have right := exact answer remembered
    exact ⟨right.boundary, same ▸ right.column⟩

/-- A locator goes on from where it may. -/
theorem anchor_mayGoOn {locator : Locator} {source : Text} (counts : locator.Counts source)
    (offset : Nat) :
    ∃ low base,
      locator.anchor (source.breaksBefore offset) offset (source.lineStart offset) = (low, base) ∧
        locator.MayGoOn source offset low base := by
  unfold anchor
  split
  next answer remembered =>
    split
    next near => exact ⟨_, _, rfl, mayGoOn_answer counts remembered near.1 near.2⟩
    next => exact ⟨_, _, rfl, mayGoOn_lineStart locator source offset⟩
  next => exact ⟨_, _, rfl, mayGoOn_lineStart locator source offset⟩

/-- One look-up: the answer lies within the bounds and is remembered, and if the last one was exact
    and the offset is a boundary, it is exact too. -/
theorem locate_bounds {locator : Locator} {source : Text} (counts : locator.Counts source)
    (offset : Nat) :
    ∃ answer : Answer, answer.offset = min offset source.byteLength ∧
      locator.locate offset =
        (⟨answer.line + 1, answer.column + 1⟩, { locator with last := some answer }) ∧
      answer.Bounded source ∧
      ((∀ answer ∈ locator.last, answer.Exact source) → source.IsBoundary answer.offset →
        answer.Exact source) := by
  obtain ⟨reached, clamped⟩ : ∃ reached, min offset source.byteLength = reached := ⟨_, rfl⟩
  obtain ⟨line, start⟩ := startsUpTo_counted counts reached
  obtain ⟨low, base, anchored, behind, ahead, least, most, exact⟩ := anchor_mayGoOn counts reached
  have apart := distance_bounds source ahead
  have added := source.charsWithin_add behind ahead
  refine ⟨⟨source.breaksBefore reached, reached, base + distance source low reached⟩, clamped.symm,
    ?_, ⟨clamped ▸ Nat.min_le_right _ _, rfl, ?_, ?_⟩, fun right boundary => ⟨boundary, ?_⟩⟩
  · simp only [locate, counts.sourced, clamped, line, start, Nat.add_sub_cancel, Option.getD_some,
      anchored]
  · dsimp only
    omega
  · dsimp only
    omega
  · obtain ⟨lowBounded, counted⟩ := exact right
    dsimp only
    rw [counted, distance_of_boundaries ahead lowBounded boundary, added]

/-- The first number less the second, if the difference is not negative. -/
def difference? (first second : Nat) : Option Nat :=
  if second ≤ first then some (first - second) else none

/-- Where a number is found among ascending ones: its index, or the index at which it is missing. -/
def search (sought : Nat) : List Nat → Except Nat Nat
  | [] => .error 0
  | first :: rest =>
    if first < sought then ((search sought rest).map (· + 1)).mapError (· + 1)
    else if first = sought then .ok 0 else .error 0

/-- The index of the line of an offset: where the offset is found among the starts of lines, or one
    in front of where it is missing. -/
def lineChecked? (locator : Locator) (offset : Nat) : Option Nat :=
  match search offset locator.lineStarts with
  | .ok index => some index
  | .error index => difference? index 1

/-- The distance between two offsets, if neither difference it may need is negative. -/
def distanceChecked? (source : Text) (low high : Nat) : Option Nat :=
  (difference? high low).bind fun bytes =>
    match source.dropBytes low, source.dropBytes high with
    | some fromLow, some fromHigh => difference? fromLow.length fromHigh.length
    | _, _ => some bytes

/-- A look-up that gives up where an index is out of range or a difference negative. -/
def locateChecked? (locator : Locator) (offset : Nat) : Option (Position × Locator) :=
  let offset := min offset locator.source.byteLength
  (locator.lineChecked? offset).bind fun line =>
    locator.lineStarts[line]?.bind fun lineStart =>
      let (low, base) := locator.anchor line offset lineStart
      (distanceChecked? locator.source low offset).map fun between =>
        (⟨line + 1, base + between + 1⟩,
          { locator with last := some ⟨line, offset, base + between⟩ })

/-- Behind a number that is not exceeded by the one sought, ascending numbers exceed it. -/
theorem countP_le_eq_zero {sought first : Nat} {rest : List Nat} (reached : sought ≤ first)
    (smallest : ∀ other ∈ rest, first < other) : rest.countP (· ≤ sought) = 0 := by
  rw [List.countP_eq_zero]
  intro other member
  have larger := smallest other member
  rw [decide_eq_true_eq]
  omega

/-- Among ascending numbers a search tells how many do not exceed the number sought. -/
theorem search_ascending (sought : Nat) {numbers : List Nat}
    (ascending : numbers.Pairwise (· < ·)) :
    match search sought numbers with
    | .ok index => numbers.countP (· ≤ sought) = index + 1
    | .error index => numbers.countP (· ≤ sought) = index := by
  induction numbers with
  | nil => rfl
  | cons first rest ih =>
    obtain ⟨smallest, others⟩ := List.pairwise_cons.mp ascending
    have later := ih others
    rw [search]
    split_ifs with below found
    · have counted : (first :: rest).countP (· ≤ sought) = rest.countP (· ≤ sought) + 1 := by
        simp [Nat.le_of_lt below]
      rw [counted]
      cases result : search sought rest with
      | ok index =>
        rw [result] at later
        exact congrArg (· + 1) later
      | error index =>
        rw [result] at later
        exact congrArg (· + 1) later
    · subst found
      simp [countP_le_eq_zero (Nat.le_refl _) smallest]
    · have beyond : sought < first := by omega
      simp [countP_le_eq_zero beyond.le smallest, beyond]

/-- Those of ascending numbers that do not exceed a number are the first of them. -/
theorem filter_le_eq_take (sought : Nat) {numbers : List Nat}
    (ascending : numbers.Pairwise (· < ·)) :
    numbers.filter (· ≤ sought) = numbers.take (numbers.countP (· ≤ sought)) := by
  induction numbers with
  | nil => rfl
  | cons first rest ih =>
    obtain ⟨smallest, others⟩ := List.pairwise_cons.mp ascending
    by_cases reached : first ≤ sought
    · simp [reached, ih others]
    · have beyond : sought ≤ first := by omega
      have none := countP_le_eq_zero beyond smallest
      have empty : rest.filter (· ≤ sought) = [] := by
        rwa [List.countP_eq_length_filter, List.length_eq_zero_iff] at none
      simp [reached, none, empty]

/-- The starts of lines ascend. -/
theorem startsAfterBreaks_ascending (offset : Nat) (content : Text) :
    (startsAfterBreaks offset content).Pairwise (· < ·) := by
  induction content generalizing offset with
  | nil => exact List.Pairwise.nil
  | cons c rest ih =>
    rw [startsAfterBreaks]
    split
    next =>
      refine List.pairwise_cons.mpr ⟨fun start member => ?_, ih _⟩
      exact (bounds_of_mem_startsAfterBreaks member).1
    next => exact ih _

/-- The index of a line is found, and its start is there. -/
theorem lineChecked_eq {locator : Locator} {source : Text} (counts : locator.Counts source)
    (offset : Nat) :
    locator.lineChecked? offset = some (source.breaksBefore offset) ∧
      locator.lineStarts[source.breaksBefore offset]? = some (source.lineStart offset) := by
  have ascending : locator.lineStarts.Pairwise (· < ·) := by
    rw [counts.started]
    refine List.pairwise_cons.mpr ⟨fun start member => ?_, startsAfterBreaks_ascending _ _⟩
    exact (bounds_of_mem_startsAfterBreaks member).1
  obtain ⟨length, last⟩ := startsUpTo_counted counts offset
  have found := search_ascending offset ascending
  have counted : locator.lineStarts.countP (· ≤ offset) = source.breaksBefore offset + 1 := by
    rwa [List.countP_eq_length_filter]
  rw [counted] at found
  constructor
  · unfold lineChecked?
    split at found
    next index result => rw [Nat.succ.inj found]
    next index result => simp [← found, difference?]
  · have inside : source.breaksBefore offset + 1 ≤ locator.lineStarts.length :=
      counted ▸ List.countP_le_length
    obtain ⟨start, indexed⟩ :
        ∃ start, locator.lineStarts[source.breaksBefore offset]? = some start :=
      ⟨_, List.getElem?_eq_getElem inside⟩
    rw [startsUpTo, filter_le_eq_take offset ascending, counted, List.getLast?_take,
      if_neg (Nat.succ_ne_zero _), Nat.add_sub_cancel, indexed] at last
    rw [indexed]
    exact last

/-- No difference that a distance needs is negative. -/
theorem distanceChecked_eq (source : Text) {low high : Nat} (ordered : low ≤ high) :
    distanceChecked? source low high = some (distance source low high) := by
  have bytes : difference? high low = some (high - low) := if_pos ordered
  unfold distanceChecked? distance
  rw [bytes, Option.bind_some]
  cases lowDropped : source.dropBytes low with
  | none => rfl
  | some fromLow =>
    cases highDropped : source.dropBytes high with
    | none => rfl
    | some fromHigh =>
      have counted := Text.charsWithin_of_dropBytes ordered lowDropped highDropped
      have shorter : fromHigh.length ≤ fromLow.length := by omega
      exact if_pos shorter

/-- Every index that a look-up needs is in range, and no difference is negative. -/
theorem locateChecked_eq {locator : Locator} {source : Text} (counts : locator.Counts source)
    (offset : Nat) : locator.locateChecked? offset = some (locator.locate offset) := by
  obtain ⟨reached, clamped⟩ : ∃ reached, min offset source.byteLength = reached := ⟨_, rfl⟩
  obtain ⟨line, start⟩ := startsUpTo_counted counts reached
  obtain ⟨checked, indexed⟩ := lineChecked_eq counts reached
  obtain ⟨low, base, anchored, mayGoOn⟩ := anchor_mayGoOn counts reached
  simp only [locateChecked?, locate, counts.sourced, clamped, line, start, checked, indexed,
    Nat.add_sub_cancel, Option.getD_some, Option.bind_some, anchored,
    distanceChecked_eq source mayGoOn.ahead, Option.map_some]

/-- The locator that has been asked for several offsets, one after the other. -/
def after (locator : Locator) : List Nat → Locator
  | [] => locator
  | offset :: rest => (locator.locate offset).2.after rest

/-- Whatever it has been asked for, a locator keeps within the bounds. -/
theorem Counts.after {locator : Locator} {source : Text} (counts : locator.Counts source)
    (offsets : List Nat) : (locator.after offsets).Counts source := by
  induction offsets generalizing locator with
  | nil => exact counts
  | cons offset rest ih =>
    obtain ⟨answer, -, located, bounded, -⟩ := locate_bounds counts offset
    apply ih
    rw [located]
    refine ⟨counts.sourced, counts.started, fun other member => ?_⟩
    obtain rfl := Option.some.inj member
    exact bounded

/-- A new locator keeps within the bounds, since it has answered nothing. -/
theorem counts_new (source : Text) : (new source).Counts source :=
  ⟨rfl, rfl, fun answer member => by contradiction⟩

/-- A locator whose answers were exact and that is asked for boundaries only goes on being exact. -/
theorem exact_after {locator : Locator} {source : Text} (counts : locator.Counts source)
    (exact : ∀ answer ∈ locator.last, answer.Exact source) {offsets : List Nat}
    (bounded : ∀ asked ∈ offsets, source.IsBoundary (min asked source.byteLength)) :
    ∀ answer ∈ (locator.after offsets).last, answer.Exact source := by
  induction offsets generalizing locator with
  | nil => exact exact
  | cons offset rest ih =>
    have here := counts.after [offset]
    obtain ⟨answer, clamped, located, -, kept⟩ := locate_bounds counts offset
    refine ih here ?_ fun asked member => bounded asked (List.mem_cons_of_mem _ member)
    intro other member
    have remembered : (locator.locate offset).2.last = some other := member
    rw [located] at remembered
    obtain rfl := Option.some.inj remembered
    exact kept exact (clamped ▸ bounded offset List.mem_cons_self)

/-- A locator that has been asked for boundaries only answers with the position that is counted. -/
theorem locate_exact {source : Text} {earlier : List Nat} {offset : Nat}
    (bounded : ∀ asked ∈ offset :: earlier, source.IsBoundary (min asked source.byteLength)) :
    (((new source).after earlier).locate offset).1 =
      ⟨source.breaksBefore (min offset source.byteLength) + 1,
        source.charsWithin (source.lineStart (min offset source.byteLength))
          (min offset source.byteLength) + 1⟩ := by
  have counts := (counts_new source).after earlier
  have exact := exact_after (counts_new source) (fun answer member => by contradiction)
    fun asked member => bounded asked (List.mem_cons_of_mem _ member)
  obtain ⟨answer, clamped, located, within, kept⟩ := locate_bounds counts offset
  have right := kept exact (clamped ▸ bounded offset List.mem_cons_self)
  rw [located, within.line, right.column, clamped]

/-- Whatever offsets a locator has been asked for, in any order, its next answer can be counted. No
    index is out of range and no difference negative. The line is that of the line breaks before the
    offset, and the column goes with no fewer characters than start on the line before the offset,
    and with no more than there are bytes. If all offsets were boundaries, the column is that of
    these characters, whatever was asked before, and a larger offset has a later position. -/
theorem locate_counts (source : Text) (earlier : List Nat) (offset : Nat) :
    let locator := (new source).after earlier
    let reached := min offset source.byteLength
    let start := source.lineStart reached
    let position := (locator.locate offset).1
    locator.locateChecked? offset = some (locator.locate offset) ∧
      position.line = source.breaksBefore reached + 1 ∧
      start ≤ reached ∧
      source.charsWithin start reached + 1 ≤ position.column ∧
      position.column ≤ (reached - start) + 1 ∧
      ((∀ asked ∈ offset :: earlier, source.IsBoundary (min asked source.byteLength)) →
        position.column = source.charsWithin start reached + 1 ∧
          ∀ others other,
            (∀ asked ∈ other :: others, source.IsBoundary (min asked source.byteLength)) →
            reached < min other source.byteLength →
            position.Precedes (((new source).after others).locate other).1) := by
  intro locator reached start position
  have counts := (counts_new source).after earlier
  obtain ⟨answer, clamped, located, bounded, -⟩ := locate_bounds counts offset
  have answered : position = ⟨answer.line + 1, answer.column + 1⟩ := congrArg Prod.fst located
  obtain ⟨inside, line, least, most⟩ := bounded
  rw [clamped] at line least most
  refine ⟨locateChecked_eq counts offset, ?_, (source.lineStart_spec reached).2, ?_, ?_, ?_⟩
  · rw [answered, line]
  · rw [answered]
    exact Nat.succ_le_succ least
  · rw [answered]
    exact Nat.succ_le_succ (Nat.le_sub_of_add_le' most)
  · intro boundaries
    have here : position = _ := locate_exact boundaries
    refine ⟨congrArg Position.column here, fun others other otherBoundaries ordered => ?_⟩
    rw [here, locate_exact otherBoundaries]
    exact Text.counted_precedes (boundaries offset List.mem_cons_self) ordered
      (Nat.min_le_right _ _)

/-- Two lines, each of which begins with a character of two bytes. -/
def wideSource : Text := "é\nñb"

/-- Asked for the end of two lines and then for the start of the second, a locator still knows where
    the second character of that line stands, and a new one that is asked for the end finds it
    behind. -/
theorem locate_counts_wide :
    (∀ asked ∈ [5, 99, 3], wideSource.IsBoundary (min asked wideSource.byteLength)) ∧
      (∀ asked ∈ [99], wideSource.IsBoundary (min asked wideSource.byteLength)) ∧
      min 5 wideSource.byteLength < min 99 wideSource.byteLength ∧
      (((new wideSource).after [99, 3]).locate 5).1.line = 2 ∧
      (((new wideSource).after [99, 3]).locate 5).1.column = 2 ∧
      (((new wideSource).after [99, 3]).locate 5).1.Precedes
        (((new wideSource).after []).locate 99).1 := by
  have boundaries :
      ∀ asked ∈ [5, 99, 3], wideSource.IsBoundary (min asked wideSource.byteLength) := by
    decide
  have others : ∀ asked ∈ [99], wideSource.IsBoundary (min asked wideSource.byteLength) := by decide
  have ordered : min 5 wideSource.byteLength < min 99 wideSource.byteLength := by decide
  obtain ⟨-, line, -, -, -, exact⟩ := locate_counts wideSource [99, 3] 5
  obtain ⟨column, later⟩ := exact boundaries
  exact ⟨boundaries, others, ordered, line.trans (by decide), column.trans (by decide),
    later [] 99 others ordered⟩

/-- Inside a character bytes are counted, and the answer that is remembered shifts the next one. -/
example :
    ((new ['é']).locate 2).1 = ⟨1, 2⟩ ∧ (((new ['é']).after [1]).locate 2).1 = ⟨1, 3⟩ := by decide

end Locator

end FlashMarkup
