import FlashMarkup.Position.Basic
import FlashMarkup.Text.Bytes

/-!
# Looking positions up by byte offset

A locator answers which line and column a byte offset of its source has. It remembers its last
answer: an offset further along the same line is counted from there and not from the start of
the line. Between two offsets it counts characters if both lie on character boundaries, and
bytes otherwise.
-/

namespace FlashMarkup

/-- The last look-up of a locator: line index, byte offset and column, the two indices counted
    from zero. -/
structure Locator.Answer where
  line : Nat
  offset : Nat
  column : Nat
deriving DecidableEq, Repr

/-- A source with the byte offsets of its line starts and the last look-up, if there was one. -/
structure Locator where
  source : Text
  lineStarts : List Nat
  last : Option Locator.Answer
deriving DecidableEq, Repr

namespace Locator

/-- The byte offsets just past the line feeds of a text whose first byte has the given offset. -/
def startsAfterBreaks (offset : Nat) : Text → List Nat
  | [] => []
  | c :: rest =>
    let next := offset + c.utf8Size
    if c = '\n' then next :: startsAfterBreaks next rest else startsAfterBreaks next rest

/-- A locator for a source, before any look-up. -/
def new (source : Text) : Locator := ⟨source, 0 :: startsAfterBreaks 0 source, none⟩

/-- The number of lines of the source. -/
def lineCount (locator : Locator) : Nat := locator.lineStarts.length

/-- The line starts at or before an offset, in ascending order. -/
def startsUpTo (locator : Locator) (offset : Nat) : List Nat :=
  locator.lineStarts.filter (· ≤ offset)

/-- The distance between two byte offsets: in characters if a character starts or the source
    ends at each of them, in bytes otherwise. -/
def distance (source : Text) (low high : Nat) : Nat :=
  match source.dropBytes low, source.dropBytes high with
  | some fromLow, some fromHigh => fromLow.length - fromHigh.length
  | _, _ => high - low

/-- The offset and column from which an offset of the given line is counted. -/
def anchor (locator : Locator) (line offset lineStart : Nat) : Nat × Nat :=
  match locator.last with
  | some last =>
    if last.line = line ∧ last.offset ≤ offset then (last.offset, last.column) else (lineStart, 0)
  | none => (lineStart, 0)

/-- The position of a byte offset, and the locator that remembers this answer. An offset past
    the end of the source counts as its end. -/
def locate (locator : Locator) (offset : Nat) : Position × Locator :=
  let offset := min offset locator.source.byteLength
  let starts := locator.startsUpTo offset
  let line := starts.length - 1
  let (low, base) := locator.anchor line offset (starts.getLast?.getD 0)
  let column := base + distance locator.source low offset
  (⟨line + 1, column + 1⟩, { locator with last := some ⟨line, offset, column⟩ })

/-- The position just past the last character of the source. -/
def locateEnd (locator : Locator) : Position × Locator :=
  locator.locate locator.source.byteLength

end Locator

end FlashMarkup
