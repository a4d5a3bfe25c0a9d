import FlashMarkup.Proofs.Text.Encoding

/-!
# The order of texts and the order of their bytes

Encodings are ordered as the code points that they encode, whatever stands behind them. So comparing
texts character by character is comparing their bytes.
-/

namespace FlashMarkup

namespace Bytes

/-- The encoding of a smaller code point comes first, whatever follows. -/
theorem Encodes.append_lt_append {code other : Nat} {bytes others : Bytes}
    (first : Encodes code bytes) (second : Encodes other others) (less : code < other)
    (rest later : Bytes) : bytes ++ rest < others ++ later := by
  unfold Encodes at first second
  split at first <;> split at second <;> try contradiction
  -- Only encodings of one length can begin alike, and they differ before they end.
  all_goals
    by_contra reversed
    simp only [List.cons_append, List.nil_append, List.cons_lt_cons_iff, UInt8.lt_iff_toNat_lt,
      ← UInt8.toNat_inj, not_or, not_and_or] at reversed
    omega

/-- Bytes that begin alike are ordered as what they go on with. -/
theorem append_lt_append_left_iff (front first second : Bytes) :
    front ++ first < front ++ second ↔ first < second := by
  induction front with
  | nil => rfl
  | cons byte rest ih => simp [ih]

end Bytes

namespace Text

open Bytes

/-- A text comes before another one exactly if its bytes do. -/
theorem precedes_iff_toBytes_lt (first second : Text) :
    first.precedes second = true ↔ first.toBytes < second.toBytes := by
  induction first generalizing second with
  | nil =>
    cases second with
    | nil => simp [precedes, toBytes]
    | cons d others =>
      obtain ⟨a, more, spelled, -⟩ := exists_utf8EncodeChar_eq_cons d
      simp [precedes, toBytes, spelled]
  | cons c rest ih =>
    cases second with
    | nil => simp [precedes, toBytes]
    | cons d others =>
      have first : toBytes (c :: rest) = String.utf8EncodeChar c ++ toBytes rest := rfl
      have second : toBytes (d :: others) = String.utf8EncodeChar d ++ toBytes others := rfl
      have encoded := encodes_utf8EncodeChar
      rw [first, second]
      obtain less | same | greater := Nat.lt_trichotomy c.toNat d.toNat
      · simp [precedes, less, (encoded c).append_lt_append (encoded d) less]
      · obtain rfl : c = d := Char.toNat_inj.mp same
        simp [precedes, ih, append_lt_append_left_iff]
      · have after := (encoded d).append_lt_append (encoded c) greater (toBytes others)
          (toBytes rest)
        have different : c ≠ d := by
          rintro rfl
          exact Nat.lt_irrefl _ greater
        simpa [precedes, different, Nat.lt_asymm greater] using Std.Asymm.asymm _ _ after

/-- Of two texts one comes before the other, unless they are the same. -/
theorem precedes_trichotomy (first second : Text) :
    first.precedes second = true ∨ first = second ∨ second.precedes first = true := by
  induction first generalizing second with
  | nil => cases second <;> simp [precedes]
  | cons c rest ih =>
    cases second with
    | nil => simp [precedes]
    | cons d others =>
      have later := ih others
      obtain less | same | greater := Nat.lt_trichotomy c.toNat d.toNat
      · simp [precedes, less]
      · obtain rfl : c = d := Char.toNat_inj.mp same
        simpa [precedes] using later
      · simp [precedes, greater]

end Text

end FlashMarkup
