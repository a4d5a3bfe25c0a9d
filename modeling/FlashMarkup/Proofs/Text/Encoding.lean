import FlashMarkup.Text.Bytes
import Mathlib.Data.List.Basic

/-!
# Texts and their bytes

A byte sequence is decoded exactly if it is the encoding of a text, and then to that text. The syntax
of an encoded character stands between the two directions: it says which bytes encode a code point
without saying how they are made or read. Cut in front of a byte that encodes a character alone, an
encoded text falls into two encoded texts.
-/

namespace FlashMarkup

namespace Bytes

/-- Whether bytes encode a code point: one byte below U+0080, two below U+0800, three below U+10000
    and four above. The first byte has the most significant bits, every other one has six. -/
def Encodes (code : Nat) : Bytes → Prop
  | [a] => code < 0x80 ∧ a.toNat = code
  | [a, b] =>
    0x80 ≤ code ∧ code < 0x800 ∧ a.toNat = 0xC0 + code / 64 ∧ b.toNat = 0x80 + code % 64
  | [a, b, c] =>
    0x800 ≤ code ∧ code < 0x10000 ∧ a.toNat = 0xE0 + code / 4096 ∧
      b.toNat = 0x80 + code / 64 % 64 ∧ c.toNat = 0x80 + code % 64
  | [a, b, c, d] =>
    0x10000 ≤ code ∧ code < 0x110000 ∧ a.toNat = 0xF0 + code / 262144 ∧
      b.toNat = 0x80 + code / 4096 % 64 ∧ c.toNat = 0x80 + code / 64 % 64 ∧
      d.toNat = 0x80 + code % 64
  | _ => False

/-- A code point is encoded in one way. -/
theorem Encodes.unique {code : Nat} {bytes others : Bytes} (first : Encodes code bytes)
    (second : Encodes code others) : bytes = others := by
  unfold Encodes at first second
  split at first <;> split at second <;> grind [UInt8.toNat_inj]

/-- No character is a surrogate or lies past the last code point. -/
theorem code_bounds (c : Char) : c.toNat < 0xD800 ∨ 0xDFFF < c.toNat ∧ c.toNat < 0x110000 :=
  c.valid

/-- A code point within these bounds is that of a character. -/
theorem toNat_ofNat_code {code : Nat}
    (scalar : code < 0xD800 ∨ 0xDFFF < code ∧ code < 0x110000) :
    (Char.ofNat code).toNat = code := by
  have valid : code.isValidChar := scalar
  rw [Char.ofNat, dif_pos valid]
  rfl

/-- A character is written as the encoding of its code point. -/
theorem encodes_utf8EncodeChar (c : Char) : Encodes c.toNat (String.utf8EncodeChar c) := by
  have bounds := code_bounds c
  have code : c.val.toNat = c.toNat := rfl
  have byte (value : Nat) (small : value < 256) : (UInt8.ofNat value).toNat = value :=
    UInt8.toNat_ofNat_of_lt' small
  unfold String.utf8EncodeChar
  simp only [code]
  split
  next => exact ⟨by omega, byte _ (by omega)⟩
  next =>
    split
    next => refine ⟨by omega, by omega, ?_, ?_⟩ <;> rw [byte _ (by omega)] <;> omega
    next =>
      split
      next => refine ⟨by omega, by omega, ?_, ?_, ?_⟩ <;> rw [byte _ (by omega)] <;> omega
      next => refine ⟨by omega, by omega, ?_, ?_, ?_, ?_⟩ <;> rw [byte _ (by omega)] <;> omega

/-- A byte lies within bounds as a number. -/
theorem within_iff {low high byte : UInt8} :
    within low high byte = true ↔ low.toNat ≤ byte.toNat ∧ byte.toNat ≤ high.toNat := by
  simp [within, UInt8.le_iff_toNat_le]

/-- A byte that continues a character is one of 64. -/
theorem continues_iff {byte : UInt8} :
    continues byte = true ↔ 0x80 ≤ byte.toNat ∧ byte.toNat ≤ 0xBF := within_iff

/-- Whether a second byte may stand between a first one and so many others. The bounds exclude what
    has a shorter encoding, surrogates, and what lies past the last code point. -/
def Leads (a b : UInt8) : Nat → Prop
  | 0 => 0xC2 ≤ a.toNat ∧ a.toNat ≤ 0xDF
  | 1 =>
    0xE0 ≤ a.toNat ∧ a.toNat ≤ 0xEF ∧ (a.toNat = 0xE0 → 0xA0 ≤ b.toNat) ∧
      (a.toNat = 0xED → b.toNat ≤ 0x9F)
  | 2 =>
    0xF0 ≤ a.toNat ∧ a.toNat ≤ 0xF4 ∧ (a.toNat = 0xF0 → 0x90 ≤ b.toNat) ∧
      (a.toNat = 0xF4 → b.toNat ≤ 0x8F)
  | _ => False

/-- A first byte that others follow is not a character alone. -/
theorem Leads.not_ascii {a b : UInt8} {more : Nat} (leads : Leads a b more) : ¬a < 0x80 := by
  have high : 0xC2 ≤ a.toNat := by
    match more, leads with
    | 0, ⟨least, _⟩ => exact least
    | 1, ⟨least, _⟩ => omega
    | 2, ⟨least, _⟩ => omega
  intro ascii
  have low : a.toNat < 0x80 := UInt8.lt_iff_toNat_lt.mp ascii
  omega

/-- The bounds that a first byte sets for the second are those of all characters that begin with
    it. -/
theorem exists_lead_iff {a b : UInt8} {more : Nat} :
    (∃ low high, lead a = some (low, high, more + 1) ∧ within low high b = true) ↔
      continues b = true ∧ Leads a b more := by
  unfold lead
  simp only [continues_iff, within_iff, ← UInt8.toNat_inj, UInt8.reduceToNat]
  -- Each of the seven ranges of first bytes fixes how many bytes follow.
  iterate 7
    split
    next => rcases more with _ | _ | _ | _ <;> simp [Leads] <;> omega
  rcases more with _ | _ | _ | _ <;> simp [Leads] <;> omega

/-- The bits of bytes make the code point that they sum up to. -/
theorem toNat_payload {first code : Nat} {more : Bytes}
    (gathered : more.foldl (fun value byte => value * 64 + (byte.toNat - 0x80)) first = code)
    (scalar : code < 0xD800 ∨ 0xDFFF < code ∧ code < 0x110000) :
    (payload first more).toNat = code := by
  rw [payload, gathered, toNat_ofNat_code scalar]

/-- Bytes within the bounds encode the character that is made of their bits. -/
theorem encodes_payload {a b : UInt8} {more : Bytes} (leads : Leads a b more.length)
    (continued : ∀ byte ∈ b :: more, continues byte = true) :
    Encodes (payload (leadPayload a (more.length + 1)) (b :: more)).toNat (a :: b :: more) := by
  simp only [List.forall_mem_cons, continues_iff] at continued
  match more, continued, leads with
  | [], continued, ⟨least, most⟩ =>
    have code : (payload (leadPayload a 1) [b]).toNat =
        (a.toNat - 0xC0) * 64 + (b.toNat - 0x80) := toNat_payload rfl (by omega)
    simp only [List.length_nil, Nat.zero_add, code]
    refine ⟨?_, ?_, ?_, ?_⟩ <;> omega
  | [c], continued, ⟨least, most, overlong, surrogate⟩ =>
    simp only [List.forall_mem_cons] at continued
    have code : (payload (leadPayload a 2) [b, c]).toNat =
        ((a.toNat - 0xE0) * 64 + (b.toNat - 0x80)) * 64 + (c.toNat - 0x80) :=
      toNat_payload rfl (by omega)
    simp only [List.length_cons, List.length_nil, Nat.zero_add, code]
    refine ⟨?_, ?_, ?_, ?_, ?_⟩ <;> omega
  | [c, d], continued, ⟨least, most, overlong, past⟩ =>
    simp only [List.forall_mem_cons] at continued
    have code : (payload (leadPayload a 3) [b, c, d]).toNat =
        (((a.toNat - 0xF0) * 64 + (b.toNat - 0x80)) * 64 + (c.toNat - 0x80)) * 64 +
          (d.toNat - 0x80) := toNat_payload rfl (by omega)
    simp only [List.length_cons, List.length_nil, Nat.zero_add, code]
    refine ⟨?_, ?_, ?_, ?_, ?_, ?_⟩ <;> omega

/-- The bytes of a character lie within the bounds, and their bits make the character. -/
theorem leads_of_encodes {a b : UInt8} {more : Bytes} {c : Char}
    (encodes : Encodes c.toNat (a :: b :: more)) :
    Leads a b more.length ∧ (∀ byte ∈ b :: more, continues byte = true) ∧
      payload (leadPayload a (more.length + 1)) (b :: more) = c := by
  have bounds := code_bounds c
  have spelled {code : Nat} (same : code = c.toNat) : Char.ofNat code = c := by
    rw [same, Char.ofNat_toNat]
  simp only [List.forall_mem_cons, continues_iff]
  match more, encodes with
  | [], ⟨least, most, first, second⟩ =>
    refine ⟨⟨by omega, by omega⟩, ⟨by omega, nofun⟩, spelled ?_⟩
    change (a.toNat - 0xC0) * 64 + (b.toNat - 0x80) = _
    omega
  | [d], ⟨least, most, first, second, third⟩ =>
    refine ⟨⟨by omega, by omega, by omega, by omega⟩, ⟨by omega, ?_⟩, spelled ?_⟩
    · exact List.forall_mem_singleton.mpr (by omega)
    · change ((a.toNat - 0xE0) * 64 + (b.toNat - 0x80)) * 64 + (d.toNat - 0x80) = _
      omega
  | [d, e], ⟨least, most, first, second, third, fourth⟩ =>
    refine ⟨⟨by omega, by omega, by omega, by omega⟩, ⟨by omega, ?_⟩, spelled ?_⟩
    · exact List.forall_mem_cons.mpr ⟨by omega, List.forall_mem_singleton.mpr (by omega)⟩
    · change (((a.toNat - 0xF0) * 64 + (b.toNat - 0x80)) * 64 + (d.toNat - 0x80)) * 64 +
        (e.toNat - 0x80) = _
      omega

/-- All bytes of a character behind its first one continue it. -/
theorem continues_of_encodes {a byte : UInt8} {more : Bytes} {c : Char}
    (encodes : Encodes c.toNat (a :: more)) (member : byte ∈ more) : continues byte = true := by
  match more, encodes, member with
  | _ :: _, encodes, member => exact (leads_of_encodes encodes).2.1 byte member

/-- As many bytes as are asked for continue a character if so many are found. -/
theorem continued_of_length {count : Nat} {rest : Bytes}
    (whole : ((rest.takeWhile continues).take count).length = count) :
    (rest.takeWhile continues).take count = rest.take count ∧ count ≤ rest.length ∧
      ∀ byte ∈ rest.take count, continues byte = true := by
  have split := List.takeWhile_append_dropWhile (p := continues) (l := rest)
  have enough : count ≤ (rest.takeWhile continues).length := by
    rw [List.length_take] at whole
    omega
  have same : (rest.takeWhile continues).take count = rest.take count := by
    conv => rhs; rw [← split, List.take_append_of_le_length enough]
  refine ⟨same, Nat.le_trans enough (List.takeWhile_prefix continues).length_le, ?_⟩
  intro byte member
  rw [← same] at member
  exact List.all_eq_true.mp List.all_takeWhile byte (List.mem_of_mem_take member)

/-- A character is found only where its encoding stands. -/
theorem encodes_of_piece {a : UInt8} {rest : Bytes} {c : Char} {more : Nat}
    (scalar : piece a rest = .scalar c more) :
    more ≤ rest.length ∧ Encodes c.toNat (a :: rest.take more) := by
  unfold piece at scalar
  split at scalar
  next ascii =>
    obtain ⟨rfl, rfl⟩ := Piece.scalar.inj scalar
    have small : a.toNat < 0x80 := UInt8.lt_iff_toNat_lt.mp ascii
    rw [toNat_ofNat_code (by omega)]
    exact ⟨Nat.zero_le _, small, rfl⟩
  next =>
    split at scalar
    next low high count b others leads =>
      split at scalar
      next bounded =>
        dsimp only at scalar
        split at scalar
        next whole =>
          obtain ⟨rfl, rfl⟩ := Piece.scalar.inj scalar
          obtain ⟨fewer, rfl⟩ : ∃ fewer, count = fewer + 1 := ⟨_, whole.symm⟩
          simp only [Nat.add_sub_cancel, List.length_cons, Nat.add_right_cancel_iff] at whole ⊢
          obtain ⟨same, enough, continued⟩ := continued_of_length whole
          obtain ⟨second, bounds⟩ := exists_lead_iff.mp ⟨low, high, leads, bounded⟩
          refine ⟨Nat.succ_le_succ enough, ?_⟩
          have encodes := encodes_payload (whole.symm ▸ bounds)
            (List.forall_mem_cons.mpr ⟨second, same ▸ continued⟩)
          rw [whole, same] at encodes
          rwa [same]
        next => cases scalar
      next => cases scalar
    next => cases scalar

/-- A character is found where its encoding stands. -/
theorem piece_of_encodes {a : UInt8} {more : Bytes} {c : Char}
    (encodes : Encodes c.toNat (a :: more)) (rest : Bytes) :
    piece a (more ++ rest) = .scalar c more.length := by
  unfold piece
  match more, encodes with
  | [], ⟨small, same⟩ =>
    have ascii : a < 0x80 := UInt8.lt_iff_toNat_lt.mpr (same ▸ small)
    rw [if_pos ascii, same, Char.ofNat_toNat]
    rfl
  | b :: more, encodes =>
    obtain ⟨bounds, continued, made⟩ := leads_of_encodes encodes
    obtain ⟨second, others⟩ := List.forall_mem_cons.mp continued
    obtain ⟨low, high, leads, bounded⟩ := exists_lead_iff.mpr ⟨second, bounds⟩
    have gathered : ((more ++ rest).takeWhile continues).take more.length = more := by
      rw [List.takeWhile_append_of_pos others, List.take_left]
    rw [if_neg bounds.not_ascii, leads]
    simp only [List.cons_append, bounded, if_true, Nat.add_sub_cancel, gathered,
      List.length_cons, made]

/-- A character has a first byte. -/
theorem exists_utf8EncodeChar_eq_cons (c : Char) :
    ∃ a more, String.utf8EncodeChar c = a :: more ∧ Encodes c.toNat (a :: more) := by
  have encodes := encodes_utf8EncodeChar c
  match spelled : String.utf8EncodeChar c, encodes with
  | a :: more, encodes => exact ⟨a, more, rfl, encodes⟩

/-- Bytes are decoded exactly if they are the encoding of a text. -/
theorem decode?_eq_some_iff {bytes : Bytes} {content : Text} :
    bytes.decode? = some content ↔ bytes = content.toBytes := by
  constructor
  · intro decoded
    fun_induction decode? bytes generalizing content with
    | case1 =>
      cases decoded
      rfl
    | case2 a rest c more scalar ih =>
      obtain ⟨others, later, rfl⟩ := Option.map_eq_some_iff.mp decoded
      obtain ⟨-, encodes⟩ := encodes_of_piece scalar
      have spelled := encodes.unique (encodes_utf8EncodeChar c)
      calc
        a :: rest = (a :: rest.take more) ++ rest.drop more := by simp
        _ = String.utf8EncodeChar c ++ Text.toBytes others := by rw [spelled, ih later]
        _ = Text.toBytes (c :: others) := rfl
    | case3 => cases decoded
  · rintro rfl
    induction content with
    | nil =>
      rw [Text.toBytes, List.flatMap_nil, decode?]
    | cons c others ih =>
      obtain ⟨a, more, spelled, encodes⟩ := exists_utf8EncodeChar_eq_cons c
      have whole : Text.toBytes (c :: others) = a :: (more ++ Text.toBytes others) := by
        rw [Text.toBytes, List.flatMap_cons, spelled]
        rfl
      rw [whole, decode?]
      simp only [piece_of_encodes encodes, List.drop_left, ih, Option.map_some]

end Bytes

namespace Text

open Bytes

/-- Texts are encoded one behind the other. -/
theorem toBytes_append (first second : Text) :
    toBytes (first ++ second) = toBytes first ++ toBytes second :=
  List.flatMap_append

/-- What stands in front of a byte that is a character alone, or of the end, is the encoding of a
    text. -/
theorem exists_toBytes_eq_front {content : Text} {front back : Bytes}
    (whole : content.toBytes = front ++ back) (border : ∀ byte ∈ back.head?, byte < 0x80) :
    ∃ shorter : Text, front = shorter.toBytes := by
  induction content generalizing front with
  | nil =>
    obtain ⟨rfl, -⟩ := List.append_eq_nil_iff.mp whole.symm
    exact ⟨[], rfl⟩
  | cons c others ih =>
    obtain ⟨a, more, spelled, encodes⟩ := exists_utf8EncodeChar_eq_cons c
    have split : toBytes (c :: others) = String.utf8EncodeChar c ++ toBytes others := rfl
    rw [split] at whole
    obtain ⟨later, rfl, left⟩ | ⟨cut, inside, rfl⟩ := List.append_eq_append_iff.mp whole
    · obtain ⟨shorter, rfl⟩ := ih left
      exact ⟨c :: shorter, rfl⟩
    · -- The border lies in the encoding of this character, so at one of its two ends.
      match front, cut with
      | [], _ => exact ⟨[], rfl⟩
      | front, [] =>
        rw [List.append_nil] at inside
        exact ⟨[c], by rw [← inside, toBytes, List.flatMap_singleton]⟩
      | first :: front, byte :: cut =>
        have member : byte ∈ more := by
          rw [spelled, List.cons_append] at inside
          rw [(List.cons.inj inside).2]
          exact List.mem_append_right _ List.mem_cons_self
        have high := (continues_iff.mp (continues_of_encodes encodes member)).1
        have low := UInt8.lt_iff_toNat_lt.mp (border byte rfl)
        exact absurd low (Nat.not_lt.mpr high)

end Text

end FlashMarkup
