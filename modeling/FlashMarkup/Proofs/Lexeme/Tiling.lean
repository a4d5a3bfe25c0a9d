import FlashMarkup.Proofs.Lexeme.Spans
import FlashMarkup.Proofs.Position.Offsets

/-!
# Lexemes tile their source

The laws of the spans of a source are stated without cutting it: they follow one another from the
first byte to the last, each selects a text of its class, no two neighbours of a class that forms
runs are left apart, and every maximal run of hashes is taken in pairs from the left. These laws leave
no choice, so the spans of the lexemes are the only ones that satisfy them.

Only the law about hashes speaks about more than two neighbours. It says where a run of them is cut,
and that is enough to see that a hash alone is the last one of its run.
-/

namespace FlashMarkup.Lexeme

/-- The laws of the spans of a source. -/
structure Tiles (source : Text) (spans : List Span) : Prop where
  /-- The spans follow one another from the start of the source to its end. -/
  contiguous : Contiguous 0 spans source.byteLength
  nonempty : ∀ span ∈ spans, span.start < span.stop
  boundaries : ∀ span ∈ spans, source.IsBoundary span.start ∧ source.IsBoundary span.stop
  /-- Each span selects a text of its class. -/
  classed : ∀ span ∈ spans, ∃ content, span.Selects source content ∧ span.kind.Matches content
  /-- No two neighbours are blanks, parts of words or others. -/
  apart : (spans.map Span.kind).IsChain fun first second =>
    first = second → first ∉ Kind.runs
  /-- A maximal run of hashes becomes pairs, and then the odd one if there is one. -/
  paired : ∀ front count back, source = front ++ List.replicate count '#' ++ back →
    front.getLast? ≠ some '#' → back.head? ≠ some '#' →
    ∃ before run after, spans = before ++ run ++ after ∧
      Contiguous front.byteLength run (front.byteLength + count) ∧
      run.map Span.kind =
        List.replicate (count / 2) .commentDelimiter ++ List.replicate (count % 2) .hash

/-! ## The spans of the lexemes tile -/

/-- Hashes have a byte each. -/
theorem byteLength_hashes (count : Nat) : Text.byteLength (List.replicate count '#') = count := by
  induction count with
  | zero => rfl
  | succ count ih =>
    rw [List.replicate_succ, Text.byteLength_cons, ih, Nat.add_comm]
    rfl

/-- Hashes alone are taken in pairs, and then the odd one if there is one. -/
theorem pairHashes_replicate (count : Nat) :
    pairHashes (List.replicate count '#') =
      List.replicate (count / 2) ⟨.commentDelimiter, ['#', '#']⟩ ++
        List.replicate (count % 2) ⟨.hash, ['#']⟩ := by
  induction count using Nat.twoStepInduction with
  | zero => rfl
  | one => rfl
  | more count ih _ =>
    have half : (count + 2) / 2 = count / 2 + 1 := by omega
    have odd : (count + 2) % 2 = count % 2 := by omega
    have longer : pairHashes (List.replicate (count + 2) '#') =
        ⟨.commentDelimiter, ['#', '#']⟩ :: pairHashes (List.replicate count '#') := rfl
    rw [longer, ih, half, odd, List.replicate_succ, List.cons_append]

/-- Nothing but hashes goes on with hashes. -/
theorem sameRun_hash {c : Char} (other : c ≠ '#') : sameRun c '#' = false ∧ sameRun '#' c = false := by
  have classed : Kind.ofChar c ≠ .hash := fun hash => other (ofChar_eq_single.2.2.1.mp hash)
  have hash : Kind.ofChar '#' = .hash := rfl
  simp [sameRun, hash, classed, classed.symm]

/-- A source is split on both sides of a border that no run crosses. -/
theorem split_border {front back : Text}
    (border : ∀ d ∈ front.getLast?, ∀ e ∈ back.head?, sameRun d e = false) :
    split (front ++ back) = split front ++ split back := by
  unfold split
  rw [List.splitBy_append border, List.flatMap_append]

/-- A maximal run of hashes is split by itself. -/
theorem split_maximal_hashes {front back : Text} (count : Nat)
    (opens : front.getLast? ≠ some '#') (closes : back.head? ≠ some '#') :
    split (front ++ List.replicate (count + 1) '#' ++ back) =
      split front ++ pairHashes (List.replicate (count + 1) '#') ++ split back := by
  have alone : split (List.replicate (count + 1) '#') =
      pairHashes (List.replicate (count + 1) '#') := by
    have same : ∀ c ∈ List.replicate (count + 1) '#', sameRun '#' c = true := by
      intro c member
      obtain rfl := List.eq_of_mem_replicate member
      rfl
    rw [split_hashes, List.takeWhile_eq_self_iff.mpr same, List.dropWhile_eq_nil_iff.mpr same,
      show split [] = [] from rfl, List.append_nil]
  rw [split_border, split_border, alone]
  · intro d last e first
    obtain rfl : e = '#' := by simpa [List.replicate_succ, eq_comm] using first
    exact (sameRun_hash fun same => opens (same ▸ last)).1
  · intro d last e first
    obtain rfl : d = '#' := by
      rw [List.replicate_succ', ← List.append_assoc] at last
      simpa [eq_comm] using last
    exact (sameRun_hash fun same => closes (same ▸ first)).2

/-- A span of a source is that of one of its lexemes. -/
theorem exists_lexeme_of_span {source : Text} {span : Span} (member : span ∈ spans source) :
    ∃ (front : Text) (lexeme : Lexeme) (back : Text), source = front ++ lexeme.text ++ back ∧
      lexeme.kind.Matches lexeme.text ∧
      span = ⟨lexeme.kind, front.byteLength, (front ++ lexeme.text).byteLength⟩ := by
  obtain ⟨before, lexeme, after, same, rfl⟩ := exists_lexeme_of_mem member
  have lead := leadAll_split source
  rw [same] at lead
  refine ⟨concat before, lexeme, concat after, ?_, lead.leads.matches, ?_⟩
  · conv_lhs => rw [← concat_split source, same]
    simp [concat]
  · simp only [Nat.zero_add]

/-- The spans of the lexemes of a source tile it. -/
theorem tiles_spans (source : Text) : Tiles source (spans source) where
  contiguous := by
    have covered := contiguous_spansFrom 0 (split source)
    rwa [concat_split, Nat.zero_add] at covered
  nonempty := by
    intro span member
    obtain ⟨front, lexeme, back, -, classed, rfl⟩ := exists_lexeme_of_span member
    have positive := Text.byteLength_pos classed.ne_nil
    simp only [Text.byteLength_append]
    omega
  boundaries := by
    intro span member
    obtain ⟨front, lexeme, back, rfl, -, rfl⟩ := exists_lexeme_of_span member
    refine ⟨?_, Text.isBoundary_append _ back⟩
    rw [List.append_assoc]
    exact Text.isBoundary_append front _
  classed := by
    intro span member
    obtain ⟨front, lexeme, back, rfl, classed, rfl⟩ := exists_lexeme_of_span member
    exact ⟨lexeme.text, ⟨front, back, rfl, rfl, rfl⟩, classed⟩
  apart := by
    rw [spans, map_kind_spansFrom]
    exact (leadAll_split source).apart
  paired := by
    rintro front count back rfl opens closes
    cases count with
    | zero => exact ⟨spans _, [], [], by rw [List.append_nil, List.append_nil], rfl, rfl⟩
    | succ count =>
      refine ⟨spansFrom 0 (split front),
        spansFrom front.byteLength (pairHashes (List.replicate (count + 1) '#')),
        spansFrom (front ++ List.replicate (count + 1) '#').byteLength (split back), ?_, ?_, ?_⟩
      · rw [spans, split_maximal_hashes count opens closes, spansFrom_append, spansFrom_append,
          concat_append, concat_split, concat_pairHashes, Nat.zero_add, Nat.zero_add]
      · have covered :=
          contiguous_spansFrom front.byteLength (pairHashes (List.replicate (count + 1) '#'))
        rwa [concat_pairHashes, byteLength_hashes] at covered
      · rw [map_kind_spansFrom, pairHashes_replicate]
        simp

/-! ## Nothing else tiles -/

/-- The hashes at the front of a text, and what stands behind them. -/
theorem exists_front_hashes (content : Text) :
    ∃ count back, content = List.replicate count '#' ++ back ∧ back.head? ≠ some '#' := by
  induction content with
  | nil => exact ⟨0, [], rfl, nofun⟩
  | cons c rest ih =>
    by_cases hash : c = '#'
    · obtain ⟨count, back, rfl, closes⟩ := ih
      exact ⟨count + 1, back, by rw [hash, List.replicate_succ, List.cons_append], closes⟩
    · exact ⟨0, c :: rest, rfl, by simpa using hash⟩

/-- The hashes at the end of a text, and what stands in front of them. -/
theorem exists_back_hashes (content : Text) :
    ∃ front count, content = front ++ List.replicate count '#' ∧ front.getLast? ≠ some '#' := by
  obtain ⟨count, back, reversed, closes⟩ := exists_front_hashes content.reverse
  refine ⟨back.reverse, count, ?_, by rwa [List.getLast?_reverse]⟩
  rw [← List.reverse_replicate, ← List.reverse_append, ← reversed, List.reverse_reverse]

/-- In a run of hashes taken in pairs, a hash alone ends the run. -/
theorem stop_of_lone {start stop : Nat} {run : List Span} {pairs odd : Nat} (single : odd ≤ 1)
    (contiguous : Contiguous start run stop)
    (kinds : run.map Span.kind =
      List.replicate pairs .commentDelimiter ++ List.replicate odd .hash)
    {span : Span} (member : span ∈ run) (hash : span.kind = .hash) : span.stop = stop := by
  have paired {some : List Span} (same : some.map Span.kind = .replicate pairs .commentDelimiter) :
      span ∉ some := by
    intro inside
    have kind : span.kind ∈ some.map Span.kind := List.mem_map_of_mem inside
    rw [same, hash] at kind
    exact absurd (List.eq_of_mem_replicate kind) (by decide)
  obtain rfl | rfl : odd = 0 ∨ odd = 1 := by omega
  · rw [List.replicate_zero, List.append_nil] at kinds
    exact absurd member (paired kinds)
  · obtain ⟨front, last, rfl⟩ := run.eq_nil_or_concat.resolve_left (List.ne_nil_of_mem member)
    rw [List.concat_eq_append] at kinds contiguous member
    rw [List.map_append] at kinds
    have front_kinds := (List.append_inj' kinds rfl).1
    have ended : span = last := by
      rcases List.mem_append.mp member with inside | only
      · exact absurd inside (paired front_kinds)
      · exact List.mem_singleton.mp only
    obtain ⟨middle, -, ⟨-, stops⟩⟩ := contiguous_append.mp contiguous
    rw [ended]
    exact stops

/-- A hash alone is not followed by another one, where spans tile.

    It stands in a maximal run of hashes, and the spans of that run are the only ones inside it. So
    it is one of them, and being alone it ends the run. -/
theorem Tiles.lone {before after : List Lexeme}
    (tiles : Tiles (concat (before ++ ⟨.hash, ['#']⟩ :: after))
      (spansFrom 0 (before ++ ⟨.hash, ['#']⟩ :: after))) :
    (concat after).head? ≠ some '#' := by
  obtain ⟨front, earlier, ahead, opens⟩ := exists_back_hashes (concat before)
  obtain ⟨later, back, behind, closes⟩ := exists_front_hashes (concat after)
  have whole : concat (before ++ ⟨.hash, ['#']⟩ :: after) =
      front ++ List.replicate (earlier + (1 + later)) '#' ++ back := by
    rw [List.replicate_add, List.replicate_add, concat_append, ahead,
      show concat (⟨.hash, ['#']⟩ :: after) = ['#'] ++ concat after from rfl, behind]
    simp
  obtain ⟨spansBefore, run, spansAfter, parts, inRun, kinds⟩ :=
    tiles.paired front _ back whole opens closes
  let lone : Span := ⟨.hash, front.byteLength + earlier, front.byteLength + earlier + 1⟩
  have listed : lone ∈ spansFrom 0 (before ++ ⟨.hash, ['#']⟩ :: after) := by
    rw [spansFrom_append, ahead, Text.byteLength_append, byteLength_hashes, Nat.zero_add]
    exact List.mem_append_right _ List.mem_cons_self
  have present : run ≠ [] := by
    rintro rfl
    have empty : front.byteLength = front.byteLength + (earlier + (1 + later)) := inRun
    omega
  have contiguous := tiles.contiguous
  have nonempty := tiles.nonempty
  rw [parts] at contiguous nonempty listed
  have member : lone ∈ run :=
    contiguous.mem_middle nonempty present inRun listed (by dsimp only [lone]; omega)
  have single := Nat.le_of_lt_succ (Nat.mod_lt (earlier + (1 + later)) (by decide : 0 < 2))
  have ended : front.byteLength + earlier + 1 = front.byteLength + (earlier + (1 + later)) :=
    stop_of_lone single inRun kinds member rfl
  obtain rfl : later = 0 := by omega
  rw [behind]
  exact closes

/-- Spans that tile a source are those of its lexemes. -/
theorem Tiles.eq_spans {source : Text} {found : List Span} (tiles : Tiles source found) :
    found = spans source := by
  obtain ⟨lexemes, rfl, rfl, matched⟩ :=
    exists_lexemes (show source = [] ++ source from rfl) tiles.contiguous tiles.classed
  have apart := tiles.apart
  rw [map_kind_spansFrom] at apart
  have lead : LeadAll lexemes := by
    refine leadAll_of_forall fun before lexeme after same => ?_
    subst same
    have classed := matched lexeme (List.mem_append_right before List.mem_cons_self)
    have behind : ∀ other ∈ after, other.kind.Matches other.text := fun other member =>
      matched other (List.mem_append_right before (List.mem_cons_of_mem lexeme member))
    refine leads_of_matches classed
      ⟨fun run c first => not_going_on apart behind run first, fun hash => ?_⟩
    have lone : lexeme = ⟨.hash, ['#']⟩ := by
      obtain ⟨kind, text⟩ := lexeme
      obtain rfl := hash
      obtain rfl := classed
      rfl
    subst lone
    exact tiles.lone
  rw [spans, split_concat lead]
  rfl

/-- The spans of the lexemes tile their source, and no other spans do. -/
theorem tiles_iff_spans (source : Text) (found : List Span) :
    Tiles source found ↔ found = spans source :=
  ⟨Tiles.eq_spans, fun same => same ▸ tiles_spans source⟩

/-- Three hashes are a pair and a hash, and offsets count bytes. -/
example : spans "é### a" =
    [⟨.other, 0, 2⟩, ⟨.commentDelimiter, 2, 4⟩, ⟨.hash, 4, 5⟩, ⟨.blank, 5, 6⟩, ⟨.word, 6, 7⟩] := by
  decide

end FlashMarkup.Lexeme
