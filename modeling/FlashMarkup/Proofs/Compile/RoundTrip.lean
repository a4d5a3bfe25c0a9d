import FlashMarkup.Compile.Basic
import FlashMarkup.Proofs.Document.Written
import FlashMarkup.Proofs.Token.Layers

/-!
# Parsing inverts writing

A document that can be written is obtained again, up to positions, by parsing its source in either
layout, and parsing any source at all gives a document that can be written. So `Document.Writable`
describes the documents that parsing gives, and neither layout loses anything.
-/

namespace FlashMarkup

/-- A source is parsed if it is scanned and its tokens are parsed. -/
theorem parse_eq_ok_iff {source : Text} {document : Document} :
    parse source = .ok document ↔
      ∃ tokens, Token.scan source = .ok tokens ∧ Document.ofTokens tokens = .ok document := by
  unfold parse tokenize
  cases Token.scan source with
  | error failure => simp [Except.mapError, bind, Except.bind]
  | ok tokens =>
    simp only [Except.mapError, bind, Except.bind]
    cases read : Document.ofTokens tokens <;> simp [read]

/-- A source compiles if it is parsed and nothing is wrong with its document. -/
theorem compile_eq_ok_iff {options : CompileOptions} {source : Text} {compiled : Compiled} :
    compile options source = .ok compiled ↔
      ∃ document, parse source = .ok document ∧ document.validate = [] ∧
        compiled = ⟨document, .ofDocument document, Html.renderPage options.page document⟩ := by
  unfold compile
  rw [Result.bind_eq_ok_iff]
  refine exists_congr fun document => and_congr_right fun _ => ?_
  cases document.validate with
  | nil => simp [eq_comm]
  | cons first rest => simp

/-- Every document that is parsed can be written. -/
theorem writable_of_parse {source : Text} {document : Document}
    (parsed : parse source = .ok document) : document.Writable := by
  obtain ⟨tokens, scanned, read⟩ := parse_eq_ok_iff.mp parsed
  obtain ⟨derives, shallow⟩ := (Document.ofTokens_iff_derived tokens document).mp read
  rw [Token.scan, Token.scanFrom_split] at scanned
  obtain ⟨valid, chain⟩ := Token.Characters.valid_of_scanFrom scanned
  have front : Document.meaningful tokens <+: tokens := List.takeWhile_prefix _
  have frontChain : (Document.meaningful tokens).IsChain Token.MayPrecede :=
    List.IsChain.infix chain front.isInfix
  refine ⟨Document.writables_of_derives derives ?_ frontChain, shallow⟩
  intro token member
  exact valid token (front.subset member)

/-- The source of a document that can be written is parsed as the document, up to positions. -/
theorem parse_source {layout : Layout} {document : Document} (writable : document.Writable)
    (unslashed : layout = .compact → document.Unslashed) :
    (parse (document.source layout)).map Document.unplaced = .ok document.unplaced := by
  have border : Document.Bordered [] := Document.bordered_nil
  obtain ⟨tokens, read, derives, same, scans⟩ :=
    Document.scans_sources layout document.children writable.parts unslashed .start border
  let stop : Token := ⟨.endOfInput, [], Position.start.past (document.source layout)⟩
  have scanned : Token.scan (document.source layout) = .ok (tokens ++ [stop]) := by
    rw [Token.scan, Token.scanFrom_split]
    have whole := scans
    rw [Token.Characters.Scans, List.append_nil, Token.Characters.scanFrom_nil] at whole
    exact whole
  have shallow : Node.nestings read ≤ 256 := by
    rw [← Node.nestings_unplaceds, same, Node.nestings_unplaceds]
    exact writable.shallow
  have derived : Document.Derived (tokens ++ [stop]) ⟨read⟩ := by
    refine ⟨?_, shallow⟩
    rw [Document.meaningful_of_derives derives rfl]
    exact derives
  have parsed := parse_eq_ok_iff.mpr
    ⟨_, scanned, (Document.ofTokens_iff_derived _ _).mpr derived⟩
  rw [parsed]
  exact congrArg (fun nodes => Except.ok (Document.mk nodes)) same

/-- Parsing and writing are inverse to one another on the documents that can be written: each of
    them is parsed again from its spaced source, and from its compact source if no text begins with
    a slash, and nothing else is ever parsed. -/
theorem parse_inverts_source :
    (∀ document : Document, document.Writable →
      (parse (document.source .spaced)).map Document.unplaced = .ok document.unplaced ∧
        (document.Unslashed →
          (parse (document.source .compact)).map Document.unplaced = .ok document.unplaced)) ∧
      ∀ (source : Text) (document : Document),
        parse source = .ok document → document.Writable := by
  constructor
  · intro document writable
    constructor
    · apply parse_source writable
      intro compact
      contradiction
    · intro unslashed
      apply parse_source writable
      intro _
      exact unslashed
  · intro source document parsed
    exact writable_of_parse parsed

/-- An element with a double quote in a value, a hash in front of an element, and a comment between
    a text and another element. -/
def quotedSpeedster : Document :=
  ⟨[.element "velocista" (.ofList [("nombre", "Barry \"Flash\" Allen"), ("actor", "")])
    [.text "= 1#" .start, .element "lugar" .empty [] .start, .text "Run, #now" .start,
      .comment " # " .start, .element "dialogo" .empty [.text "Hi" .start] .start] .start]⟩

/-- The speedster can be written, no text of it begins with a slash, it is parsed from either
    source, and what is parsed from the compact one can be written again. -/
theorem parse_inverts_source_quotedSpeedster :
    quotedSpeedster.Writable ∧ quotedSpeedster.Unslashed ∧
      (parse (quotedSpeedster.source .spaced)).map Document.unplaced =
        .ok quotedSpeedster.unplaced ∧
      ∃ document, parse (quotedSpeedster.source .compact) = .ok document ∧
        document.unplaced = quotedSpeedster.unplaced ∧ document.Writable := by
  have writable : quotedSpeedster.Writable := by decide +kernel
  have unslashed : quotedSpeedster.Unslashed := by
    simp [Document.Unslashed, quotedSpeedster, Node.Unslasheds, Node.Unslashed]
  obtain ⟨inverts, parsesWritable⟩ := parse_inverts_source
  obtain ⟨spaced, compact⟩ := inverts quotedSpeedster writable
  obtain ⟨document, parsed, same⟩ := Result.map_eq_ok_iff.mp (compact unslashed)
  exact ⟨writable, unslashed, spaced, document, parsed, same, parsesWritable _ _ parsed⟩

end FlashMarkup
