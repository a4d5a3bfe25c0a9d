import FlashMarkup.Log.Event
import FlashMarkup.Number.Decimal
import FlashMarkup.Text.Alphanumeric
import FlashMarkup.Text.Blank

/-!
# Log directives

A directive bounds the detail of some events. It is a level alone, which bounds all of them, or it
has parts in this order: the beginning of a target, a span and a field between brackets, and a level
behind an equals sign, as in `target[span{field=value}]=level`. Without a level it bounds
nothing.

The parts are looked for between the blanks that surround a word, but they are cut out of the whole
word at the places found. A word with blanks before it is therefore read askew: no level behind an
equals sign is found, and a target that is cut out of it begins with a blank.
-/

namespace FlashMarkup.Log

/-- The greatest detail that is logged; nothing is logged if there is none. -/
abbrev Limit := Option Level

/-- A field that a directive names, with the value that it may ask for. -/
structure FieldCondition where
  name : Text
  value : Option Text
deriving DecidableEq, Repr

/-- A directive. What it does not name it does not ask for. -/
structure Directive where
  target : Option Text
  span : Option Text
  field : Option FieldCondition
  limit : Limit
deriving DecidableEq, Repr

/-- What is wrong with a word that is no directive. -/
inductive Directive.Fault where
  | form
  | level
deriving DecidableEq, Repr

/-- The message that reports a fault. -/
def Directive.Fault.message : Directive.Fault → Text
  | .form => "invalid filter directive"
  | .level =>
    "error parsing level filter: expected one of \"off\", \"error\", \"warn\", \"info\", " ++
      "\"debug\", \"trace\", or a number 0-5"

/-- The limits by their names. A number stands for the limit at its place. -/
def limitNames : List (Text × Limit) :=
  [("off", none), ("error", some .error), ("warn", some .warn), ("info", some .info),
    ("debug", some .debug), ("trace", some .trace)]

/-- The limit that a word names, in any case, or stands for as a number. -/
def limit? (word : Text) : Option Limit :=
  match Text.unsigned? word with
  | some number => limitNames[number]?.map Prod.snd
  | none => limitNames.lookup (word.map Char.toLower)

namespace Directive

/-- Whether a directive without brackets may begin with a character. -/
def isFirstChar (c : Char) : Bool := "-:_".toList.contains c || Text.isAlphanumeric c

/-- The part of a text between two places. -/
def part (start stop : Nat) (word : Text) : Text := (word.take stop).drop start

/-- The first place from a given one at which one of two characters stands, or the end. -/
def seek (first second : Char) (start : Nat) (body : Text) : Nat :=
  start + ((body.drop start).takeWhile fun c => c != first && c != second).length

/-- The limit behind an equals sign. Without one, everything is logged. -/
def limitOf (word : Text) : Except Fault Limit :=
  if word.isEmpty then .ok (some .trace)
  else
    match limit? word with
    | some limit => .ok limit
    | none => .error .level

/-- The limit of a directive whose brackets end before a place. -/
def limitAfter (body word : Text) (start : Nat) : Except Fault Limit :=
  match body.drop start with
  | [] => .ok (some .trace)
  | '=' :: _ => limitOf (word.drop (start + 1))
  | _ => .error .form

/-- The field that a text between braces asks for. -/
def fieldOf (written : Text) : FieldCondition :=
  ⟨written.takeWhile (· != '='), ((written.dropWhile (· != '=')).tail?)⟩

/-- The directive with a target, if there is one, whose brackets open before a place. -/
def bracketed (body word : Text) (target : Option Text) (start : Nat) : Except Fault Directive := do
  let stop := seek ']' '\x7b' start body
  let span := part start stop word
  match body.drop stop with
  | ']' :: _ =>
    .ok ⟨target, some span, none, ← limitAfter body word (stop + 1)⟩
  | '\x7b' :: _ =>
    let close := seek '\x7d' '\x7d' (stop + 1) body
    let field := part (stop + 1) close word
    match body.drop close with
    | _ :: ']' :: _ =>
      if field.isEmpty then .error .form
      else
        .ok ⟨target, if span.isEmpty then none else some span, some (fieldOf field),
          ← limitAfter body word (close + 2)⟩
    | _ => .error .form
  | _ => .error .form

/-- The directive that a word without brackets and level spells: a limit, or else a target. -/
def plain (word : Text) : Directive :=
  match limit? word with
  | some limit => ⟨none, none, none, limit⟩
  | none => ⟨some word, none, none, some .trace⟩

/-- The directive that a word spells. -/
def ofWord (word : Text) : Except Fault Directive :=
  let body := Text.trim word
  match body with
  | [] => .error .form
  | c :: _ =>
    let stop := seek '=' '[' 0 body
    if c = '[' then bracketed body word none 1
    else if isFirstChar c then
      match body.drop stop with
      | [] => .ok (plain word)
      | '[' :: _ => bracketed body word (some (word.take stop)) (stop + 1)
      | _ =>
        (limitOf (word.drop (stop + 1))).map fun limit =>
          ⟨some (word.take stop), none, none, limit⟩
    else .error .form

/-- Whether a directive speaks about events at all. One that names a span, or the value of a field,
    speaks about the spans of a run, and there are none. -/
def isAboutEvents (directive : Directive) : Bool :=
  directive.span.isNone && directive.field.all fun field => field.value.isNone

/-- Whether a directive speaks about an event: its target begins as the directive says, and it has
    the field that the directive names. The message counts as a field. -/
def covers (directive : Directive) (event : Event) : Bool :=
  directive.isAboutEvents && (directive.target.getD []).isPrefixOf event.target &&
    directive.field.all fun field =>
      field.name = ("message" : Text) || (event.fields.lookup field.name).isSome

/-- The length of what a directive says about targets. -/
def reach (directive : Directive) : Nat := (directive.target.getD []).length

/-- Whether a directive gives way to a later one that speaks about the same event, because the later
    one is at least as specific: a longer target is more specific, then a field is more specific than
    none, and of two fields the greater name. -/
def yieldsTo (earlier later : Directive) : Bool :=
  earlier.reach < later.reach ||
    (earlier.reach == later.reach &&
      match earlier.field, later.field with
      | none, _ => true
      | some _, none => false
      | some field, some other => !Text.precedes other.name field.name)

end Directive

end FlashMarkup.Log
