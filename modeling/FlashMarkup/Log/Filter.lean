import FlashMarkup.Log.Directive

/-!
# Log filters

A filter is a list of directives separated by commas. Of those that speak about an event, the most
specific one decides whether it is logged, and of equally specific ones the last. An event about
which no directive speaks is not logged. Without any directive, errors alone are logged.
-/

namespace FlashMarkup.Log

/-- The directives of a filter, in written order. -/
structure Filter where
  directives : List Directive
deriving DecidableEq, Repr

namespace Filter

/-- The words between the commas of a filter. -/
def words (source : Text) : List Text := (pieces ',' source).filter fun word => !word.isEmpty

/-- The filter that a text spells. Words that are no directives are left out. -/
def ofText (source : Text) : Filter :=
  ⟨(words source).filterMap fun word => (Directive.ofWord word).toOption⟩

/-- The words of a text that are no directives, with what is wrong with them. -/
def faults (source : Text) : List (Text × Directive.Fault) :=
  (words source).filterMap fun word =>
    match Directive.ofWord word with
    | .ok _ => none
    | .error fault => some (word, fault)

/-- The filter that a text spells, if all its words are directives. -/
def ofText? (source : Text) : Option Filter :=
  ((words source).mapM fun word => (Directive.ofWord word).toOption).map Filter.mk

/-- The more specific of two directives, of which the second is the later one. -/
def prefer (best : Option Directive) (later : Directive) : Option Directive :=
  match best with
  | some earlier => if earlier.yieldsTo later then some later else some earlier
  | none => some later

/-- The directive that decides about an event. -/
def decisive? (filter : Filter) (event : Event) : Option Directive :=
  (filter.directives.filter fun directive => directive.covers event).foldl prefer none

/-- The limit for an event. -/
def limitFor (filter : Filter) (event : Event) : Limit :=
  if filter.directives.isEmpty then some .error
  else (filter.decisive? event).bind Directive.limit

/-- Whether an event is logged. -/
def admits (filter : Filter) (event : Event) : Bool :=
  (filter.limitFor event).any fun level => event.level.detail ≤ level.detail

end Filter

end FlashMarkup.Log
