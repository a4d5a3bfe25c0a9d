import FlashMarkup.Grammar.Tag

/-!
# Tag rules

A rule says inside which elements a tag may stand and which attributes its element may carry. An
optional attribute is often named like a tag that may stand inside the element.
-/

namespace FlashMarkup

/-- What the grammar demands of an element. Without a list of parents the element may stand
    anywhere, also at document level. -/
structure TagRule where
  parents : Option (List Tag)
  required : List Text
  optional : List Text
deriving DecidableEq, Repr

namespace TagRule

/-- The rule of an element that may stand anywhere. -/
def anywhere (optional : List Text) : TagRule := ⟨none, [], optional⟩

/-- The rule of an element that stands inside one of the given elements. -/
def inside (parents : List Tag) (required optional : List Text) : TagRule :=
  ⟨some parents, required, optional⟩

/-- Whether an element may stand inside the named element, or at document level if there is no
    name. -/
def allowsParent (rule : TagRule) (parent : Option Text) : Bool :=
  match rule.parents, parent with
  | none, _ => true
  | some parents, some name => parents.any (·.name == name)
  | some _, none => false

/-- Whether an element may carry an attribute. -/
def allowsAttribute (rule : TagRule) (name : Text) : Bool :=
  rule.required.contains name || rule.optional.contains name

end TagRule

namespace Tag

/-- The names of all powers behind some other names. -/
def withPowers (others : List Tag) : List Text := (others ++ powers).map name

/-- The names of the sections of an episode. -/
def sections : List Text :=
  [titulo, escena, personaje, poder, imagen, villanos, lugar, equipo].map name

/-- The rule of a tag. -/
def rule : Tag → TagRule
  | .velocista =>
    .anywhere ([titulo, episodio, escena, personaje, poder, imagen, villanos, lugar, equipo].map name)
  | .titulo => .inside [velocista, episodio] [] []
  | .episodio => .inside [velocista, temporada] [] sections
  | .temporada => .inside [velocista] ["numero"] ([episodio, titulo].map name)
  | .escena => .inside [velocista, episodio] [] (withPowers [personaje, dialogo, accion, poder])
  | .personaje =>
    .inside [velocista, episodio, escena, lugar, equipo] ["nombre"] ["actor", "poder"]
  | .poder => .inside [velocista, episodio, escena, personaje] [] []
  | .dialogo => .inside [escena, personaje] [] (withPowers [rapido])
  | .rapido => .inside [dialogo] [] []
  | .accion => .inside [escena, personaje] [] ("velocidad" :: withPowers [])
  | .imagen => .inside [velocista, episodio, personaje] ["src"] ["alt"]
  | .villanos => .inside [velocista, episodio] [] ["villano"]
  | .villano => .inside [villanos] ["nombre"] ["poder"]
  | .superspeed | .phasing | .cryokinesis | .vibration | .timetravel | .speedforce | .metahuman =>
    .inside [dialogo, escena, personaje, accion] [] []
  | .lugar | .equipo => .inside [velocista, episodio, escena] ["nombre"] ["personaje"]

/-- The rule of the tag with a written name, if the grammar knows the name. -/
def ruleOf? (written : Text) : Option TagRule := (ofName? written).map rule

end Tag

end FlashMarkup
