import FlashMarkup.Grammar.Tag

/-!
# HTML names

How tags and attributes are called in HTML. A tag outside the vocabulary becomes a plain
division; an attribute without a name of its own keeps the one it has.
-/

namespace FlashMarkup

/-- The HTML element that stands for a tag of the vocabulary. -/
def Tag.htmlElement : Tag → Text
  | .velocista | .lugar | .equipo => "div"
  | .titulo => "h1"
  | .episodio | .escena => "section"
  | .temporada => "article"
  | .personaje => "figure"
  | .dialogo => "p"
  | .rapido => "em"
  | .accion => "aside"
  | .imagen => "img"
  | .villanos => "ul"
  | .villano => "li"
  | .poder | .superspeed | .phasing | .cryokinesis | .vibration | .timetravel | .speedforce
  | .metahuman => "span"

namespace Html

/-- The HTML element that stands for a written tag name. -/
def elementName (tag : Text) : Text :=
  match Tag.ofName? tag with
  | some known => known.htmlElement
  | none => "div"

/-- The attributes that are called differently in HTML, or that HTML knows by their name. -/
def renamedAttributes : List (Text × Text) :=
  [("nombre", "data-nombre"), ("actor", "data-actor"), ("velocidad", "data-velocidad"),
    ("numero", "data-temporada"), ("src", "src"), ("alt", "alt")]

/-- The HTML name of an attribute. -/
def attributeName (name : Text) : Text := (renamedAttributes.lookup name).getD name

/-- The tag whose element is an image and never has content. -/
def imageTag : Text := Tag.imagen.name

end Html

end FlashMarkup
