import FlashMarkup.Text.Basic

/-!
# The vocabulary

The 22 tags that the grammar knows, with their written names.
-/

namespace FlashMarkup

/-- A tag of the vocabulary. -/
inductive Tag where
  | velocista
  | titulo
  | episodio
  | temporada
  | escena
  | personaje
  | poder
  | dialogo
  | rapido
  | accion
  | imagen
  | villanos
  | villano
  | superspeed
  | phasing
  | cryokinesis
  | vibration
  | timetravel
  | speedforce
  | metahuman
  | lugar
  | equipo
deriving DecidableEq, Repr

namespace Tag

/-- The written name of a tag. -/
def name : Tag → Text
  | .velocista => "velocista"
  | .titulo => "titulo"
  | .episodio => "episodio"
  | .temporada => "temporada"
  | .escena => "escena"
  | .personaje => "personaje"
  | .poder => "poder"
  | .dialogo => "dialogo"
  | .rapido => "rapido"
  | .accion => "accion"
  | .imagen => "imagen"
  | .villanos => "villanos"
  | .villano => "villano"
  | .superspeed => "superspeed"
  | .phasing => "phasing"
  | .cryokinesis => "cryokinesis"
  | .vibration => "vibration"
  | .timetravel => "timetravel"
  | .speedforce => "speedforce"
  | .metahuman => "metahuman"
  | .lugar => "lugar"
  | .equipo => "equipo"

/-- The tags that name a power. -/
def powers : List Tag :=
  [.superspeed, .phasing, .cryokinesis, .vibration, .timetravel, .speedforce, .metahuman]

/-- Every tag of the vocabulary. -/
def all : List Tag :=
  [.velocista, .titulo, .episodio, .temporada, .escena, .personaje, .poder, .dialogo, .rapido,
    .accion, .imagen, .villanos, .villano] ++ powers ++ [.lugar, .equipo]

/-- The tag that a written name stands for. -/
def ofName? (written : Text) : Option Tag := all.find? (·.name == written)

/-- The tag that every document has at top level. -/
def root : Tag := .velocista

end Tag

end FlashMarkup
