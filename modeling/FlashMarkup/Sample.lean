import FlashMarkup.Compile.Basic

/-!
# Sample documents

Sources that show the language at work. All of them parse; the valid ones also compile.
-/

namespace FlashMarkup

/-- The samples. -/
inductive Sample where
  /-- A root and a title on one line. -/
  | minimal
  /-- A full episode with structural tags, a comment, an image and a power. -/
  | pilot
  /-- A title without a root. -/
  | missingRoot
  /-- An unknown tag around a tag that would be misplaced. -/
  | unknownTag
  /-- A season at document level without its number. -/
  | orphanSeason
deriving DecidableEq, Repr

namespace Sample

/-- Every sample. -/
def all : List Sample := [.minimal, .pilot, .missingRoot, .unknownTag, .orphanSeason]

/-- The samples that compile. -/
def valid : List Sample := [.minimal, .pilot]

/-- The samples that violate the grammar. -/
def invalid : List Sample := [.missingRoot, .unknownTag, .orphanSeason]

/-- The name of the file that holds a sample. -/
def fileName : Sample → Text
  | .minimal => "minimal.flashml"
  | .pilot => "pilot.flashml"
  | .missingRoot => "missing-root.flashml"
  | .unknownTag => "unknown-tag.flashml"
  | .orphanSeason => "orphan-season.flashml"

/-- The sample in a file. -/
def ofFileName? (name : Text) : Option Sample := all.find? (·.fileName == name)

/-- The lines of a sample. -/
def lines : Sample → List Text
  | .minimal => ["@velocista@@titulo@Hi@/titulo@@/velocista@"]
  | .pilot =>
    ["## Guion del piloto ##",
      "@velocista",
      "    @titulo The Flash @/titulo",
      "    @temporada numero=\"1\"",
      "        @episodio",
      "            @titulo Pilot @/titulo",
      "            @escena",
      "                @personaje nombre=\"Barry Allen\" actor=\"Grant Gustin\"",
      "                    @dialogo Mi nombre es Barry Allen y soy @rapido el hombre más rápido @/rapido del mundo. @/dialogo",
      "                    @accion velocidad=\"alta\" @superspeed Corre por Central City @/superspeed @/accion",
      "                @/personaje",
      "            @/escena",
      "        @/episodio",
      "    @/temporada",
      "    @imagen src=\"flash.png\" alt=\"The Flash\" @/imagen",
      "    @villanos",
      "        @villano nombre=\"Reverse Flash\" poder=\"velocidad\" Eobard Thawne @/villano",
      "    @/villanos",
      "    @lugar nombre=\"S.T.A.R. Labs\" @personaje nombre=\"Cisco Ramon\" @/personaje @/lugar",
      "    @equipo nombre=\"Team Flash\" @/equipo",
      "@/velocista"]
  | .missingRoot => ["@titulo Sin velocista @/titulo"]
  | .unknownTag =>
    ["@velocista", "    @capitan @villano @/villano @/capitan", "@/velocista"]
  | .orphanSeason => ["@temporada@@episodio@@/episodio@@/temporada@"]

/-- The source of a sample. -/
def source (sample : Sample) : Text := Text.unlines sample.lines

end Sample

end FlashMarkup
