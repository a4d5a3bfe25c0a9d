import FlashMarkup.Text.Basic

/-!
# The theme

The style sheet that every page embeds, as rules and as the text of them.
-/

namespace FlashMarkup.Html

/-- A part of a style sheet. -/
inductive StyleItem where
  /-- A remark about the parts that follow. -/
  | note (content : Text)
  /-- A statement without a body. -/
  | statement (content : Text)
  /-- A selector with its declarations. -/
  | rule (selector : Text) (declarations : List Text)
  /-- The steps of an animation, one declaration each. -/
  | frames (header : Text) (steps : List (Text × Text))
  /-- Rules that apply under a condition. -/
  | group (header : Text) (rules : List (Text × List Text))

namespace StyleItem

/-- A declaration on a line of its own, one level deeper than its rule. -/
def declarationLine (pad declaration : Text) : Text := pad ++ "    " ++ declaration ++ ";\n"

/-- A selector with its declarations, indented by `pad`. -/
def ruleText (pad selector : Text) (declarations : List Text) : Text :=
  pad ++ selector ++ " \x7b\n" ++ declarations.flatMap (declarationLine pad) ++ pad ++ "\x7d\n"

/-- A step of an animation on a line of its own. -/
def stepLine (moment declaration : Text) : Text :=
  "    " ++ moment ++ " \x7b " ++ declaration ++ "; \x7d\n"

/-- The lines of a part. -/
def toText : StyleItem → Text
  | .note content => "/* " ++ content ++ " */\n"
  | .statement content => content ++ ";\n"
  | .rule selector declarations => ruleText [] selector declarations
  | .frames header steps =>
    header ++ " \x7b\n" ++ steps.flatMap (fun step => stepLine step.1 step.2) ++ "\x7d\n"
  | .group header rules =>
    header ++ " \x7b\n" ++
      Text.join "\n" (rules.map fun rule => ruleText "    " rule.1 rule.2) ++ "\x7d\n"

/-- The parts one after the other, with an empty line between them except behind a remark. -/
def concat : List StyleItem → Text
  | [] => []
  | [item] => item.toText
  | .note content :: rest => (note content).toText ++ concat rest
  | item :: rest => item.toText ++ "\n" ++ concat rest

end StyleItem

/-- What applies to the whole page. -/
def basicsStyle : List StyleItem :=
  [
    .note "FlashML default theme",
    .statement
      "@import url('https://fonts.googleapis.com/css2?family=Montserrat:wght@300;400;500;700&family=Roboto:wght@300;400;500;700&display=swap')",
    .rule ":root" [
      "--flash-red: #e63946", "--flash-yellow: #fcbf49", "--dark-bg: #1a1a2e",
      "--dark-secondary: #16213e", "--dark-accent: #242750", "--light-text: #f8f9fa",
      "--highlight: #f1c40f", "--flash-blue: #4361ee", "--flash-green: #2ecc71",
      "--flash-purple: #9b59b6", "--transition-speed: 0.3s"],
    .rule "*" [
      "margin: 0", "padding: 0", "box-sizing: border-box"],
    .rule "body" [
      "font-family: 'Roboto', sans-serif", "background-color: var(--dark-bg)",
      "color: var(--light-text)", "max-width: 1200px", "margin: 0 auto", "padding: 20px",
      "line-height: 1.6"],
    .rule "h1, h2, h3, h4, h5, h6" [
      "font-family: 'Montserrat', sans-serif", "margin-bottom: 0.8em", "font-weight: 700"],
    .rule "h1" [
      "color: var(--flash-red)", "border-bottom: 3px solid var(--flash-yellow)",
      "padding-bottom: 10px", "margin-bottom: 1.5rem", "font-size: 2.5rem",
      "text-shadow: 0 0 10px rgba(230, 57, 70, 0.3)"]
  ]

/-- Root container. -/
def rootContainerStyle : List StyleItem :=
  [
    .note "Root container",
    .rule ".velocista" [
      "border: none", "padding: 25px", "border-radius: 12px",
      "background-color: var(--dark-accent)", "box-shadow: 0 10px 30px rgba(0, 0, 0, 0.4)",
      "margin-bottom: 2rem", "transition: transform var(--transition-speed)"],
    .rule ".velocista:hover" [
      "transform: translateY(-5px)"]
  ]

/-- Seasons and episodes. -/
def seasonsAndEpisodesStyle : List StyleItem :=
  [
    .note "Seasons and episodes",
    .rule "article.temporada" [
      "background-color: var(--dark-secondary)", "padding: 20px", "margin: 20px 0",
      "border-radius: 12px", "border-left: 8px solid var(--flash-yellow)",
      "box-shadow: 0 5px 15px rgba(0, 0, 0, 0.3)", "transition: all var(--transition-speed)"],
    .rule "article.temporada:hover" [
      "box-shadow: 0 8px 20px rgba(0, 0, 0, 0.4)", "transform: translateY(-3px)"],
    .rule "section.episodio" [
      "margin-top: 25px", "padding: 18px", "border-radius: 8px",
      "background-color: var(--dark-accent)", "border-left: 5px solid var(--flash-yellow)",
      "box-shadow: 0 3px 10px rgba(0, 0, 0, 0.2)"],
    .rule "section.escena" [
      "margin: 20px 0", "padding: 15px", "background-color: var(--dark-secondary)",
      "border-radius: 8px", "border-left: 5px solid var(--flash-red)", "position: relative"],
    .rule "section.escena:before" [
      "content: ''", "position: absolute", "top: 0", "left: 0", "width: 100%", "height: 100%",
      "background: linear-gradient(to right, rgba(230, 57, 70, 0.05), transparent)",
      "border-radius: 8px", "pointer-events: none"]
  ]

/-- Characters and dialogue. -/
def charactersAndDialogueStyle : List StyleItem :=
  [
    .note "Characters and dialogue",
    .rule "figure.personaje" [
      "padding: 15px", "margin: 15px 0", "background-color: var(--dark-secondary)", "border: none",
      "border-radius: 10px", "box-shadow: 0 3px 10px rgba(0, 0, 0, 0.2)", "position: relative",
      "overflow: hidden", "transition: all var(--transition-speed)"],
    .rule "figure.personaje:hover" [
      "transform: translateY(-2px)", "box-shadow: 0 6px 15px rgba(0, 0, 0, 0.3)"],
    .rule "figure.personaje:after" [
      "content: ''", "position: absolute", "top: 0", "right: 0", "width: 8px", "height: 100%",
      "background: var(--flash-yellow)", "opacity: 0.7"],
    .rule ".poder" [
      "color: var(--flash-red)", "font-weight: bold", "padding: 3px 6px", "border-radius: 4px",
      "background-color: rgba(230, 57, 70, 0.1)", "display: inline-block", "margin: 2px"],
    .rule "p.dialogo" [
      "padding: 15px", "margin: 12px 0", "background-color: var(--dark-accent)",
      "border-radius: 10px", "position: relative", "box-shadow: 0 3px 8px rgba(0, 0, 0, 0.15)"],
    .rule "p.dialogo:before" [
      "content: '❝'", "position: absolute", "left: 8px", "top: 0", "color: var(--flash-yellow)",
      "font-size: 1.5em", "opacity: 0.5"],
    .rule "em.rapido" [
      "color: var(--flash-yellow)", "font-style: italic",
      "text-shadow: 0 0 3px rgba(252, 191, 73, 0.5)", "font-weight: 500"]
  ]

/-- Actions. -/
def actionsStyle : List StyleItem :=
  [
    .note "Actions",
    .rule "aside.accion" [
      "color: var(--light-text)", "padding: 12px 15px", "margin: 15px 0",
      "background-color: var(--dark-secondary)", "border-left: 5px solid var(--flash-blue)",
      "border-radius: 8px", "position: relative", "box-shadow: 0 3px 10px rgba(0, 0, 0, 0.2)"],
    .rule "aside.accion:before" [
      "content: '⚡'", "position: absolute", "right: 15px", "top: 10px", "color: var(--flash-blue)",
      "opacity: 0.5", "font-size: 1.2em"]
  ]

/-- Villains. -/
def villainsStyle : List StyleItem :=
  [
    .note "Villains",
    .rule "ul.villanos" [
      "padding-left: 0", "list-style-type: none"],
    .rule "li.villano" [
      "padding: 12px 15px", "margin: 10px 0",
      "background: linear-gradient(to right, #330000, #3a0000)", "color: #fff",
      "border-radius: 8px", "box-shadow: 0 3px 10px rgba(0, 0, 0, 0.3)",
      "transition: all var(--transition-speed)", "position: relative", "padding-left: 30px"],
    .rule "li.villano:before" [
      "content: '⚠'", "color: var(--flash-yellow)", "position: absolute", "left: 10px", "top: 50%",
      "transform: translateY(-50%)"],
    .rule "li.villano:hover" [
      "transform: scale(1.02)", "box-shadow: 0 5px 15px rgba(0, 0, 0, 0.4)"]
  ]

/-- Images. -/
def imagesStyle : List StyleItem :=
  [
    .note "Images",
    .rule "img" [
      "max-width: 100%", "height: auto", "display: block", "margin: 15px auto",
      "border-radius: 8px", "box-shadow: 0 5px 15px rgba(0, 0, 0, 0.3)",
      "transition: transform var(--transition-speed)"],
    .rule "img:hover" [
      "transform: scale(1.02)"]
  ]

/-- Powers. -/
def powersStyle : List StyleItem :=
  [
    .note "Powers",
    .rule ".superspeed" [
      "color: var(--flash-yellow)", "font-style: italic",
      "text-shadow: 0 0 5px rgba(252, 191, 73, 0.5)", "font-weight: 500",
      "background: linear-gradient(to right, transparent, rgba(252, 191, 73, 0.1), transparent)",
      "padding: 0 5px"],
    .rule ".phasing" [
      "color: var(--flash-blue)", "text-shadow: 0 0 8px rgba(67, 97, 238, 0.7)", "opacity: 0.8",
      "transition: opacity var(--transition-speed)"],
    .rule ".phasing:hover" [
      "opacity: 1"],
    .rule ".cryokinesis" [
      "color: var(--flash-green)", "font-weight: bold",
      "background: linear-gradient(to right, rgba(46, 204, 113, 0.1), transparent)",
      "padding: 0 5px", "border-radius: 3px"],
    .rule ".vibration" [
      "color: #e91e63", "animation: vibrate 0.3s infinite", "display: inline-block"],
    .frames "@keyframes vibrate" [
      ("0%", "transform: translateX(0)"), ("25%", "transform: translateX(1px)"),
      ("50%", "transform: translateX(-1px)"), ("75%", "transform: translateX(1px)"),
      ("100%", "transform: translateX(0)")],
    .rule ".timetravel" [
      "color: var(--flash-purple)", "text-decoration: none",
      "background: linear-gradient(to right, transparent, rgba(155, 89, 182, 0.2), transparent)",
      "padding: 0 5px", "position: relative"],
    .rule ".timetravel:after" [
      "content: ''", "position: absolute", "left: 0", "bottom: 0", "width: 100%", "height: 1px",
      "background: linear-gradient(to right, transparent, var(--flash-purple), transparent)"],
    .rule ".speedforce" [
      "color: var(--flash-yellow)", "font-weight: bold",
      "background: linear-gradient(90deg, rgba(252,191,73,0.1) 0%, rgba(252,191,73,0.2) 50%, rgba(252,191,73,0.1) 100%)",
      "padding: 3px 8px", "border-radius: 5px", "box-shadow: 0 0 5px rgba(252, 191, 73, 0.3)"],
    .rule ".metahuman" [
      "color: var(--highlight)", "font-style: italic", "padding: 2px 5px", "border-radius: 3px",
      "background-color: rgba(241, 196, 15, 0.1)"]
  ]

/-- Places and teams. -/
def placesAndTeamsStyle : List StyleItem :=
  [
    .note "Places and teams",
    .rule ".lugar" [
      "background-color: var(--dark-secondary)", "padding: 15px", "margin: 15px 0",
      "border-left: 5px solid var(--flash-red)", "border-radius: 8px", "position: relative",
      "box-shadow: 0 3px 10px rgba(0, 0, 0, 0.2)"],
    .rule ".lugar:before" [
      "content: '📍'", "position: absolute", "right: 15px", "top: 10px", "opacity: 0.6"],
    .rule ".equipo" [
      "padding: 15px", "margin: 15px 0", "background-color: var(--dark-accent)",
      "border-radius: 8px", "box-shadow: 0 3px 10px rgba(0, 0, 0, 0.2)",
      "border-top: 3px solid var(--flash-yellow)", "position: relative"],
    .rule ".equipo:before" [
      "content: '👥'", "position: absolute", "right: 15px", "top: 10px", "opacity: 0.6"]
  ]

/-- Animations. -/
def animationsStyle : List StyleItem :=
  [
    .note "Animations",
    .frames "@keyframes lightning-flash" [
      ("0%, 100%", "opacity: 0.2"), ("50%", "opacity: 1")]
  ]

/-- Hover states. -/
def hoverStatesStyle : List StyleItem :=
  [
    .note "Hover states",
    .rule "[data-actor]:hover:after" [
      "content: 'Actor: ' attr(data-actor)", "position: absolute", "top: -30px", "left: 50%",
      "transform: translateX(-50%)", "background-color: var(--dark-bg)",
      "color: var(--light-text)", "padding: 5px 10px", "border-radius: 5px", "font-size: 0.8em",
      "z-index: 10", "white-space: nowrap"],
    .rule "[data-velocidad]:hover:after" [
      "content: 'Velocidad: ' attr(data-velocidad)", "position: absolute", "top: -30px",
      "left: 50%", "transform: translateX(-50%)", "background-color: var(--dark-bg)",
      "color: var(--flash-yellow)", "padding: 5px 10px", "border-radius: 5px", "font-size: 0.8em",
      "z-index: 10", "white-space: nowrap"]
  ]

/-- Small screens. -/
def smallScreensStyle : List StyleItem :=
  [
    .note "Small screens",
    .group "@media (max-width: 768px)" [
      ("body", [
        "padding: 15px"]),
      ("h1", [
        "font-size: 2rem"]),
      (".velocista", [
        "padding: 15px"]),
      ("article.temporada, section.episodio, section.escena, figure.personaje", [
        "padding: 12px", "margin: 12px 0"])],
    .group "@media (max-width: 480px)" [
      ("h1", [
        "font-size: 1.8rem"]),
      (".velocista", [
        "padding: 10px"]),
      ("article.temporada, section.episodio, section.escena, figure.personaje", [
        "padding: 10px", "margin: 10px 0"])]
  ]

/-- The parts of the theme. -/
def theme : List StyleItem :=
  basicsStyle ++ rootContainerStyle ++ seasonsAndEpisodesStyle ++ charactersAndDialogueStyle ++
    actionsStyle ++ villainsStyle ++ imagesStyle ++ powersStyle ++ placesAndTeamsStyle ++
    animationsStyle ++ hoverStatesStyle ++ smallScreensStyle

/-- The text of the theme. -/
def stylesheet : Text := StyleItem.concat theme

end FlashMarkup.Html
