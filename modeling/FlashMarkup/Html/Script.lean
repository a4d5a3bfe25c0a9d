import FlashMarkup.Text.Basic

/-!
# The page script

The script that every page embeds: power tags flicker under the pointer, a click on the title of
a season folds its episodes, and a character's name shows as a tooltip.
-/

namespace FlashMarkup.Html

/-- The lines of the page script. -/
def scriptLines : List String :=
  [
    "document.addEventListener('DOMContentLoaded', function() \x7b",
    "    // Flicker power tags on hover",
    "    const flashElements = document.querySelectorAll('.superspeed, .speedforce');",
    "    flashElements.forEach(el => \x7b",
    "        el.addEventListener('mouseover', function() \x7b",
    "            this.style.animation = 'lightning-flash 0.5s infinite';",
    "        \x7d);",
    "        el.addEventListener('mouseout', function() \x7b",
    "            this.style.animation = '';",
    "        \x7d);",
    "    \x7d);",
    "",
    "    // Clicking a season title folds its episodes",
    "    const temporadas = document.querySelectorAll('.temporada');",
    "    temporadas.forEach(temporada => \x7b",
    "        const titulo = temporada.querySelector('h1, h2, h3') || temporada.firstElementChild;",
    "        if (titulo) \x7b",
    "            titulo.style.cursor = 'pointer';",
    "            titulo.addEventListener('click', function() \x7b",
    "                Array.from(temporada.children).forEach(child => \x7b",
    "                    if (child !== titulo) \x7b",
    "                        child.style.display = child.style.display === 'none' ? '' : 'none';",
    "                    \x7d",
    "                \x7d);",
    "            \x7d);",
    "        \x7d",
    "    \x7d);",
    "",
    "    // Character name tooltips",
    "    const personajes = document.querySelectorAll('.personaje[data-nombre]');",
    "    personajes.forEach(personaje => \x7b",
    "        personaje.setAttribute('title', personaje.getAttribute('data-nombre'));",
    "    \x7d);",
    "\x7d);"
  ]

/-- The text of the page script. -/
def script : Text := Text.unlines (scriptLines.map String.toList)

end FlashMarkup.Html
