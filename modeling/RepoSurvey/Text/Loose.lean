import RepoSurvey.Text.Pattern

/-!
# Patterns in either case

Letters that match in upper and lower case. Three letters have relatives
beyond ASCII that count as the same letter: the dotted and dotless i, the long
s, and the sign for kelvin.
-/

namespace RepoSurvey.Text

/-- The character `c` is the lower-case letter `letter`, whatever its case. A
character that is no letter is only itself. -/
def sameLetter (letter c : Char) : Bool :=
  c.toLower == letter || (letter == 'i' && (c == '\u0130' || c == '\u0131')) ||
    (letter == 's' && c == '\u017F') || (letter == 'k' && c == '\u212A')

/-- An ASCII letter, or one of the relatives of such letters. -/
def isLooseLetter (c : Char) : Bool :=
  c.isAlpha || ['\u0130', '\u0131', '\u017F', '\u212A'].contains c

namespace Pattern

/-- A text in lower case, found in any case. -/
def loose (s : String) : Pattern :=
  .sequence (s.toList.map fun letter => .one (sameLetter letter))

/-- One of several texts in lower case, found in any case. -/
def looseOneOf (texts : List String) : Pattern :=
  .choice (texts.map loose)

end Pattern

end RepoSurvey.Text
