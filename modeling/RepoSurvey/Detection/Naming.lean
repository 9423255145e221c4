import RepoSurvey.Text.Casing
import RepoSurvey.Text.Cut
import RepoSurvey.Text.Pattern

/-!
# Words in names

Names of functions are made of words, and a detector reads them: it takes a
word from the beginning or the end of a name, or separates words where a
capital follows. An ending is found before the final line feed of a name that
has one, and the line feed then stays.
-/

namespace RepoSurvey.Detection

open Text (Pattern)

/-- The text without one of the beginnings, the first that fits. -/
def withoutStart (starts : List String) (name : String) : String :=
  match starts.findSome? fun start => Text.stripStart? start.toList name.toList with
  | some rest => String.ofList rest
  | none => name

/-- One of the endings at the end of a name. -/
def endingIn (endings : List String) : Pattern :=
  .seq (.oneOf endings) .textEnd

/-- The name ends in one of the words. -/
def endsInWord (endings : List String) (name : String) : Bool :=
  (endingIn endings).occurs name

/-- The name without what the pattern finds in it. -/
def erase (p : Pattern) (name : String) : String :=
  p.substitute (fun _ _ => "") name

/-- The name without the ending. -/
def withoutEnding (ending name : String) : String :=
  erase (endingIn [ending]) name

/-- The text in lower case, or `default` when it is empty. -/
def lowerOr (default text : String) : String :=
  if text.isEmpty then default else Text.lower text

/-- A character after which a capital begins a new word. -/
def endsWord (c : Char) : Bool :=
  ('a' ≤ c && c ≤ 'z') || ('0' ≤ c && c ≤ '9')

/-- A capital. -/
def isCapital (c : Char) : Bool :=
  'A' ≤ c && c ≤ 'Z'

/-- The text with a mark between its words. -/
def markWords (mark : Char) : List Char → List Char
  | a :: b :: rest =>
    if endsWord a && isCapital b then a :: mark :: markWords mark (b :: rest)
    else a :: markWords mark (b :: rest)
  | short => short

/-- The string with a mark between its words. -/
def separated (mark : Char) (name : String) : String :=
  String.ofList (markWords mark name.toList)

/-- The words of a name in lower case with hyphens between them. -/
def hyphenated (name : String) : String :=
  Text.lower (Text.replace '_' "-" (separated '-' name))

/-- The words of a name in upper case with underscores between them. -/
def actionType (name : String) : String :=
  Text.upper (separated '_' name)

end RepoSurvey.Detection
