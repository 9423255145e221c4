/-!
# Cutting and joining texts

Cuts at a character or at a separator, tests for how a text begins and ends,
and replacement of one text by another. Every function is defined on lists of
characters and lifted to strings.
-/

namespace RepoSurvey.Text

/-! ## Beginnings and ends -/

/-- The string begins with `start`. -/
def startsWith (s start : String) : Bool :=
  start.toList.isPrefixOf s.toList

/-- The string ends with `tail`. -/
def endsWith (s tail : String) : Bool :=
  tail.toList.isSuffixOf s.toList

/-- What follows `start` in `cs`, when `cs` begins with it. -/
def stripStart? : List Char → List Char → Option (List Char)
  | [], cs => some cs
  | _ :: _, [] => none
  | p :: ps, c :: cs => if p == c then stripStart? ps cs else none

/-- The part `part` occurs somewhere in the text. -/
def occursIn (part : List Char) : List Char → Bool
  | [] => part.isEmpty
  | c :: rest => part.isPrefixOf (c :: rest) || occursIn part rest

/-- The string holds `part`. -/
def holds (s part : String) : Bool :=
  occursIn part.toList s.toList

/-! ## Cuts at a character -/

/-- The pieces between the occurrences of `sep`; one more piece than occurrences. -/
def splitAt (sep : Char) : List Char → List (List Char)
  | [] => [[]]
  | c :: rest =>
    if c == sep then [] :: splitAt sep rest
    else match splitAt sep rest with
      | piece :: pieces => (c :: piece) :: pieces
      | [] => [[c]]

/-- The pieces of a string between the occurrences of `sep`. -/
def split (sep : Char) (s : String) : List String :=
  (splitAt sep s.toList).map String.ofList

/-- What stands before the first `sep`; everything when there is none. -/
def beforeFirst (sep : Char) (s : String) : String :=
  String.ofList (s.toList.takeWhile (· != sep))

/-- What follows the first `sep`; nothing when there is none. -/
def afterFirst (sep : Char) (s : String) : String :=
  String.ofList ((s.toList.dropWhile (· != sep)).drop 1)

/-- What follows the last `sep`; everything when there is none. -/
def afterLast (sep : Char) (s : String) : String :=
  String.ofList (s.toList.reverse.takeWhile (· != sep)).reverse

/-! ## Cuts at a separator -/

/-- What stands before the first occurrence of `sep`; everything when there is none. -/
def beforeTextChars (sep : List Char) : List Char → List Char
  | [] => []
  | c :: rest => if sep.isPrefixOf (c :: rest) then [] else c :: beforeTextChars sep rest

/-- What stands before the first occurrence of `sep` in a string. -/
def beforeText (sep s : String) : String :=
  String.ofList (beforeTextChars sep.toList s.toList)

/-! ## Replacement -/

/-- The text with every occurrence of the character `old` replaced by `new`. -/
def replaceChar (old : Char) (new : List Char) (cs : List Char) : List Char :=
  cs.flatMap fun c => if c == old then new else [c]

/-- The string with every occurrence of `old` replaced by `new`. -/
def replace (old : Char) (new s : String) : String :=
  String.ofList (replaceChar old new.toList s.toList)

/-- The pieces joined with `sep` between them. -/
def join (sep : String) (pieces : List String) : String :=
  sep.intercalate pieces

end RepoSurvey.Text
