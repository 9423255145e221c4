/-!
# Blanks

Which characters are blank, and the cuts that depend on them: trimming both
ends of a text and taking its words.
-/

namespace RepoSurvey.Text

/-- A blank: the ASCII spaces and line breaks, the four information
separators, and the space and line separators beyond ASCII. -/
def isBlank (c : Char) : Bool :=
  let n := c.toNat
  (9 ≤ n && n ≤ 13) || (28 ≤ n && n ≤ 32) || n == 0x85 || n == 0xA0 || n == 0x1680 ||
    (0x2000 ≤ n && n ≤ 0x200A) || n == 0x2028 || n == 0x2029 || n == 0x202F || n == 0x205F ||
    n == 0x3000

/-! ## Trimming -/

/-- Without the leading characters that satisfy `drop`. -/
def trimStartBy (drop : Char → Bool) (cs : List Char) : List Char :=
  cs.dropWhile drop

/-- Without the trailing characters that satisfy `drop`. -/
def trimEndBy (drop : Char → Bool) (cs : List Char) : List Char :=
  (cs.reverse.dropWhile drop).reverse

/-- Without the characters at either end that satisfy `drop`. -/
def trimBy (drop : Char → Bool) (cs : List Char) : List Char :=
  trimEndBy drop (trimStartBy drop cs)

/-- Without the blanks at either end. -/
def trimChars (cs : List Char) : List Char :=
  trimBy isBlank cs

/-- The string without the blanks at either end. -/
def trim (s : String) : String :=
  String.ofList (trimChars s.toList)

/-- The string without leading blanks. -/
def trimStart (s : String) : String :=
  String.ofList (trimStartBy isBlank s.toList)

/-- The string without trailing blanks. -/
def trimEnd (s : String) : String :=
  String.ofList (trimEndBy isBlank s.toList)

/-- The string without the characters of `set` at either end. -/
def trimSet (set s : String) : String :=
  String.ofList (trimBy set.toList.contains s.toList)

/-- The string without leading characters of `set`. -/
def trimStartSet (set s : String) : String :=
  String.ofList (trimStartBy set.toList.contains s.toList)

/-- The string without trailing characters of `set`. -/
def trimEndSet (set s : String) : String :=
  String.ofList (trimEndBy set.toList.contains s.toList)

/-! ## Words -/

/-- The words of a text: its maximal runs without blanks. `word` holds the
run being read, last character first. -/
def wordsFrom (word : List Char) : List Char → List (List Char)
  | [] => if word.isEmpty then [] else [word.reverse]
  | c :: rest =>
    if isBlank c then
      if word.isEmpty then wordsFrom [] rest else word.reverse :: wordsFrom [] rest
    else wordsFrom (c :: word) rest

/-- The maximal runs of a string without blanks. -/
def words (s : String) : List String :=
  (wordsFrom [] s.toList).map String.ofList

end RepoSurvey.Text
