import RepoSurvey.Text.Cut

/-!
# Lines

A line ends at a line feed. Positions are counted from one, and a text has
one line more than it has line feeds.
-/

namespace RepoSurvey.Text

/-- The lines of a text, without their line feeds. -/
def lines (s : String) : List String :=
  split '\n' s

/-- The number of line feeds among the first `n` characters, plus one. -/
def lineOf (cs : List Char) (n : Nat) : Nat :=
  (cs.take n).count '\n' + 1

/-- The line of position `i` in a text held as an array. -/
def lineOfArray (text : Array Char) (i : Nat) : Nat :=
  text.foldl (fun n c => if c == '\n' then n + 1 else n) 1 0 i

/-- The line of a position that may be negative: it then counts back from the
end of the text, and stops at the beginning. -/
def lineOfSigned (cs : List Char) (i : Int) : Nat :=
  if 0 ≤ i then lineOf cs i.toNat else lineOf cs (cs.length - i.natAbs)

/-- A line break of any of the kinds that end a line of a plain text file. -/
def isLineBreak (c : Char) : Bool :=
  let n := c.toNat
  (10 ≤ n && n ≤ 13) || (28 ≤ n && n ≤ 30) || n == 0x85 || n == 0x2028 || n == 0x2029

/-- The lines of a plain text file: a carriage return followed by a line feed
ends one line, and the last line counts only when it holds something. -/
def fileLinesFrom (line : List Char) : List Char → List (List Char)
  | [] => if line.isEmpty then [] else [line.reverse]
  | '\r' :: '\n' :: rest => line.reverse :: fileLinesFrom [] rest
  | c :: rest =>
    if isLineBreak c then line.reverse :: fileLinesFrom [] rest
    else fileLinesFrom (c :: line) rest

/-- The lines of a plain text file as strings. -/
def fileLines (s : String) : List String :=
  (fileLinesFrom [] s.toList).map String.ofList

/-- Every line end written as one line feed. -/
def unifyLineEnds : List Char → List Char
  | [] => []
  | '\r' :: '\n' :: rest => '\n' :: unifyLineEnds rest
  | c :: rest => (if c == '\r' then '\n' else c) :: unifyLineEnds rest

end RepoSurvey.Text
