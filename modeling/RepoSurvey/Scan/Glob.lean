/-!
# Globs

A glob describes texts: a star stands for any characters, a question mark for
one, brackets for one of a set, and everything else for itself. A set lists
characters and ranges, and an exclamation mark in front turns it around. A
bracket without its partner stands for itself; a range that runs backwards is
empty, and characters beside it that do not form a range of their own are
joined to what follows.
-/

namespace RepoSurvey.Scan

/-- A part of a glob. -/
inductive GlobPart where
  /-- Any characters. -/
  | star
  /-- Any one character. -/
  | any
  /-- One character inside, or outside, all of the ranges. -/
  | set (negated : Bool) (ranges : List (Char × Char))
  /-- One character. -/
  | char (c : Char)
  deriving Repr, DecidableEq

/-! ## Sets -/

/-- The pieces of a set between the hyphens that stand for ranges. The first
hyphen is sought after `skip` characters, and each later one at least two
characters after the one before. -/
def hyphenPieces (piece : List Char) : Nat → List Char → List (List Char)
  | _, [] => [piece.reverse]
  | skip + 1, c :: rest => hyphenPieces (c :: piece) skip rest
  | 0, c :: rest =>
    if c == '-' then piece.reverse :: hyphenPieces [] 2 rest else hyphenPieces (c :: piece) 0 rest

/-- An empty last piece means that the hyphen before it stands for itself. -/
def keepLastHyphen : List (List Char) → List (List Char)
  | [] => []
  | [piece] => [piece]
  | [piece, []] => [piece ++ ['-']]
  | piece :: rest => piece :: keepLastHyphen rest

/-- Joins pieces whose range would run backwards, from the last pair on. -/
def dropEmptyRanges : List (List Char) → List (List Char)
  | [] => []
  | piece :: rest =>
    match dropEmptyRanges rest with
    | [] => [piece]
    | next :: more =>
      match piece.getLast?, next with
      | some low, high :: tail =>
        if high < low then (piece.dropLast ++ tail) :: more else piece :: next :: more
      | _, _ => piece :: next :: more

/-- The range of one character. -/
def single (c : Char) : Char × Char :=
  (c, c)

/-- The ranges of a piece and the pieces after it: one between each two pieces,
and one for every other character. -/
def pieceRanges (piece : List Char) : List (List Char) → List (Char × Char)
  | [] => piece.map single
  | next :: more =>
    match piece.getLast?, next with
    | some low, high :: tail => piece.dropLast.map single ++ (low, high) :: pieceRanges tail more
    | _, _ => piece.map single ++ pieceRanges next more

/-- The part for a set with the given text between its brackets. -/
def setPart (body : List Char) : GlobPart :=
  let pieces := hyphenPieces [] (if body.head? == some '!' then 2 else 1) body
  match dropEmptyRanges (keepLastHyphen pieces) with
  | [] => .set false []
  | ('!' :: first) :: rest => .set true (pieceRanges first rest)
  | first :: rest => .set false (pieceRanges first rest)

/-! ## Reading a glob -/

/-- The text of a set and what follows its closing bracket. A bracket right at
its beginning belongs to it. -/
def setBody? (cs : List Char) : Option (List Char × List Char) :=
  let (mark, cs) := match cs with
    | '!' :: rest => (['!'], rest)
    | _ => ([], cs)
  let (first, cs) := match cs with
    | ']' :: rest => ([']'], rest)
    | _ => ([], cs)
  match cs.dropWhile (· != ']') with
  | _ :: rest => some (mark ++ first ++ cs.takeWhile (· != ']'), rest)
  | [] => none

/-- The parts of a glob. -/
def globParts : Nat → List Char → List GlobPart
  | 0, _ => []
  | _, [] => []
  | fuel + 1, c :: rest =>
    if c == '*' then .star :: globParts fuel rest
    else if c == '?' then .any :: globParts fuel rest
    else if c == '[' then
      match setBody? rest with
      | some (body, rest') => setPart body :: globParts fuel rest'
      | none => .char c :: globParts fuel rest
    else .char c :: globParts fuel rest

/-- The parts of a glob given as a text. -/
def readGlob (pattern : String) : List GlobPart :=
  let cs := pattern.toList
  globParts cs.length cs

/-! ## Matching -/

/-- The part accepts the character. -/
def GlobPart.accepts (p : GlobPart) (c : Char) : Bool :=
  match p with
  | .star => true
  | .any => true
  | .set negated ranges => (ranges.any fun (low, high) => low ≤ c && c ≤ high) != negated
  | .char d => c == d

/-- What is left of a text after some number of its characters. -/
def tails : List Char → List (List Char)
  | [] => [[]]
  | c :: rest => (c :: rest) :: tails rest

/-- The parts describe the whole text. -/
def globMatches : List GlobPart → List Char → Bool
  | [], cs => cs.isEmpty
  | .star :: rest, cs => (tails cs).any fun tail => globMatches rest tail
  | p :: rest, cs =>
    match cs with
    | c :: cs' => p.accepts c && globMatches rest cs'
    | [] => false

/-- The glob describes the whole text. -/
def matchesGlob (pattern text : String) : Bool :=
  globMatches (readGlob pattern) text.toList

end RepoSurvey.Scan
