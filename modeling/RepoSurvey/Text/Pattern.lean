import RepoSurvey.Text.Letter

/-!
# Text patterns

A pattern describes pieces of text: characters of a class, runs of them,
sequences, ordered choices, repetitions, captures, and conditions on the place
where the match stands. Matching is a search in a fixed order: the left
alternative before the right one, a greedy run from the longest length down, a
lazy one from the shortest up. The first way through the whole pattern is the
match, so the order decides what is captured and not only whether a match
exists.

`Pattern.search` is written in continuation style: it hands each way of matching
a pattern, in order, to the rest of the search, and the first success ends it.
It recurs on the pattern; a repetition recurs on the text that is left.
-/

namespace RepoSurvey.Text

/-- A description of pieces of text. -/
inductive Pattern where
  /-- The empty piece. -/
  | empty
  /-- One character of a class. -/
  | one (accepts : Char → Bool)
  /-- At least `least` and at most `most` characters of a class. -/
  | run (accepts : Char → Bool) (least : Nat) (most : Option Nat) (greedy : Bool)
  /-- One piece after another. -/
  | seq (first second : Pattern)
  /-- The first pattern, or else the second. -/
  | alt (first second : Pattern)
  /-- As many pieces as possible, each of at least one character. -/
  | star (piece : Pattern)
  /-- The piece, whose place is kept under a number. -/
  | capture (number : Nat) (piece : Pattern)
  /-- The text captured under a number, once more. -/
  | again (number : Nat)
  /-- The next character is not of the class. -/
  | notBefore (rejects : Char → Bool)
  /-- The previous character is not of the class. -/
  | notAfter (rejects : Char → Bool)
  /-- The beginning or the end of a word. -/
  | wordEdge
  /-- The beginning of the text. -/
  | textStart
  /-- The beginning of a line. -/
  | lineStart
  /-- The end of the text, or the place before a line feed that ends it. -/
  | textEnd
  /-- The end of a line. -/
  | lineEnd

/-- Start and end of each captured piece, latest first. -/
abbrev Captures := List (Nat × Nat × Nat)

/-- The rest of a search: it gets a position and the captures so far. -/
abbrev Search := Nat → Captures → Option (Nat × Captures)

/-! ## Places -/

/-- A word character stands at position `i`. -/
def wordAt (text : Array Char) (i : Nat) : Bool :=
  match text[i]? with
  | some c => isWordChar c
  | none => false

/-- A word starts or ends at position `i`. -/
def atWordEdge (text : Array Char) (i : Nat) : Bool :=
  (i != 0 && wordAt text (i - 1)) != wordAt text i

/-- Position `i` begins a line. -/
def atLineStart (text : Array Char) (i : Nat) : Bool :=
  i == 0 || text[i - 1]? == some '\n'

/-- Position `i` ends the text or stands before its final line feed. -/
def atTextEnd (text : Array Char) (i : Nat) : Bool :=
  i == text.size || (i + 1 == text.size && text[i]? == some '\n')

/-- Position `i` ends a line. -/
def atLineEnd (text : Array Char) (i : Nat) : Bool :=
  i == text.size || text[i]? == some '\n'

/-- A character of the class stands at position `i`. -/
def classAt (text : Array Char) (accepts : Char → Bool) (i : Nat) : Bool :=
  match text[i]? with
  | some c => accepts c
  | none => false

/-! ## Runs and repetitions -/

/-- The end of the longest run of the class from `i`, of at most `room` characters. -/
def runEnd (text : Array Char) (accepts : Char → Bool) (i : Nat) : Nat → Nat
  | 0 => i
  | room + 1 => if classAt text accepts i then runEnd text accepts (i + 1) room else i

/-- Tries `next` at `lo + extra`, then at each smaller position down to `lo`. -/
def longestFirst (next : Nat → Option (Nat × Captures)) (lo : Nat) : Nat → Option (Nat × Captures)
  | 0 => next lo
  | extra + 1 =>
    match next (lo + (extra + 1)) with
    | some found => some found
    | none => longestFirst next lo extra

/-- Tries `next` at `lo`, then at each larger position up to `lo + extra`. -/
def shortestFirst (next : Nat → Option (Nat × Captures)) (lo : Nat) : Nat → Option (Nat × Captures)
  | 0 => next lo
  | extra + 1 =>
    match next lo with
    | some found => some found
    | none => shortestFirst next (lo + 1) extra

/-- The ends of a run that starts at `i`: the least admitted and how many more follow. -/
def runRange? (text : Array Char) (accepts : Char → Bool) (least : Nat) (most : Option Nat)
    (i : Nat) : Option (Nat × Nat) :=
  let room := match most with
    | some m => min m (text.size - i)
    | none => text.size - i
  let last := runEnd text accepts i room
  if i + least ≤ last then some (i + least, last - (i + least)) else none

/-- Repeats `step` as long as it moves forward, trying more repetitions first. -/
def repeatFrom (step : Nat → Captures → Search → Option (Nat × Captures)) (next : Search) :
    Nat → Nat → Captures → Option (Nat × Captures)
  | 0, i, caps => next i caps
  | fuel + 1, i, caps =>
    match step i caps fun j caps' => if i < j then repeatFrom step next fuel j caps' else none with
    | some found => some found
    | none => next i caps

/-- The text from `start` to `stop` stands again at `i`. -/
def sameText (text : Array Char) (start i : Nat) : Nat → Bool
  | 0 => true
  | n + 1 =>
    match text[start]?, text[i]? with
    | some a, some b => a == b && sameText text (start + 1) (i + 1) n
    | _, _ => false

namespace Pattern

/-! ## Matching -/

/-- Matches `p` at position `i` and hands every way of doing so to `next`. -/
def search (text : Array Char) : Pattern → Nat → Captures → Search → Option (Nat × Captures)
  | .empty, i, caps, next => next i caps
  | .one accepts, i, caps, next => if classAt text accepts i then next (i + 1) caps else none
  | .run accepts least most greedy, i, caps, next =>
    match runRange? text accepts least most i with
    | none => none
    | some (lo, extra) =>
      if greedy then longestFirst (fun j => next j caps) lo extra
      else shortestFirst (fun j => next j caps) lo extra
  | .seq p q, i, caps, next => p.search text i caps fun j caps' => q.search text j caps' next
  | .alt p q, i, caps, next =>
    match p.search text i caps next with
    | some found => some found
    | none => q.search text i caps next
  | .star p, i, caps, next =>
    repeatFrom (fun j caps' k => p.search text j caps' k) next (text.size - i) i caps
  | .capture n p, i, caps, next => p.search text i caps fun j caps' => next j ((n, i, j) :: caps')
  | .again n, i, caps, next =>
    match caps.lookup n with
    | some (start, stop) =>
      if sameText text start i (stop - start) then next (i + (stop - start)) caps else none
    | none => none
  | .notBefore rejects, i, caps, next => if classAt text rejects i then none else next i caps
  | .notAfter rejects, i, caps, next =>
    if i != 0 && classAt text rejects (i - 1) then none else next i caps
  | .wordEdge, i, caps, next => if atWordEdge text i then next i caps else none
  | .textStart, i, caps, next => if i == 0 then next i caps else none
  | .lineStart, i, caps, next => if atLineStart text i then next i caps else none
  | .textEnd, i, caps, next => if atTextEnd text i then next i caps else none
  | .lineEnd, i, caps, next => if atLineEnd text i then next i caps else none

end Pattern

/-- Where a pattern matched, with its captures. -/
structure Match where
  /-- The position of the first character. -/
  start : Nat
  /-- The position after the last character. -/
  stop : Nat
  /-- The captured pieces, latest first. -/
  captures : Captures
  deriving Repr, Inhabited

namespace Match

/-- The place of a captured piece. -/
def place? (m : Match) (number : Nat) : Option (Nat × Nat) :=
  m.captures.lookup number

/-- The text between two positions. -/
def textBetween (text : Array Char) (start stop : Nat) : String :=
  String.ofList (text.extract start stop).toList

/-- The text of a captured piece. -/
def group? (m : Match) (text : Array Char) (number : Nat) : Option String :=
  (m.place? number).map fun (start, stop) => textBetween text start stop

/-- The text of a captured piece, empty when it took no part. -/
def group (m : Match) (text : Array Char) (number : Nat) : String :=
  (m.group? text number).getD ""

end Match

namespace Pattern

/-- The match of `p` that starts at `i`. -/
def matchAt? (p : Pattern) (text : Array Char) (i : Nat) : Option Match :=
  (p.search text i [] fun stop caps => some (stop, caps)).map fun (stop, caps) => ⟨i, stop, caps⟩

/-- The first match that starts at `i` or at one of the `room` positions after it. -/
def findWithin? (p : Pattern) (text : Array Char) (i : Nat) : Nat → Option Match
  | 0 => p.matchAt? text i
  | room + 1 =>
    match p.matchAt? text i with
    | some m => some m
    | none => findWithin? p text (i + 1) room

/-- The first match that starts at `i` or later. -/
def findFrom? (p : Pattern) (text : Array Char) (i : Nat) : Option Match :=
  if i ≤ text.size then p.findWithin? text i (text.size - i) else none

/-- Matches from `i` on that do not overlap, from left to right. -/
def findAllFrom (p : Pattern) (text : Array Char) (fuel i : Nat) : List Match :=
  match fuel with
  | 0 => []
  | fuel + 1 =>
    match p.findFrom? text i with
    | none => []
    | some m => m :: findAllFrom p text fuel (max m.stop (m.start + 1))

/-- Every match in the text, from left to right and without overlap. -/
def findAll (p : Pattern) (text : Array Char) : List Match :=
  p.findAllFrom text (text.size + 1) 0

/-- The pattern occurs in the string. -/
def occurs (p : Pattern) (s : String) : Bool :=
  (p.findFrom? s.toList.toArray 0).isSome

/-- The match at the beginning of the string, with the string's characters. -/
def opens? (p : Pattern) (s : String) : Option (Match × Array Char) :=
  let text := s.toList.toArray
  (p.matchAt? text 0).map fun m => (m, text)

/-- The text with each match replaced by what `image` makes of it. -/
def substitute (p : Pattern) (image : Match → Array Char → String) (s : String) : String :=
  let text := s.toList.toArray
  let (out, last) := (p.findAll text).foldl
    (fun (out, last) m => (out ++ Match.textBetween text last m.start ++ image m text, m.stop))
    ("", 0)
  out ++ Match.textBetween text last text.size

/-! ## Building patterns -/

/-- The characters of a text, one after another. -/
def literalChars : List Char → Pattern
  | [] => .empty
  | [c] => .one (· == c)
  | c :: rest => .seq (.one (· == c)) (literalChars rest)

/-- A text as it stands. -/
def literal (s : String) : Pattern :=
  literalChars s.toList

/-- Pieces one after another. -/
def sequence : List Pattern → Pattern
  | [] => .empty
  | [p] => p
  | p :: rest => .seq p (sequence rest)

/-- The first of the patterns that leads to a match. -/
def choice : List Pattern → Pattern
  | [] => .one fun _ => false
  | [p] => p
  | p :: rest => .alt p (choice rest)

/-- One of several texts. -/
def oneOf (texts : List String) : Pattern :=
  choice (texts.map literal)

/-- The piece or nothing, the piece first. -/
def optional (p : Pattern) : Pattern :=
  .alt p .empty

/-- Any number of characters of a class, as many as possible. -/
def many (accepts : Char → Bool) : Pattern :=
  .run accepts 0 none true

/-- At least one character of a class, as many as possible. -/
def some1 (accepts : Char → Bool) : Pattern :=
  .run accepts 1 none true

/-- At least one character of a class, as few as possible. -/
def fewest1 (accepts : Char → Bool) : Pattern :=
  .run accepts 1 none false

/-- A character other than those given. -/
def otherThan (set : String) (c : Char) : Bool :=
  !set.toList.contains c

/-- One of the given characters. -/
def among (set : String) (c : Char) : Bool :=
  set.toList.contains c

/-- Any character but a line feed. -/
def inLine (c : Char) : Bool :=
  c != '\n'

end Pattern

end RepoSurvey.Text
