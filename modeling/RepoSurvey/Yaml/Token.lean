import RepoSurvey.Text.Cut

/-!
# Tokens of YAML

A YAML 1.1 text is cut into tokens: scalars, the marks of flow collections,
anchors and tags, and the tokens that stand for block structure. Indentation
opens and closes blocks; a colon may reveal that what stands before it was the
key of a mapping, in which case the tokens for the key are put in where it
began.
-/

namespace RepoSurvey.Yaml

/-- Why a text has no value. -/
inductive Problem where
  /-- The text breaks a rule of the format. -/
  | malformed
  /-- A numeral, a date or a character number is out of range. -/
  | badNumber
  /-- A character number does not fit a machine word. -/
  | hugeNumber
  /-- A truth value is spelled in no known way. -/
  | unknownTruth
  /-- A number is tagged and empty. -/
  | emptyNumber
  /-- A date is tagged and is none. -/
  | notADate
  deriving Repr, DecidableEq

/-- A tag as written: its handle, when it has one, and the rest. -/
structure WrittenTag where
  /-- The handle between exclamation marks. -/
  handle : Option String
  /-- What follows the handle, or the whole tag. -/
  suffix : String
  deriving Repr, DecidableEq

/-- A token. -/
inductive Token where
  | versionDirective (major : Nat)
  | tagDirective (handle base : String)
  | otherDirective
  | documentStart
  | documentEnd
  | streamEnd
  | blockSequenceStart
  | blockMappingStart
  | blockEnd
  | flowSequenceStart
  | flowSequenceEnd
  | flowMappingStart
  | flowMappingEnd
  | key
  | value
  | blockEntry
  | flowEntry
  | alias (name : String)
  | anchor (name : String)
  | tag (written : WrittenTag)
  | scalar (text : List Char) (plain : Bool)
  deriving Repr, DecidableEq, Inhabited

/-! ## Places in the text -/

/-- A line break. -/
def isBreak (c : Char) : Bool :=
  c == '\n' || c == '\r' || c == '\u0085' || c == '\u2028' || c == '\u2029'

/-- A line break or the end of the text. -/
def endsLine (c : Char) : Bool :=
  c == '\x00' || isBreak c

/-- A blank, a line break or the end of the text. -/
def endsWord (c : Char) : Bool :=
  c == ' ' || c == '\t' || endsLine c

/-- The rest of a text and the place where it starts. -/
structure Place where
  /-- What is left. -/
  rest : List Char
  /-- The number of characters in the whole text. -/
  total : Nat
  /-- The characters passed. -/
  index : Nat := 0
  /-- The lines passed. -/
  line : Nat := 0
  /-- The characters passed on this line. -/
  column : Nat := 0

/-- The character `n` positions ahead; a null character stands for the end. -/
def Place.peek (p : Place) (n : Nat) : Char :=
  (p.rest[n]?).getD '\x00'

/-- The character at hand. -/
def Place.head (p : Place) : Char :=
  p.rest.headD '\x00'

/-- The place after the character at hand. -/
def Place.next (p : Place) : Place :=
  match p.rest with
  | [] => p
  | c :: rest =>
    if isBreak c && !(c == '\r' && rest.head? == some '\n') then
      { p with rest := rest, index := p.index + 1, line := p.line + 1, column := 0 }
    else
      { p with
        rest := rest
        index := p.index + 1
        column := if c == '\uFEFF' then p.column else p.column + 1 }

/-- The place `n` characters ahead. -/
def Place.forward (p : Place) : Nat → Place
  | 0 => p
  | n + 1 => p.next.forward n

/-- The characters at hand that satisfy `accepts`, and the place after them. -/
def Place.takeWhile (p : Place) (accepts : Char → Bool) : List Char × Place :=
  let taken := p.rest.takeWhile accepts
  (taken, p.forward taken.length)

/-- The place after the characters at hand that satisfy `accepts`. -/
def Place.skipWhile (p : Place) (accepts : Char → Bool) : Place :=
  (p.takeWhile accepts).2

/-- Blanks at hand are passed over; tabs are not blanks here. -/
def Place.skipBlanks (p : Place) : Place :=
  p.skipWhile (· == ' ')

/-- The line break at hand as it counts in a scalar, and the place after it.
Most breaks count as a line feed. -/
def Place.lineBreak? (p : Place) : Option (Char × Place) :=
  match p.rest with
  | '\r' :: '\n' :: _ => some ('\n', p.forward 2)
  | c :: _ =>
    if c == '\u2028' || c == '\u2029' then some (c, p.next)
    else if isBreak c then some ('\n', p.next)
    else none
  | [] => none

/-- Three hyphens or three points stand at hand, as a word of their own. -/
def Place.atDocumentMark (p : Place) : Bool :=
  (p.rest.take 3 == ['-', '-', '-'] || p.rest.take 3 == ['.', '.', '.']) && endsWord (p.peek 3)

/-! ## Scalars -/

/-- Blank lines, each as it counts in a scalar; `skips` tells which characters
are passed over between them. Fails at a document mark when `guarded`. -/
def blankLines (skips : Char → Bool) (guarded : Bool) (out : List Char) :
    Nat → Place → Option (List Char × Place)
  | 0, p => some (out.reverse, p)
  | fuel + 1, p =>
    if guarded && p.atDocumentMark then none
    else
      let p := p.skipWhile skips
      match p.lineBreak? with
      | some (c, p') => blankLines skips guarded (c :: out) fuel p'
      | none => some (out.reverse, p)

/-- One line break and the blank lines after it, folded: a single line feed
becomes a blank, and of several the first is dropped. -/
def fold (first : Char) (more : List Char) : List Char :=
  if first != '\n' then first :: more
  else if more.isEmpty then [' ']
  else more

/-- The blanks between two words of a quoted scalar. -/
def quotedSpaces (p : Place) : Option (List Char × Place) :=
  let (blanks, p') := p.takeWhile fun c => c == ' ' || c == '\t'
  if p'.head == '\x00' then none
  else match p'.lineBreak? with
    | some (first, p'') =>
      (blankLines (fun c => c == ' ' || c == '\t') true [] (p''.total + 1) p'').map
        fun (more, q) => (fold first more, q)
    | none => some (blanks, p')

/-- The characters of escapes by one letter. -/
def escapeCharacters : List (Char × Char) :=
  [('0', '\x00'), ('a', '\x07'), ('b', '\x08'), ('t', '\t'), ('\t', '\t'), ('n', '\n'),
    ('v', '\x0b'), ('f', '\x0c'), ('r', '\r'), ('e', '\x1b'), (' ', ' '), ('"', '"'),
    ('\\', '\\'), ('/', '/'), ('N', '\u0085'), ('_', '\u00A0'), ('L', '\u2028'), ('P', '\u2029')]

/-- How many hexadecimal digits follow the letter of an escape by number. -/
def escapeWidth? (c : Char) : Option Nat :=
  if c == 'x' then some 2 else if c == 'u' then some 4 else if c == 'U' then some 8 else none

/-- The value of a hexadecimal digit. -/
def hexValue? (c : Char) : Option Nat :=
  if '0' ≤ c && c ≤ '9' then some (c.toNat - 48)
  else if 'a' ≤ c && c ≤ 'f' then some (c.toNat - 87)
  else if 'A' ≤ c && c ≤ 'F' then some (c.toNat - 55)
  else none

/-- The value of hexadecimal digits. -/
def hexNumber? (cs : List Char) : Option Nat :=
  cs.foldlM (fun n c => (hexValue? c).map (16 * n + ·)) 0

/-- The escape after a backslash: the characters it stands for and the place after it. -/
def escape (p : Place) : Except Problem (List Char × Place) :=
  let c := p.head
  match escapeCharacters.lookup c with
  | some made => .ok ([made], p.next)
  | none =>
    match escapeWidth? c with
    | some width =>
      let q := p.next
      let digits := q.rest.take width
      match if digits.length == width then hexNumber? digits else none with
      | none => .error .malformed
      | some n =>
        if n ≤ 0x10FFFF then
          .ok ([if 0xD800 ≤ n && n < 0xE000 then '\uFFFD' else Char.ofNat n], q.forward width)
        else if n < 0x80000000 then .error .badNumber
        else .error .hugeNumber
    | none =>
      match p.lineBreak? with
      | some (_, q) =>
        match blankLines (fun c => c == ' ' || c == '\t') true [] (q.total + 1) q with
        | some r => .ok r
        | none => .error .malformed
      | none => .error .malformed

/-- The body of a quoted scalar up to its closing quote; `out` holds what was
read, last first. -/
def quotedBody (double : Bool) (out : List Char) : Nat → Place → Except Problem (List Char × Place)
  | 0, _ => .error .malformed
  | fuel + 1, p =>
    let c := p.head
    if p.rest.isEmpty then .error .malformed
    else if c == ' ' || c == '\t' || isBreak c then
      match quotedSpaces p with
      | some (blanks, q) => quotedBody double (blanks.reverse ++ out) fuel q
      | none => .error .malformed
    else if double then
      if c == '"' then .ok (out.reverse, p.next)
      else if c == '\\' then
        match escape p.next with
        | .ok (made, q) => quotedBody double (made.reverse ++ out) fuel q
        | .error e => .error e
      else quotedBody double (c :: out) fuel p.next
    else if c == '\x27' then
      if p.peek 1 == '\x27' then quotedBody double ('\x27' :: out) fuel (p.forward 2)
      else .ok (out.reverse, p.next)
    else quotedBody double (c :: out) fuel p.next

/-- How many characters of a plain scalar stand at hand before a blank or a mark. -/
def plainLength (flow : Bool) : List Char → Nat
  | [] => 0
  | c :: rest =>
    let next := rest.headD '\x00'
    let flowMark (d : Char) : Bool := [',', '[', ']', '{', '}'].contains d
    if endsWord c || (c == ':' && (endsWord next || (flow && flowMark next))) ||
        (flow && (flowMark c || c == '?')) then 0
    else plainLength flow rest + 1

/-- The blanks after a word of a plain scalar: what they count for, whether a
line was broken, and the place after them. Nothing is given at a document mark. -/
def plainSpaces (p : Place) : List Char × Bool × Place :=
  let (blanks, p') := p.takeWhile (· == ' ')
  match p'.lineBreak? with
  | none => (blanks, false, p')
  | some (first, q) =>
    if q.atDocumentMark then ([], true, q)
    else more first [] (q.total + 1) q
where
  /-- The blank lines after the first break; `out` holds their breaks, last first. -/
  more (first : Char) (out : List Char) : Nat → Place → List Char × Bool × Place
    | 0, q => (fold first out.reverse, true, q)
    | fuel + 1, q =>
      if q.head == ' ' then more first out fuel q.next
      else match q.lineBreak? with
        | some (c, q') =>
          if q'.atDocumentMark then ([], true, q') else more first (c :: out) fuel q'
        | none => (fold first out.reverse, true, q)

/-- A plain scalar: its text, whether it went over a line, and the place after
it. Outside flow collections it goes on only on lines indented to `indent`. -/
def plainScalar (flow : Bool) (indent : Int) (out : List Char) (broken : Bool) :
    Nat → List Char → Place → List Char × Bool × Place
  | 0, _, p => (out.reverse, broken, p)
  | fuel + 1, spaces, p =>
    let length := if p.head == '#' then 0 else plainLength flow p.rest
    if length == 0 then (out.reverse, broken, p)
    else
      let out := (p.rest.take length).reverse ++ spaces.reverse ++ out
      let (blanks, crossed, q) := plainSpaces (p.forward length)
      if blanks.isEmpty || q.head == '#' || (!flow && (q.column : Int) < indent) then
        (out.reverse, crossed, q)
      else plainScalar flow indent out crossed fuel blanks q

/-! ## Block scalars -/

/-- How the line breaks at the end of a block scalar count. -/
inductive Chomping where
  | strip | clip | keep
  deriving Repr, DecidableEq

/-- The chomping that a sign asks for. -/
def chomping? (c : Char) : Option Chomping :=
  if c == '+' then some .keep else if c == '-' then some .strip else none

/-- The header of a block scalar: chomping, indentation if given, and the place after it. -/
def blockHeader (p : Place) : Option (Chomping × Option Nat × Place) := do
  let digit? (c : Char) : Option Nat :=
    if '1' ≤ c && c ≤ '9' then some (c.toNat - 48) else none
  let (chomp, increment, q) := match chomping? p.head with
    | some chomp =>
      match digit? p.next.head with
      | some n => (chomp, some n, p.forward 2)
      | none => (chomp, none, p.next)
    | none =>
      match digit? p.head with
      | some n =>
        match chomping? p.next.head with
        | some chomp => (chomp, some n, p.forward 2)
        | none => (.clip, some n, p.next)
      | none => (.clip, none, p)
  if !(q.head == ' ' || endsLine q.head) then none
  let q := q.skipBlanks
  let q := if q.head == '#' then q.skipWhile (fun c => !endsLine c) else q
  if !endsLine q.head then none
  return (chomp, increment, (q.lineBreak?.map (·.2)).getD q)

/-- Leading blank lines of a block scalar, and the deepest indentation on the way. -/
def blockIndentation (deepest : Nat) (out : List Char) : Nat → Place → List Char × Nat × Place
  | 0, p => (out.reverse, deepest, p)
  | fuel + 1, p =>
    if p.head == ' ' then
      let q := p.next
      blockIndentation (max deepest q.column) out fuel q
    else match p.lineBreak? with
      | some (c, q) => blockIndentation deepest (c :: out) fuel q
      | none => (out.reverse, deepest, p)

/-- Passes blanks up to a column. -/
def toColumn (indent : Nat) : Nat → Place → Place
  | 0, p => p
  | fuel + 1, p => if p.column < indent && p.head == ' ' then toColumn indent fuel p.next else p

/-- Blank lines inside a block scalar. -/
def blockBreaks (indent : Nat) (out : List Char) : Nat → Place → List Char × Place
  | 0, p => (out.reverse, p)
  | fuel + 1, p =>
    let p := toColumn indent p.total p
    match p.lineBreak? with
    | some (c, q) => blockBreaks indent (c :: out) fuel q
    | none => (out.reverse, p)

/-- The lines of a block scalar. `breaks` holds the blank lines before the line
at hand; the last line break and the blank lines at the end come apart. -/
def blockLines (folded : Bool) (indent : Nat) (out : List Char) (last : List Char)
    (breaks : List Char) : Nat → Place → List Char × List Char × List Char × Place
  | 0, p => (out.reverse, last, breaks, p)
  | fuel + 1, p =>
    if p.column != indent || p.rest.isEmpty then (out.reverse, last, breaks, p)
    else
      let leading := !(p.head == ' ' || p.head == '\t')
      let (text, q) := p.takeWhile fun c => !endsLine c
      let out := text.reverse ++ breaks.reverse ++ out
      let (last, q) := match q.lineBreak? with
        | some (c, q') => ([c], q')
        | none => ([], q)
      let (breaks, q) := blockBreaks indent [] (q.total + 1) q
      if q.column == indent && !q.rest.isEmpty then
        let joins := folded && last == ['\n'] && leading && !(q.head == ' ' || q.head == '\t')
        let out := if joins then (if breaks.isEmpty then ' ' :: out else out) else last ++ out
        blockLines folded indent out last breaks fuel q
      else (out.reverse, last, breaks, q)

/-- A block scalar after its mark, inside a block indented to `outer`. -/
def blockScalar (folded : Bool) (outer : Int) (p : Place) : Option (List Char × Place) := do
  let (chomp, increment, p) ← blockHeader p
  let least := (max (outer + 1) 1).toNat
  let fuel := p.total + 1
  let (breaks, indent, p) := match increment with
    | some n =>
      let indent := least + n - 1
      let (breaks, q) := blockBreaks indent [] fuel p
      (breaks, indent, q)
    | none =>
      let (breaks, deepest, q) := blockIndentation 0 [] fuel p
      (breaks, max least deepest, q)
  let (text, last, tail, p) := blockLines folded indent [] [] breaks fuel p
  let text := match chomp with
    | .strip => text
    | .clip => text ++ last
    | .keep => text ++ last ++ tail
  return (text, p)

/-! ## Anchors, tags and directives -/

/-- A character of an anchor, an alias or a directive's name. -/
def isWordPart (c : Char) : Bool :=
  ('0' ≤ c && c ≤ '9') || ('a' ≤ c && c ≤ 'z') || ('A' ≤ c && c ≤ 'Z') || c == '-' || c == '_'

/-- The name of an anchor or an alias after its mark. -/
def anchorName (p : Place) : Option (String × Place) :=
  let (cs, q) := p.takeWhile isWordPart
  let ends := endsWord q.head || ['?', ':', ',', ']', '}', '%', '@', '\x60'].contains q.head
  if cs.isEmpty || !ends then none else some (String.ofList cs, q)

/-- A character that stands for itself in a tag. -/
def isTagPart (c : Char) : Bool :=
  isWordPart c || [';', '/', '?', ':', '@', '&', '=', '+', '$', ',', '.', '!', '~', '*', '\x27',
    '(', ')', '[', ']'].contains c

/-- The bytes of escapes at hand. -/
def tagEscapes (out : List UInt8) : Nat → Place → Option (List UInt8 × Place)
  | 0, _ => none
  | fuel + 1, p =>
    if p.head == '%' then
      match (hexValue? (p.peek 1)), (hexValue? (p.peek 2)) with
      | some a, some b => tagEscapes ((16 * a + b).toUInt8 :: out) fuel (p.forward 3)
      | _, _ => none
    else some (out.reverse, p)

/-- The characters of a tag at hand; `out` holds what was read, last first. -/
def tagText (out : List Char) : Nat → Place → Option (List Char × Place)
  | 0, _ => none
  | fuel + 1, p =>
    if p.head == '%' then do
      let (bytes, q) ← tagEscapes [] (p.total + 1) p
      let text ← String.fromUTF8? ⟨bytes.toArray⟩
      tagText (text.toList.reverse ++ out) fuel q
    else if !p.rest.isEmpty && isTagPart p.head then tagText (p.head :: out) fuel p.next
    else if out.isEmpty then none
    else some (out.reverse, p)

/-- The characters of a tag as a string. -/
def tagUri (p : Place) : Option (String × Place) :=
  (tagText [] (p.total + 1) p).map fun (cs, q) => (String.ofList cs, q)

/-- A tag handle at hand: an exclamation mark, perhaps with a word and another. -/
def tagHandle (p : Place) : Option (String × Place) :=
  if p.head != '!' then none
  else if p.peek 1 == ' ' then some ("!", p.next)
  else
    let word := (p.rest.drop 1).takeWhile isWordPart
    if p.peek (word.length + 1) == '!' then
      some (String.ofList ('!' :: word ++ ['!']), p.forward (word.length + 2))
    else none

/-- A tag at hand. -/
def writtenTag (p : Place) : Option (WrittenTag × Place) := do
  let c := p.peek 1
  let (tag, q) ←
    if c == '<' then do
      let (uri, q) ← tagUri (p.forward 2)
      if q.head != '>' then none
      pure ((⟨none, uri⟩ : WrittenTag), q.next)
    else if endsWord c then pure (⟨none, "!"⟩, p.next)
    else do
      let word := (p.rest.drop 1).takeWhile fun d => !(d == ' ' || endsLine d)
      let (handle, q) ← if word.contains '!' then tagHandle p else pure ("!", p.next)
      let (uri, q) ← tagUri q
      pure (⟨some handle, uri⟩, q)
  if q.head == ' ' || endsLine q.head then return (tag, q) else none

/-- The end of a directive's line. -/
def directiveEnd (p : Place) : Option Place :=
  let q := p.skipBlanks
  let q := if q.head == '#' then q.skipWhile (fun c => !endsLine c) else q
  if endsLine q.head then some ((q.lineBreak?.map (·.2)).getD q) else none

/-- A number in a directive. -/
def directiveNumber (p : Place) : Option (Nat × Place) :=
  let (cs, q) := p.takeWhile fun c => '0' ≤ c && c ≤ '9'
  if cs.isEmpty then none
  else some (cs.foldl (fun n c => 10 * n + (c.toNat - 48)) 0, q)

/-- A directive after its mark. -/
def directive (p : Place) : Option (Token × Place) := do
  let (name, q) := p.takeWhile isWordPart
  let ends (q : Place) : Bool := q.head == ' ' || endsLine q.head
  if name.isEmpty || !ends q then none
  if name == "YAML".toList then
    let (major, q) ← directiveNumber q.skipBlanks
    if q.head != '.' then none
    let (_, q) ← directiveNumber q.next
    if !ends q then none
    return (.versionDirective major, ← directiveEnd q)
  else if name == "TAG".toList then
    let (handle, q) ← tagHandle q.skipBlanks
    if q.head != ' ' then none
    let (base, q) ← tagUri q.skipBlanks
    if !ends q then none
    return (.tagDirective handle base, ← directiveEnd q)
  else return (.otherDirective, ← directiveEnd (q.skipWhile fun c => !endsLine c))

/-! ## The scanner -/

/-- Where a key may have begun. -/
structure PossibleKey where
  /-- The depth of flow collections around it. -/
  level : Nat
  /-- The tokens before it. -/
  tokenNumber : Nat
  /-- It must turn out to be a key. -/
  required : Bool
  /-- Where it began. -/
  index : Nat
  /-- The line it began on. -/
  line : Nat
  /-- The column it began at. -/
  column : Nat

/-- The state of the scanner. -/
structure Scanner where
  /-- The place that has been reached. -/
  place : Place
  /-- The tokens so far. -/
  tokens : Array Token := #[]
  /-- The depth of flow collections. -/
  flowLevel : Nat := 0
  /-- The indentation of the innermost block; -1 outside all blocks. -/
  indent : Int := -1
  /-- The indentation of the blocks around it. -/
  indents : List Int := []
  /-- A key may begin here. -/
  allowKey : Bool := true
  /-- Where keys may have begun, at most one at each depth. -/
  keys : List PossibleKey := []

namespace Scanner

/-- The scanner inside a flow collection. -/
def inFlow (s : Scanner) : Bool :=
  s.flowLevel != 0

/-- The scanner with one more token. -/
def push (s : Scanner) (t : Token) : Scanner :=
  { s with tokens := s.tokens.push t }

/-- The scanner with one more token, put in after the first `n`. -/
def insert (s : Scanner) (n : Nat) (t : Token) : Scanner :=
  { s with tokens := s.tokens.insertIdxIfInBounds n t }

/-- The possible key at this depth is given up; that fails when it was required. -/
def dropKey (s : Scanner) : Option Scanner :=
  if s.keys.any fun k => k.level == s.flowLevel && k.required then none
  else some { s with keys := s.keys.filter fun k => k.level != s.flowLevel }

/-- Possible keys on earlier lines or too far back are given up. -/
def dropStale (s : Scanner) : Option Scanner :=
  let stale (k : PossibleKey) : Bool := k.line != s.place.line || k.index + 1024 < s.place.index
  if s.keys.any fun k => stale k && k.required then none
  else some { s with keys := s.keys.filter fun k => !stale k }

/-- A key may begin here. -/
def saveKey (s : Scanner) : Option Scanner :=
  if s.allowKey then do
    let required := !s.inFlow && s.indent == (s.place.column : Int)
    let s ← s.dropKey
    return { s with keys :=
      ⟨s.flowLevel, s.tokens.size, required, s.place.index, s.place.line, s.place.column⟩ ::
        s.keys }
  else some s

/-- Closes the blocks that are indented more than `column`. -/
def unwindFrom (column : Int) (indent : Int) (tokens : Array Token) :
    List Int → Int × List Int × Array Token
  | [] => (indent, [], tokens)
  | outer :: rest =>
    if column < indent then unwindFrom column outer (tokens.push .blockEnd) rest
    else (indent, outer :: rest, tokens)

/-- Closes the blocks that are indented more than `column`. -/
def unwind (s : Scanner) (column : Int) : Scanner :=
  if s.inFlow then s
  else
    let (indent, indents, tokens) := unwindFrom column s.indent s.tokens s.indents
    { s with indent := indent, indents := indents, tokens := tokens }

/-- Opens a block at `column` when that is deeper, and tells whether it did. -/
def openBlock (s : Scanner) (column : Nat) : Bool × Scanner :=
  if s.indent < (column : Int) then
    (true, { s with indents := s.indent :: s.indents, indent := column })
  else (false, s)

/-- Passes blanks, comments and line breaks before the next token. -/
def skipToToken (s : Scanner) : Nat → Scanner
  | 0 => s
  | fuel + 1 =>
    let p := s.place.skipBlanks
    let p := if p.head == '#' then p.skipWhile (fun c => !endsLine c) else p
    match p.lineBreak? with
    | some (_, q) =>
      skipToToken { s with place := q, allowKey := s.allowKey || !s.inFlow } fuel
    | none => { s with place := p }

/-- A token that is one character long and no scalar. -/
def mark (s : Scanner) (t : Token) : Scanner :=
  { s.push t with place := s.place.next }

/-- A directive, or a mark between documents, closes every block. -/
def leaveBlocks (s : Scanner) : Option Scanner := do
  let s ← (s.unwind (-1)).dropKey
  return { s with allowKey := false }

/-- The end of the text. -/
def finish (s : Scanner) : Option Scanner := do
  let s ← s.leaveBlocks
  return s.push .streamEnd

/-- The beginning of a flow collection. -/
def openFlow (s : Scanner) (t : Token) : Option Scanner := do
  let s ← s.saveKey
  return { s.mark t with flowLevel := s.flowLevel + 1, allowKey := true }

/-- The end of a flow collection. -/
def closeFlow (s : Scanner) (t : Token) : Option Scanner := do
  let s ← s.dropKey
  if s.inFlow then return { s.mark t with flowLevel := s.flowLevel - 1, allowKey := false }
  else none

/-- An entry of a block sequence. -/
def entry (s : Scanner) : Option Scanner := do
  if !s.inFlow && !s.allowKey then none
  let (opened, s) := if s.inFlow then (false, s) else s.openBlock s.place.column
  let s := if opened then s.push .blockSequenceStart else s
  let s ← { s with allowKey := true }.dropKey
  return s.mark .blockEntry

/-- A question mark before a key. -/
def explicitKey (s : Scanner) : Option Scanner := do
  if !s.inFlow && !s.allowKey then none
  let (opened, s) := if s.inFlow then (false, s) else s.openBlock s.place.column
  let s := if opened then s.push .blockMappingStart else s
  let s ← { s with allowKey := !s.inFlow }.dropKey
  return s.mark .key

/-- A colon before a value. What may have been a key now is one. -/
def valueMark (s : Scanner) : Option Scanner := do
  match s.keys.find? fun k => k.level == s.flowLevel with
  | some k =>
    let s := { s with keys := s.keys.filter fun k => k.level != s.flowLevel }
    let (opened, s) := if s.inFlow then (false, s) else s.openBlock k.column
    let s := s.insert k.tokenNumber .key
    let s := if opened then s.insert k.tokenNumber .blockMappingStart else s
    return { s with allowKey := false }.mark .value
  | none =>
    if !s.inFlow && !s.allowKey then none
    let (opened, s) := if s.inFlow then (false, s) else s.openBlock s.place.column
    let s := if opened then s.push .blockMappingStart else s
    let s ← { s with allowKey := !s.inFlow }.dropKey
    return s.mark .value

/-- A token of several characters that may be a key. -/
def keyLike (s : Scanner) (read : Place → Option (Token × Place)) : Option Scanner := do
  let s ← s.saveKey
  let (t, p) ← read s.place
  return { s.push t with place := p, allowKey := false }

/-- A plain scalar. -/
def plain (s : Scanner) : Option Scanner := do
  let s ← s.saveKey
  let (text, broken, p) :=
    plainScalar s.inFlow (s.indent + 1) [] false (s.place.total + 1) [] s.place
  return { s.push (.scalar text true) with place := p, allowKey := broken }

/-- A character that may begin a plain scalar. -/
def startsPlain (s : Scanner) : Bool :=
  let c := s.place.head
  let special := ['-', '?', ':', ',', '[', ']', '{', '}', '#', '&', '*', '!', '|', '>', '\x27', '"',
    '%', '@', '\x60']
  !(endsWord c || special.contains c) ||
    (!endsWord (s.place.peek 1) && (c == '-' || (!s.inFlow && (c == '?' || c == ':'))))

/-- Turns a refusal into a problem. -/
def orMalformed {α : Type} : Option α → Except Problem α
  | some a => .ok a
  | none => .error .malformed

/-- A quoted scalar. -/
def quoted (s : Scanner) (double : Bool) : Except Problem Scanner := do
  let s ← orMalformed s.saveKey
  let (text, p) ← quotedBody double [] (s.place.total + 1) s.place.next
  return { s.push (.scalar text false) with place := p, allowKey := false }

/-- A block scalar. -/
def block (s : Scanner) (folded : Bool) : Option Scanner := do
  let s ← { s with allowKey := true }.dropKey
  let (text, p) ← blockScalar folded s.indent s.place.next
  return { s.push (.scalar text false) with place := p }

/-- Three characters that stand between documents. -/
def documentMark (s : Scanner) (t : Token) : Option Scanner := do
  let s ← s.leaveBlocks
  return { s.push t with place := s.place.forward 3 }

/-- The token at hand, when the text has not ended. -/
def fetch (s : Scanner) : Except Problem Scanner :=
  let p := s.place
  let c := p.head
  let wordEnds := endsWord (p.peek 1)
  if c == '%' && p.column == 0 then
    orMalformed do
      let s ← s.leaveBlocks
      let (t, q) ← directive s.place.next
      return { s.push t with place := q }
  else if c == '-' && p.column == 0 && p.atDocumentMark then
    orMalformed (s.documentMark .documentStart)
  else if c == '.' && p.column == 0 && p.atDocumentMark then
    orMalformed (s.documentMark .documentEnd)
  else if c == '[' then orMalformed (s.openFlow .flowSequenceStart)
  else if c == '{' then orMalformed (s.openFlow .flowMappingStart)
  else if c == ']' then orMalformed (s.closeFlow .flowSequenceEnd)
  else if c == '}' then orMalformed (s.closeFlow .flowMappingEnd)
  else if c == ',' then orMalformed do
    let s ← { s with allowKey := true }.dropKey
    return s.mark .flowEntry
  else if c == '-' && wordEnds then orMalformed s.entry
  else if c == '?' && (s.inFlow || wordEnds) then orMalformed s.explicitKey
  else if c == ':' && (s.inFlow || wordEnds) then orMalformed s.valueMark
  else if c == '*' then orMalformed (s.keyLike fun p =>
    (anchorName p.next).map fun (name, q) => (.alias name, q))
  else if c == '&' then orMalformed (s.keyLike fun p =>
    (anchorName p.next).map fun (name, q) => (.anchor name, q))
  else if c == '!' then orMalformed (s.keyLike fun p =>
    (writtenTag p).map fun (tag, q) => (.tag tag, q))
  else if c == '|' && !s.inFlow then orMalformed (s.block false)
  else if c == '>' && !s.inFlow then orMalformed (s.block true)
  else if c == '\x27' then s.quoted false
  else if c == '"' then s.quoted true
  else if s.startsPlain then orMalformed s.plain
  else .error .malformed

/-- Reads tokens up to the end of the text, or up to the first problem. -/
def run (s : Scanner) : Nat → Array Token × Option Problem
  | 0 => (s.tokens, some .malformed)
  | fuel + 1 =>
    match (s.skipToToken (s.place.total + 1)).dropStale with
    | none => (s.tokens, some .malformed)
    | some s =>
      let s := s.unwind s.place.column
      if s.place.rest.isEmpty then
        match s.finish with
        | some s => (s.tokens, none)
        | none => (s.tokens, some .malformed)
      else match s.fetch with
        | .ok s => s.run fuel
        | .error problem => (s.tokens, some problem)

end Scanner

/-- A character that may stand in a text. -/
def isAllowed (c : Char) : Bool :=
  let n := c.toNat
  n == 9 || n == 10 || n == 13 || (0x20 ≤ n && n ≤ 0x7E) || n == 0x85 ||
    (0xA0 ≤ n && n ≤ 0xD7FF) || (0xE000 ≤ n && n ≤ 0xFFFD) || 0x10000 ≤ n

/-- The tokens of a text, up to the first problem. A byte order mark may stand at
its beginning. -/
def tokens (text : List Char) : Array Token × Option Problem :=
  if !text.all isAllowed then (#[], some .malformed)
  else
    let start : Place := { rest := text, total := text.length }
    let start := if start.head == '\uFEFF' then start.next else start
    Scanner.run { place := start } (text.length + 2)

end RepoSurvey.Yaml
