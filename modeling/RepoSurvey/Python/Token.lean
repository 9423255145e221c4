import RepoSurvey.Text.Identifier
import RepoSurvey.Text.Cut

/-!
# Tokens of Python

A source is cut into names, numbers, strings, operators and the three tokens
that carry its layout: the end of a logical line, and the beginning and end of
an indented block. Text inside brackets has no layout.

Columns count bytes of UTF-8, lines count from one. The source ends with a
line feed; where it does not, one is added.

Indentation is measured twice, once with tab stops every eight columns and
once with tabs of width one. Two lines that agree in one measure and not in
the other are inconsistent, and the source is refused.
-/

namespace RepoSurvey.Python

/-- A place in a source. -/
structure Position where
  /-- The line, from one. -/
  line : Nat
  /-- The column in bytes, from zero. -/
  column : Nat
  deriving Repr, DecidableEq, Inhabited

/-- What a token is. -/
inductive TokenKind where
  /-- A name or a keyword. -/
  | name (text : String)
  /-- A number as written. -/
  | number (text : String)
  /-- A string with its letters and quotes, as written. -/
  | string (text : List Char)
  /-- An operator or a bracket. -/
  | op (text : String)
  /-- The end of a logical line. -/
  | newline
  /-- The beginning of a block. -/
  | indent
  /-- The end of a block. -/
  | dedent
  /-- The end of the source. -/
  | stop
  deriving Repr, DecidableEq, Inhabited

/-- A token and the place where it starts. -/
structure Token where
  /-- What the token is. -/
  kind : TokenKind
  /-- Where it starts. -/
  position : Position
  deriving Repr, DecidableEq, Inhabited

/-! ## Positions -/

/-- The number of bytes that a character takes in UTF-8. -/
def byteWidth (c : Char) : Nat :=
  let n := c.toNat
  if n < 0x80 then 1 else if n < 0x800 then 2 else if n < 0x10000 then 3 else 4

/-- The place after a character. -/
def Position.after (p : Position) (c : Char) : Position :=
  if c == '\n' then ⟨p.line + 1, 0⟩ else ⟨p.line, p.column + byteWidth c⟩

/-- The place after some characters. -/
def Position.afterAll (p : Position) (cs : List Char) : Position :=
  cs.foldl Position.after p

/-! ## Names -/

/-- A character that a name may start with, before the name is checked. -/
def mayStartName (c : Char) : Bool :=
  ('a' ≤ c && c ≤ 'z') || ('A' ≤ c && c ≤ 'Z') || c == '_' || 128 ≤ c.toNat

/-- A character that a name may go on with, before the name is checked. -/
def mayContinueName (c : Char) : Bool :=
  mayStartName c || c.isDigit

/-- The characters form a name. -/
def isName : List Char → Bool
  | [] => false
  | c :: rest => Text.isNameStart c && rest.all Text.isNameContinue

/-! ## Numbers -/

/-- Digits that may be grouped by single underscores; the first character has
been seen to be a digit. Gives what was read and what is left; fails at an
underscore that no digit follows. -/
def digitGroup (accepts : Char → Bool) (seen : List Char) :
    List Char → Option (List Char × List Char)
  | [] => some (seen, [])
  | '_' :: rest =>
    match rest with
    | c :: rest' => if accepts c then digitGroup accepts (c :: '_' :: seen) rest' else none
    | [] => none
  | c :: rest => if accepts c then digitGroup accepts (c :: seen) rest else some (seen, c :: rest)

/-- A word that may stand right after a number. -/
def wordAfterNumber (cs : List Char) : Bool :=
  ["and".toList, "else".toList, "for".toList, "if".toList, "in".toList, "is".toList, "or".toList,
    "not".toList].any (·.isPrefixOf cs)

/-- What follows does not run into the number. -/
def numberEnds (cs : List Char) : Bool :=
  match cs with
  | [] => true
  | c :: _ => !mayContinueName c || wordAfterNumber cs

/-- A finished number with what is left, unless the rest runs into it. -/
def endNumber (r : List Char × List Char) : Option (List Char × List Char) :=
  if numberEnds r.2 then some r else none

/-- The letter of an imaginary number, if there is one, and the end of the number. -/
def imaginaryTail (r : List Char × List Char) : Option (List Char × List Char) :=
  match r.2 with
  | c :: rest => if c == 'j' || c == 'J' then endNumber (c :: r.1, rest) else endNumber r
  | [] => some r

/-- The exponent, if there is one, and what may follow it. A letter that no
digit follows belongs to the rest. -/
def exponentTail (r : List Char × List Char) : Option (List Char × List Char) :=
  match r.2 with
  | e :: rest =>
    if e == 'e' || e == 'E' then
      match rest with
      | c :: rest' =>
        if c == '+' || c == '-' then
          match rest' with
          | d :: rest'' =>
            if d.isDigit then
              (digitGroup Char.isDigit (d :: c :: e :: r.1) rest'').bind imaginaryTail
            else none
          | [] => none
        else if c.isDigit then (digitGroup Char.isDigit (c :: e :: r.1) rest').bind imaginaryTail
        else endNumber r
      | [] => endNumber r
    else imaginaryTail r
  | [] => some r

/-- The digits after a point, if there are any, and what may follow them. -/
def fractionTail (r : List Char × List Char) : Option (List Char × List Char) :=
  match r.2 with
  | c :: rest =>
    if c.isDigit then (digitGroup Char.isDigit (c :: r.1) rest).bind exponentTail
    else exponentTail r
  | [] => some r

/-- What follows the whole part: a fraction, an exponent or neither. -/
def wholeTail (r : List Char × List Char) : Option (List Char × List Char) :=
  match r.2 with
  | '.' :: rest => fractionTail ('.' :: r.1, rest)
  | _ => exponentTail r

/-- A number in another base than ten, after its two letters. -/
def radixTail (accepts : Char → Bool) (seen : List Char) (cs : List Char) :
    Option (List Char × List Char) :=
  let digits := match cs with
    | '_' :: c :: rest => if accepts c then digitGroup accepts (c :: '_' :: seen) rest else none
    | c :: rest => if accepts c then digitGroup accepts (c :: seen) rest else none
    | [] => none
  digits.bind endNumber

/-- A hexadecimal digit. -/
def isHexDigit (c : Char) : Bool :=
  c.isDigit || ('a' ≤ c && c ≤ 'f') || ('A' ≤ c && c ≤ 'F')

/-- A number that starts with a zero: another base, a zero, or a number that
is not an integer. Leading zeros before other digits are refused in integers. -/
def zeroNumber (cs : List Char) : Option (List Char × List Char) :=
  match cs with
  | x :: rest =>
    if x == 'x' || x == 'X' then radixTail isHexDigit [x, '0'] rest
    else if x == 'o' || x == 'O' then radixTail (fun c => '0' ≤ c && c ≤ '7') [x, '0'] rest
    else if x == 'b' || x == 'B' then radixTail (fun c => c == '0' || c == '1') [x, '0'] rest
    else do
      let whole ← digitGroup Char.isDigit ['0'] cs
      match whole.2 with
      | c :: _ =>
        if c == '.' || c == 'e' || c == 'E' then wholeTail whole
        else if c == 'j' || c == 'J' then imaginaryTail whole
        else if whole.1.any fun d => d != '0' && d != '_' then none
        else endNumber whole
      | [] => if whole.1.any fun d => d != '0' && d != '_' then none else some whole
  | [] => some (['0'], [])

/-- The number at the beginning of a text, last character first, and what is left. -/
def number (c : Char) (rest : List Char) : Option (List Char × List Char) :=
  if c == '.' then fractionTail (['.'], rest)
  else if c == '0' then zeroNumber rest
  else (digitGroup Char.isDigit [c] rest).bind wholeTail

/-! ## Strings -/

/-- The letters that may stand before a quote. Each may come once; `u` stands
alone, and `b` and `f` exclude each other. -/
structure StringLetters where
  /-- A literal of bytes. -/
  bytes : Bool := false
  /-- The old mark of text. -/
  unicode : Bool := false
  /-- Backslashes stand for themselves. -/
  raw : Bool := false
  /-- Places in braces hold expressions. -/
  format : Bool := false
  deriving Repr, DecidableEq, Inhabited

/-- The letters with one more, if it may be added. -/
def StringLetters.add? (l : StringLetters) (c : Char) : Option StringLetters :=
  if (c == 'b' || c == 'B') && !(l.bytes || l.unicode || l.format) then
    some { l with bytes := true }
  else if (c == 'u' || c == 'U') && !(l.bytes || l.unicode || l.raw || l.format) then
    some { l with unicode := true }
  else if (c == 'r' || c == 'R') && !(l.raw || l.unicode) then some { l with raw := true }
  else if (c == 'f' || c == 'F') && !(l.format || l.bytes || l.unicode) then
    some { l with format := true }
  else none

/-- The letters before a quote, how many there are, and the text from the quote on. -/
def stringStart? (l : StringLetters) (count : Nat) :
    List Char → Option (StringLetters × Nat × List Char)
  | [] => none
  | c :: rest =>
    if c == '"' || c == '\x27' then some (l, count, c :: rest)
    else match l.add? c with
      | some l' => stringStart? l' (count + 1) rest
      | none => none

/-- How many characters there are up to and with the closing quotes; `run`
counts the quotes just passed, `want` is one or three. -/
def stringLength? (quote : Char) (want run seen : Nat) : List Char → Option Nat
  | [] => none
  | c :: rest =>
    if want == 1 && c == '\n' then none
    else if c == quote then
      if run + 1 == want then some (seen + 1)
      else stringLength? quote want (run + 1) (seen + 1) rest
    else if c == '\\' then
      match rest with
      | [] => none
      | _ :: rest' => stringLength? quote want 0 (seen + 2) rest'
    else stringLength? quote want 0 (seen + 1) rest

/-- The length of the string literal that starts with the quote `quote`. -/
def quotedLength? (quote : Char) (rest : List Char) : Option Nat :=
  match rest with
  | a :: b :: body =>
    if a == quote then
      if b == quote then stringLength? quote 3 0 3 body else some 2
    else stringLength? quote 1 0 1 rest
  | [a] => if a == quote then some 2 else none
  | [] => none

/-! ## Operators -/

/-- Operators of three characters. -/
def longOperators : List String := ["**=", "//=", ">>=", "<<=", "..."]

/-- Operators of two characters. -/
def pairOperators : List String :=
  ["!=", "%=", "&=", "**", "*=", "+=", "-=", "->", "//", "/=", ":=", "<<", "<=", "<>", "==", ">=",
    ">>", "@=", "^=", "|="]

/-- Operators and brackets of one character. -/
def shortOperators : List Char :=
  ['%', '&', '(', ')', '*', '+', ',', '-', '.', '/', ':', ';', '<', '=', '>', '@', '[', ']', '^',
    '{', '|', '}', '~']

/-- The operator at the beginning of a text. -/
def operator? (c : Char) (rest : List Char) : Option String :=
  match longOperators.find? fun o => o.toList.isPrefixOf (c :: rest) with
  | some o => some o
  | none =>
    match pairOperators.find? fun o => o.toList.isPrefixOf (c :: rest) with
    | some o => some o
    | none => if shortOperators.contains c then some (String.singleton c) else none

/-! ## Layout -/

/-- The indentation of a line and what follows it. -/
structure Indentation where
  /-- Columns with tab stops every eight. -/
  wide : Nat
  /-- Columns with tabs of width one. -/
  narrow : Nat
  /-- The line holds nothing but perhaps a comment. -/
  idle : Bool
  deriving Repr, DecidableEq

/-- Measures indentation. A backslash at the end of a line joins the next line
on; what stood before the first backslash decides, unless that was nothing. -/
def measure (wide narrow joined : Nat) : List Char → Indentation
  | ' ' :: rest => measure (wide + 1) (narrow + 1) joined rest
  | '\t' :: rest => measure ((wide / 8 + 1) * 8) (narrow + 1) joined rest
  | '\x0c' :: rest => measure 0 0 joined rest
  | '\\' :: '\n' :: rest => measure wide narrow (if joined == 0 then wide else joined) rest
  | cs =>
    let idle := match cs with
      | '#' :: _ => true
      | '\n' :: _ => true
      | _ => false
    if joined == 0 then ⟨wide, narrow, idle⟩ else ⟨joined, joined, idle⟩

/-- The deepest nesting of brackets. -/
def maxBrackets : Nat := 200

/-- The deepest nesting of blocks. -/
def maxBlocks : Nat := 100

/-- The state of the tokenizer. -/
structure Lexer where
  /-- The place that has been reached. -/
  position : Position := ⟨1, 0⟩
  /-- A new line begins here. -/
  fresh : Bool := true
  /-- The line holds nothing but perhaps a comment. -/
  idle : Bool := false
  /-- The open brackets, innermost first. -/
  brackets : List Char := []
  /-- The indentation of the open blocks, innermost first. -/
  blocks : List (Nat × Nat) := []
  /-- The tokens so far, last first. -/
  tokens : List Token := []

/-- The lexer with one more token at its place. -/
def Lexer.push (l : Lexer) (kind : TokenKind) : Lexer :=
  { l with tokens := ⟨kind, l.position⟩ :: l.tokens }

/-- Closes the blocks that are indented more than `wide`. -/
def closeBlocks (wide : Nat) : List (Nat × Nat) → List (Nat × Nat) × Nat
  | [] => ([], 0)
  | block :: outer =>
    if wide < block.1 then
      let (left, closed) := closeBlocks wide outer
      (left, closed + 1)
    else (block :: outer, 0)

/-- The indentation of the innermost block. -/
def Lexer.innermost (l : Lexer) : Nat × Nat :=
  l.blocks.head?.getD (0, 0)

/-- Opens or closes blocks as the indentation of a line asks. -/
def Lexer.indent (l : Lexer) (i : Indentation) : Option Lexer :=
  let l := { l with fresh := false, idle := i.idle }
  if i.idle || !l.brackets.isEmpty then some l
  else
    let (wide, narrow) := l.innermost
    if i.wide == wide then (if i.narrow == narrow then some l else none)
    else if wide < i.wide then
      if maxBlocks ≤ l.blocks.length + 1 || i.narrow ≤ narrow then none
      else some ({ l with blocks := (i.wide, i.narrow) :: l.blocks }.push .indent)
    else
      let (left, closed) := closeBlocks i.wide l.blocks
      let l := { l with blocks := left }
      if l.innermost == (i.wide, i.narrow) then
        some ((List.range closed).foldl (fun l _ => l.push .dedent) l)
      else none

/-! ## Scanning -/

/-- The bracket that opens what `c` closes. -/
def openerOf (c : Char) : Char :=
  if c == ')' then '(' else if c == ']' then '[' else '{'

/-- The open brackets after an operator, or nothing when it closes the wrong one. -/
def bracketsAfter (brackets : List Char) (text : String) : Option (List Char) :=
  match text.toList with
  | [c] =>
    if c == '(' || c == '[' || c == '{' then
      if maxBrackets ≤ brackets.length then none else some (c :: brackets)
    else if c == ')' || c == ']' || c == '}' then
      match brackets with
      | b :: outer => if b == openerOf c then some outer else none
      | [] => none
    else some brackets
  | _ => some brackets

/-- The lexer after a token of `taken` characters. -/
def Lexer.token (l : Lexer) (kind : TokenKind) (cs : List Char) (taken : Nat) : Lexer × Nat :=
  ({ l.push kind with position := l.position.afterAll (cs.take taken) }, taken - 1)

/-- One step at the text `c :: rest`: the new state, and how many characters
of `rest` it used up. -/
def Lexer.scan (l : Lexer) (c : Char) (rest : List Char) : Option (Lexer × Nat) :=
  let cs := c :: rest
  let skip (n : Nat) : Lexer × Nat :=
    ({ l with position := l.position.afterAll (cs.take (n + 1)) }, n)
  if c == ' ' || c == '\t' || c == '\x0c' then some (skip 0)
  else if c == '#' then some (skip (rest.takeWhile (· != '\n')).length)
  else if c == '\n' then
    let l' := if l.idle || !l.brackets.isEmpty then l else l.push .newline
    some ({ l' with position := l.position.after c, fresh := true, idle := false }, 0)
  else if c == '\\' then
    match rest with
    | '\n' :: _ :: _ => some (skip 1)
    | _ => none
  else if mayStartName c && (stringStart? {} 0 cs).isNone then
    let word := cs.takeWhile mayContinueName
    if isName word then some (l.token (.name (String.ofList word)) cs word.length) else none
  else if c == '"' || c == '\x27' || mayStartName c then
    match stringStart? {} 0 cs with
    | some (_, letters, quote :: body) =>
      (quotedLength? quote body).map fun n =>
        l.token (.string (cs.take (letters + n))) cs (letters + n)
    | _ => none
  else if c.isDigit || (c == '.' && rest.head?.any Char.isDigit) then
    (number c rest).map fun (text, _) =>
      l.token (.number (String.ofList text.reverse)) cs text.length
  else
    match operator? c rest with
    | some o =>
      (bracketsAfter l.brackets o).map fun brackets =>
        let (l', taken) := l.token (.op o) cs o.length
        ({ l' with brackets := brackets }, taken)
    | none => none

/-- Reads the text that is left. At the end every bracket must be closed;
blocks that are open end there. -/
def Lexer.run (l : Lexer) : List Char → Option Lexer
  | [] =>
    if l.brackets.isEmpty then
      some ((l.blocks.foldl (fun l _ => l.push .dedent) l).push .stop)
    else none
  | c :: rest => do
    let l ← if l.fresh then l.indent (measure 0 0 0 (c :: rest)) else some l
    let (next, taken) ← l.scan c rest
    next.run (rest.drop taken)
termination_by cs => cs.length
decreasing_by simp only [List.length_drop, List.length_cons]; omega

/-- The text with a line feed at its end. -/
def withFinalNewline (cs : List Char) : List Char :=
  if cs.getLast? == some '\n' then cs else cs ++ ['\n']

/-- The tokens of a source whose lines end in line feeds, read from `start` on. -/
def tokensFrom (start : Position) (cs : List Char) : Option (Array Token) :=
  (Lexer.run { position := start } (withFinalNewline cs)).map fun l => l.tokens.reverse.toArray

/-- The tokens of a source. A source with a null character has none. -/
def tokens (source : List Char) : Option (Array Token) :=
  if source.contains '\x00' then none
  else tokensFrom ⟨1, 0⟩ source

end RepoSurvey.Python
