import RepoSurvey.Decimal.Spelled
import RepoSurvey.Python.Tree

/-!
# Literals of Python

The values of numbers and strings. A string literal is taken apart into its
letters, its body and, when it is a formatted one, the pieces of its body;
what stands in the places of a formatted string is left as text.
-/

namespace RepoSurvey.Python

/-! ## Numbers -/

/-- The value of a hexadecimal digit. -/
def hexValue (c : Char) : Nat :=
  if '0' ≤ c && c ≤ '9' then c.toNat - 48
  else if 'a' ≤ c && c ≤ 'f' then c.toNat - 87
  else c.toNat - 55

/-- The number written by digits in a base. -/
def baseValue (base : Nat) (digits : List Char) : Nat :=
  digits.foldl (fun n c => base * n + hexValue c) 0

/-- The double nearest to a decimal numeral with a point or an exponent. -/
def realValue (cs : List Char) : Float :=
  let mantissa := cs.takeWhile fun c => c != 'e' && c != 'E'
  let tail := (cs.dropWhile fun c => c != 'e' && c != 'E').drop 1
  let whole := mantissa.takeWhile (· != '.')
  let part := (mantissa.dropWhile (· != '.')).drop 1
  let exponent : Int := match tail with
    | '-' :: digits => -(baseValue 10 digits : Int)
    | '+' :: digits => baseValue 10 digits
    | digits => baseValue 10 digits
  Decimal.nearest (baseValue 10 (whole ++ part)) (exponent - part.length)

/-- The value of a number as written. Nothing when it has too many digits. -/
def numberValue? (text : String) : Option Constant :=
  let cs := text.toList.filter (· != '_')
  match cs with
  | '0' :: x :: digits =>
    if x == 'x' || x == 'X' then some (.int (baseValue 16 digits))
    else if x == 'o' || x == 'O' then some (.int (baseValue 8 digits))
    else if x == 'b' || x == 'B' then some (.int (baseValue 2 digits))
    else decimal cs
  | _ => decimal cs
where
  /-- The value of a decimal numeral. -/
  decimal (cs : List Char) : Option Constant :=
    if cs.getLast?.any fun c => c == 'j' || c == 'J' then some (.imaginary (realValue cs.dropLast))
    else if cs.any fun c => c == '.' || c == 'e' || c == 'E' then some (.real (realValue cs))
    else if cs.head? == some '0' && cs.any (· != '0') then some (.real (realValue cs))
    else if Decimal.maximalDigits < cs.length then none
    else some (.int (baseValue 10 cs))

/-! ## Escapes -/

/-- An octal digit. -/
def isOctal (c : Char) : Bool :=
  '0' ≤ c && c ≤ '7'

/-- The value of exactly `count` hexadecimal digits, and what is left. -/
def hexRun? (count : Nat) (cs : List Char) : Option (Nat × List Char) :=
  let digits := cs.take count
  if digits.length == count && digits.all isHexDigit then
    some (baseValue 16 digits, cs.drop count)
  else none

/-- The character of an escape by one letter. -/
def simpleEscape? (c : Char) : Option Char :=
  if c == '\\' || c == '\x27' || c == '"' then some c
  else if c == 'a' then some '\x07'
  else if c == 'b' then some '\x08'
  else if c == 'f' then some '\x0c'
  else if c == 'n' then some '\n'
  else if c == 'r' then some '\r'
  else if c == 't' then some '\t'
  else if c == 'v' then some '\x0b'
  else none

/-- The octal number at the beginning of a text, of at most three digits, and its length. -/
def octalRun (cs : List Char) : Nat × Nat :=
  let digits := (cs.take 3).takeWhile isOctal
  (baseValue 8 digits, digits.length)

/-- A step in the body of a literal: what the text at hand stands for, and how
many characters after the first it takes. -/
abbrev Unescape (α : Type) := Char → List Char → Option (List α × Nat)

/-- Reads a body step by step; `out` holds what was read, last first. -/
def unescapeAll {α : Type} (step : Unescape α) (out : List α) : List Char → Option (List α)
  | [] => some out.reverse
  | c :: rest =>
    match step c rest with
    | some (made, taken) => unescapeAll step (made.reverse ++ out) (rest.drop taken)
    | none => none
termination_by cs => cs.length
decreasing_by simp only [List.length_drop, List.length_cons]; omega

/-- The character with a number; a half of a surrogate pair is no character
here and gives the one for what cannot be shown. -/
def charOfNumber (n : Nat) : Char :=
  if 0xD800 ≤ n && n < 0xE000 then '\uFFFD' else Char.ofNat n

/-- A step in a text. The names of characters are not looked up: every name
stands for the same character, so a name that is none is taken as well. -/
def textEscape : Unescape Char := fun c rest =>
  if c != '\\' then some ([c], 0)
  else match rest with
    | [] => some (['\\'], 0)
    | e :: more =>
      match simpleEscape? e with
      | some made => some ([made], 1)
      | none =>
        if e == '\n' then some ([], 1)
        else if isOctal e then
          let (n, count) := octalRun rest
          some ([charOfNumber n], count)
        else if e == 'x' then (hexRun? 2 more).map fun (n, _) => ([charOfNumber n], 3)
        else if e == 'u' then (hexRun? 4 more).map fun (n, _) => ([charOfNumber n], 5)
        else if e == 'U' then
          (hexRun? 8 more).bind fun (n, _) =>
            if n ≤ 0x10FFFF then some ([charOfNumber n], 9) else none
        else if e == 'N' then
          match more with
          | '{' :: name =>
            let length := (name.takeWhile (· != '}')).length
            if length == 0 || length == name.length then none
            else some (['\uFFFD'], length + 3)
          | _ => none
        else some (['\\', e], 1)

/-- A step in a literal of bytes; only ASCII may stand there. -/
def byteEscape : Unescape UInt8 := fun c rest =>
  if 128 ≤ c.toNat then none
  else if c != '\\' then some ([c.toNat.toUInt8], 0)
  else match rest with
    | [] => some ([c.toNat.toUInt8], 0)
    | e :: more =>
      match simpleEscape? e with
      | some made => some ([made.toNat.toUInt8], 1)
      | none =>
        if e == '\n' then some ([], 1)
        else if isOctal e then
          let (n, count) := octalRun rest
          some ([n.toUInt8], count)
        else if e == 'x' then (hexRun? 2 more).map fun (n, _) => ([n.toUInt8], 3)
        else some ([c.toNat.toUInt8], 0)

/-- A text body, with its escapes replaced unless it is raw. -/
def textBody? (raw : Bool) (cs : List Char) : Option (List Char) :=
  if raw then some cs else unescapeAll textEscape [] cs

/-- A body of bytes. -/
def bytesBody? (raw : Bool) (cs : List Char) : Option (List UInt8) :=
  if raw then
    if cs.all fun c => c.toNat < 128 then some (cs.map fun c => c.toNat.toUInt8) else none
  else unescapeAll byteEscape [] cs

/-! ## Literals -/

/-- A string literal taken apart: its letters, how many characters stand
before its body, and its body. -/
structure StringLiteral where
  /-- The letters before the quotes. -/
  letters : StringLetters
  /-- How many characters stand before the body. -/
  opening : Nat
  /-- What stands between the quotes. -/
  body : List Char

/-- Takes a string token apart. -/
def stringLiteral (text : List Char) : StringLiteral :=
  match stringStart? {} 0 text with
  | some (letters, count, quoted) =>
    let triple := match quoted with
      | a :: b :: c :: _ => a == b && b == c && 6 ≤ quoted.length
      | _ => false
    let width := if triple then 3 else 1
    ⟨letters, count + width, (quoted.drop width).take (quoted.length - 2 * width)⟩
  | none => ⟨{}, 0, text⟩

/-! ## Formatted strings -/

/-- A piece of a formatted string before its expressions are read. -/
inductive RawPart where
  /-- Text. -/
  | text (value : List Char)
  /-- A place: its source, where that starts in the body, the text it shows of
  itself, its conversion and its format. -/
  | place (source : List Char) (offset : Nat) (echo : List Char) (conversion : Option Char)
      (format : Option (List RawPart))

/-- The state of looking for the end of a place. -/
structure PlaceScan where
  /-- The quote and the number of quotes of the string that is open. -/
  quote : Option (Char × Nat) := none
  /-- The brackets that are open, innermost first. -/
  brackets : List Char := []

/-- The character ends a place when no bracket is open. -/
def endsPlace (c : Char) : Bool :=
  c == '!' || c == ':' || c == '}' || c == '='

/-- What a character does while the end of a place is sought. -/
inductive PlaceStep where
  /-- It may not stand here. -/
  | fail
  /-- The source of the place ends before it. -/
  | done
  /-- The search goes on after it and `taken` more characters. -/
  | go (next : PlaceScan) (taken : Nat)

/-- The two characters that follow are both `c`. -/
def twiceMore (c : Char) : List Char → Bool
  | a :: b :: _ => a == c && b == c
  | _ => false

/-- A step inside a string. -/
def quotedStep (s : PlaceScan) (q : Char) (count : Nat) (c : Char) (rest : List Char) : PlaceStep :=
  if c != q then .go s 0
  else if count == 1 then .go { s with quote := none } 0
  else if twiceMore q rest then .go { s with quote := none } 2
  else .go s 0

/-- A step outside strings. -/
def openStep (s : PlaceScan) (c : Char) (rest : List Char) : PlaceStep :=
  if c == '\x27' || c == '"' then
    if twiceMore c rest then .go { s with quote := some (c, 3) } 2
    else .go { s with quote := some (c, 1) } 0
  else if c == '(' || c == '[' || c == '{' then
    if maxBrackets ≤ s.brackets.length then .fail else .go { s with brackets := c :: s.brackets } 0
  else if c == '#' then .fail
  else if s.brackets.isEmpty && (endsPlace c || c == '<' || c == '>') then
    if rest.head? == some '=' && (c == '!' || c == '=' || c == '<' || c == '>') then .go s 1
    else if c == '<' || c == '>' then .go s 0
    else .done
  else if c == ')' || c == ']' || c == '}' then
    match s.brackets with
    | b :: outer => if b == openerOf c then .go { s with brackets := outer } 0 else .fail
    | [] => .fail
  else .go s 0

/-- A step in the source of a place. A backslash may not stand anywhere in it. -/
def PlaceScan.step (s : PlaceScan) (c : Char) (rest : List Char) : PlaceStep :=
  if c == '\\' then .fail
  else match s.quote with
    | some (q, count) => quotedStep s q count c rest
    | none => openStep s c rest

/-- How many characters the source of a place has. Backslashes and comments
are refused, and brackets must match. -/
def placeLength? (s : PlaceScan) (seen : Nat) : List Char → Option Nat
  | [] => none
  | c :: rest =>
    match s.step c rest with
    | .fail => none
    | .done => some seen
    | .go next taken => placeLength? next (seen + taken + 1) (rest.drop taken)
termination_by cs => cs.length
decreasing_by simp only [List.length_drop, List.length_cons]; omega

/-- What a character does in the text in front of a place. -/
inductive TextStep where
  /-- A closing brace stands alone. -/
  | fail
  /-- The text ends after so many more characters; the flag tells that the
  next character is skipped because it doubles a brace. -/
  | done (more : Nat) (doubled : Bool)
  /-- The text goes on after this character and `taken` more. -/
  | go (taken : Nat)

/-- A step at a brace, which stands `before` characters into the text at hand.
Inside a format braces are never doubled. -/
def braceStep (nested : Bool) (before : Nat) (c : Char) (rest : List Char) : TextStep :=
  if !nested && rest.head? == some c then .done (before + 1) true
  else if !nested && c == '}' then .fail
  else .done before false

/-- A step in the text in front of a place. -/
def textStep (raw nested : Bool) (c : Char) (rest : List Char) : TextStep :=
  if c == '\\' && !raw then
    match rest with
    | [] => .go 0
    | 'N' :: '{' :: name =>
      let inner := (name.takeWhile (· != '}')).length
      .go (2 + inner + (if inner < name.length then 1 else 0))
    | e :: more => if e == '{' || e == '}' then braceStep nested 1 e more else .go 1
  else if c == '{' || c == '}' then braceStep nested 0 c rest
  else .go 0

/-- The length of the text in front of the next place, and whether a doubled
brace follows it. -/
def literalLength? (raw nested : Bool) (seen : Nat) : List Char → Option (Nat × Bool)
  | [] => some (seen, false)
  | c :: rest =>
    match textStep raw nested c rest with
    | .fail => none
    | .done more doubled => some (seen + more, doubled)
    | .go taken => literalLength? raw nested (seen + taken + 1) (rest.drop taken)
termination_by cs => cs.length
decreasing_by simp only [List.length_drop, List.length_cons]; omega

/-- A blank inside a place. -/
def isPlaceBlank (c : Char) : Bool :=
  c == ' ' || c == '\t' || c == '\n' || c == '\x0c' || c == '\x0b' || c == '\r'

/-- What a place shows of itself after its source, and what is left. -/
def placeEcho (source : List Char) : List Char → List Char × List Char
  | '=' :: more =>
    let blanks := more.takeWhile isPlaceBlank
    (source ++ '=' :: blanks, more.drop blanks.length)
  | rest => ([], rest)

/-- The conversion of a place, and what is left. -/
def placeConversion? : List Char → Option (Option Char × List Char)
  | '!' :: c :: more =>
    if c == 's' || c == 'r' || c == 'a' then some (some c, more) else none
  | '!' :: [] => none
  | rest => some (none, rest)

/-- The format of a place at position `here`, and what is left; `pieces` reads pieces from
a position on. -/
def placeFormat? (pieces : Nat → List Char → Option (List RawPart × Nat)) (here : Nat) :
    List Char → Option (Option (List RawPart) × List Char)
  | ':' :: more =>
    if more.isEmpty then none
    else (pieces (here + 1) more).map fun (parts, used) => (some parts, more.drop used)
  | rest => some (none, rest)

/-- The pieces of a body from position `offset` on, and the length of what was
read. Nesting goes two levels deep; `fuel` bounds the pieces. -/
def rawParts (raw : Bool) (level : Nat) :
    Nat → Nat → List Char → Option (List RawPart × Nat)
  | 0, _, _ => none
  | fuel + 1, offset, cs => do
    let (length, doubled) ← literalLength? raw (level != 0) 0 cs
    let text ← textBody? raw (cs.take length)
    let before := if text.isEmpty then [] else [RawPart.text text]
    if doubled then
      let (more, used) ← rawParts raw level fuel (offset + length + 1) (cs.drop (length + 1))
      return (before ++ more, length + 1 + used)
    else match cs.drop length with
    | '{' :: inside =>
      if 2 ≤ level then none
      else
        let size ← placeLength? {} 0 inside
        let source := inside.take size
        if source.all fun c => c == ' ' || c == '\t' || c == '\n' || c == '\x0c' then none
        else
          let (echo, rest) := placeEcho source (inside.drop size)
          let (conversion, rest) ← placeConversion? rest
          let start := offset + length + 1
          let here := start + inside.length - rest.length
          let (format, rest) ← placeFormat? (rawParts raw (level + 1) fuel) here rest
          match rest with
          | '}' :: after =>
            let conversion := if !echo.isEmpty && format.isNone && conversion.isNone then some 'r'
              else conversion
            let place := RawPart.place source start echo conversion format
            let consumed := cs.length - after.length
            let (more, used) ← rawParts raw level fuel (offset + consumed) after
            return (before ++ place :: more, consumed + used)
          | _ => none
    | _ => return (before, length)

/-- The pieces of the body of a formatted string. -/
def formatParts? (raw : Bool) (body : List Char) : Option (List RawPart) :=
  match rawParts raw 0 (body.length + 2) 0 body with
  | some (parts, used) => if used == body.length then some parts else none
  | none => none

end RepoSurvey.Python
