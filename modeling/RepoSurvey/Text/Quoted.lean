import RepoSurvey.Text.Printable

/-!
# Quoted literals

How a text is written as a literal: between single quotes, or between double
quotes when that saves escaping, with a backslash before what cannot stand as
itself. Numbers in escapes are hexadecimal, in the shortest of three widths.
-/

namespace RepoSurvey.Text

/-- A hexadecimal digit in lower case. -/
def hexDigit (n : Nat) : Char :=
  if n < 10 then Char.ofNat (48 + n) else Char.ofNat (87 + n)

/-- The last `width` hexadecimal digits of a number. -/
def hexDigits (n : Nat) : Nat → List Char
  | 0 => []
  | width + 1 => hexDigits (n / 16) width ++ [hexDigit (n % 16)]

/-- The escape of a character by its number. -/
def numberEscape (n : Nat) : List Char :=
  if n < 0x100 then '\\' :: 'x' :: hexDigits n 2
  else if n < 0x10000 then '\\' :: 'u' :: hexDigits n 4
  else '\\' :: 'U' :: hexDigits n 8

/-- The escape of a backslash, a control or an unprintable character. -/
def charEscape (c : Char) : List Char :=
  if c == '\\' then ['\\', '\\']
  else if c == '\n' then ['\\', 'n']
  else if c == '\r' then ['\\', 'r']
  else if c == '\t' then ['\\', 't']
  else if isPrintable c then [c]
  else numberEscape c.toNat

/-- The quote that a literal stands in. -/
def quoteFor (cs : List Char) : Char :=
  if cs.contains '\x27' && !cs.contains '"' then '"' else '\x27'

/-- The body of a literal in the given quotes. -/
def quotedBody (quote : Char) (cs : List Char) : List Char :=
  cs.flatMap fun c => if c == quote then ['\\', c] else charEscape c

/-- A text as a literal. -/
def quotedChars (cs : List Char) : List Char :=
  let quote := quoteFor cs
  quote :: quotedBody quote cs ++ [quote]

/-- A string as a literal. -/
def quotedText (s : String) : String :=
  String.ofList (quotedChars s.toList)

/-- The body of a literal of bytes in the given quotes: beyond ASCII everything is escaped. -/
def quotedBytesBody (quote : Char) (bytes : List UInt8) : List Char :=
  bytes.flatMap fun b =>
    let c := Char.ofNat b.toNat
    if c == quote then ['\\', c]
    else if b.toNat < 128 then charEscape c
    else numberEscape b.toNat

/-- Bytes as a literal, marked with a `b`. -/
def quotedBytes (bytes : List UInt8) : String :=
  let quote := quoteFor (bytes.map fun b => Char.ofNat b.toNat)
  String.ofList ('b' :: quote :: quotedBytesBody quote bytes ++ [quote])

end RepoSurvey.Text
