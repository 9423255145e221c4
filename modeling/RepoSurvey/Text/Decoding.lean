import RepoSurvey.Text.Lines
import RepoSurvey.Text.Quoted

/-!
# Bytes as text

UTF-8 read strictly, where one bad byte spoils the whole text, and leniently,
where every sequence that cannot be continued leaves a replacement character.
Either way every line end becomes a line feed.
-/

namespace RepoSurvey.Text

/-- The text of well-formed bytes, with line feeds as its line ends. -/
def decode? (bytes : ByteArray) : Option String :=
  (String.fromUTF8? bytes).map fun s => String.ofList (unifyLineEnds s.toList)

/-- What a lead byte asks for: the number of bytes that follow, its own bits,
and the bounds of the next byte. -/
def leadByte? (b : Nat) : Option (Nat × Nat × Nat × Nat) :=
  if 0xC2 ≤ b && b ≤ 0xDF then some (1, b % 32, 0x80, 0xBF)
  else if b == 0xE0 then some (2, 0, 0xA0, 0xBF)
  else if b == 0xED then some (2, 13, 0x80, 0x9F)
  else if 0xE1 ≤ b && b ≤ 0xEF then some (2, b % 16, 0x80, 0xBF)
  else if b == 0xF0 then some (3, 0, 0x90, 0xBF)
  else if 0xF1 ≤ b && b ≤ 0xF3 then some (3, b % 8, 0x80, 0xBF)
  else if b == 0xF4 then some (3, 4, 0x80, 0x8F)
  else none

/-- The characters of bytes. A sequence that breaks off leaves `mark`. Inside a
sequence, `need` more bytes are asked for, the next one between `low` and
`high`, and `value` holds the bits so far. -/
def lenientFrom (mark : List Char) (need value low high : Nat) : List UInt8 → List Char
  | [] => if need == 0 then [] else mark
  | byte :: rest =>
    let b := byte.toNat
    if need != 0 && low ≤ b && b ≤ high then
      let value := value * 64 + b % 64
      if need == 1 then Char.ofNat value :: lenientFrom mark 0 0 0 0 rest
      else lenientFrom mark (need - 1) value 0x80 0xBF rest
    else
      (if need == 0 then [] else mark) ++
        if b < 0x80 then Char.ofNat b :: lenientFrom mark 0 0 0 0 rest
        else match leadByte? b with
          | some (n, bits, low, high) => lenientFrom mark n bits low high rest
          | none => mark ++ lenientFrom mark 0 0 0 0 rest

/-- The text of any bytes, with line feeds as its line ends and a replacement
character for every broken sequence. -/
def decodeLenient (bytes : ByteArray) : String :=
  String.ofList (unifyLineEnds (lenientFrom ['\uFFFD'] 0 0 0 0 bytes.toList))

/-- The text of any bytes without what is broken in them. -/
def decodeIgnoring (bytes : List UInt8) : String :=
  String.ofList (lenientFrom [] 0 0 0 0 bytes)

/-! ## The first broken byte -/

/-- What is wrong with bytes that are no text. -/
inductive Breach where
  /-- No character starts with the byte. -/
  | badStart
  /-- A byte does not continue the character before it. -/
  | badContinuation
  /-- The bytes end inside a character. -/
  | cutShort
  deriving Repr, DecidableEq

/-- The text in which a breach is reported. -/
def Breach.reason : Breach → String
  | .badStart => "invalid start byte"
  | .badContinuation => "invalid continuation byte"
  | .cutShort => "unexpected end of data"

/-- The first bytes that are no text. -/
structure BrokenBytes where
  /-- The position of the first of them. -/
  start : Nat
  /-- The position after the last of them. -/
  stop : Nat
  /-- The first of them. -/
  lead : Nat
  /-- What is wrong with them. -/
  breach : Breach
  deriving Repr, DecidableEq

/-- The text in which broken bytes are reported. -/
def BrokenBytes.message (b : BrokenBytes) : String :=
  let place :=
    if b.stop == b.start + 1 then
      "byte 0x" ++ String.ofList (hexDigits b.lead 2) ++ " in position " ++ toString b.start
    else "bytes in position " ++ toString b.start ++ "-" ++ toString (b.stop - 1)
  "'utf-8' codec can't decode " ++ place ++ ": " ++ b.breach.reason

/-- A character that has begun: where, with which byte, how many bytes it
still asks for, and the bounds of the next one. -/
structure Begun where
  /-- The position of the first byte. -/
  start : Nat
  /-- The first byte. -/
  lead : Nat
  /-- The number of bytes to come. -/
  need : Nat
  /-- The least next byte. -/
  low : Nat
  /-- The greatest next byte. -/
  high : Nat

/-- The first broken bytes from a position on. -/
def brokenFrom (position : Nat) (begun : Option Begun) : List UInt8 → Option BrokenBytes
  | [] => begun.map fun c => ⟨c.start, position, c.lead, .cutShort⟩
  | byte :: rest =>
    let b := byte.toNat
    match begun with
    | some c =>
      if c.low ≤ b && b ≤ c.high then
        let next : Begun := { c with need := c.need - 1, low := 0x80, high := 0xBF }
        brokenFrom (position + 1) (if c.need == 1 then none else some next) rest
      else some ⟨c.start, position, c.lead, .badContinuation⟩
    | none =>
      if b < 0x80 then brokenFrom (position + 1) none rest
      else match leadByte? b with
        | some (n, _, low, high) =>
          brokenFrom (position + 1) (some ⟨position, b, n, low, high⟩) rest
        | none => some ⟨position, position + 1, b, .badStart⟩

/-- The first broken bytes. -/
def broken? (bytes : List UInt8) : Option BrokenBytes :=
  brokenFrom 0 none bytes

end RepoSurvey.Text
