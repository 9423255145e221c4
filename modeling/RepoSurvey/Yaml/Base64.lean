/-!
# Base 64

Bytes written with four characters for three of them. Characters outside the
alphabet are passed over, and padding ends the text once it completes a group.
-/

namespace RepoSurvey.Yaml

/-- The six bits that a character of the alphabet stands for. -/
def sixBits? (c : Char) : Option Nat :=
  if 'A' ≤ c && c ≤ 'Z' then some (c.toNat - 65)
  else if 'a' ≤ c && c ≤ 'z' then some (c.toNat - 71)
  else if '0' ≤ c && c ≤ '9' then some (c.toNat + 4)
  else if c == '+' then some 62
  else if c == '/' then some 63
  else none

/-- The bytes of a text. `place` counts the characters of the group at hand,
`left` holds its bits that make no whole byte yet, and `pads` counts padding
since the last character of the alphabet. -/
def base64From (place left pads : Nat) : List Char → Option (List UInt8)
  | [] => if place == 0 then some [] else none
  | c :: rest =>
    if c == '=' then
      if 2 ≤ place then
        if 4 ≤ place + (pads + 1) then some [] else base64From place left (pads + 1) rest
      else base64From place left pads rest
    else match sixBits? c with
      | none => base64From place left pads rest
      | some bits =>
        if place == 0 then base64From 1 bits 0 rest
        else if place == 1 then
          (base64From 2 (bits % 16) 0 rest).map ((left * 4 + bits / 16).toUInt8 :: ·)
        else if place == 2 then
          (base64From 3 (bits % 4) 0 rest).map ((left * 16 + bits / 4).toUInt8 :: ·)
        else (base64From 0 0 0 rest).map ((left * 64 + bits).toUInt8 :: ·)

/-- The bytes that a text in base 64 stands for. -/
def base64? (text : List Char) : Option (List UInt8) :=
  base64From 0 0 0 text

end RepoSurvey.Yaml
