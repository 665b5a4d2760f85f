import RowFilter.Text.Quoted

/-!
# Code units and octets

Characters beyond the first 65536 come as two code units of sixteen bits, a
high half and a low half.  A half without its other half has no character of
its own and counts as the replacement character.

Octets as they are shown in messages and in upper case, the text that they are
in UTF-8, and the octets that a text in base 64 stands for.
-/

namespace RowFilter
namespace Text

/-! ## Code units -/

/-- A first half of a pair of code units. -/
def isHighHalf (unit : Nat) : Bool :=
  0xD800 ≤ unit && unit ≤ 0xDBFF

/-- A second half of a pair of code units. -/
def isLowHalf (unit : Nat) : Bool :=
  0xDC00 ≤ unit && unit ≤ 0xDFFF

/-- The character of a code unit, or of a code point that needs two of them. -/
def unitChar (unit : Nat) : Char :=
  if isHighHalf unit || isLowHalf unit then '\ufffd' else Char.ofNat unit

/-- The character of a pair of code units. -/
def pairChar (high low : Nat) : Char :=
  Char.ofNat (0x10000 + (high - 0xD800) * 0x400 + (low - 0xDC00))

/-! ## Octets -/

/-- One octet inside the given quotes. -/
def quotedOctet (quote : Char) (octet : UInt8) : List Char :=
  if 32 ≤ octet.toNat && octet.toNat < 127 || [9, 10, 13].contains octet.toNat then
    quotedChar quote (Char.ofNat octet.toNat)
  else '\\' :: 'x' :: hexDigits 2 octet.toNat

/-- Octets between quotes, with a mark in front that they are no text. -/
def quotedOctets (octets : List UInt8) : String :=
  let quote := quoteFor (octets.map fun octet => Char.ofNat octet.toNat)
  String.ofList ('b' :: quote :: octets.flatMap (quotedOctet quote) ++ [quote])

/-- Octets with the ASCII letters among them in upper case. -/
def upperOctets (octets : List UInt8) : List UInt8 :=
  octets.map fun octet =>
    if 97 ≤ octet.toNat && octet.toNat ≤ 122 then octet - 32 else octet

/-- The characters that octets stand for in UTF-8. -/
def utf8Chars? (octets : List UInt8) : Option (List Char) :=
  (String.fromUTF8? ⟨octets.toArray⟩).map String.toList

/-- The six bits that a character of base 64 stands for. -/
def base64Value? (character : Char) : Option Nat :=
  if 'A' ≤ character ∧ character ≤ 'Z' then some (character.toNat - 65)
  else if 'a' ≤ character ∧ character ≤ 'z' then some (character.toNat - 71)
  else if character.isDigit then some (character.toNat + 4)
  else if character = '+' then some 62
  else if character = '/' then some 63
  else none

/--
The octets of a text in base 64.  Of the present group of four `place`
characters have been read, `carry` holds the bits that are not yet part of an
octet, and `pads` counts the equals signs after the last character.  The text
ends where equals signs fill a group; other characters do not count.
-/
def base64From (place carry pads : Nat) (done : List UInt8) : List Char → Option (List UInt8)
  | [] => if place = 0 then some done.reverse else none
  | character :: rest =>
      if character = '=' then
        if place < 2 then base64From place carry pads done rest
        else if 4 ≤ place + pads + 1 then some done.reverse
        else base64From place carry (pads + 1) done rest
      else
        match base64Value? character with
        | none => base64From place carry pads done rest
        | some value =>
            match place with
            | 0 => base64From 1 value 0 done rest
            | 1 => base64From 2 (value % 16) 0 (UInt8.ofNat (carry * 4 + value / 16) :: done) rest
            | 2 => base64From 3 (value % 4) 0 (UInt8.ofNat (carry * 16 + value / 4) :: done) rest
            | _ => base64From 0 0 0 (UInt8.ofNat (carry * 64 + value) :: done) rest

/-- The octets of a text in base 64, if its last group is complete. -/
def base64? (characters : List Char) : Option (List UInt8) :=
  base64From 0 0 0 [] characters

end Text
end RowFilter
