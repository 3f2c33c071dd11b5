import SimCard.Cursor

/-!
# Text in sixteen-bit units

A character below U+10000 is one unit; any other is a pair of surrogates, a high one and a low one.
Reading never fails: a surrogate that is not half of a pair reads as U+FFFD.
-/

set_option autoImplicit false

namespace SimCard

namespace Text

/-- What an unpaired surrogate reads as. -/
def replacement : Char := '\ufffd'

/-- The units of a character. -/
def charWords (c : Char) : List UInt16 :=
  let code := c.toNat
  if code < 0x10000 then [UInt16.ofNat code]
  else
    [UInt16.ofNat (0xD800 + (code - 0x10000) / 0x400),
     UInt16.ofNat (0xDC00 + (code - 0x10000) % 0x400)]

/-- Is a unit the first half of a pair? -/
def isHighSurrogate (unit : UInt16) : Bool := 0xD800 ≤ unit.toNat && unit.toNat < 0xDC00

/-- Is a unit the second half of a pair? -/
def isLowSurrogate (unit : UInt16) : Bool := 0xDC00 ≤ unit.toNat && unit.toNat < 0xE000

/-- The character of a pair of surrogates. -/
def pairChar (high low : UInt16) : Char :=
  Char.ofNat (0x10000 + (high.toNat - 0xD800) * 0x400 + (low.toNat - 0xDC00))

/-- The character of a unit that is not the first half of a pair. -/
def unitChar (unit : UInt16) : Char :=
  if isHighSurrogate unit || isLowSurrogate unit then replacement else Char.ofNat unit.toNat

/-- The text that units stand for. -/
def decodeWords : List UInt16 → List Char
  | [] => []
  | [unit] => [unitChar unit]
  | unit :: next :: rest =>
    if isHighSurrogate unit && isLowSurrogate next then pairChar unit next :: decodeWords rest
    else unitChar unit :: decodeWords (next :: rest)

/-- The octets of a character, each unit most significant octet first. -/
def charWordOctets (c : Char) : Octets := (charWords c).flatMap word16Octets

/-- The octets of a text. -/
def wideOctets (text : List Char) : Octets := text.flatMap charWordOctets

/-- The text of octets; an odd octet at the end is ignored. -/
def decodeWide (octets : Octets) : List Char := decodeWords (words16 octets)

/-- The text of the next `size` octets. -/
def readWide (size : Nat) : Reader CursorError String := do
  let octets ← Cursor.readOctets size
  return String.ofList (decodeWide octets)

end Text

end SimCard
