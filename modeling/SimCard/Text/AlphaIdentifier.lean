import SimCard.Text.EightBit
import SimCard.Text.Utf16

/-!
# Alpha identifiers

The name in a directory record or in a menu is an *alpha identifier*: a field of fixed size that
says with its first octet how the rest is coded.

* `0x80`: sixteen-bit units up to the unit `0xFFFF`.
* `0x81` and `0x82`: a count, a base, and that many octets.  An octet above `0x7F` is the base plus
  its low seven bits; runs of the others are eight-bit units.  The base is one octet, standing for a
  half page of 128 characters, or two octets.
* Anything else: the whole field is eight-bit units.

Writing prefers the eight-bit units and takes `0x80` for a text they cannot hold.  Either way the
field is filled up, and a text that is too long keeps its longest initial part.
-/

set_option autoImplicit false

namespace SimCard

namespace Text

/-- The ways a field of sixteen-bit characters is laid out. -/
inductive WideScheme where
  /-- Plain units. -/
  | plain
  /-- A base of one octet. -/
  | halfPage
  /-- A base of two octets. -/
  | based
deriving Repr, DecidableEq

namespace WideScheme

/-- The octet that announces a scheme. -/
def marker : WideScheme → UInt8
  | .plain => 0x80
  | .halfPage => 0x81
  | .based => 0x82

/-- The scheme an octet announces. -/
def ofMarker? (marker : UInt8) : Option WideScheme :=
  [plain, halfPage, based].find? (·.marker == marker)

end WideScheme

/-- The text of octets relative to a base; `run` holds, last one first, the eight-bit units since
the last character above the base. -/
def decodeRelative (base : UInt16) (run : Octets) : Octets → List Char
  | [] => decodeEightBit run.reverse
  | unit :: rest =>
    if unit < 0x80 then decodeRelative base (unit :: run) rest
    else
      decodeEightBit run.reverse ++
        unitChar (base + (unit &&& 0x7F).toUInt16) :: decodeRelative base [] rest

/-- The text of a field under a scheme, its marker already taken off. -/
def decodeScheme : WideScheme → Octets → List Char
  | .plain, octets => decodeWords ((words16 octets).takeWhile (· != 0xFFFF))
  | .halfPage, count :: page :: body =>
    decodeRelative (UInt16.ofNat (page.toNat * 128)) [] (body.take count.toNat)
  | .based, count :: high :: low :: body =>
    decodeRelative (word16 high low) [] (body.take count.toNat)
  | _, _ => []

/-- The text of the next `size` octets under the scheme that `marker` announces; an octet that
announces none makes the text empty. -/
def readScheme (marker : UInt8) (size : Nat) : Reader CursorError String := do
  let octets ← Cursor.readOctets size
  match WideScheme.ofMarker? marker with
  | some scheme => return String.ofList (decodeScheme scheme octets)
  | none => return ""

/-- The text of an alpha identifier. -/
def decodeAlpha : Octets → List Char
  | [] => []
  | marker :: body =>
    match WideScheme.ofMarker? marker with
    | some scheme => decodeScheme scheme body
    | none => decodeEightBit (marker :: body)

/-- The alpha identifier in the next `size` octets. -/
def readAlpha (size : Nat) : Reader CursorError String := do
  let octets ← Cursor.readOctets size
  return String.ofList (decodeAlpha octets)

/-- How many octets a character takes in sixteen-bit units. -/
def wideCost (c : Char) : Nat := (charWordOctets c).length

/-- An alpha identifier of exactly `size` octets. -/
def alphaField (size : Nat) (text : List Char) : Octets :=
  if size = 0 then []
  else if isStandardAlphabet text then eightBitField size text
  else
    WideScheme.plain.marker :: fillTo (size - 1) (wideOctets (takeWithin wideCost (size - 1) text))

end Text

end SimCard
