import SimCard.Cursor
import SimCard.Text.Alphabet

/-!
# Fields of eight-bit units

A text field of a record has a fixed number of octets.  In the unpacked form each unit of the common
alphabet takes an octet of its own, a character of the single shift table takes two, and what the
text does not fill is `0xFF`.

A text that is too long keeps the longest initial part that fits, and a two-octet character is never
split (`takeWithin`).  A character that the alphabet lacks is written as a space.
-/

set_option autoImplicit false

namespace SimCard

namespace Text

/-- The octet that fills what is unused. -/
def filler : UInt8 := 0xFF

/-- The longest initial part of a text whose costs add up to at most `budget`. -/
def takeWithin (cost : Char → Nat) : Nat → List Char → List Char
  | _, [] => []
  | budget, c :: rest => if cost c ≤ budget then c :: takeWithin cost (budget - cost c) rest else []

/-- Octets followed by filler, up to `size` octets. -/
def fillTo (size : Nat) (octets : Octets) : Octets :=
  octets ++ List.replicate (size - octets.length) filler

/-- The units of a character in an eight-bit field: a character in neither table becomes a space. -/
def eightBitUnits (c : Char) : Octets :=
  match charUnits .standard .standard c with
  | [] => [0x20]
  | units => units

/-- How many octets a character takes in an eight-bit field. -/
def eightBitCost (c : Char) : Nat := (eightBitUnits c).length

/-- How many octets a text takes in an eight-bit field. -/
def eightBitLength (text : String) : Nat := (text.toList.flatMap eightBitUnits).length

/-- A text in a field of `size` octets. -/
def eightBitField (size : Nat) (text : List Char) : Octets :=
  fillTo size ((takeWithin eightBitCost size text).flatMap eightBitUnits)

/-- The text of a field.  It ends at the first filler; an octet above `0x7F` stands for nothing. -/
def decodeEightBit (octets : Octets) : List Char :=
  decodeUnits .standard .standard ((octets.takeWhile (· != filler)).filter (· < 0x80))

/-- The text of the next `size` octets, as a field of eight-bit units. -/
def readEightBit (size : Nat) : Reader CursorError String := do
  let octets ← Cursor.readOctets size
  return String.ofList (decodeEightBit octets)

end Text

end SimCard
