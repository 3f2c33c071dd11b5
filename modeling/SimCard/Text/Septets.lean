import SimCard.Cursor
import SimCard.Text.Alphabet

/-!
# Packed septets

Septets are packed into octets with no gap between them: the stream of bits starts at the least
significant bit of the first octet, and each septet goes into it least significant bit first.  A
number of padding bits may stand in front.

`packSeptets` and `unpackSeptets` go through the octets with an accumulator of 32 bits.  With at
most seven padding bits the accumulator never overflows, and octets and septets are then two
readings of one stream of bits.
-/

set_option autoImplicit false

namespace SimCard

namespace Text

/-- How many octets `count` septets take behind `padding` bits. -/
def packedLength (count padding : Nat) : Nat := (count * 7 + padding + 7) / 8

/-- The accumulator with the bits of `value` added above the `bits` it holds; what would not fit
into 32 bits is lost. -/
def addBits (held bits value : Nat) : Nat := held + (value <<< bits) % UInt32.size

/-- The lowest `count` groups of `width` bits of an accumulator. -/
def takeGroups (width : Nat) : Nat → Nat → List UInt8
  | 0, _ => []
  | count + 1, held => UInt8.ofNat (held % (1 <<< width)) :: takeGroups width count (held >>> width)

/-- Pack septets behind `bits` bits that are already held; whatever is left over at the end goes
into one last octet. -/
def packFrom (held bits : Nat) : List UInt8 → Octets
  | [] => if bits = 0 then [] else [UInt8.ofNat held]
  | septet :: rest =>
    let held := addBits held bits septet.toNat
    let full := (bits + 7) / 8
    takeGroups 8 full held ++ packFrom (held >>> (8 * full)) ((bits + 7) % 8) rest

/-- Septets packed behind `padding` zero bits. -/
def packSeptets (padding : Nat) (septets : List UInt8) : Octets := packFrom 0 padding septets

/-- Unpack up to `count` septets, with `bits` bits already held.  The first `pending` bits are
padding: they are dropped as soon as that many are held. -/
def unpackFrom (count pending held bits : Nat) : Octets → List UInt8
  | [] => []
  | octet :: rest =>
    let held := addBits held bits octet.toNat
    let bits := bits + 8
    let dropped := if pending ≤ bits then pending else 0
    let held := held >>> dropped
    let bits := bits - dropped
    let taken := min (bits / 7) count
    takeGroups 7 taken held ++
      unpackFrom (count - taken) (pending - dropped) (held >>> (7 * taken)) (bits - 7 * taken) rest

/-- At most `count` septets out of octets, behind `padding` bits. -/
def unpackSeptets (count padding : Nat) (octets : Octets) : List UInt8 :=
  unpackFrom count padding 0 0 octets

/-- A text in packed septets. -/
def packText (lang shift : Language) (padding : Nat) (text : String) : Octets :=
  packSeptets padding (encodeUnits lang shift text.toList)

/-- The text of the next `count` packed septets. -/
def readPackedText (lang shift : Language) (count padding : Nat) : Reader CursorError String := do
  let octets ← Cursor.readOctets (packedLength count padding)
  return String.ofList (decodeUnits lang shift (unpackSeptets count padding octets))

end Text

end SimCard
