import SimCard.Cursor

/-!
# Length fields

Between the tag and the value of an element stands its length: a single octet below `0x80`, and
otherwise a marker that says how many octets of length follow, one to three.  Only the shortest form
of a length is accepted, so each length has one written form.
-/

set_option autoImplicit false

namespace SimCard

/-- Why octets are not the elements they should be. -/
inductive ElementError where
  /-- The octets ran out. -/
  | cursor (error : CursorError)
  /-- A template that is no command. -/
  | unknownTemplate (tag : UInt8)
  /-- An octet that no element starts with. -/
  | invalidTag (tag : UInt8)
  /-- An octet that starts no length field. -/
  | lengthMarker (marker : UInt8)
  /-- A length that has a shorter form than the one it is written in. -/
  | lengthForm (marker : UInt8) (length : Nat)
  /-- A value longer than the octets there are for it. -/
  | tooLong (length available : Nat)
deriving Repr, DecidableEq

namespace ElementError

/-- What the error says. -/
def message : ElementError → String
  | .cursor error => error.message
  | .unknownTemplate tag => "Unknown BER tag " ++ hexLiteral 2 tag.toNat
  | .invalidTag tag => "Invalid COMPREHENSION-TLV tag " ++ hexLiteral 2 tag.toNat
  | .lengthMarker marker => "Invalid length octet " ++ hexLiteral 2 marker.toNat
  | .lengthForm marker length =>
    s!"Length {length} is not in minimal form for prefix " ++ hexLiteral 2 marker.toNat
  | .tooLong length available =>
    s!"Value of {length} octet(s) exceeds the {available} octet(s) available"

end ElementError

instance : MonadLift (Step Cursor CursorError) (Step Cursor ElementError) where
  monadLift x := x.mapError .cursor

namespace Length

/-- How many octets a length field has. -/
def size (length : Nat) : Nat :=
  if length < 0x80 then 1 else if length < 0x100 then 2 else if length < 0x10000 then 3 else 4

/-- The field of a length.  Of a length that three octets cannot hold, the low three are written. -/
def toOctets (length : Nat) : Octets :=
  if length < 0x80 then [UInt8.ofNat length]
  else if length < 0x100 then [0x81, UInt8.ofNat length]
  else if length < 0x10000 then [0x82, UInt8.ofNat (length / 256), UInt8.ofNat length]
  else [0x83, UInt8.ofNat (length / 65536), UInt8.ofNat (length / 256), UInt8.ofNat length]

/-- How many octets follow a marker, and the least length that needs them. -/
def form? (marker : UInt8) : Option (Nat × Nat) :=
  if marker = 0x81 then some (1, 0x80)
  else if marker = 0x82 then some (2, 0x100)
  else if marker = 0x83 then some (3, 0x10000)
  else none

/-- The next `count` octets as the continuation of a number. -/
def readDigits (number : Nat) : Nat → Reader CursorError Nat
  | 0 => pure number
  | count + 1 => do
    let octet ← Cursor.readOctet
    readDigits (number * 256 + octet.toNat) count

/-- The length in the next field, and how many octets the field has. -/
def read : Reader ElementError (Nat × Nat) := do
  let marker ← Cursor.readOctet
  if marker < 0x80 then
    return (marker.toNat, 1)
  else
    match form? marker with
    | none => Step.fail (.lengthMarker marker)
    | some (count, least) =>
      let length ← readDigits 0 count
      if length < least then
        Step.fail (.lengthForm marker length)
      else
        return (length, 1 + count)

end Length

end SimCard
