import SimCard.Number.SemiOctet

/-!
# Dialling numbers

A dialling number is one octet for the type of the number and then its digits in semi-octets.  The
types that are written are two: international, for a number that starts with `+`, and unknown.  On
reading, every type whose high half is that of the international one brings the `+` back.

In a directory record the number stands in a field of twelve octets: how many octets are used, the
number itself, at most twenty digits of it, and filler.
-/

set_option autoImplicit false

namespace SimCard

/-- Why a text or a number on the card cannot be read. -/
inductive FieldError where
  /-- The octets ran out. -/
  | cursor (error : CursorError)
  /-- A number field announces more octets than it has. -/
  | numberLength (length : UInt8)
  /-- The fields of a timestamp are no date. -/
  | timestamp
deriving Repr, DecidableEq

/-- What the error says. -/
def FieldError.message : FieldError → String
  | .cursor error => error.message
  | .numberLength length => s!"Invalid length of BCD number contents: {length.toNat}"
  | .timestamp => "Timestamp fields do not form a valid date"

instance : MonadLift (Step Cursor CursorError) (Step Cursor FieldError) where
  monadLift x := x.mapError .cursor

namespace Number

/-- The type of a number that starts with `+`. -/
def internationalType : UInt8 := 0x91

/-- The type of any other number. -/
def unknownType : UInt8 := 0x81

/-- The octets a number field has after its length. -/
def fieldSize : Nat := 11

/-- How many digits a number field holds. -/
def fieldDigits : Nat := 20

/-- Does a number start with `+`? -/
def isInternational (number : List Char) : Bool := number.head? == some '+'

/-- The type octet of a number. -/
def numberType (number : List Char) : UInt8 :=
  if isInternational number then internationalType else unknownType

/-- The dialling digits of a number. -/
def digitsOf (number : List Char) : List Char := number.filter isDialDigit

/-- A dialling number: its type and all its digits. -/
def diallingOctets (number : List Char) : Octets :=
  numberType number :: digitOctets (digitsOf number)

/-- The dialling number in octets. -/
def decodeDialling : Octets → List Char
  | [] => []
  | type :: digits =>
    (if highHalf type = highHalf internationalType then ['+'] else []) ++ decodeDigits digits

/-- The dialling number in the next `size` octets.  Its type is read before its digits. -/
def readDialling (size : Nat) : Reader CursorError String := do
  if size = 0 then
    return ""
  let type ← Cursor.readOctet
  let digits ← Cursor.readOctets (size - 1)
  return String.ofList (decodeDialling (type :: digits))

/-- The number in the next field of a directory record, if the field is used. -/
def readNumberField : Reader FieldError (Option String) := do
  let length ← Cursor.readOctet
  if length = 0xFF then
    Cursor.skip fieldSize
    return none
  else if fieldSize < length.toNat then
    Step.fail (.numberLength length)
  else
    let number ← readDialling length.toNat
    Cursor.skip (fieldSize - length.toNat)
    return some number

/-- The field of a number in a directory record; no number at all is all filler. -/
def numberField (number : List Char) : Octets :=
  if number.isEmpty then List.replicate (fieldSize + 1) 0xFF
  else
    let used := numberType number :: digitOctets ((digitsOf number).take fieldDigits)
    UInt8.ofNat used.length :: used ++ List.replicate (fieldSize - used.length) 0xFF

end Number

end SimCard
