/-!
# Octets

Everything a SIM card says or hears is a string of octets, here a plain list.  This file holds what
the rest of the library needs to know about such strings before any of them means something:

* machine words laid out as octets, most significant first inside card records
  (`word16Octets`, `word16`) and least significant first inside parcels (`word32Octets`, `word32`);
* octets written as hexadecimal text (`hexText`, `spacedHexText`) and read back leniently
  (`octetsOfHexText`);
* small numbers shown as `0x` literals of a fixed least width (`hexLiteral`), the form the error
  messages use.
-/

set_option autoImplicit false

namespace SimCard

/-- A string of octets. -/
abbrev Octets := List UInt8

/-! ## Words -/

/-- The word of two octets, the most significant one first. -/
def word16 (high low : UInt8) : UInt16 := UInt16.ofNat (256 * high.toNat + low.toNat)

/-- The two octets of a word, the most significant one first. -/
def word16Octets (word : UInt16) : Octets :=
  [UInt8.ofNat (word.toNat / 256), UInt8.ofNat word.toNat]

/-- The word of four octets, the least significant one first. -/
def word32 (a b c d : UInt8) : UInt32 :=
  UInt32.ofNat (a.toNat + 256 * (b.toNat + 256 * (c.toNat + 256 * d.toNat)))

/-- The four octets of a word, the least significant one first. -/
def word32Octets (word : UInt32) : Octets :=
  [UInt8.ofNat word.toNat, UInt8.ofNat (word.toNat / 256), UInt8.ofNat (word.toNat / 65536),
    UInt8.ofNat (word.toNat / 16777216)]

/-- The octets cut into words of two; an odd octet at the end belongs to no word. -/
def words16 : Octets → List UInt16
  | high :: low :: rest => word16 high low :: words16 rest
  | _ => []

/-! ## Hexadecimal text -/

/-- The sixteen digits, in capitals. -/
def hexDigits : List Char :=
  ['0', '1', '2', '3', '4', '5', '6', '7', '8', '9', 'A', 'B', 'C', 'D', 'E', 'F']

/-- The digit of a value below sixteen. -/
def hexDigit (value : Nat) : Char := hexDigits.getD value '0'

/-- The value of a digit, in either case. -/
def hexValue? (c : Char) : Option Nat :=
  if '0' ≤ c ∧ c ≤ '9' then some (c.toNat - '0'.toNat)
  else if 'A' ≤ c ∧ c ≤ 'F' then some (c.toNat - 'A'.toNat + 10)
  else if 'a' ≤ c ∧ c ≤ 'f' then some (c.toNat - 'a'.toNat + 10)
  else none

/-- Two digits per octet, the high one first. -/
def octetDigits (octet : UInt8) : List Char :=
  [hexDigit (octet.toNat / 16), hexDigit (octet.toNat % 16)]

/-- Octets as one run of capital digits. -/
def hexText (octets : Octets) : String := String.ofList (octets.flatMap octetDigits)

/-- Octets as capital digits with a space between octets, for people to read. -/
def spacedHexText (octets : Octets) : String :=
  String.ofList (List.intercalate [' '] (octets.map octetDigits))

/-- Pairs of digit values as octets; an odd digit at the end is dropped. -/
def octetsOfDigits : List Nat → Octets
  | high :: low :: rest => UInt8.ofNat (16 * high + low) :: octetsOfDigits rest
  | _ => []

/-- The octets a text spells: every character that is no digit is passed over, and so is an odd
digit at the end. -/
def octetsOfHexText (text : String) : Octets := octetsOfDigits (text.toList.filterMap hexValue?)

/-- Digits in lower case, most significant first, at least `width` and never fewer than the value
needs. -/
def lowerHexDigits (width value : Nat) : List Char :=
  let digits := Nat.toDigits 16 value
  List.replicate (width - digits.length) '0' ++ digits

/-- A number as `0x` and at least `width` lower case digits. -/
def hexLiteral (width value : Nat) : String := "0x" ++ String.ofList (lowerHexDigits width value)

end SimCard
