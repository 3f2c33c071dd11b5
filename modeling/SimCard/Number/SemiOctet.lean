import SimCard.Cursor

/-!
# Semi-octets

Card records hold decimal digits two to an octet, the first digit in the low half.  A half of `0xF`
is filler.  Three things are written that way:

* a number below a hundred, in one octet (`pairOctet`, `octetPair`);
* a larger number, as pairs with the most significant one first (`numberOctets`, `readNumber`);
* a string of the thirteen dialling digits (`digitOctets`, `decodeDigits`).
-/

set_option autoImplicit false

namespace SimCard

namespace Number

/-- The half of an octet that comes first. -/
def lowHalf (octet : UInt8) : UInt8 := octet &&& 0x0F

/-- The half of an octet that comes second. -/
def highHalf (octet : UInt8) : UInt8 := octet >>> 4

/-- An octet of two halves. -/
def joinHalves (low high : UInt8) : UInt8 := (high <<< 4) ||| low

/-- The half that fills what is unused. -/
def fillerHalf : UInt8 := 0x0F

/-! ## Numbers -/

/-- The number in an octet: the low half counts tens and the high half units, and a half above nine
counts nothing. -/
def octetPair (octet : UInt8) : UInt8 :=
  let tens := lowHalf octet
  let units := highHalf octet
  (if tens ≤ 9 then tens * 10 else 0) + (if units ≤ 9 then units else 0)

/-- The octet of a number below a hundred; of a larger one only the last two digits are kept. -/
def pairOctet (value : UInt8) : UInt8 := ((value % 10) <<< 4) ||| ((value / 10) % 10)

/-- A number with one more octet after it: `0xFF` is filler, and an octet whose high half is filler
adds one digit instead of two. -/
def appendPair (number : Nat) (octet : UInt8) : Nat :=
  if octet = 0xFF then number
  else if highHalf octet = fillerHalf then number * 10 + (lowHalf octet).toNat
  else number * 100 + (octetPair octet).toNat

/-- The next `pairs` octets as the continuation of a number. -/
def readNumberFrom (number : Nat) : Nat → Reader CursorError Nat
  | 0 => pure number
  | pairs + 1 => do
    let octet ← Cursor.readOctet
    readNumberFrom (appendPair number octet) pairs

/-- The number in the next `pairs` octets.  They are read one by one. -/
def readNumber (pairs : Nat) : Reader CursorError Nat := readNumberFrom 0 pairs

/-- The last `pairs` pairs of digits of a number, most significant first. -/
def numberOctets : Nat → Nat → Octets
  | _, 0 => []
  | value, pairs + 1 =>
    numberOctets (value / 100) pairs ++ [pairOctet (UInt8.ofNat (value % 100))]

/-! ## Digit strings -/

/-- The dialling digits, in the order of their values. -/
def dialDigits : List Char := ['0', '1', '2', '3', '4', '5', '6', '7', '8', '9', '*', '#', ',']

/-- Is a character a dialling digit? -/
def isDialDigit (c : Char) : Bool := dialDigits.contains c

/-- The digit of a half octet, if it has one. -/
def halfDigit? (half : UInt8) : Option Char := dialDigits[half.toNat]?

/-- The half octet of a character: a dialling digit, or the letter F for filler. -/
def digitHalf? (c : Char) : Option UInt8 :=
  if c = 'F' ∨ c = 'f' then some fillerHalf else (dialDigits.idxOf? c).map UInt8.ofNat

/-- Halves joined two and two; an odd one at the end is completed with filler. -/
def joinAll : List UInt8 → Octets
  | [] => []
  | [low] => [joinHalves low fillerHalf]
  | low :: high :: rest => joinHalves low high :: joinAll rest

/-- A digit string as octets; characters that are no digits are passed over. -/
def digitOctets (digits : List Char) : Octets := joinAll (digits.filterMap digitHalf?)

/-- The digit string in octets.  It ends at the first low half that is filler; a high half that is
filler is passed over, and so is a half that is no digit. -/
def decodeDigits : Octets → List Char
  | [] => []
  | octet :: rest =>
    let low := lowHalf octet
    let high := highHalf octet
    if low = fillerHalf then []
    else
      (halfDigit? low).toList ++
        (if high = fillerHalf then [] else (halfDigit? high).toList) ++ decodeDigits rest

/-- The digit string in the next `size` octets. -/
def readDigits (size : Nat) : Reader CursorError String := do
  let octets ← Cursor.readOctets size
  return String.ofList (decodeDigits octets)

end Number

end SimCard
