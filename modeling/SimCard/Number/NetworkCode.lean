import SimCard.Number.SemiOctet

/-!
# Network codes

A mobile network is known by the code of its country, three digits, and its own code within the
country, two or three.  On the card the two share three octets of half octets in a peculiar order:
the third digit of the network stands beside the third of the country, and a network of two digits
has filler there.

`NetworkCode.toOctets` writes any pair of texts, dropping what is no digit and what does not fit;
`NetworkCode.isEncodable` says when nothing is lost except leading zeros.
-/

set_option autoImplicit false

namespace SimCard

/-- The codes that name a mobile network, as digit strings. -/
structure NetworkCode where
  country : String
  network : String
deriving Repr, DecidableEq, Inhabited

namespace NetworkCode

/-- The value of a decimal digit. -/
def decimalValue? (c : Char) : Option UInt8 :=
  if c.isDigit then some (UInt8.ofNat (c.toNat - '0'.toNat)) else none

/-- Is this the network with these codes? -/
def isNamed (code : NetworkCode) (country network : String) : Bool :=
  code.country == country && code.network == network

/-- Both codes in one text. -/
def text (code : NetworkCode) : String := code.country ++ code.network

/-- Does the code fit its three octets: a country of three digits, a network of one to three? -/
def isEncodable (code : NetworkCode) : Bool :=
  code.country.toList.length == 3 &&
    (1 ≤ code.network.toList.length && code.network.toList.length ≤ 3) &&
    code.country.toList.all Char.isDigit && code.network.toList.all Char.isDigit

/-- The decimal digits of a text, with zeros in front up to `width` of them. -/
def halves (width : Nat) (digits : String) : List UInt8 :=
  let values := digits.toList.filterMap decimalValue?
  List.replicate (width - values.length) 0 ++ values

/-- The three octets of a network code. -/
def toOctets (code : NetworkCode) : Octets :=
  let country := halves 3 code.country
  let network := halves 2 code.network
  [Number.joinHalves (country.getD 0 0) (country.getD 1 0),
   Number.joinHalves (country.getD 2 0) (network.getD 2 Number.fillerHalf),
   Number.joinHalves (network.getD 0 0) (network.getD 1 0)]

/-- The digits of half octets; filler and halves that are no digit are passed over. -/
def digitsOfHalves (halves : List UInt8) : String :=
  String.ofList (halves.filterMap fun half =>
    if half = Number.fillerHalf then none else Number.halfDigit? half)

/-- The network code in three octets; an entry that starts with `0xFF` is unused. -/
def ofOctets? : Octets → Option NetworkCode
  | [a, b, c] =>
    if a = 0xFF then none
    else
      some {
        country := digitsOfHalves [Number.lowHalf a, Number.highHalf a, Number.lowHalf b]
        network := digitsOfHalves [Number.lowHalf c, Number.highHalf c, Number.highHalf b] }
  | _ => none

/-- The network code in the next three octets. -/
def read : Reader CursorError (Option NetworkCode) := do
  let octets ← Cursor.readOctets 3
  return ofOctets? octets

end NetworkCode

end SimCard
