import SimCard.Octets

/-!
# Base 64

Octets as text: three octets are four digits of six bits each.  One or two octets left over are two
or three digits, filled up to four with `=`.  Reading insists on the filling and on zeros for the
bits that no octet uses, so that octets have one text and no other.
-/

set_option autoImplicit false

namespace SimCard

namespace Base64

/-- The sixty-four digits. -/
def digits : List Char :=
  ['A', 'B', 'C', 'D', 'E', 'F', 'G', 'H', 'I', 'J', 'K', 'L', 'M', 'N', 'O', 'P',
   'Q', 'R', 'S', 'T', 'U', 'V', 'W', 'X', 'Y', 'Z', 'a', 'b', 'c', 'd', 'e', 'f',
   'g', 'h', 'i', 'j', 'k', 'l', 'm', 'n', 'o', 'p', 'q', 'r', 's', 't', 'u', 'v',
   'w', 'x', 'y', 'z', '0', '1', '2', '3', '4', '5', '6', '7', '8', '9', '+', '/']

/-- The digit of a value below sixty-four. -/
def digit (value : Nat) : Char := digits.getD value 'A'

/-- The value of a digit. -/
def value? (c : Char) : Option Nat := digits.idxOf? c

/-- Octets as digits. -/
def encode : Octets → List Char
  | [] => []
  | [a] => [digit (a.toNat / 4), digit (a.toNat % 4 * 16), '=', '=']
  | [a, b] =>
    [digit (a.toNat / 4), digit (a.toNat % 4 * 16 + b.toNat / 16), digit (b.toNat % 16 * 4), '=']
  | a :: b :: c :: rest =>
    digit (a.toNat / 4) :: digit (a.toNat % 4 * 16 + b.toNat / 16) ::
      digit (b.toNat % 16 * 4 + c.toNat / 64) :: digit (c.toNat % 64) :: encode rest

/-- Four digits without filling. -/
def decodeFour (a b c d : Char) : Option Octets := do
  let a ← value? a
  let b ← value? b
  let c ← value? c
  let d ← value? d
  return [UInt8.ofNat (a * 4 + b / 16), UInt8.ofNat (b % 16 * 16 + c / 4),
    UInt8.ofNat (c % 4 * 64 + d)]

/-- The last four characters, which may have filling. -/
def decodeLast (a b c d : Char) : Option Octets :=
  if d = '=' then
    if c = '=' then do
      let a ← value? a
      let b ← value? b
      if b % 16 = 0 then some [UInt8.ofNat (a * 4 + b / 16)] else none
    else do
      let a ← value? a
      let b ← value? b
      let c ← value? c
      if c % 4 = 0 then some [UInt8.ofNat (a * 4 + b / 16), UInt8.ofNat (b % 16 * 16 + c / 4)]
      else none
  else decodeFour a b c d

/-- The octets that digits stand for. -/
def decode : List Char → Option Octets
  | [] => some []
  | [a, b, c, d] => decodeLast a b c d
  | a :: b :: c :: d :: rest => do
    let octets ← decodeFour a b c d
    let more ← decode rest
    return octets ++ more
  | _ => none

end Base64

end SimCard
