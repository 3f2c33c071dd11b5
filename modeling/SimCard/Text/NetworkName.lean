import SimCard.Text.Septets
import SimCard.Text.Utf16

/-!
# Network names

The name of a network is an element of its own kind: one octet of coding, then the name in packed
septets or in sixteen-bit units.  The coding octet also counts the bits that are spare in the last
octet, which is how a name whose septets end one short of an octet is told from one with a last `@`.

A coding that is not marked as one, or that names another alphabet, gives no name.
-/

set_option autoImplicit false

namespace SimCard

namespace Text

/-- The name in the octets of a network name. -/
def decodeNetworkName : Octets → Option (List Char)
  | [] => none
  | coding :: body =>
    if coding &&& 0x80 = 0 then none
    else
      match (coding &&& 0x70) >>> 4 with
      | 0 =>
        let septets := (body.length * 8 - (coding &&& 0x07).toNat) / 7
        some (decodeUnits .standard .standard (unpackSeptets septets 0 body))
      | 1 => some (decodeWide body)
      | _ => none

/-- The network name in the next `size` octets. -/
def readNetworkName (size : Nat) : Reader CursorError (Option String) := do
  let octets ← Cursor.readOctets size
  return (decodeNetworkName octets).map String.ofList

end Text

end SimCard
