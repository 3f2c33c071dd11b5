import SimCard.Cursor

/-!
# Parcels

A parcel is what is handed to the modem: a request type, a token that tells the answers apart, and a
payload.  On the wire the payload travels as a *framed string*: its size counted in hexadecimal
digits, two to an octet, the octets themselves, and a delimiter of two octets.  Files loaded from
the card arrive in the same frame.

`Parcel.toOctets` writes a parcel and `Parcel.read` takes the next one off a cursor.
-/

set_option autoImplicit false

namespace SimCard

/-! ## Framed strings -/

/-- The size of a framed string of `count` octets, in hexadecimal digits. -/
def frameSize (count : Nat) : UInt32 := UInt32.ofNat (count * 2)

/-- Two zero octets end every framed string. -/
def frameDelimiter : Octets := [0, 0]

/-- Octets framed as a string. -/
def framed (octets : Octets) : Octets :=
  word32Octets (frameSize octets.length) ++ octets ++ frameDelimiter

/-- The size of the framed string that starts here, in hexadecimal digits. -/
def readFrameSize : Reader CursorError Nat := do
  let size ← Cursor.readWord32
  return size.toNat

/-- The delimiter after a framed string.  What its two octets are does not matter: reading goes on
even when they are not zero. -/
def readFrameDelimiter : Reader CursorError Unit := do
  let _ ← Cursor.readOctets 2

/-! ## Parcels -/

/-- A request on its way to the modem. -/
structure Parcel where
  requestType : UInt32
  token : UInt32
  payload : Octets
deriving Repr, DecidableEq

namespace Parcel

/-- The request types the library sends. -/
inductive Request where
  /-- Carry out one file command on the card. -/
  | fileCommand
  /-- Tell the card what the terminal can do. -/
  | setProfile
  /-- Report an event to the card. -/
  | sendEnvelope
  /-- Answer a command of the card. -/
  | sendTerminalResponse
deriving Repr, DecidableEq

/-- The number that stands for a request type. -/
def Request.code : Request → UInt32
  | .fileCommand => 28
  | .setProfile => 68
  | .sendEnvelope => 69
  | .sendTerminalResponse => 70

/-- The size field of the payload. -/
def payloadLength (parcel : Parcel) : UInt32 := frameSize parcel.payload.length

/-- A parcel on the wire: type, token, framed payload. -/
def toOctets (parcel : Parcel) : Octets :=
  word32Octets parcel.requestType ++ word32Octets parcel.token ++ framed parcel.payload

/-- The next parcel on the wire. -/
def read : Reader CursorError Parcel := do
  let requestType ← Cursor.readWord32
  let token ← Cursor.readWord32
  let size ← readFrameSize
  let payload ← Cursor.readOctets (size / 2)
  readFrameDelimiter
  return { requestType, token, payload }

end Parcel

end SimCard
