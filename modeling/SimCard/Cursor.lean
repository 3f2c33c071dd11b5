import SimCard.Octets
import SimCard.Step

/-!
# The octet cursor

A `Cursor` holds octets together with two places in them: where the next octet is read and where the
next one is written.  The two move on their own, so a record can be written and then read back from
the same cursor.

* Reading never goes past the octets held.  A read that would is refused with
  `CursorError.overrun`, and `Cursor.seek` refuses to leave the octets in either direction.
* Writing goes over what is held at the write place, and past the end it adds to it.

Reading is a `Reader`: a step on the cursor that fails without forgetting how far it came.
-/

set_option autoImplicit false

namespace SimCard

/-- Octets with a place to read and a place to write. -/
structure Cursor where
  octets : Octets
  readIndex : Nat
  writeIndex : Nat
deriving Repr, DecidableEq

/-- Why a cursor refuses to move. -/
inductive CursorError where
  /-- A read of `wanted` octets at `index` would go past the `length` octets held. -/
  | overrun (index wanted length : Nat)
  /-- A move by `delta` from `index` would leave the `length` octets held. -/
  | invalidSeek (index : Nat) (delta : Int) (length : Nat)
deriving Repr, DecidableEq

/-- What the error says. -/
def CursorError.message : CursorError → String
  | .overrun index wanted length =>
    s!"Read of {wanted} octet(s) at index {index} overruns buffer of {length} octets"
  | .invalidSeek index delta length =>
    s!"Seek by {delta} from index {index} leaves buffer of {length} octets"

/-- **A reader** takes octets off a cursor. -/
abbrev Reader (ε α : Type) : Type := Step Cursor ε α

namespace Cursor

/-- A cursor that holds nothing. -/
def empty : Cursor := ⟨[], 0, 0⟩

/-- A cursor over octets that are ready to be read; what is written goes after them. -/
def ofOctets (octets : Octets) : Cursor := ⟨octets, 0, octets.length⟩

/-- The octets that have not been read. -/
def rest (c : Cursor) : Octets := c.octets.drop c.readIndex

/-- How many octets have not been read. -/
def remaining (c : Cursor) : Nat := c.octets.length - c.readIndex

/-- Does the cursor hold nothing at all? -/
def isEmpty (c : Cursor) : Bool := c.octets.isEmpty

/-! ## Reading -/

/-- The next `count` octets. -/
def readOctets (count : Nat) : Reader CursorError Octets := fun c =>
  if c.readIndex + count ≤ c.octets.length then
    (.ok (c.rest.take count), { c with readIndex := c.readIndex + count })
  else
    (.error (.overrun c.readIndex count c.octets.length), c)

/-- The next octet, left where it is. -/
def peekOctet : Reader CursorError UInt8 := fun c =>
  match c.octets[c.readIndex]? with
  | some octet => (.ok octet, c)
  | none => (.error (.overrun c.readIndex 1 c.octets.length), c)

/-- The next octet. -/
def readOctet : Reader CursorError UInt8 := fun c =>
  match c.octets[c.readIndex]? with
  | some octet => (.ok octet, { c with readIndex := c.readIndex + 1 })
  | none => (.error (.overrun c.readIndex 1 c.octets.length), c)

/-- A word of two octets, the most significant one first, as card records hold it.  The two octets
are read one after the other. -/
def readWord16 : Reader CursorError UInt16 := do
  let high ← readOctet
  let low ← readOctet
  return word16 high low

/-- A word of four octets, the least significant one first, as parcels hold it. -/
def readWord32 : Reader CursorError UInt32 := do
  match ← readOctets 4 with
  | [a, b, c, d] => return word32 a b c d
  | _ => return 0

/-- Move the place to read, forward or backward, within the octets held. -/
def seek (delta : Int) : Reader CursorError Unit := fun c =>
  let target := (c.readIndex : Int) + delta
  if 0 ≤ target ∧ target.toNat ≤ c.octets.length then
    (.ok (), { c with readIndex := target.toNat })
  else
    (.error (.invalidSeek c.readIndex delta c.octets.length), c)

/-- Pass over `count` octets.  A count is a word of 64 bits, and the move it makes is that word
taken as a signed one. -/
def skip (count : Nat) : Reader CursorError Unit := seek (Int.bmod count UInt64.size)

/-! ## Writing -/

/-- Write octets at the place to write: over what is there, and past the end added to it. -/
def write (octets : Octets) (c : Cursor) : Cursor :=
  { c with
    octets := c.octets.take c.writeIndex ++ octets ++ c.octets.drop (c.writeIndex + octets.length)
    writeIndex := c.writeIndex + octets.length }

end Cursor

end SimCard
