import SimCard.Number.Dialling
import SimCard.Text.AlphaIdentifier

/-!
# Directory entries

A record of a directory (the phonebook and its kin) is a name, a number, and two octets that refer
to other files.  The number takes twelve octets and the two references two more; the name has
whatever else the record has.  A record whose name and number are both empty is unused.
-/

set_option autoImplicit false

namespace SimCard

/-- A name and a number. -/
structure DirectoryEntry where
  name : String
  number : String
deriving Repr, DecidableEq, Inhabited

namespace DirectoryEntry

/-- The octets that follow the name. -/
def footerSize : Nat := 14

/-- The entry in the next record of `size` octets, if the record is used. -/
def read (size : Nat) : Reader FieldError (Option DirectoryEntry) := do
  let name ← Text.readAlpha (size - footerSize)
  let number ← Number.readNumberField
  Cursor.skip 2
  let entry : DirectoryEntry := { name, number := number.getD "" }
  return if entry.name.isEmpty && entry.number.isEmpty then none else some entry

/-- A record of `size` octets; what is absent is all filler. -/
def recordOctets (size : Nat) (name number : Option String) : Octets :=
  Text.alphaField (size - footerSize) (name.getD "").toList ++
    Number.numberField (number.getD "").toList ++ [0xFF, 0xFF]

end DirectoryEntry

end SimCard
