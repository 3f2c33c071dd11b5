import SimCard.Text.Alphabet

/-!
# Settings

What the terminal decides for itself: the tables for packed text, the profile it shows to a card,
and whether it logs what it sends.
-/

set_option autoImplicit false

namespace SimCard

/-- The profile a terminal shows when nothing else is set: an octet for each group of facilities. -/
def standardProfile : Octets := [0x29, 0x61, 0xFF, 0x7F, 0x7F, 0x03, 0x00, 0x57, 0x6A]

/-- The settings of a terminal. -/
structure Settings where
  /-- The locking table of packed text in answers. -/
  language : Language := .standard
  /-- The single shift table of the same. -/
  shift : Language := .standard
  /-- What the terminal can do. -/
  profile : Octets := standardProfile
  /-- Is every parcel to be logged? -/
  debug : Bool := false
deriving Repr, DecidableEq, Inhabited

end SimCard
