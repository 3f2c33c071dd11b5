import SimCard.Card.Phonebook
import SimCard.Number.NetworkCode

/-!
# What a card tells

`CardInfo` is the summary that the rest of a terminal looks at, and `CardRecords` are the records
that decisions about network names are made from.  Nothing is there until the file that says it has
been read.
-/

set_option autoImplicit false

namespace SimCard

/-- What a card says about the subscription. -/
structure CardInfo where
  /-- The number of the card itself. -/
  identity : Option String := none
  /-- The country of the home network. -/
  country : Option String := none
  /-- The home network within its country. -/
  network : Option String := none
  /-- The name of the service provider. -/
  provider : Option String := none
  /-- The subscriber's own number. -/
  ownNumber : Option String := none
  /-- Is the name of the network to be shown? -/
  showsNetwork : Option Bool := none
  /-- Is the name of the service provider to be shown? -/
  showsProvider : Option Bool := none
deriving Repr, DecidableEq, Inhabited

/-- The names of a network. -/
structure OperatorName where
  full : Option String := none
  short : Option String := none
deriving Repr, DecidableEq, Inhabited

/-- Which name a network has in which areas. -/
structure NameRule where
  network : NetworkCode
  firstArea : UInt16
  lastArea : UInt16
  /-- The record of the name, counted from one; zero says that the name is elsewhere. -/
  name : UInt8
deriving Repr, DecidableEq

/-- Does a rule hold in an area?  The range from zero to `0xFFFE` stands for every area there is. -/
def NameRule.covers (rule : NameRule) (area : UInt16) : Bool :=
  (rule.firstArea == 0 && rule.lastArea == 0xFFFE) ||
    (rule.firstArea ≤ area && area ≤ rule.lastArea)

/-- The service provider, and when to show its name. -/
structure Provider where
  /-- Bit 0: show the network beside the provider at home.  Bit 1: hide the provider abroad. -/
  condition : UInt8
  name : String
deriving Repr, DecidableEq

/-- The records that decisions are made from. -/
structure CardRecords where
  names : Option (List OperatorName) := none
  rules : Option (List NameRule) := none
  provider : Option Provider := none
  /-- Networks that count as home where the name of the provider is concerned. -/
  providerNetworks : Option (List NetworkCode) := none
  /-- The service table. -/
  services : Option Octets := none
  phonebooks : List Phonebook := []
deriving Repr, DecidableEq, Inhabited

/-- An entry of a directory on the card. -/
structure Contact where
  /-- The record of the entry; an entry that is not stored yet has none. -/
  record : Option UInt8
  name : String
  number : String
deriving Repr, DecidableEq

end SimCard
