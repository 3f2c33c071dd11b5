import SimCard.File.Directory

/-!
# Services

A card lists the services it offers in a table of bits, and the application numbers them.  A SIM
spends two bits on a service, one for being there and one for being active, and it is the second
that counts; a USIM spends one.
-/

set_option autoImplicit false

namespace SimCard

/-- The services a terminal may look for. -/
inductive Service where
  | directory
  | fixedDialling
  | networkSelector
  | ownNumber
  | broadcasts
  | providerName
  | serviceDialling
  | broadcastDownload
  | messageDownload
  | broadcastRanges
  | barredDialling
  | simAccess
  | networkNames
  | nameRules
  | providerDisplay
deriving Repr, DecidableEq

namespace Service

/-- The number of a service in the table of a SIM. -/
def simNumber? : Service → Option Nat
  | .directory => some 2
  | .fixedDialling => some 3
  | .networkSelector => some 7
  | .ownNumber => some 9
  | .broadcasts => some 14
  | .providerName => some 17
  | .serviceDialling => some 18
  | .broadcastDownload => some 25
  | .messageDownload => some 26
  | .broadcastRanges => some 30
  | .barredDialling => some 31
  | .networkNames => some 51
  | .nameRules => some 52
  | .providerDisplay => some 56
  | .simAccess => none

/-- The number of a service in the table of a USIM. -/
def usimNumber? : Service → Option Nat
  | .fixedDialling => some 2
  | .serviceDialling => some 4
  | .barredDialling => some 6
  | .broadcasts => some 15
  | .broadcastRanges => some 16
  | .providerName => some 19
  | .ownNumber => some 21
  | .simAccess => some 27
  | .messageDownload => some 28
  | .broadcastDownload => some 29
  | .networkNames => some 45
  | .nameRules => some 46
  | .providerDisplay => some 51
  | .directory | .networkSelector => none

/-- The number of a service, where the application has one for it. -/
def number? (service : Service) : Application → Option Nat
  | .sim => service.simNumber?
  | .usim => service.usimNumber?
  | _ => none

/-- The octet of the table that speaks of a service, and the bit in it. -/
def bit? (service : Service) (application : Application) : Option (Nat × UInt8) :=
  (service.number? application).map fun number =>
    if application = .sim then ((number - 1) / 4, UInt8.ofNat (2 <<< (2 * ((number - 1) % 4))))
    else ((number - 1) / 8, UInt8.ofNat (1 <<< ((number - 1) % 8)))

/-- Does a table offer a service? -/
def isOffered (service : Service) (application : Application) (table : Octets) : Bool :=
  match service.bit? application with
  | none => false
  | some (index, mask) =>
    match table[index]? with
    | none => false
    | some octet => octet &&& mask != 0

end Service

end SimCard
