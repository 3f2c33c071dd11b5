import SimCard.Card.Files
import SimCard.Card.Service

/-!
# Card sessions

A session keeps what has been read from a card, and the network that the terminal is registered
with.  From these it answers two questions: what the network is called, and which names are to be
shown.

The readers are steps on the session and the card together: they read a file of the card, write what
it says into the session (`CardSession.setInfo`, `CardSession.setRecords`), and, whenever something
changes that the display depends on (the provider, its networks, the home network, the registered
network), have the display decided again.
-/

set_option autoImplicit false

namespace SimCard

/-- What is known of a card. -/
structure CardSession where
  application : Application
  info : CardInfo := {}
  records : CardRecords := {}
  /-- The network that the terminal is registered with. -/
  operator : Option NetworkCode := none
deriving Repr, DecidableEq

namespace CardSession

/-! ## Decisions -/

/-- The home network, once it is known. -/
def home? (session : CardSession) : Option NetworkCode :=
  match session.info.country, session.info.network with
  | some country, some network => some { country, network }
  | _, _ => none

/-- Does the card offer a service? -/
def offers (session : CardSession) (service : Service) : Bool :=
  match session.records.services with
  | some table => service.isOffered session.application table
  | none => false

/-- The names of a network in an area.  Without rules, the first record of names is that of the home
network; with them, the first rule that applies says which record. -/
def networkName? (session : CardSession) (country network : String) (area : UInt16) :
    Option OperatorName := do
  let names ← session.records.names
  match session.records.rules with
  | none =>
    let home ← session.home?
    if home.isNamed country network then names.head? else none
  | some rules =>
    let rule ← rules.find? fun rule => rule.network.isNamed country network && rule.covers area
    if rule.name = 0 then none else names[rule.name.toNat - 1]?

/-- Is the registered network the home network, or one that counts as such for the provider? -/
def isAtHome (session : CardSession) : Bool :=
  match session.operator with
  | none => false
  | some operator =>
    session.home? == some operator || (session.records.providerNetworks.getD []).contains operator

/-- Which names are to be shown: that of the network, and that of the provider. -/
def displayed (session : CardSession) : Bool × Bool :=
  match session.records.provider with
  | none => (true, false)
  | some provider =>
    if session.isAtHome then (provider.condition &&& 0x01 != 0, true)
    else (false, provider.condition &&& 0x02 == 0)

/-- Decide anew which names are to be shown. -/
def decideDisplay (session : CardSession) : CardSession :=
  let (network, provider) := session.displayed
  { session with
    info := { session.info with showsNetwork := some network, showsProvider := some provider } }

/-- Do two sessions show different names? -/
def displayDiffers (before after : CardSession) : Bool :=
  before.info.showsNetwork != after.info.showsNetwork ||
    before.info.showsProvider != after.info.showsProvider

/-- A session whose display has been decided anew, and whether that changed it. -/
def updateDisplay (session : CardSession) : Bool × CardSession :=
  let decided := session.decideDisplay
  (displayDiffers session decided, decided)

/-- The terminal has registered with a network, or with none.  Does the display change? -/
def setOperator (operator : Option NetworkCode) (session : CardSession) : Bool × CardSession :=
  updateDisplay { session with operator }

/-- Forget the card. -/
def reset (session : CardSession) : CardSession := { application := session.application }

/-! ## Reading -/

variable {σ α : Type}

/-- Change what is known of the card. -/
def setInfo (f : CardInfo → CardInfo) : Step (CardSession × σ) CardError Unit :=
  Step.modify fun (session, card) => ({ session with info := f session.info }, card)

/-- Change what is known of the card's files. -/
def setRecords (f : CardRecords → CardRecords) : Step (CardSession × σ) CardError Unit :=
  Step.modify fun (session, card) => ({ session with records := f session.records }, card)

/-- Have the display decided anew. -/
def refreshDisplay : Step (CardSession × σ) CardError Unit :=
  Step.modify fun (session, card) => (session.decideDisplay, card)

variable (access : FileAccess σ)

/-- Read the number of the card. -/
def readIdentity : Step (CardSession × σ) CardError String := do
  let identity ← CardFile.identity access.beside
  setInfo fun info => { info with identity := some identity }
  return identity

/-- Read what the home network is, for a subscriber identity.  If it cannot be made out, what was
known stays. -/
def readHome (subscriber : Option String) :
    Step (CardSession × σ) CardError (Option NetworkCode) := do
  let home ← CardFile.home access.beside subscriber
  match home with
  | none => return none
  | some code =>
    setInfo fun info => { info with country := some code.country }
    setInfo fun info => { info with network := some code.network }
    refreshDisplay
    return some code

/-- Read the service table. -/
def readServices : Step (CardSession × σ) CardError Octets := do
  let table ← CardFile.services access.beside
  setRecords fun records => { records with services := some table }
  return table

/-- Read the subscriber's own number. -/
def readOwnNumber : Step (CardSession × σ) CardError (Option String) := do
  let number ← CardFile.ownNumber access.beside
  setInfo fun info => { info with ownNumber := number }
  return number

/-- Read the service provider. -/
def readProvider : Step (CardSession × σ) CardError Provider := do
  let provider ← CardFile.provider access.beside
  setInfo fun info => { info with provider := some provider.name }
  setRecords fun records => { records with provider := some provider }
  refreshDisplay
  return provider

/-- Read the networks where the provider is at home. -/
def readProviderNetworks : Step (CardSession × σ) CardError (Option (List NetworkCode)) := do
  let networks ← CardFile.providerNetworks access.beside
  setRecords fun records => { records with providerNetworks := networks }
  refreshDisplay
  return networks

/-- Read the names of networks. -/
def readNames : Step (CardSession × σ) CardError (List OperatorName) := do
  let names ← CardFile.names access.beside
  setRecords fun records => { records with names := some names }
  return names

/-- Read the rules that names go by. -/
def readRules : Step (CardSession × σ) CardError (List NameRule) := do
  let rules ← CardFile.rules access.beside
  setRecords fun records => { records with rules := some rules }
  return rules

/-- Read the phonebooks. -/
def readPhonebooks : Step (CardSession × σ) CardError (List Phonebook) := do
  let books ← CardFile.phonebooks access.beside
  setRecords fun records => { records with phonebooks := books }
  return books

/-- Read an address for mail. -/
def readEmail (file : UInt16) (fileType record : UInt8) : Step (CardSession × σ) CardError String :=
  CardFile.email access.beside file fileType record

/-- Read the entries of a directory. -/
def readContacts (file : UInt16) : Step (CardSession × σ) CardError (List Contact) :=
  CardFile.contacts access.beside file

/-- Store a contact. -/
def storeContact (file : UInt16) (contact : Contact) (pin2 : Option String) :
    Step (CardSession × σ) CardError Unit :=
  CardFile.storeContact access.beside file contact pin2

/-- Read something if the card offers the service it belongs to, and go on if it fails. -/
def readOffered (service : Service) (read : Step (CardSession × σ) CardError α) :
    Step (CardSession × σ) CardError Unit := do
  let (session, _) ← Step.get
  if session.offers service then
    read.ignoring

/-- **Read what a terminal needs when it starts.**  Only the service table must be readable, because
it says which of the other files are there. -/
def start (subscriber : Option String) : Step (CardSession × σ) CardError Unit := do
  (readIdentity access).ignoring
  (readHome access subscriber).ignoring
  let _ ← readServices access
  readOffered .ownNumber (readOwnNumber access)
  readOffered .providerName (readProvider access)
  readOffered .providerDisplay (readProviderNetworks access)
  readOffered .networkNames (readNames access)
  readOffered .nameRules (readRules access)

end CardSession

end SimCard
