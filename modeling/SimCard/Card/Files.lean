import SimCard.Card.Info
import SimCard.File.Access
import SimCard.Number.DirectoryEntry
import SimCard.Parcel
import SimCard.Text.NetworkName

/-!
# Reading the card's files

Each file has a reader here: it loads the file through a `FileAccess` and makes out what it holds.
The readers change nothing but the card, and only by asking it.

Files of records are walked from the first record on (`Records.walk`).  What a walk does with a
record is a function from what it has so far; it can end the walk early.  No walk goes past the
highest number a record can have.  How it gets from one record to the next is up to the access, and
a walk that is led around in circles is given up.
-/

set_option autoImplicit false

namespace SimCard

/-- Why a file of the card cannot be read. -/
inductive CardError where
  /-- The file could not be loaded. -/
  | file (error : FileError)
  /-- The octets ran out. -/
  | cursor (error : CursorError)
  /-- A text or number is malformed. -/
  | field (error : FieldError)
  /-- The blocks are malformed. -/
  | element (error : ElementError)
  /-- A phonebook without its main file. -/
  | noEntries
  /-- A contact that says in no way which record is its own. -/
  | noRecord
deriving Repr, DecidableEq

/-- What the error says. -/
def CardError.message : CardError → String
  | .file error => error.message
  | .cursor error => error.message
  | .field error => error.message
  | .element error => error.message
  | .noEntries => "Phonebook reference record without EF_ADN"
  | .noRecord => "Contact has no record id"

instance : MonadLift (Step Cursor FieldError) (Step Cursor CardError) where
  monadLift x := x.mapError .field

instance : MonadLift (Step Cursor ElementError) (Step Cursor CardError) where
  monadLift x := x.mapError .element

/-- Octets that run out in the reader of a file are the file's own trouble, not that of a field or
of a block: this way of lifting goes before the ways through those. -/
instance (priority := 1100) : MonadLift (Step Cursor CursorError) (Step Cursor CardError) where
  monadLift x := x.mapError .cursor

instance {σ : Type} : MonadLift (Step (Loading σ) FileError) (Step (Loading σ) CardError) where
  monadLift x := x.mapError .file

/-- The octets of the framed string that is next. -/
def readFrame : Reader CardError Octets := do
  let size ← readFrameSize
  let octets ← Cursor.readOctets (size / 2)
  readFrameDelimiter
  return octets

/-- Read octets from their beginning. -/
def readFrom {α : Type} (octets : Octets) (x : Reader CardError α) : Except CardError α :=
  (x (Cursor.ofOctets octets)).1

namespace Loading

variable {σ ε α : Type}

/-- Carry out a request from its beginning. -/
def run (request : LoadRequest) (x : Step (Loading σ) ε α) : Step σ ε α := fun card =>
  match x { request, buffer := .empty, card } with
  | (r, s) => (r, s.card)

end Loading

/-! ## Files of records -/

namespace Records

variable {σ α : Type} (access : FileAccess σ)

/-- What a walk does with a record: from what it has so far, the shape of the file, the number of
the record and its octets it makes what it has next, and says whether to go on. -/
abbrev Visit (α : Type) := α → RecordShape → UInt8 → Octets → Except CardError (α × Bool)

/-- The complaint of a walk that is given up. -/
def unending : CardError := .file (.transport "The records do not end")

/-- Go on from a record that is loaded, for at most `fuel` records. -/
def walkFrom (visit : Visit α) : Nat → RecordShape → α → Step (Loading σ) CardError α
  | 0, _, _ => Step.fail unending
  | fuel + 1, shape, acc => do
    let octets ← Loading.onBuffer readFrame
    let s ← Step.get
    match visit acc shape s.request.record octets with
    | .error e => Step.fail e
    | .ok (acc, false) => return acc
    | .ok (acc, true) =>
      if min shape.count greatestRecord ≤ s.request.record.toNat then
        return acc
      else
        let shape ← access.loadNext
        walkFrom visit fuel shape acc

/-- **Walk through the records of a file**, from the first one. -/
def walk (file : UInt16) (visit : Visit α) (init : α) : Step σ CardError α :=
  Loading.run { file } do
    let shape ← access.loadRecord
    walkFrom access visit (greatestRecord + access.repeats) shape init

/-- One record of a file, and the shape of the file. -/
def load (file : UInt16) (record : UInt8) : Step σ CardError (RecordShape × Octets) :=
  Loading.run { file, record } do
    let shape ← access.loadRecord
    let octets ← Loading.onBuffer readFrame
    return (shape, octets)

end Records

/-- A whole file. -/
def loadWhole {σ : Type} (access : FileAccess σ) (file : UInt16) : Step σ CardError Octets :=
  Loading.run { file } do
    access.loadFile
    Loading.onBuffer readFrame

/-! ## What the files hold -/

namespace OperatorName

/-- The tag of a full name. -/
def fullTag : UInt8 := 0x43

/-- The tag of a short name. -/
def shortTag : UInt8 := 0x45

/-- Names with the field that a tag announces; a field with another tag is passed over. -/
def readField (names : OperatorName) (tag : UInt8) : Reader CardError OperatorName := do
  let length ← Cursor.readOctet
  if tag = fullTag then
    let name ← Text.readNetworkName length.toNat
    return { names with full := name }
  else if tag = shortTag then
    let name ← Text.readNetworkName length.toNat
    return { names with short := name }
  else
    Cursor.skip length.toNat
    return names

/-- The names in a record, after those that were found already.  A record ends with its octets or
with a tag of `0xFF`, and one that ends at once is unused. -/
def readFields : Nat → Option OperatorName → Reader CardError (Option OperatorName)
  | 0, found => pure found
  | fuel + 1, found => do
    let c ← Step.get
    if c.remaining = 0 then
      return found
    let tag ← Cursor.readOctet
    if tag = 0xFF then
      return found
    let names ← readField (found.getD {}) tag
    readFields fuel (some names)

/-- The names in a record, if it is used.  Each field takes at least two octets. -/
def ofRecord (octets : Octets) : Except CardError (Option OperatorName) :=
  readFrom octets (readFields (octets.length + 1) none)

end OperatorName

namespace NameRule

/-- The rule in a record, if it is used. -/
def ofRecord (octets : Octets) : Except CardError (Option NameRule) :=
  readFrom octets do
    match ← NetworkCode.read with
    | none => return none
    | some network =>
      let firstArea ← Cursor.readWord16
      let lastArea ← Cursor.readWord16
      let name ← Cursor.readOctet
      return some { network, firstArea, lastArea, name }

end NameRule

namespace Container

/-- The containers of a record, which ends with its octets or with a tag of `0xFF`. -/
def readAll : Nat → Reader CardError (List Container)
  | 0 => pure []
  | fuel + 1 => do
    let c ← Step.get
    if c.remaining = 0 then
      return []
    let tag ← Cursor.readOctet
    if tag = 0xFF then
      return []
    let length ← Cursor.readOctet
    let blocks ← Block.readList length.toNat
    let rest ← readAll fuel
    return { tag, length := length.toNat, blocks } :: rest

end Container

namespace Phonebook

/-- The phonebook in a reference record, if the record is used; it must name the main file. -/
def ofRecord (octets : Octets) : Except CardError (Option Phonebook) := do
  match ← readFrom octets (Container.readAll (octets.length + 1)) with
  | [] => return none
  | containers =>
    let book := ofContainers containers
    if book.entries.isSome then
      return some book
    else
      throw .noEntries

end Phonebook

namespace Provider

/-- The service provider in its file: the condition, then the name. -/
def ofFile (octets : Octets) : Except CardError Provider :=
  readFrom octets do
    let condition ← Cursor.readOctet
    let c ← Step.get
    let name ← Text.readAlpha c.remaining
    return { condition, name }

/-- The tag that announces the networks of the provider. -/
def displayTag : UInt8 := 0xA3

/-- The tag of the networks themselves. -/
def networksTag : UInt8 := 0x80

/-- The next `count` network codes; unused ones are passed over. -/
def readNetworks : Nat → Reader CursorError (List NetworkCode)
  | 0 => pure []
  | count + 1 => do
    let code ← NetworkCode.read
    let rest ← readNetworks count
    return code.toList ++ rest

/-- The networks where the provider is at home.  The list stands behind any number of announcing
tags; anything else in its place means that there is no list. -/
def readDisplay : Nat → Reader CardError (Option (List NetworkCode))
  | 0 => pure none
  | fuel + 1 => do
    let c ← Step.get
    if c.remaining < 2 then
      return none
    let tag ← Cursor.readOctet
    let length ← Cursor.readOctet
    if tag = displayTag then
      readDisplay fuel
    else if tag = networksTag then
      let networks ← readNetworks (length.toNat / 3)
      return some networks
    else
      return none

/-- The networks where the provider is at home, in their file. -/
def networksOfFile (octets : Octets) : Except CardError (Option (List NetworkCode)) :=
  readFrom octets (readDisplay (octets.length + 1))

end Provider

/-- Split a text after exactly `count` octets of its UTF-8 form, if a character ends there. -/
def splitUtf8 : Nat → List Char → Option (List Char × List Char)
  | 0, text => some ([], text)
  | _ + 1, [] => none
  | count + 1, c :: rest =>
    if c.utf8Size ≤ count + 1 then
      (splitUtf8 (count + 1 - c.utf8Size) rest).map fun (front, back) => (c :: front, back)
    else
      none

/-- The home network of a subscriber identity whose network code has `digits` digits: three for the
country, then those of the network. -/
def homeNetwork? (identity : String) (digits : Nat) : Option NetworkCode := do
  let (country, rest) ← splitUtf8 3 identity.toList
  let (network, _) ← splitUtf8 digits rest
  if digits = 0 then
    none
  else
    some { country := String.ofList country, network := String.ofList network }

/-- The contact of an entry in a record. -/
def Contact.ofEntry (record : UInt8) (entry : DirectoryEntry) : Contact :=
  { record := some record, name := entry.name, number := entry.number }

/-- How many digits the home network's code has, by the administrative data. -/
def networkDigits (data : Octets) : Nat :=
  match data[3]? with
  | some octet => (octet &&& 0x0F).toNat
  | none => 0

/-! ## The readers -/

namespace CardFile

variable {σ : Type} (access : FileAccess σ)

/-- The number of the card. -/
def identity : Step σ CardError String := do
  let octets ← loadWhole access FileId.cardIdentity
  return String.ofList (Number.decodeDigits octets)

/-- The home network of a subscriber identity, if both are known. -/
def home (subscriber : Option String) : Step σ CardError (Option NetworkCode) := do
  let octets ← loadWhole access FileId.administrativeData
  return subscriber.bind fun identity => homeNetwork? identity (networkDigits octets)

/-- The service table. -/
def services : Step σ CardError Octets := loadWhole access FileId.serviceTable

/-- The subscriber's own number, in the first record of its file. -/
def ownNumber : Step σ CardError (Option String) := do
  let (shape, octets) ← Records.load access FileId.ownNumber 1
  let entry ← Step.ofExcept (readFrom octets (liftM (DirectoryEntry.read shape.size)))
  return (entry.map (·.number)).filter fun number => !number.isEmpty

/-- The service provider. -/
def provider : Step σ CardError Provider := do
  let octets ← loadWhole access FileId.providerName
  Step.ofExcept (Provider.ofFile octets)

/-- The networks where the provider is at home. -/
def providerNetworks : Step σ CardError (Option (List NetworkCode)) := do
  let octets ← loadWhole access FileId.providerDisplay
  Step.ofExcept (Provider.networksOfFile octets)

/-- The names of networks, up to the first record that is not used. -/
def names : Step σ CardError (List OperatorName) :=
  Records.walk access FileId.networkNames (fun found _ _ octets => do
    match ← OperatorName.ofRecord octets with
    | some name => return (found ++ [name], true)
    | none => return (found, false)) []

/-- The rules that names go by. -/
def rules : Step σ CardError (List NameRule) :=
  Records.walk access FileId.nameRules (fun found _ _ octets => do
    let rule ← NameRule.ofRecord octets
    return (found ++ rule.toList, true)) []

/-- The phonebooks. -/
def phonebooks : Step σ CardError (List Phonebook) :=
  Records.walk access FileId.phonebookReference (fun found _ _ octets => do
    let book ← Phonebook.ofRecord octets
    return (found ++ book.toList, true)) []

/-- An address for mail.  In a file that is reached through index records the last two octets of a
record refer back to the entry. -/
def email (file : UInt16) (fileType record : UInt8) : Step σ CardError String := do
  let (_, octets) ← Records.load access file record
  let size := if fileType = PhonebookFile.type1 then octets.length else octets.length - 2
  return String.ofList (Text.decodeEightBit (octets.take size))

/-- The used entries of a directory. -/
def contacts (file : UInt16) : Step σ CardError (List Contact) :=
  Records.walk access file (fun found shape record octets => do
    let entry ← readFrom octets (liftM (DirectoryEntry.read shape.size))
    return (found ++ (entry.map (Contact.ofEntry record)).toList, true)) []

/-- Store a contact in its record. -/
def storeContact (file : UInt16) (contact : Contact) (pin2 : Option String) :
    Step σ CardError Unit :=
  match contact.record with
  | none => Step.fail .noRecord
  | some record =>
    Loading.run { file, record, pin2 } do
      let _ ← access.updateRecord fun size =>
        DirectoryEntry.recordOctets size (some contact.name) (some contact.number)

end CardFile

end SimCard
