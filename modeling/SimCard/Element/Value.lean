import SimCard.Element.Tag
import SimCard.Number.Timestamp
import SimCard.Text.AlphaIdentifier
import SimCard.Text.Septets

/-!
# Values of elements

The tag of an element says how its octets are to be taken.  `Value` has one constructor for each
way, `Value.interpret` finds it, and `Value.toOctets` writes a value back.

Interpreting never fails.  Octets that are too few or malformed for their tag, and those of a tag
with no interpretation, are kept as they are (`Value.raw`), so that the rest of the message can
still be read.  Octets beyond what a value needs are ignored.
-/

set_option autoImplicit false

namespace SimCard

/-! ## What values hold -/

/-- Which command this is, or which one is being answered. -/
structure CommandDetails where
  number : UInt8
  commandType : UInt8
  qualifier : UInt8
deriving Repr, DecidableEq, Inhabited

/-- Who sends a message and whom to. -/
structure DeviceIdentities where
  source : UInt8
  destination : UInt8
deriving Repr, DecidableEq, Inhabited

/-- How a command went. -/
structure CommandResult where
  general : UInt8
  additional : Octets
deriving Repr, DecidableEq, Inhabited

/-- A length of time. -/
structure Duration where
  unit : UInt8
  interval : UInt8
deriving Repr, DecidableEq, Inhabited

/-- A dialling number with its type; the number starts with `+` when the type is international. -/
structure Address where
  numberType : UInt8
  number : String
deriving Repr, DecidableEq, Inhabited

/-- A text and the coding it travels in. -/
structure CodedText where
  coding : UInt8
  text : String
deriving Repr, DecidableEq, Inhabited

/-- An item of a menu. -/
structure MenuItem where
  identifier : UInt8
  text : String
deriving Repr, DecidableEq, Inhabited

/-- How long an answer of the user may be. -/
structure ResponseLength where
  least : UInt8
  greatest : UInt8
deriving Repr, DecidableEq, Inhabited

/-- Files by their paths, one after the other. -/
structure FileList where
  count : UInt8
  paths : Octets
deriving Repr, DecidableEq, Inhabited

/-- The paths as digits. -/
def FileList.text (files : FileList) : String := hexText files.paths

/-- An icon that stands for a text or beside it. -/
structure Icon where
  qualifier : UInt8
  identifier : UInt8
deriving Repr, DecidableEq, Inhabited

/-- The icons of the items of a menu. -/
structure IconList where
  qualifier : UInt8
  identifiers : Octets
deriving Repr, DecidableEq, Inhabited

/-- The value of an element. -/
inductive Value where
  | commandDetails (details : CommandDetails)
  | deviceIdentities (devices : DeviceIdentities)
  | result (outcome : CommandResult)
  | duration (span : Duration)
  | alphaIdentifier (text : String)
  | address (party : Address)
  /-- A text, or a default for one; no text at all when the value has no octets. -/
  | textString (text : Option CodedText)
  | tone (kind : UInt8)
  /-- An item; the item without octets takes an existing menu away. -/
  | item (entry : Option MenuItem)
  | itemIdentifier (identifier : UInt8)
  | responseLength (bounds : ResponseLength)
  | fileList (files : FileList)
  | locationStatus (status : UInt8)
  | helpRequest
  | nextActions (actions : Octets)
  /-- The events to report; a list without octets takes an earlier one back. -/
  | eventList (events : Option Octets)
  | iconIdentifier (icon : Icon)
  | itemIconIdentifiers (icons : IconList)
  | timerIdentifier (timer : UInt8)
  /-- A time in seconds. -/
  | timerValue (seconds : Nat)
  | dateTimeZone (date : Timestamp)
  | immediateResponse
  | language (code : String)
  /-- An address to browse; the empty one stands for the default. -/
  | url (location : String)
  /-- Octets without an interpretation. -/
  | raw (octets : Octets)
deriving Repr, DecidableEq

/-! ## The alphabets of texts -/

/-- The alphabets a text can be coded in. -/
inductive TextCoding where
  | packed
  | eightBit
  | wide
deriving Repr, DecidableEq

namespace TextCoding

/-- The octet that selects an alphabet. -/
def code : TextCoding → UInt8
  | .packed => 0x00
  | .eightBit => 0x04
  | .wide => 0x08

/-- The alphabet a coding octet selects with its two bits. -/
def ofCode? (coding : UInt8) : Option TextCoding :=
  [packed, eightBit, wide].find? (·.code == coding &&& 0x0C)

/-- The text that octets stand for.  In the packed alphabet every septet that the octets can hold
counts. -/
def decode : TextCoding → Octets → List Char
  | .packed, octets =>
    Text.decodeUnits .standard .standard (Text.unpackSeptets (octets.length * 8 / 7) 0 octets)
  | .eightBit, octets => Text.decodeEightBit octets
  | .wide, octets => Text.decodeWide octets

/-- A text in an alphabet, with the tables of a language where they matter. -/
def encode (lang shift : Language) : TextCoding → String → Octets
  | .packed, text => Text.packText lang shift 0 text
  | .eightBit, text => Text.eightBitField (Text.eightBitLength text) text.toList
  | .wide, text => Text.wideOctets text.toList

end TextCoding

namespace Value

/-! ## Reading -/

/-- The seconds that three octets of hours, minutes and seconds stand for. -/
def secondsOf (hours minutes seconds : UInt8) : Nat :=
  Timestamp.octetField hours * 3600 + Timestamp.octetField minutes * 60 +
    Timestamp.octetField seconds

/-- The value that the octets of a tag stand for, if they are what the tag calls for. -/
def ofOctets? : Tag → Octets → Option Value
  | .commandDetails, number :: commandType :: qualifier :: _ =>
    some (.commandDetails { number, commandType, qualifier })
  | .deviceIdentities, source :: destination :: _ =>
    some (.deviceIdentities { source, destination })
  | .result, general :: additional => some (.result { general, additional })
  | .duration, unit :: interval :: _ => some (.duration { unit, interval })
  | .alphaIdentifier, octets => some (.alphaIdentifier (String.ofList (Text.decodeAlpha octets)))
  | .address, type :: digits =>
    some (.address
      { numberType := type, number := String.ofList (Number.decodeDialling (type :: digits)) })
  | .textString, octets => codedText octets
  | .defaultText, octets => codedText octets
  | .tone, octet :: _ => some (.tone octet)
  | .item, [] => some (.item none)
  | .item, identifier :: text =>
    some (.item (some { identifier, text := String.ofList (Text.decodeAlpha text) }))
  | .itemIdentifier, identifier :: _ => some (.itemIdentifier identifier)
  | .responseLength, least :: greatest :: _ => some (.responseLength { least, greatest })
  | .fileList, count :: paths => some (.fileList { count, paths })
  | .locationStatus, status :: _ => some (.locationStatus status)
  | .helpRequest, _ => some .helpRequest
  | .nextActions, actions => some (.nextActions actions)
  | .eventList, [] => some (.eventList none)
  | .eventList, events => some (.eventList (some events))
  | .iconIdentifier, qualifier :: identifier :: _ =>
    some (.iconIdentifier { qualifier, identifier })
  | .itemIconIdentifiers, qualifier :: identifiers =>
    some (.itemIconIdentifiers { qualifier, identifiers })
  | .timerIdentifier, timer :: _ => some (.timerIdentifier timer)
  | .timerValue, hours :: minutes :: seconds :: _ =>
    some (.timerValue (secondsOf hours minutes seconds))
  | .dateTimeZone, octets => (Timestamp.ofOctets? octets).map .dateTimeZone
  | .immediateResponse, _ => some .immediateResponse
  | .language, octets => some (.language (String.ofList (Text.decodeEightBit octets)))
  | .url, octets => some (.url (String.ofList (Text.decodeEightBit octets)))
  | _, _ => none
where
  /-- A text and its coding. -/
  codedText : Octets → Option Value
    | [] => some (.textString none)
    | coding :: body =>
      (TextCoding.ofCode? coding).map fun alphabet =>
        .textString (some { coding, text := String.ofList (alphabet.decode body) })

/-- **The value of an element** with a tag of one octet. -/
def interpret (tag : UInt8) (octets : Octets) : Value :=
  ((Tag.ofCode? tag).bind fun known => ofOctets? known octets).getD (.raw octets)

/-! ## Writing -/

/-- The octets of an alpha identifier that has all the room it needs. -/
def alphaOctets (text : String) : Octets :=
  let size :=
    if Text.isStandardAlphabet text.toList then Text.eightBitLength text
    else 1 + (Text.wideOctets text.toList).length
  Text.alphaField size text.toList

/-- The octets of a text in the alphabet its coding selects; a coding that selects none is taken for
eight-bit units. -/
def codedTextOctets (coding : UInt8) (text : String) : Octets :=
  ((TextCoding.ofCode? coding).getD .eightBit).encode .standard .standard text

/-- Hours, minutes and seconds; beyond ninety-nine hours the hours stay there. -/
def timerOctets (seconds : Nat) : Octets :=
  [Timestamp.fieldOctet (min (seconds / 3600) 99), Timestamp.fieldOctet (seconds % 3600 / 60),
   Timestamp.fieldOctet (seconds % 60)]

/-- The octets of a value, without tag and length. -/
def toOctets : Value → Octets
  | .commandDetails details => [details.number, details.commandType, details.qualifier]
  | .deviceIdentities devices => [devices.source, devices.destination]
  | .result outcome => outcome.general :: outcome.additional
  | .duration span => [span.unit, span.interval]
  | .alphaIdentifier text => alphaOctets text
  | .address party =>
    party.numberType :: Number.digitOctets (party.number.toList.dropWhile (· == '+'))
  | .textString none => []
  | .textString (some text) => text.coding :: codedTextOctets text.coding text.text
  | .tone octet | .itemIdentifier octet | .locationStatus octet | .timerIdentifier octet => [octet]
  | .item none => []
  | .item (some entry) => entry.identifier :: alphaOctets entry.text
  | .responseLength bounds => [bounds.least, bounds.greatest]
  | .fileList files => files.count :: files.paths
  | .helpRequest | .immediateResponse | .eventList none => []
  | .nextActions octets | .eventList (some octets) | .raw octets => octets
  | .iconIdentifier icon => [icon.qualifier, icon.identifier]
  | .itemIconIdentifiers icons => icons.qualifier :: icons.identifiers
  | .timerValue seconds => timerOctets seconds
  | .dateTimeZone date => date.toOctets
  | .language text | .url text => Text.eightBitField (Text.eightBitLength text) text.toList

end Value

end SimCard
