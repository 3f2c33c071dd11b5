import SimCard.Octets

/-!
# Tags

Every element of a toolkit message starts with a tag that says what it is.  `Tag` lists the kinds of
element that the toolkit knows by a tag of one octet; `Tag.code` is that octet, without the flag
that asks the receiver to understand the element (`requiredFlag`).

Whole messages are wrapped in a template, which has a tag of its own (`Template.Tag`).
-/

set_option autoImplicit false

namespace SimCard

/-- The kinds of element. -/
inductive Tag where
  | commandDetails
  | deviceIdentities
  | result
  | duration
  | alphaIdentifier
  | address
  | textString
  | tone
  | item
  | itemIdentifier
  | responseLength
  | fileList
  | locationInformation
  | equipmentIdentity
  | helpRequest
  | defaultText
  | nextActions
  | eventList
  | cause
  | locationStatus
  | transactionIdentifier
  | iconIdentifier
  | itemIconIdentifiers
  | timerIdentifier
  | timerValue
  | dateTimeZone
  | immediateResponse
  | language
  | url
  | browserTerminationCause
deriving Repr, DecidableEq

namespace Tag

/-- The octet of a tag, without the flag. -/
def code : Tag → UInt8
  | .commandDetails => 0x01
  | .deviceIdentities => 0x02
  | .result => 0x03
  | .duration => 0x04
  | .alphaIdentifier => 0x05
  | .address => 0x06
  | .textString => 0x0D
  | .tone => 0x0E
  | .item => 0x0F
  | .itemIdentifier => 0x10
  | .responseLength => 0x11
  | .fileList => 0x12
  | .locationInformation => 0x13
  | .equipmentIdentity => 0x14
  | .helpRequest => 0x15
  | .defaultText => 0x17
  | .nextActions => 0x18
  | .eventList => 0x19
  | .cause => 0x1A
  | .locationStatus => 0x1B
  | .transactionIdentifier => 0x1C
  | .iconIdentifier => 0x1E
  | .itemIconIdentifiers => 0x1F
  | .timerIdentifier => 0x24
  | .timerValue => 0x25
  | .dateTimeZone => 0x26
  | .immediateResponse => 0x2B
  | .language => 0x2D
  | .url => 0x31
  | .browserTerminationCause => 0x34

/-- All tags. -/
def all : List Tag :=
  [commandDetails, deviceIdentities, result, duration, alphaIdentifier, address, textString, tone,
   item, itemIdentifier, responseLength, fileList, locationInformation, equipmentIdentity,
   helpRequest, defaultText, nextActions, eventList, cause, locationStatus, transactionIdentifier,
   iconIdentifier, itemIconIdentifiers, timerIdentifier, timerValue, dateTimeZone,
   immediateResponse, language, url, browserTerminationCause]

/-- The tag of an octet. -/
def ofCode? (code : UInt8) : Option Tag := all.find? (·.code == code)

/-- The bit of a tag octet that asks the receiver to understand the element. -/
def requiredFlag : UInt8 := 0x80

/-- The octet of a tag with the flag set. -/
def required (tag : Tag) : UInt8 := tag.code ||| requiredFlag

/-- The octet that announces a tag of two more octets. -/
def longMarker : UInt8 := 0x7F

end Tag

/-- The templates that messages are wrapped in. -/
inductive Template.Tag where
  /-- A command of the card. -/
  | proactiveCommand
  /-- The user picked an item of the card's menu. -/
  | menuSelection
  /-- Something the card asked to be told about has happened. -/
  | eventDownload
  /-- A timer of the card has run out. -/
  | timerExpiration
deriving Repr, DecidableEq

/-- The octet of a template. -/
def Template.Tag.code : Template.Tag → UInt8
  | .proactiveCommand => 0xD0
  | .menuSelection => 0xD3
  | .eventDownload => 0xD6
  | .timerExpiration => 0xD7

end SimCard
