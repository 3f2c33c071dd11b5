import SimCard.Element.Basic
import SimCard.Number.NetworkCode

/-!
# Answers and reports

What the terminal tells the card is again a list of elements: a *terminal response* answers a
command, an *envelope* reports something that happened.  Both are given here as a list of fields,
each a tag octet and the octets of a value, in the order in which they are sent (`Response.fields`,
`Envelope.fields`); a field is there exactly when what it reports is.

A response has the flag set on the fields that the card must understand: its details, the result,
the item picked and the text.  The device identities, which are always the same, go without it.
-/

set_option autoImplicit false

namespace SimCard

/-- The devices that messages come from or go to. -/
inductive Device where
  | keypad
  | display
  | card
  | terminal
  | network
deriving Repr, DecidableEq

/-- The octet of a device. -/
def Device.code : Device → UInt8
  | .keypad => 0x01
  | .display => 0x02
  | .card => 0x81
  | .terminal => 0x82
  | .network => 0x83

/-- A tag octet, flag included, and the octets of a value. -/
abbrev Field := UInt8 × Octets

/-- Fields one after the other. -/
def fieldsOctets (fields : List Field) : Octets :=
  fields.flatMap fun entry => Element.field entry.1 entry.2

/-! ## Fields that several messages share -/

/-- Where the terminal is. -/
structure Location where
  network : NetworkCode
  area : UInt16
  /-- The cell; one above `0xFFFF` takes four octets. -/
  cell : UInt32
deriving Repr, DecidableEq

namespace Field

/-- A location. -/
def location (place : Location) : Field :=
  (Tag.locationInformation.required,
    place.network.toOctets ++ word16Octets place.area ++
      (if 0xFFFF < place.cell then word16Octets (place.cell >>> 16).toUInt16 else []) ++
      word16Octets place.cell.toUInt16)

/-- The cause of a disconnection, after the octet that names the standard it is coded in. -/
def cause (cause : UInt8) : Field := (Tag.cause.required, [0x60, 0x80 ||| cause])

/-- The value of a timer, in seconds. -/
def timerValue (required : Bool) (seconds : Nat) : Field :=
  (if required then Tag.timerValue.required else Tag.timerValue.code, Value.timerOctets seconds)

/-- A date. -/
def date (date : Timestamp) : Field := (Tag.dateTimeZone.code, date.toOctets)

/-- A language, by its code of two letters. -/
def language (code : String) : Field := (Tag.language.code, Text.eightBitField 2 code.toList)

/-- The identity of the terminal: fifteen digits, the first one beside the mark of an identity with
an odd number of digits. -/
def equipmentIdentity (identity : String) : Field :=
  let digits := identity.toList.filterMap NetworkCode.decimalValue?
  let fifteen := digits.take 15 ++ List.replicate (15 - digits.length) 0
  (Tag.equipmentIdentity.code, Number.joinAll (0x0A :: fifteen))

/-- The octets of one field. -/
def toOctets (entry : Field) : Octets := Element.field entry.1 entry.2

end Field

/-! ## Terminal responses -/

/-- What the card may have asked about the terminal. -/
structure LocalInformation where
  location : Option Location := none
  identity : Option String := none
  date : Option Timestamp := none
  language : Option String := none
deriving Repr, DecidableEq

/-- The state of a timer. -/
structure TimerState where
  timer : UInt8
  /-- Seconds. -/
  value : Option Nat
deriving Repr, DecidableEq

/-- The result that asks for help: it goes without the text of the user. -/
def helpRequired : UInt8 := 0x13

/-- The result of a command that could not be made out. -/
def dataNotUnderstood : UInt8 := 0x32

/-- The result of a command without something it requires. -/
def requiredValuesMissing : UInt8 := 0x36

/-- An answer to a command. -/
structure Response where
  command : CommandDetails
  result : UInt8
  additional : Option UInt8 := none
  item : Option UInt8 := none
  /-- What the user typed. -/
  input : Option String := none
  /-- What the user said to a question of yes or no. -/
  isYes : Option Bool := none
  isWide : Bool := false
  isPacked : Bool := false
  information : Option LocalInformation := none
  timer : Option TimerState := none
deriving Repr, DecidableEq

namespace Response

/-- The alphabet of what the user typed. -/
def coding (response : Response) : TextCoding :=
  if response.isWide then .wide else if response.isPacked then .packed else .eightBit

/-- The text field: the answer of yes or no if there is one, and else what the user typed, unless
that is nothing. -/
def textFields (response : Response) (lang shift : Language) : List Field :=
  if response.result = helpRequired then []
  else
    match response.isYes with
    | some yes => [(Tag.textString.required, [TextCoding.eightBit.code, if yes then 1 else 0])]
    | none =>
      let input := response.input.getD ""
      if input.isEmpty then []
      else [(Tag.textString.required,
        response.coding.code :: response.coding.encode lang shift input)]

/-- The fields about the terminal. -/
def informationFields (information : LocalInformation) : List Field :=
  (information.location.map Field.location).toList ++
    (information.identity.map Field.equipmentIdentity).toList ++
    (information.date.map Field.date).toList ++ (information.language.map Field.language).toList

/-- The fields about a timer; timer zero is no timer. -/
def timerFields (state : TimerState) : List Field :=
  (if state.timer = 0 then [] else [(Tag.timerIdentifier.code, [state.timer])]) ++
    (state.value.map (Field.timerValue false)).toList

/-- The fields of a response, in order. -/
def fields (response : Response) (lang shift : Language) : List Field :=
  [(Tag.commandDetails.required, (Value.commandDetails response.command).toOctets),
   (Tag.deviceIdentities.code, [Device.terminal.code, Device.card.code]),
   (Tag.result.required, response.result :: response.additional.toList)] ++
    (response.item.map fun item => (Tag.itemIdentifier.required, [item])).toList ++
    response.textFields lang shift ++
    (response.information.map informationFields).getD [] ++
    (response.timer.map timerFields).getD []

/-- The octets of a response; packed text uses the tables given. -/
def toOctets (response : Response) (lang shift : Language) : Octets :=
  fieldsOctets (response.fields lang shift)

end Response

/-! ## Envelopes -/

/-- Events that a card can ask to be told about. -/
inductive Event where
  | incomingCall (number : Option String)
  | callConnected (byRemote : Bool)
  | callDisconnected (byRemote : Bool) (cause : Option UInt8)
  /-- The location goes with normal service only. -/
  | locationStatus (status : UInt8) (location : Option Location)
  | userActivity
  | idleScreenAvailable
  | languageSelection (code : String)
  | browserTermination (cause : UInt8)
deriving Repr, DecidableEq

/-- The octet of an event in event lists. -/
def Event.code : Event → UInt8
  | .incomingCall .. => 0x00
  | .callConnected .. => 0x01
  | .callDisconnected .. => 0x02
  | .locationStatus .. => 0x03
  | .userActivity => 0x04
  | .idleScreenAvailable => 0x05
  | .languageSelection .. => 0x07
  | .browserTermination .. => 0x08

/-- A report to the card. -/
structure Envelope where
  tag : UInt8
  devices : DeviceIdentities
  item : Option UInt8 := none
  helpRequested : Bool := false
  event : Option UInt8 := none
  status : Option UInt8 := none
  location : Option Location := none
  transaction : Option UInt8 := none
  address : Option String := none
  cause : Option UInt8 := none
  timer : Option UInt8 := none
  /-- Seconds. -/
  timerValue : Option Nat := none
  language : Option String := none
  terminationCause : Option UInt8 := none
deriving Repr, DecidableEq

namespace Envelope

/-- An envelope to the card with nothing in it. -/
def addressed (tag : Template.Tag) (source : Device) : Envelope :=
  { tag := tag.code, devices := { source := source.code, destination := Device.card.code } }

/-- The user picked an item. -/
def menuSelection (item : UInt8) (helpRequested : Bool) : Envelope :=
  { addressed .menuSelection .keypad with item := some item, helpRequested }

/-- A timer ran out. -/
def timerExpiration (timer : UInt8) (seconds : Nat) : Envelope :=
  { addressed .timerExpiration .terminal with timer := some timer, timerValue := some seconds }

/-- Service is normal. -/
def normalService : UInt8 := 0x00

/-- The device that ended or began a call. -/
def callDevice (byRemote : Bool) : Device := if byRemote then .network else .terminal

/-- Something happened. -/
def ofEvent (event : Event) : Envelope :=
  let report (source : Device) : Envelope :=
    { addressed .eventDownload source with event := some event.code }
  match event with
  | .incomingCall number => { report .network with transaction := some 0, address := number }
  | .callConnected byRemote => { report (callDevice byRemote) with transaction := some 0 }
  | .callDisconnected byRemote cause =>
    { report (callDevice byRemote) with transaction := some 0, cause }
  | .locationStatus status location =>
    { report .terminal with
      status := some status
      location := if status = normalService then location else none }
  | .userActivity => report .terminal
  | .idleScreenAvailable => report .display
  | .languageSelection code => { report .terminal with language := some code }
  | .browserTermination cause => { report .terminal with terminationCause := some cause }

/-- A field of one octet, if there is something to say. -/
def octetField (tag : Tag) (octet : Option UInt8) : List Field :=
  (octet.map fun value => (tag.required, [value])).toList

/-- The other party of a call; the empty number is no party. -/
def addressFields (number : String) : List Field :=
  if number.isEmpty then [] else [(Tag.address.required, Number.diallingOctets number.toList)]

/-- The fields of an envelope, in order. -/
def fields (envelope : Envelope) : List Field :=
  [(Tag.deviceIdentities.required, [envelope.devices.source, envelope.devices.destination])] ++
    octetField .itemIdentifier envelope.item ++
    (if envelope.helpRequested then [(Tag.helpRequest.required, [])] else []) ++
    octetField .eventList envelope.event ++
    octetField .locationStatus envelope.status ++
    (envelope.location.map Field.location).toList ++
    octetField .transactionIdentifier envelope.transaction ++
    addressFields (envelope.address.getD "") ++
    (envelope.cause.map Field.cause).toList ++
    octetField .timerIdentifier envelope.timer ++
    (envelope.timerValue.map (Field.timerValue true)).toList ++
    (envelope.language.map Field.language).toList ++
    octetField .browserTerminationCause envelope.terminationCause

/-- The octets of an envelope. -/
def toOctets (envelope : Envelope) : Octets :=
  Element.field envelope.tag (fieldsOctets envelope.fields)

end Envelope

end SimCard
