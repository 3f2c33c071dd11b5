import SimCard.Element.Basic

/-!
# Commands of the card

A card runs the terminal by *proactive commands*: show this text, ask for that input, set up a menu.
A command arrives as a list of elements, one of which says which command it is (`CommandDetails`);
the others hold its parameters.

`Parameters.ofElements` picks the parameters of a command out of its elements.  It looks at nothing
but the values under each tag, so elements of other tags may stand anywhere between them.  Some
parameters a command cannot do without: their absence is a `Requirement` that is not met.
-/

set_option autoImplicit false

namespace SimCard

/-- The commands a terminal knows. -/
inductive CommandType where
  | refresh
  | moreTime
  | pollInterval
  | pollOff
  | setUpEventList
  | setUpCall
  | sendSupplementaryService
  | sendServiceData
  | sendShortMessage
  | sendTones
  | launchBrowser
  | playTone
  | displayText
  | getInkey
  | getInput
  | selectItem
  | setUpMenu
  | provideLocalInformation
  | timerManagement
  | setUpIdleModeText
  | languageNotification
  | openChannel
  | closeChannel
  | receiveData
  | sendData
deriving Repr, DecidableEq

namespace CommandType

/-- The octet of a command. -/
def code : CommandType → UInt8
  | .refresh => 0x01
  | .moreTime => 0x02
  | .pollInterval => 0x03
  | .pollOff => 0x04
  | .setUpEventList => 0x05
  | .setUpCall => 0x10
  | .sendSupplementaryService => 0x11
  | .sendServiceData => 0x12
  | .sendShortMessage => 0x13
  | .sendTones => 0x14
  | .launchBrowser => 0x15
  | .playTone => 0x20
  | .displayText => 0x21
  | .getInkey => 0x22
  | .getInput => 0x23
  | .selectItem => 0x24
  | .setUpMenu => 0x25
  | .provideLocalInformation => 0x26
  | .timerManagement => 0x27
  | .setUpIdleModeText => 0x28
  | .languageNotification => 0x35
  | .openChannel => 0x40
  | .closeChannel => 0x41
  | .receiveData => 0x42
  | .sendData => 0x43

/-- All commands. -/
def all : List CommandType :=
  [refresh, moreTime, pollInterval, pollOff, setUpEventList, setUpCall, sendSupplementaryService,
   sendServiceData, sendShortMessage, sendTones, launchBrowser, playTone, displayText, getInkey,
   getInput, selectItem, setUpMenu, provideLocalInformation, timerManagement, setUpIdleModeText,
   languageNotification, openChannel, closeChannel, receiveData, sendData]

/-- The command of an octet. -/
def ofCode? (code : UInt8) : Option CommandType := all.find? (·.code == code)

end CommandType

/-! ## What commands ask for -/

/-- A text to show. -/
structure Message where
  text : Option String
  isHighPriority : Bool := false
  /-- Does the text stay until the user takes it away? -/
  clearedByUser : Bool := false
  /-- Is the card waiting for an answer while the text is shown? -/
  needsResponse : Bool := false
  duration : Option Duration := none
deriving Repr, DecidableEq

/-- A choice among items. -/
structure Menu where
  title : Option String
  /-- The items; one without content takes the menu away. -/
  items : List (Option MenuItem)
  /-- The item that is selected at first. -/
  selected : Option UInt8
  presentation : UInt8
  hasHelp : Bool
  nextActions : Option Octets
deriving Repr, DecidableEq

/-- A question to the user. -/
structure Prompt where
  text : Option String
  suggestion : Option String := none
  least : UInt8
  greatest : UInt8
  duration : Option Duration
  isAlphabetic : Bool
  isWide : Bool
  isYesNo : Bool := false
  isHidden : Bool := false
  isPacked : Bool := false
  hasHelp : Bool
deriving Repr, DecidableEq

/-- A call to set up. -/
structure Call where
  number : String
  /-- What is shown before the call is set up. -/
  confirmation : Option String
  /-- What is shown while it is set up. -/
  announcement : Option String
  duration : Option Duration
deriving Repr, DecidableEq

/-- A page to open. -/
structure Browsing where
  /-- The page; the empty text stands for the default one. -/
  location : String
  mode : UInt8
  confirmation : Option String
deriving Repr, DecidableEq

/-- A tone to play. -/
structure Tone where
  text : Option String
  kind : Option UInt8
  duration : Option Duration
  vibrates : Bool
deriving Repr, DecidableEq

/-- Something to do with a timer. -/
structure TimerRequest where
  action : UInt8
  timer : UInt8
  /-- Seconds. -/
  value : Option Nat
deriving Repr, DecidableEq

/-- What a command says beyond its type. -/
inductive Parameters where
  /-- Nothing at all. -/
  | nothing
  /-- Files whose content has changed, by their paths. -/
  | files (paths : Option String)
  | duration (span : Duration)
  /-- The events to report; none takes an earlier list back. -/
  | events (events : Option Octets)
  | call (call : Call)
  | message (message : Message)
  | browsing (browsing : Browsing)
  | tone (tone : Tone)
  | prompt (prompt : Prompt)
  | menu (menu : Menu)
  /-- Which information about the terminal is asked for. -/
  | localInformation (kind : UInt8)
  | timer (request : TimerRequest)
  /-- The language the card uses now, if it says which. -/
  | language (code : Option String)
  /-- The command has a type that the terminal does not know. -/
  | unknown (commandType : UInt8)
deriving Repr, DecidableEq

/-! ## Errors -/

/-- What a command cannot do without. -/
inductive Requirement where
  | pollDuration
  | eventList
  | callAddress
  | notificationText
  | browserLocation
  | displayText
  | idleText
  | keyPrompt
  | inputPrompt
  | inputLength
  | menuItems
  | timerIdentifier
deriving Repr, DecidableEq

namespace Requirement

/-- The command that has the requirement. -/
def command : Requirement → String
  | .pollDuration => "Poll Interval"
  | .eventList => "Event List"
  | .callAddress => "Set Up Call"
  | .notificationText => "Event Notify"
  | .browserLocation => "Launch Browser"
  | .displayText => "Display Text"
  | .idleText => "Set Up Idle Text"
  | .keyPrompt => "Get InKey"
  | .inputPrompt | .inputLength => "Get Input"
  | .menuItems => "Stk Menu"
  | .timerIdentifier => "Timer Management"

/-- What it requires. -/
def value : Requirement → String
  | .pollDuration => "Duration"
  | .eventList => "Event List"
  | .callAddress => "Address"
  | .notificationText => "Alpha ID"
  | .browserLocation => "URL"
  | .displayText | .idleText | .keyPrompt | .inputPrompt => "Text String"
  | .inputLength => "Response Length"
  | .menuItems => "items"
  | .timerIdentifier => "Timer Identifier"

end Requirement

/-- Why a command of the card cannot be carried out. -/
inductive CommandError where
  /-- The message is not made of elements. -/
  | element (error : ElementError)
  /-- No element says which command it is. -/
  | noDetails
  /-- A parameter is not there. -/
  | missing (requirement : Requirement)
deriving Repr, DecidableEq

/-- What the error says. -/
def CommandError.message : CommandError → String
  | .element error => error.message
  | .noDetails => "Proactive command has no command details"
  | .missing requirement =>
    requirement.command ++ ": Required value missing : " ++ requirement.value

/-! ## Values under a tag -/

namespace Value

/-- The text of an alpha identifier. -/
def alphaText? : Value → Option String
  | .alphaIdentifier text => some text
  | _ => none

/-- The text of a text string, which may be no text. -/
def promptText? : Value → Option (Option String)
  | .textString text => some (text.map (·.text))
  | _ => none

/-- The length of time of a duration. -/
def span? : Value → Option Duration
  | .duration span => some span
  | _ => none

/-- The command details. -/
def details? : Value → Option CommandDetails
  | .commandDetails details => some details
  | _ => none

/-- The dialling number with its type. -/
def address? : Value → Option Address
  | .address party => some party
  | _ => none

/-- The page to open. -/
def location? : Value → Option String
  | .url page => some page
  | _ => none

/-- The kind of a tone. -/
def toneKind? : Value → Option UInt8
  | .tone kind => some kind
  | _ => none

/-- The bounds on an answer. -/
def bounds? : Value → Option ResponseLength
  | .responseLength bounds => some bounds
  | _ => none

/-- The item that is meant. -/
def itemIdentifier? : Value → Option UInt8
  | .itemIdentifier identifier => some identifier
  | _ => none

/-- What the items of a menu lead to. -/
def actions? : Value → Option Octets
  | .nextActions actions => some actions
  | _ => none

/-- The timer that is meant. -/
def timer? : Value → Option UInt8
  | .timerIdentifier identifier => some identifier
  | _ => none

/-- The value of a timer. -/
def seconds? : Value → Option Nat
  | .timerValue seconds => some seconds
  | _ => none

/-- The paths of files, as digits. -/
def paths? : Value → Option String
  | .fileList files => some files.text
  | _ => none

/-- The events to report, or that there are none any more. -/
def events? : Value → Option (Option Octets)
  | .eventList events => some events
  | _ => none

/-- The code of a language. -/
def languageCode? : Value → Option String
  | .language code => some code
  | _ => none

end Value

namespace Parameters

/-- The value of the first element with a tag. -/
def first? (tag : Tag) (elements : List Element) : Option Value :=
  (Element.search? tag.code elements).map (·.value)

/-- What the first element with a tag holds, if its value is of the kind that is looked for. -/
def get? {α : Type} (tag : Tag) (view : Value → Option α) (elements : List Element) : Option α :=
  (first? tag elements).bind view

/-- The text of an element that was found, if it is an alpha identifier. -/
def alphaOf? (found : Option Element) : Option String :=
  (found.map (·.value)).bind Value.alphaText?

/-- The text of the first alpha identifier. -/
def alpha? (elements : List Element) : Option String :=
  alphaOf? (Element.search? Tag.alphaIdentifier.code elements)

/-- The first duration. -/
def span? (elements : List Element) : Option Duration := get? .duration Value.span? elements

/-- A value, or the complaint that it is not there. -/
def require {α : Type} (requirement : Requirement) : Option α → Except CommandError α
  | some a => .ok a
  | none => .error (.missing requirement)

/-- Is a bit of a qualifier set? -/
def hasBit (qualifier bit : UInt8) : Bool := qualifier &&& bit != 0

/-! ## The parameters of each command -/

/-- The call to set up: the first alpha identifier asks and the next one behind it announces. -/
def call? (elements : List Element) : Except CommandError Call := do
  let asking := Element.searchNext Tag.alphaIdentifier.code elements
  let announcing := Element.searchNext Tag.alphaIdentifier.code asking.2
  let party ← require .callAddress (get? .address Value.address? elements)
  return {
    number := party.number
    confirmation := alphaOf? asking.1
    announcement := alphaOf? announcing.1
    duration := span? elements }

/-- A text that the user is shown while the terminal sends something. -/
def notification? (elements : List Element) : Except CommandError Message := do
  let text ← require .notificationText (alpha? elements)
  return { text := some text }

/-- The page to open. -/
def browsing? (qualifier : UInt8) (elements : List Element) : Except CommandError Browsing := do
  let location ← require .browserLocation (get? .url Value.location? elements)
  return { location, mode := qualifier &&& 0x03, confirmation := alpha? elements }

/-- The tone to play. -/
def toneOf (qualifier : UInt8) (elements : List Element) : Tone where
  text := alpha? elements
  kind := get? .tone Value.toneKind? elements
  duration := span? elements
  vibrates := hasBit qualifier 0x01

/-- The text to show. -/
def display? (qualifier : UInt8) (elements : List Element) : Except CommandError Message := do
  let text ← require .displayText (get? .textString Value.promptText? elements)
  return {
    text
    isHighPriority := hasBit qualifier 0x01
    clearedByUser := hasBit qualifier 0x80
    needsResponse := (first? .immediateResponse elements).isSome
    duration := span? elements }

/-- The text to show while nothing else is. -/
def idleText? (elements : List Element) : Except CommandError Message := do
  let text ← require .idleText (get? .textString Value.promptText? elements)
  return { text }

/-- The single key to ask for. -/
def inkey? (qualifier : UInt8) (elements : List Element) : Except CommandError Prompt := do
  let text ← require .keyPrompt (get? .textString Value.promptText? elements)
  return {
    text
    least := 1
    greatest := 1
    duration := span? elements
    isAlphabetic := hasBit qualifier 0x01
    isWide := hasBit qualifier 0x02
    isYesNo := hasBit qualifier 0x04
    hasHelp := hasBit qualifier 0x80 }

/-- The line of input to ask for. -/
def input? (qualifier : UInt8) (elements : List Element) : Except CommandError Prompt := do
  let text ← require .inputPrompt (get? .textString Value.promptText? elements)
  let bounds ← require .inputLength (get? .responseLength Value.bounds? elements)
  return {
    text
    suggestion := (get? .defaultText Value.promptText? elements).join
    least := bounds.least
    greatest := bounds.greatest
    duration := span? elements
    isAlphabetic := hasBit qualifier 0x01
    isWide := hasBit qualifier 0x02
    isHidden := hasBit qualifier 0x04
    isPacked := hasBit qualifier 0x08
    hasHelp := hasBit qualifier 0x80 }

/-- The item of a menu that an element is, if both its value and its tag are those of one. -/
def item? (element : Element) : Option (Option MenuItem) :=
  match element.value, element.code? with
  | .item item, some code => if code = Tag.item.code then some item else none
  | _, _ => none

/-- The menu, which has at least one item. -/
def menu? (qualifier : UInt8) (elements : List Element) : Except CommandError Menu :=
  match elements.filterMap item? with
  | [] => .error (.missing .menuItems)
  | items => .ok {
      title := alpha? elements
      items
      selected := get? .itemIdentifier Value.itemIdentifier? elements
      presentation := qualifier &&& 0x03
      hasHelp := hasBit qualifier 0x80
      nextActions := get? .nextActions Value.actions? elements }

/-- The timer, and what is to be done with it. -/
def timer? (qualifier : UInt8) (elements : List Element) : Except CommandError TimerRequest := do
  let timer ← require .timerIdentifier (get? .timerIdentifier Value.timer? elements)
  return { action := qualifier, timer, value := get? .timerValue Value.seconds? elements }

/-- The parameters of a command of known type. -/
def ofType (type : CommandType) (qualifier : UInt8) (elements : List Element) :
    Except CommandError Parameters :=
  match type with
  | .refresh => .ok (.files (get? .fileList Value.paths? elements))
  | .moreTime | .pollOff => .ok .nothing
  | .pollInterval => .duration <$> require .pollDuration (span? elements)
  | .setUpEventList => .events <$> require .eventList (get? .eventList Value.events? elements)
  | .setUpCall => .call <$> call? elements
  | .sendSupplementaryService | .sendServiceData | .sendShortMessage | .sendTones =>
    .message <$> notification? elements
  | .launchBrowser => .browsing <$> browsing? qualifier elements
  | .playTone => .ok (.tone (toneOf qualifier elements))
  | .displayText => .message <$> display? qualifier elements
  | .setUpIdleModeText => .message <$> idleText? elements
  | .getInkey => .prompt <$> inkey? qualifier elements
  | .getInput => .prompt <$> input? qualifier elements
  | .selectItem | .setUpMenu => .menu <$> menu? qualifier elements
  | .provideLocalInformation => .ok (.localInformation qualifier)
  | .timerManagement => .timer <$> timer? qualifier elements
  | .languageNotification => .ok (.language (get? .language Value.languageCode? elements))
  | .openChannel | .closeChannel | .receiveData | .sendData =>
    .ok (.message { text := alpha? elements })

/-- **The parameters of a command**, out of its elements. -/
def ofElements (details : CommandDetails) (elements : List Element) :
    Except CommandError Parameters :=
  match CommandType.ofCode? details.commandType with
  | none => .ok (.unknown details.commandType)
  | some type => ofType type details.qualifier elements

end Parameters

/-- A command of the card. -/
structure Command where
  details : CommandDetails
  parameters : Parameters
deriving Repr, DecidableEq

namespace Command

/-- The details of a command: the value of the first element with their tag, if that is what they
are. -/
def details? (elements : List Element) : Option CommandDetails :=
  Parameters.get? .commandDetails Value.details? elements

end Command

end SimCard
