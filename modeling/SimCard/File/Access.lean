import SimCard.Cursor
import SimCard.File.Command
import SimCard.File.Directory

/-!
# Access to files

There are two ways to look at a card.  As a `Channel` it carries out one file command after the
other; as a `FileAccess` it loads records and whole files, and replaces records.  `Channel.access`
builds the second on the first:

* to load a record, the file is first asked for its shape, unless the request already knows it, and
  then for the record;
* a whole file is asked for its size, and then for its octets in stretches of at most 255;
* a record is replaced by exactly as many octets as the file's records have.

A card is a state that answers change, of whatever type, and both views say nothing about what it
answers.  What was loaded is written, as a framed string, to the cursor that comes with the request.
-/

set_option autoImplicit false

namespace SimCard

/-- Why a file cannot be accessed. -/
inductive FileError where
  /-- The description of the file is too short. -/
  | cursor (error : CursorError)
  /-- The card refused a command. -/
  | status (instruction : UInt8) (file word : UInt16)
  /-- The file holds no data of its own. -/
  | notElementary (file : UInt16)
  /-- The file is not laid out as expected. -/
  | unexpectedLayout (file : UInt16) (expected actual : UInt8)
  /-- The file has no such record. -/
  | recordOutOfRange (file : UInt16) (record : UInt8) (count : Nat)
  /-- Nobody knows where the file lies. -/
  | unknownPath (file : UInt16)
  /-- The card could not be reached. -/
  | transport (reason : String)
deriving Repr, DecidableEq

/-- What the error says. -/
def FileError.message : FileError → String
  | .cursor error => error.message
  | .status instruction file word =>
    "SIM_IO " ++ hexLiteral 2 instruction.toNat ++ " on " ++ hexLiteral 4 file.toNat ++
      " failed with " ++ hexLiteral 4 word.toNat ++ ": " ++ Status.describe word
  | .notElementary file => "File " ++ hexLiteral 4 file.toNat ++ " is not an EF"
  | .unexpectedLayout file expected actual =>
    "File " ++ hexLiteral 4 file.toNat ++
      s!" has structure {actual.toNat}, expected {expected.toNat}"
  | .recordOutOfRange file record count =>
    s!"Record {record.toNat} is outside the {count} record(s) of " ++ hexLiteral 4 file.toNat
  | .unknownPath file => "No path known for file " ++ hexLiteral 4 file.toNat
  | .transport reason => "Transport failure: " ++ reason

instance : MonadLift (Step Cursor CursorError) (Step Cursor FileError) where
  monadLift x := x.mapError .cursor

/-! ## Requests -/

/-- The records of a file: how long they are and how many. -/
structure RecordShape where
  size : Nat
  count : Nat
deriving Repr, DecidableEq

/-- The highest number a record can have. -/
def greatestRecord : Nat := 254

/-- What is to be loaded or replaced. -/
structure LoadRequest where
  file : UInt16
  /-- The directory of the file; without it, the usual one. -/
  path : Option String := none
  record : UInt8 := 1
  pin2 : Option String := none
  /-- The shape of the file's records, once it is known. -/
  shape : Option RecordShape := none
deriving Repr, DecidableEq

namespace LoadRequest

/-- Is there a record after this one, as far as is known? -/
def hasNext (request : LoadRequest) : Bool :=
  match request.shape with
  | some shape => request.record.toNat < shape.count
  | none => false

end LoadRequest

/-- A request in progress: what is asked for, the cursor that receives it, and the card. -/
structure Loading (σ : Type) where
  request : LoadRequest
  buffer : Cursor
  card : σ

namespace Loading

variable {σ ε α : Type}

/-- A step of the card alone. -/
def onCard (x : Step σ ε α) : Step (Loading σ) ε α := fun s =>
  match x s.card with
  | (r, card) => (r, { s with card })

/-- A step of the cursor alone. -/
def onBuffer (x : Reader ε α) : Step (Loading σ) ε α := fun s =>
  match x s.buffer with
  | (r, buffer) => (r, { s with buffer })

/-- Hand octets to whoever made the request. -/
def deliver (octets : Octets) : Step (Loading σ) ε Unit :=
  Step.modify fun s => { s with buffer := s.buffer.write octets }

/-- Go on to the record after the one that was asked for last, if a record can have its number. -/
def next (loadRecord : Step (Loading σ) FileError RecordShape) :
    Step (Loading σ) FileError RecordShape := do
  let s ← Step.get
  let next := s.request.record.toNat + 1
  if greatestRecord < next then
    Step.fail (.recordOutOfRange s.request.file s.request.record
      ((s.request.shape.map (·.count)).getD 0))
  else
    Step.modify fun s => { s with request := { s.request with record := UInt8.ofNat next } }
    loadRecord

/-- The same step, carried out by someone who keeps something else beside the card. -/
def beside {ρ : Type} (x : Step (Loading σ) ε α) : Step (Loading (ρ × σ)) ε α := fun s =>
  match x { request := s.request, buffer := s.buffer, card := s.card.2 } with
  | (r, s') => (r, { request := s'.request, buffer := s'.buffer, card := (s.card.1, s'.card) })

end Loading

/-- **Access to the files of a card.** -/
structure FileAccess (σ : Type) where
  /-- Load the record that is asked for. -/
  loadRecord : Step (Loading σ) FileError RecordShape
  /-- Load the record after the one that was asked for last. -/
  loadNext : Step (Loading σ) FileError RecordShape := Loading.next loadRecord
  /-- Load a whole file. -/
  loadFile : Step (Loading σ) FileError Unit
  /-- Replace the record that is asked for by what is made for its size; the answer is that size. -/
  updateRecord : (Nat → Octets) → Step (Loading σ) FileError Nat
  /-- How many records a walk through a file may be given beyond as many as there are numbers.  An
  access that goes on in its own way may go back in the file, and give records again. -/
  repeats : Nat := 0

namespace FileAccess

variable {σ : Type}

/-- The same access, for someone who keeps something else beside the card. -/
def beside {ρ : Type} (access : FileAccess σ) : FileAccess (ρ × σ) where
  loadRecord := Loading.beside access.loadRecord
  loadNext := Loading.beside access.loadNext
  loadFile := Loading.beside access.loadFile
  updateRecord make := Loading.beside (access.updateRecord make)
  repeats := access.repeats

end FileAccess

/-! ## Descriptions of files -/

/-- The ways a file can be laid out that matter here. -/
inductive Layout where
  | transparent
  | linearFixed
deriving Repr, DecidableEq

/-- The octet of a layout. -/
def Layout.code : Layout → UInt8
  | .transparent => 0x00
  | .linearFixed => 0x01

/-- What a card says about a file. -/
structure FileDescription where
  file : UInt16
  size : Nat
  layout : UInt8
  /-- The size of a record; nothing in a file without records. -/
  recordSize : Nat
deriving Repr, DecidableEq

namespace FileDescription

/-- The octet that marks a file with data of its own. -/
def elementaryMark : UInt8 := 0x04

/-- The description of a file. -/
def read : Reader FileError FileDescription := do
  Cursor.skip 2
  let size ← Cursor.readWord16
  let file ← Cursor.readWord16
  let kind ← Cursor.readOctet
  if kind ≠ elementaryMark then
    Step.fail (.notElementary file)
  else
    Cursor.skip 6
    let layout ← Cursor.readOctet
    if layout = Layout.transparent.code then
      return { file, size := size.toNat, layout, recordSize := 0 }
    else
      let recordSize ← Cursor.readOctet
      return { file, size := size.toNat, layout, recordSize := recordSize.toNat }

/-- The description that octets give of a file. -/
def ofOctets (octets : Octets) : Except FileError FileDescription :=
  (read (Cursor.ofOctets octets)).1

/-- The records of a file.  Those beyond the highest number cannot be asked for and do not count. -/
def shape (description : FileDescription) : RecordShape :=
  { size := description.recordSize
    count := min (description.size / description.recordSize) greatestRecord }

end FileDescription

/-! ## Access over a channel -/

/-- **A channel** to a card: it carries out a command and brings the answer back. -/
abbrev Channel (σ : Type) := FileCommand → Step σ FileError CardAnswer

namespace Channel

variable {σ : Type} (channel : Channel σ)

/-- The data of an answer that ends normally. -/
def transmit (command : FileCommand) : Step σ FileError Octets := do
  let answer ← channel command
  if Status.isSuccess answer.status then
    return answer.data
  else
    Step.fail (.status command.instruction command.file answer.status)

/-- The path of a request: its own, or the usual one of the file. -/
def pathOf (application : Application) (request : LoadRequest) : Except FileError String :=
  match request.path with
  | some path => .ok path
  | none =>
    match Path.of? request.file application with
    | some path => .ok path
    | none => .error (.unknownPath request.file)

/-- The description of a file that must be laid out as expected. -/
def describe (file : UInt16) (path : String) (expected : Layout) :
    Step σ FileError FileDescription := do
  let octets ← transmit channel (.describe file path)
  let description ← Step.ofExcept (FileDescription.ofOctets octets)
  if description.layout = expected.code then
    return description
  else
    Step.fail (.unexpectedLayout file expected.code description.layout)

/-- The shape of a file's records: what the request knows, or else what the card says, which the
request then knows. -/
def recordShape (path : String) : Step (Loading σ) FileError RecordShape := do
  let s ← Step.get
  match s.request.shape with
  | some shape => return shape
  | none =>
    let description ← Loading.onCard (describe channel s.request.file path .linearFixed)
    let shape := description.shape
    Step.modify fun s => { s with request := { s.request with shape := some shape } }
    return shape

/-- The shape of a file that has the record asked for, and the path of the file. -/
def locate (application : Application) : Step (Loading σ) FileError (String × RecordShape) := do
  let s ← Step.get
  let path ← Step.ofExcept (pathOf application s.request)
  let shape ← recordShape channel path
  if s.request.record = 0 ∨ shape.count < s.request.record.toNat then
    Step.fail (.recordOutOfRange s.request.file s.request.record shape.count)
  else
    return (path, shape)

/-- Load the record that is asked for. -/
def loadRecord (application : Application) : Step (Loading σ) FileError RecordShape := do
  let (path, shape) ← locate channel application
  let s ← Step.get
  let command := FileCommand.readRecord s.request.file path s.request.record
    (UInt8.ofNat (min shape.size 0xFF))
  let octets ← Loading.onCard (transmit channel { command with pin2 := s.request.pin2 })
  Loading.deliver (framed octets)
  return shape

/-- The octets of a file of `size` octets, `data` being those that are there already.  A stretch
without octets ends the file early; otherwise each stretch brings at least one, so `size` stretches
are enough. -/
def readStretches (file : UInt16) (path : String) (size : Nat) :
    Nat → Octets → Step σ FileError Octets
  | 0, data => pure data
  | fuel + 1, data => do
    if size ≤ data.length then
      return data
    let stretch ← transmit channel (.readBinary file path (UInt16.ofNat data.length)
      (UInt8.ofNat (min (size - data.length) FileCommand.greatestChunk)))
    if stretch.isEmpty then
      return data
    readStretches file path size fuel (data ++ stretch)

/-- Load a whole file. -/
def loadFile (application : Application) : Step (Loading σ) FileError Unit := do
  let s ← Step.get
  let path ← Step.ofExcept (pathOf application s.request)
  let octets ← Loading.onCard do
    let description ← describe channel s.request.file path .transparent
    readStretches channel s.request.file path description.size description.size []
  Loading.deliver (framed octets)

/-- Exactly `size` octets: cut, or filled up with `0xFF`. -/
def resize (size : Nat) (octets : Octets) : Octets :=
  octets.take size ++ List.replicate (size - octets.length) 0xFF

/-- Replace the record that is asked for. -/
def updateRecord (application : Application) (make : Nat → Octets) :
    Step (Loading σ) FileError Nat := do
  let (path, shape) ← locate channel application
  let s ← Step.get
  let command := FileCommand.updateRecord s.request.file path s.request.record
    (resize shape.size (make shape.size))
  let _ ← Loading.onCard (transmit channel { command with pin2 := s.request.pin2 })
  return shape.size

/-- **Access to files through a channel**, on a card that runs an application. -/
def access (application : Application) : FileAccess σ where
  loadRecord := loadRecord channel application
  loadFile := loadFile channel application
  updateRecord := updateRecord channel application

end Channel

end SimCard
