import SimCard.File.Access

/-!
# A simulated card

A card that is held in memory, with the two views that a real one has: it carries out file commands
(`SimulatedCard.channel`), or gives access to its files directly (`SimulatedCard.direct`).  It
writes down everything it is asked.

A file can be made to misbehave: to describe itself as something it is not, to answer with other
status words, to refuse certain commands, to hand out its octets in small stretches, or to be out of
reach.
-/

set_option autoImplicit false

namespace SimCard

/-- A command that a file refuses. -/
structure Refusal where
  instruction : UInt8
  /-- The first parameter of the command; without it, any. -/
  p1 : Option UInt8
  status : UInt16
deriving Repr, DecidableEq

/-- A file of a simulated card. -/
structure SimulatedFile where
  file : UInt16
  /-- The directory the file is found in; without it, any. -/
  path : Option String := none
  records : Option (List Octets) := none
  data : Option Octets := none
  /-- The size of its records; without it, that of the first one. -/
  recordSize : Option Nat := none
  /-- The number of records that is given out; without it, the true one. -/
  count : Option Nat := none
  /-- The size in the description; without it, the true one. -/
  size : Option Nat := none
  /-- The layout in the description; without it, the true one. -/
  layout : Option UInt8 := none
  /-- A description in place of the one that the file would have. -/
  description : Option Octets := none
  /-- The length of the stretches that are handed out; without it, what is asked for. -/
  stretch : Option Nat := none
  /-- How answers end when all is well. -/
  status : UInt16 := Status.success
  refusals : List Refusal := []
  /-- Why the file is out of reach, if it is. -/
  unreachable : Option String := none
  /-- Is what is loaded directly handed out without its frame? -/
  isBare : Bool := false
deriving Repr, DecidableEq

namespace SimulatedFile

/-- The size of the file's records. -/
def sizeOfRecords (file : SimulatedFile) : Nat :=
  file.recordSize.getD (((file.records.getD []).head?.map (·.length)).getD 0)

/-- The size of the file. -/
def totalSize (file : SimulatedFile) : Nat :=
  file.size.getD (match file.records with
    | some records => file.sizeOfRecords * records.length
    | none => (file.data.getD []).length)

/-- The description of the file. -/
def describe (file : SimulatedFile) : Octets :=
  file.description.getD (
    [0x00, 0x00] ++ word16Octets (UInt16.ofNat file.totalSize) ++ word16Octets file.file ++
      [0x04, 0x00, 0x11, 0x22, 0x33, 0x01, 0x02,
       file.layout.getD (if file.records.isSome then 1 else 0), UInt8.ofNat file.sizeOfRecords])

/-- The record of a number, counted from one. -/
def record? (file : SimulatedFile) (number : UInt8) : Option Octets :=
  if number = 0 then none else (file.records.getD [])[number.toNat - 1]?

/-- The file with one record replaced. -/
def setRecord (file : SimulatedFile) (number : UInt8) (octets : Octets) : SimulatedFile :=
  { file with records := file.records.map (·.set (number.toNat - 1) octets) }

/-- A stretch of the file. -/
def stretchAt (file : SimulatedFile) (offset length : Nat) : Octets :=
  ((file.data.getD []).drop offset).take (file.stretch.getD length)

/-- The status with which the file refuses a command, if it does. -/
def refusal? (file : SimulatedFile) (command : FileCommand) : Option UInt16 :=
  (file.refusals.find? fun refusal =>
    refusal.instruction == command.instruction &&
      (refusal.p1.map (· == command.p1)).getD true).map (·.status)

/-- What is handed out when the file is loaded directly. -/
def handOut (file : SimulatedFile) (octets : Octets) : Octets :=
  if file.isBare then octets else framed octets

end SimulatedFile

/-- What a simulated card was asked. -/
inductive CardEvent where
  /-- A file command. -/
  | command (command : FileCommand)
  /-- A whole file, directly. -/
  | loadFile (file : UInt16)
  /-- A record, directly. -/
  | loadRecord (file : UInt16) (record : UInt8)
  /-- The replacement of a record, directly; without octets when there was nothing to replace. -/
  | update (file : UInt16) (record : UInt8) (pin2 : Option String) (octets : Option Octets)
deriving Repr, DecidableEq

/-- A card in memory. -/
structure SimulatedCard where
  files : List SimulatedFile := []
  /-- What it was asked, the earliest first. -/
  log : List CardEvent := []
deriving Repr, DecidableEq

namespace SimulatedCard

/-- The file of an identifier. -/
def find? (card : SimulatedCard) (file : UInt16) : Option SimulatedFile :=
  card.files.find? (·.file == file)

/-- The card with a file added, or put in the place of one with its identifier. -/
def put (card : SimulatedCard) (file : SimulatedFile) : SimulatedCard :=
  { card with files := card.files.filter (·.file != file.file) ++ [file] }

/-- Write down what was asked. -/
def note (event : CardEvent) (card : SimulatedCard) : SimulatedCard :=
  { card with log := card.log ++ [event] }

/-! ## The card as a channel -/

/-- An answer that is nothing but a status. -/
def refuse (status : UInt16) : CardAnswer := { data := [], status }

/-- The answer of a file to a command that it does not refuse, and the file afterwards. -/
def execute (file : SimulatedFile) (command : FileCommand) : CardAnswer × SimulatedFile :=
  if command.instruction = FileCommand.describeCode then
    ({ data := file.describe, status := file.status }, file)
  else if command.instruction = FileCommand.readRecordCode then
    match file.record? command.p1 with
    | some octets => ({ data := octets, status := file.status }, file)
    | none => (refuse 0x9402, file)
  else if command.instruction = FileCommand.readBinaryCode then
    let offset := 256 * command.p1.toNat + command.p2.toNat
    ({ data := file.stretchAt offset command.p3.toNat, status := file.status }, file)
  else if command.instruction = FileCommand.updateRecordCode then
    match file.record? command.p1 with
    | some _ => (refuse file.status, file.setRecord command.p1 (command.data.getD []))
    | none => (refuse 0x9402, file)
  else
    (refuse 0x6D00, file)

/-- The card carries out a command. -/
def channel : Channel SimulatedCard := fun command => do
  Step.modify (note (.command command))
  let card ← Step.get
  match card.find? command.file with
  | none => return refuse 0x9404
  | some file =>
    match file.unreachable with
    | some reason => Step.fail (.transport reason)
    | none =>
      if (file.path.map (· != command.path)).getD false then
        return refuse 0x9404
      else
        match file.refusal? command with
        | some status => return refuse status
        | none =>
          let (answer, file) := execute file command
          Step.modify (·.put file)
          return answer

/-! ## Direct access -/

/-- A file with records, and its records. -/
def recordFile (card : SimulatedCard) (file : UInt16) :
    Except FileError (SimulatedFile × List Octets) :=
  match card.find? file with
  | none => .error (.unknownPath file)
  | some found =>
    match found.records with
    | none => .error (.unknownPath file)
    | some records => .ok (found, records)

/-- Load a record. -/
def loadRecord : Step (Loading SimulatedCard) FileError RecordShape := do
  let request := (← Step.get).request
  Loading.onCard (Step.modify (note (.loadRecord request.file request.record)))
  let (file, records) ← Step.ofExcept ((← Step.get).card.recordFile request.file)
  let shape : RecordShape :=
    { size := file.sizeOfRecords, count := file.count.getD records.length }
  match file.record? request.record with
  | none => Step.fail (.recordOutOfRange request.file request.record shape.count)
  | some octets =>
    Loading.deliver (file.handOut octets)
    Step.modify fun s => { s with request := { s.request with shape := some shape } }
    return shape

/-- Load a whole file. -/
def loadFile : Step (Loading SimulatedCard) FileError Unit := do
  let request := (← Step.get).request
  Loading.onCard (Step.modify (note (.loadFile request.file)))
  match (← Step.get).card.find? request.file with
  | none => Step.fail (.unknownPath request.file)
  | some file =>
    match file.data with
    | none => Step.fail (.unknownPath request.file)
    | some octets => Loading.deliver (file.handOut octets)

/-- Replace a record. -/
def updateRecord (make : Nat → Octets) : Step (Loading SimulatedCard) FileError Nat := do
  let request := (← Step.get).request
  let tell (octets : Option Octets) : Step (Loading SimulatedCard) FileError Unit :=
    Loading.onCard (Step.modify (note (.update request.file request.record request.pin2 octets)))
  match (← Step.get).card.recordFile request.file with
  | .error e =>
    tell none
    Step.fail e
  | .ok (file, records) =>
    let size := file.sizeOfRecords
    tell (some (make size))
    match file.record? request.record with
    | none => Step.fail (.recordOutOfRange request.file request.record records.length)
    | some _ =>
      Loading.onCard (Step.modify (·.put (file.setRecord request.record (make size))))
      return size

/-- Direct access to the files of the card. -/
def direct : FileAccess SimulatedCard where
  loadRecord := loadRecord
  loadFile := loadFile
  updateRecord := updateRecord

end SimulatedCard

end SimCard
