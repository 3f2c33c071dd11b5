import SimCard.File.Status
import SimCard.Parcel

/-!
# File commands

What a terminal can ask of a card's files, one command at a time: describe a file, read or replace a
record, read a stretch of octets.  A command names the file by its identifier and the path of the
directory it lies in.

`FileCommand.toOctets` is the payload of the parcel that carries a command to the modem.  The path
travels as the octets it spells and the second PIN as its UTF-8 octets; data and PIN that are absent
travel as empty strings.
-/

set_option autoImplicit false

namespace SimCard

/-- One command on one file. -/
structure FileCommand where
  instruction : UInt8
  file : UInt16
  /-- The directory of the file, as digits. -/
  path : String
  p1 : UInt8 := 0
  p2 : UInt8 := 0
  p3 : UInt8 := 0
  data : Option Octets := none
  pin2 : Option String := none
deriving Repr, DecidableEq

/-- What the card says to a command. -/
structure CardAnswer where
  data : Octets
  status : UInt16
deriving Repr, DecidableEq

namespace FileCommand

/-- The instruction that reads a stretch of octets. -/
def readBinaryCode : UInt8 := 0xB0

/-- The instruction that reads a record. -/
def readRecordCode : UInt8 := 0xB2

/-- The instruction that describes a file. -/
def describeCode : UInt8 := 0xC0

/-- The instruction that replaces a record. -/
def updateRecordCode : UInt8 := 0xDC

/-- The mode in which a record is named by its number. -/
def absoluteMode : UInt8 := 0x04

/-- How many octets describe a file. -/
def descriptionSize : UInt8 := 15

/-- The most octets that one command can read. -/
def greatestChunk : Nat := 0xFF

/-- Describe a file. -/
def describe (file : UInt16) (path : String) : FileCommand :=
  { instruction := describeCode, file, path, p3 := descriptionSize }

/-- Read a record of `size` octets. -/
def readRecord (file : UInt16) (path : String) (record size : UInt8) : FileCommand :=
  { instruction := readRecordCode, file, path, p1 := record, p2 := absoluteMode, p3 := size }

/-- Read `length` octets at `offset`. -/
def readBinary (file : UInt16) (path : String) (offset : UInt16) (length : UInt8) : FileCommand :=
  { instruction := readBinaryCode, file, path
    p1 := UInt8.ofNat (offset.toNat / 256), p2 := UInt8.ofNat offset.toNat, p3 := length }

/-- Replace a record. -/
def updateRecord (file : UInt16) (path : String) (record : UInt8) (data : Octets) : FileCommand :=
  { instruction := updateRecordCode, file, path, p1 := record, p2 := absoluteMode
    p3 := UInt8.ofNat (min data.length 0xFF), data := some data }

/-- The payload of the parcel that carries a command. -/
def toOctets (command : FileCommand) : Octets :=
  word32Octets command.instruction.toUInt32 ++
    word32Octets command.file.toUInt32 ++
    framed (octetsOfHexText command.path) ++
    word32Octets command.p1.toUInt32 ++
    word32Octets command.p2.toUInt32 ++
    word32Octets command.p3.toUInt32 ++
    framed (command.data.getD []) ++
    framed (command.pin2.getD "").toUTF8.data.toList

/-- The parcel that carries a command. -/
def toParcel (command : FileCommand) (token : UInt32) : Parcel :=
  { requestType := Parcel.Request.fileCommand.code, token, payload := command.toOctets }

end FileCommand

end SimCard
