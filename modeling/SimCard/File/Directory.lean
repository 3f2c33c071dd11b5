import SimCard.Octets

/-!
# Where files lie

A file is known by an identifier of two octets.  To reach it one also needs the path of its
directory, which depends on the application the card runs: a SIM keeps most of its own files under
one directory, a USIM under another, and the phonebook of a USIM has a directory to itself.
-/

set_option autoImplicit false

namespace SimCard

/-- The applications a card can run. -/
inductive Application where
  | unknown
  | sim
  | usim
  | ruim
  | csim
  | isim
deriving Repr, DecidableEq, Inhabited

/-! ## Identifiers -/

namespace FileId

def cardIdentity : UInt16 := 0x2FE2
def subscriberIdentity : UInt16 := 0x6F07
def networkSelector : UInt16 := 0x6F30
def serviceTable : UInt16 := 0x6F38
def directory : UInt16 := 0x6F3A
def fixedDialling : UInt16 := 0x6F3B
def ownNumber : UInt16 := 0x6F40
def broadcasts : UInt16 := 0x6F45
def providerName : UInt16 := 0x6F46
def broadcastDownload : UInt16 := 0x6F48
def broadcastRanges : UInt16 := 0x6F50
def administrativeData : UInt16 := 0x6FAD
def phase : UInt16 := 0x6FAE
def networkNames : UInt16 := 0x6FC5
def nameRules : UInt16 := 0x6FC6
def mailboxNumbers : UInt16 := 0x6FC7
def providerDisplay : UInt16 := 0x6FCD
def phonebookReference : UInt16 := 0x4F30

end FileId

/-! ## Paths -/

namespace Path

/-- The master file. -/
def root : String := "3F00"

/-- The directory of what belongs to the subscriber rather than to a network. -/
def telecom : String := root ++ "7F10"

/-- The directory of the SIM application. -/
def sim : String := root ++ "7F20"

/-- The directory of the USIM application. -/
def usim : String := root ++ "7FFF"

/-- The directory of the USIM phonebook. -/
def phonebook : String := telecom ++ "5F3A"

/-- Files that lie in the same place whatever the application. -/
def common? (file : UInt16) : Option String :=
  if file = FileId.cardIdentity then some root
  else if file = FileId.directory then some telecom
  else if file = FileId.phonebookReference then some phonebook
  else none

/-- Files of the application's own directory, on a SIM and on a USIM alike. -/
def applicationFiles : List UInt16 :=
  [FileId.administrativeData, FileId.mailboxNumbers, FileId.serviceTable, FileId.providerName,
   FileId.providerDisplay, FileId.broadcasts, FileId.broadcastDownload, FileId.broadcastRanges,
   FileId.nameRules, FileId.networkNames, FileId.subscriberIdentity]

/-- The directories of a SIM. -/
def simPath? (file : UInt16) : Option String :=
  if [FileId.fixedDialling, FileId.ownNumber].contains file then some telecom
  else if (FileId.networkSelector :: FileId.phase :: applicationFiles).contains file then some sim
  else none

/-- The directories of a USIM: what is nowhere else is in the phonebook. -/
def usimPath (file : UInt16) : String :=
  if (FileId.fixedDialling :: FileId.ownNumber :: applicationFiles).contains file then usim
  else phonebook

/-- The path of a file's directory, where it is known. -/
def of? (file : UInt16) (application : Application) : Option String :=
  match common? file with
  | some path => some path
  | none =>
    match application with
    | .sim => simPath? file
    | .usim => some (usimPath file)
    | _ => none

end Path

end SimCard
