import SimCard.Element.Basic

/-!
# The phonebook of a USIM

The phonebook of a USIM is spread over many files.  A reference record lists them: it is made of
containers of three types, each a list of blocks, and a block names one file by what it holds.
`Phonebook.ofContainers` sorts the files of a record.  Where two blocks name a file for the same
purpose the later one counts, except for additional numbers, which may have several files.

In a container of the second type the position of a block matters, because index records of the
phonebook refer to it.
-/

set_option autoImplicit false

namespace SimCard

/-- Blocks under one tag. -/
structure Container where
  tag : UInt8
  length : Nat
  blocks : List Block
deriving Repr, DecidableEq

/-- A file of the phonebook. -/
structure PhonebookFile where
  /-- The type of the container that names it. -/
  fileType : UInt8
  file : UInt16
  /-- A short name for the same file. -/
  shortId : Option UInt8
  /-- Where index records speak of it, for a file of the second type. -/
  index : Option Nat
deriving Repr, DecidableEq

namespace PhonebookFile

/-- The tag of containers whose files have a record for each entry. -/
def type1 : UInt8 := 0xA8

/-- The tag of containers whose files are reached through index records. -/
def type2 : UInt8 := 0xA9

/-- The file that a block names, if its value is long enough to name one. -/
def ofBlock? (fileType : UInt8) (position : Nat) : Octets → Option PhonebookFile
  | high :: low :: rest => some {
      fileType
      file := word16 high low
      shortId := rest.head?
      index := if fileType = type2 then some position else none }
  | _ => none

end PhonebookFile

/-- The files of a phonebook, by what they hold. -/
structure Phonebook where
  /-- Names and numbers. -/
  entries : Option PhonebookFile := none
  /-- Index records. -/
  indices : Option PhonebookFile := none
  /-- Continuations of long numbers. -/
  extensions : Option PhonebookFile := none
  /-- Second names. -/
  secondNames : Option PhonebookFile := none
  /-- Additional numbers. -/
  additionalNumbers : List PhonebookFile := []
  /-- Which entries have changed. -/
  control : Option PhonebookFile := none
  /-- The groups of an entry. -/
  grouping : Option PhonebookFile := none
  /-- Labels of additional numbers. -/
  numberLabels : Option PhonebookFile := none
  /-- Labels of groups. -/
  groupLabels : Option PhonebookFile := none
  /-- Unique identifiers. -/
  identifiers : Option PhonebookFile := none
  /-- Addresses for mail. -/
  emails : Option PhonebookFile := none
  /-- How calls are set up. -/
  callSettings : Option PhonebookFile := none
deriving Repr, DecidableEq, Inhabited

namespace Phonebook

/-- A phonebook with one more file; a tag that stands for nothing known adds nothing. -/
def insert (book : Phonebook) (tag : UInt8) (file : PhonebookFile) : Phonebook :=
  match tag with
  | 0xC0 => { book with entries := some file }
  | 0xC1 => { book with indices := some file }
  | 0xC2 => { book with extensions := some file }
  | 0xC3 => { book with secondNames := some file }
  | 0xC4 => { book with additionalNumbers := book.additionalNumbers ++ [file] }
  | 0xC5 => { book with control := some file }
  | 0xC6 => { book with grouping := some file }
  | 0xC7 => { book with numberLabels := some file }
  | 0xC8 => { book with groupLabels := some file }
  | 0xC9 => { book with identifiers := some file }
  | 0xCA => { book with emails := some file }
  | 0xCB => { book with callSettings := some file }
  | _ => book

/-- The files that a container names, each under the tag of its block. -/
def filesOf (container : Container) : List (UInt8 × PhonebookFile) :=
  container.blocks.zipIdx.filterMap fun (block, position) =>
    (PhonebookFile.ofBlock? container.tag position block.value).map fun file => (block.tag, file)

/-- The phonebook of a record. -/
def ofContainers (containers : List Container) : Phonebook :=
  (containers.flatMap filesOf).foldl (fun book (tag, file) => book.insert tag file) {}

end Phonebook

end SimCard
