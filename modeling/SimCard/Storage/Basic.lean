import SimCard.Octets
import SimCard.Storage.Path

/-!
# Storage

A `Storage` is a tree of folders and files, given by what stands at each place.  The folder where
paths start is always there, and so are those above it.

A path is followed step by step, and a step can only be taken from a folder that is there: a path
that goes into a missing folder and up again leads nowhere.  A file can only be written into a
folder that exists, and never over a folder.
-/

set_option autoImplicit false

namespace SimCard

/-- What can stand at a place. -/
inductive Stored where
  | folder
  | file (content : Octets)
deriving Repr, DecidableEq

/-- Files and folders. -/
structure Storage where
  entries : List (Place × Stored) := []
deriving Repr, DecidableEq

namespace Storage

/-! ## Places -/

/-- What stands at a place. -/
def find? (storage : Storage) (place : Place) : Option Stored :=
  match place with
  | .inside _ _ => storage.entries.lookup place
  | _ => some .folder

/-- The storage with something at a place, whatever stood there. -/
def put (storage : Storage) (place : Place) (stored : Stored) : Storage :=
  { entries := (place, stored) :: storage.entries.filter (·.1 != place) }

/-- **Where steps lead** from a place.  Each is taken from a folder that is there; what they lead to
need not be there. -/
def follow? (storage : Storage) (place : Place) : List PathStep → Option Place
  | [] => some place
  | step :: rest =>
    if storage.find? place = some .folder && step.isBounded then
      storage.follow? (place.take step) rest
    else none

/-- The place that a path leads to. -/
def place? (storage : Storage) (path : Path) : Option Place :=
  if path.isUsable then storage.follow? path.origin path.steps else none

/-! ## Files -/

/-- The content of a file. -/
def read? (storage : Storage) (path : Path) : Option Octets :=
  match (storage.place? path).bind storage.find? with
  | some (.file content) => some content
  | _ => none

/-- The text of a file, if it holds one. -/
def readText? (storage : Storage) (path : Path) : Option String :=
  (storage.read? path).bind fun content => String.fromUTF8? ⟨content.toArray⟩

/-- Write a file into a folder that exists. -/
def write? (storage : Storage) (path : Path) (content : Octets) : Option Storage :=
  match storage.place? path with
  | none => none
  | some place =>
    match storage.find? place with
    | some .folder => none
    | _ => some (storage.put place (.file content))

/-! ## Folders -/

/-- Do the steps say no more than that something is there already?  They do if they are all idle
and one is a dot: slashes alone say only that it is a folder. -/
def presuppose (steps : List PathStep) : Bool :=
  steps.all PathStep.isIdle && steps.contains .here

/-- Make the folders that steps lead through, from a folder that is there.  The answer tells
whether all of them are there now; those that were made before a failure stay. -/
def makeFoldersFrom (storage : Storage) (place : Place) : List PathStep → Bool × Storage
  | [] => (true, storage)
  | step :: rest =>
    let next := place.take step
    match storage.find? next with
    | some .folder => storage.makeFoldersFrom next rest
    | some (.file _) => (false, storage)
    | none =>
      if step.isBounded && !presuppose rest then
        (storage.put next .folder).makeFoldersFrom next rest
      else (false, storage)

/-- **Make the folders** of a path, where they are not there. -/
def makeFolders (storage : Storage) (path : Path) : Bool × Storage :=
  if path.isUsable then storage.makeFoldersFrom path.origin path.steps else (false, storage)

end Storage

end SimCard
