/-!
# Paths

A path is written as steps with slashes between them.  A step is a name, two dots for the way up,
one dot for no move at all, or nothing, as between two slashes in a row.  The steps are all kept,
because a path that ends in a slash or in a dot is not the same as the path without it: only a
folder can be named that way.

A path that starts with a slash starts at the outermost folder, every other one at the folder
where paths start.  A `Place` is where a path can lead.
-/

set_option autoImplicit false

namespace SimCard

/-! ## Steps -/

/-- What stands between two slashes of a path. -/
inductive PathStep where
  /-- Nothing. -/
  | blank
  /-- One dot: stay here. -/
  | here
  /-- Two dots: go to the folder that this one lies in. -/
  | up
  /-- The name of a file or folder. -/
  | name (text : String)
deriving Repr, DecidableEq

namespace PathStep

/-- The step that a text without slashes stands for. -/
def ofText (text : String) : PathStep :=
  if text == "" then .blank
  else if text == "." then .here
  else if text == ".." then .up
  else .name text

/-- The text of a step. -/
def text : PathStep → String
  | blank => ""
  | here => "."
  | up => ".."
  | name text => text

/-- Does the step stay where it is? -/
def isIdle : PathStep → Bool
  | blank | here => true
  | up | name _ => false

/-- The most octets that a name can have. -/
def maxSize : Nat := 255

/-- Names are bounded; a longer one can be written, but there is nothing of that name. -/
def isBounded (step : PathStep) : Bool :=
  step.text.utf8ByteSize ≤ maxSize

end PathStep

/-! ## Paths -/

/-- **A path**, as the steps between its slashes.  The empty text is one blank step. -/
structure Path where
  steps : List PathStep
deriving Repr, DecidableEq

namespace Path

/-- The path that a text stands for. -/
def ofText (text : String) : Path :=
  ⟨(text.splitOn "/").map PathStep.ofText⟩

/-- The number of octets of the text of some steps, with the slashes between them. -/
def textSize : List PathStep → Nat
  | [] => 0
  | [step] => step.text.utf8ByteSize
  | step :: rest => step.text.utf8ByteSize + 1 + textSize rest

/-- The most octets that a path can have. -/
def maxSize : Nat := 4095

/-- Can the path be used at all?  It must not be too long, and must not hold the zero character. -/
def isUsable (path : Path) : Bool :=
  textSize path.steps ≤ maxSize && path.steps.all fun step => !step.text.toList.contains '\x00'

/-- The steps without the idle ones at their end. -/
def trim (steps : List PathStep) : List PathStep :=
  (steps.reverse.dropWhile PathStep.isIdle).reverse

/-- The path without its last step, where idle steps at the end do not count: the folder that the
path lies in, if the last step is a name. -/
def folder (path : Path) : Path :=
  ⟨trim (trim path.steps).dropLast⟩

/-- The path with names added to it. -/
def append (path : Path) (names : List String) : Path :=
  let steps := if path.steps.getLast? = some .blank then path.steps.dropLast else path.steps
  ⟨steps ++ names.map .name⟩

end Path

/-! ## Places -/

/-- Where a path can lead. -/
inductive Place where
  /-- The outermost folder. -/
  | top
  /-- The folder that lies some levels above the one where paths start. -/
  | start (above : Nat)
  /-- What has a name in a folder. -/
  | inside (outer : Place) (name : String)
deriving Repr, DecidableEq

namespace Place

/-- The folder that a place lies in; the outermost folder lies in itself. -/
def outer : Place → Place
  | top => top
  | start above => start (above + 1)
  | inside place _ => place

/-- The place that one step leads to. -/
def take (place : Place) : PathStep → Place
  | .blank | .here => place
  | .up => place.outer
  | .name text => place.inside text

end Place

/-- The place where a path starts. -/
def Path.origin (path : Path) : Place :=
  match path.steps with
  | .blank :: _ :: _ => .top
  | _ => .start 0

end SimCard
