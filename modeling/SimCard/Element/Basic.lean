import SimCard.Element.Length
import SimCard.Element.Value

/-!
# Elements

An element is a tag, a length and a value.  Its tag has one octet, or three of which the first is a
marker; beside the tag proper it carries a flag that asks the receiver to understand the element.  A
template is an element of one octet's tag whose value is a list of elements.

Reading (`Element.read`, `Element.readList`, `Template.read`) goes through a cursor, and a failure
leaves the cursor where the trouble is.  `Element.readList` reads elements until the octets it was
told about are used up: the last element may end beyond them.

Blocks are the simpler elements that files of the card are made of: one octet of tag, one of length.
-/

set_option autoImplicit false

namespace SimCard

/-- An element of a toolkit message. -/
structure Element where
  /-- The tag without its flag: seven bits, or fifteen in the long form. -/
  tag : UInt16
  /-- Must the receiver understand the element? -/
  required : Bool
  /-- Is the tag in the long form? -/
  isLong : Bool
  /-- The length that was read.  Writing goes by the value. -/
  length : Nat
  value : Value
deriving Repr, DecidableEq

namespace Element

/-- The element of a tag of one octet and a value. -/
def ofValue (tag : UInt8) (required : Bool) (value : Value) : Element :=
  { tag := (tag &&& 0x7F).toUInt16, required, isLong := false
    length := value.toOctets.length, value }

/-- The tag of an element whose tag has one octet. -/
def code? (element : Element) : Option UInt8 :=
  if element.isLong then none else some element.tag.toUInt8

/-! ## Writing -/

/-- A tag of one octet, flag included, with the octets of a value. -/
def field (tag : UInt8) (value : Octets) : Octets := tag :: Length.toOctets value.length ++ value

/-- The octets of the tag, flag included. -/
def tagOctets (element : Element) : Octets :=
  if element.isLong then
    Tag.longMarker ::
      word16Octets ((element.tag &&& 0x7FFF) ||| (if element.required then 0x8000 else 0))
  else
    [(element.tag.toUInt8 &&& 0x7F) ||| (if element.required then Tag.requiredFlag else 0)]

/-- The octets of an element. -/
def toOctets (element : Element) : Octets :=
  let value := element.value.toOctets
  element.tagOctets ++ Length.toOctets value.length ++ value

/-! ## Reading -/

/-- The tag, its flag, and whether it is in the long form. -/
def readTag : Reader ElementError (UInt16 × Bool × Bool) := do
  let first ← Cursor.readOctet
  if first = 0x00 ∨ first = 0x80 ∨ first = 0xFF then
    Step.fail (.invalidTag first)
  else if first = Tag.longMarker then
    let tag ← Cursor.readWord16
    return (tag &&& 0x7FFF, tag &&& 0x8000 != 0, true)
  else
    return ((first &&& 0x7F).toUInt16, first &&& Tag.requiredFlag != 0, false)

/-- The next element.  The value of a tag in the long form has no interpretation. -/
def read : Reader ElementError Element := do
  let (tag, required, isLong) ← readTag
  let (length, _) ← Length.read
  let octets ← Cursor.readOctets length
  let value := if isLong then .raw octets else Value.interpret tag.toUInt8 octets
  return { tag, required, isLong, length, value }

/-- Elements until `budget` octets are used up, at most `fuel` of them. -/
def readWithin : Nat → Nat → Reader ElementError (List Element)
  | 0, _ => pure []
  | fuel + 1, budget => do
    if budget = 0 then
      return []
    let before ← Step.get
    let element ← read
    let after ← Step.get
    let rest ← readWithin fuel (budget - (after.readIndex - before.readIndex))
    return element :: rest

/-- The elements in the next `budget` octets.  An element takes at least one octet, so no more of
them can be read than there are octets left. -/
def readList (budget : Nat) : Reader ElementError (List Element) := fun c =>
  readWithin (c.remaining + 1) budget c

/-! ## Searching -/

/-- Has an element this tag of one octet, whatever its flag? -/
def isTagged (tag : UInt8) (element : Element) : Bool := element.code? == some tag

/-- Where the elements with a tag stand in a list, from the front. -/
def positions (tag : UInt8) (elements : List Element) : List Nat :=
  (elements.zipIdx.filter fun entry => entry.1.isTagged tag).map (·.2)

/-- The first element with a tag. -/
def search? (tag : UInt8) (elements : List Element) : Option Element :=
  elements.find? (isTagged tag)

/-- The next element with a tag, and the elements behind it, where the search can be taken up
again. -/
def searchNext (tag : UInt8) : List Element → Option Element × List Element
  | [] => (none, [])
  | element :: rest => if element.isTagged tag then (some element, rest) else searchNext tag rest

end Element

/-! ## Templates -/

/-- A list of elements under one tag. -/
structure Template where
  tag : UInt8
  length : Nat
  elements : List Element
deriving Repr, DecidableEq

namespace Template

/-- The template of elements. -/
def ofElements (tag : UInt8) (elements : List Element) : Template :=
  { tag, length := (elements.flatMap Element.toOctets).length, elements }

/-- The octets of a template. -/
def toOctets (template : Template) : Octets :=
  Element.field template.tag (template.elements.flatMap Element.toOctets)

/-- The command of the card in the next octets, `size` of which are there for it. -/
def read (size : Nat) : Reader ElementError Template := do
  let tag ← Cursor.readOctet
  if tag ≠ Template.Tag.proactiveCommand.code then
    Step.fail (.unknownTemplate tag)
  else
    let (length, lengthSize) ← Length.read
    let available := size - (1 + lengthSize)
    if available < length then
      Step.fail (.tooLong length available)
    else
      let elements ← Element.readList length
      return { tag, length, elements }

end Template

/-! ## Blocks -/

/-- An element of one octet each of tag and length. -/
structure Block where
  tag : UInt8
  length : Nat
  value : Octets
deriving Repr, DecidableEq

namespace Block

/-- The next block. -/
def read : Reader ElementError Block := do
  let tag ← Cursor.readOctet
  let length ← Cursor.readOctet
  let value ← Cursor.readOctets length.toNat
  return { tag, length := length.toNat, value }

/-- Blocks until `budget` octets are used up, at most `fuel` of them. -/
def readWithin : Nat → Nat → Reader ElementError (List Block)
  | 0, _ => pure []
  | fuel + 1, budget => do
    if budget = 0 then
      return []
    let block ← read
    let rest ← readWithin fuel (budget - (2 + block.length))
    return block :: rest

/-- The blocks in the next `budget` octets.  The last one may end beyond them. -/
def readList (budget : Nat) : Reader ElementError (List Block) := fun c =>
  readWithin (c.remaining + 1) budget c

end Block

end SimCard
