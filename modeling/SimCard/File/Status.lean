import SimCard.Octets

/-!
# Status words

A card ends every answer with a word of two octets.  Its high octet says how things went: `0x90`,
`0x91` and `0x9F` are normal endings, and then the low octet can count something that is waiting.
-/

set_option autoImplicit false

namespace SimCard

namespace Status

/-- The word of a plain normal ending. -/
def success : UInt16 := 0x9000

/-- The high octet. -/
def first (status : UInt16) : UInt8 := UInt8.ofNat (status.toNat / 256)

/-- The low octet. -/
def second (status : UInt16) : UInt8 := UInt8.ofNat status.toNat

/-- Did the command end normally? -/
def isSuccess (status : UInt16) : Bool := [0x90, 0x91, 0x9F].contains (first status)

/-- The length of the command that the card has waiting. -/
def waitingCommand? (status : UInt16) : Option UInt8 :=
  if first status = 0x91 then some (second status) else none

/-- The length of the answer that is ready to be fetched. -/
def waitingAnswer? (status : UInt16) : Option UInt8 :=
  if first status = 0x9F then some (second status) else none

/-- Words that have a meaning of their own. -/
def namedWords : List (UInt16 × String) :=
  [(0x9000, "normal ending"), (0x9400, "no EF selected"), (0x9402, "out of range"),
   (0x9404, "file or pattern not found"), (0x9408, "file inconsistent with command"),
   (0x9802, "no CHV initialized"), (0x9804, "access condition not fulfilled"),
   (0x9808, "in contradiction with CHV status"),
   (0x9810, "in contradiction with invalidation status"), (0x9840, "CHV blocked"),
   (0x9850, "increase cannot be performed")]

/-- What a high octet means when the word has no meaning of its own. -/
def namedClasses : List (UInt8 × String) :=
  [(0x92, "memory problem"), (0x67, "incorrect parameter P3"),
   (0x6B, "incorrect parameter P1 or P2"), (0x6D, "unknown instruction code"),
   (0x6E, "wrong instruction class"), (0x6F, "technical problem")]

/-- What a status word means, in words. -/
def describe (status : UInt16) : String :=
  match namedWords.lookup status with
  | some text => text
  | none =>
    if isSuccess status then "normal ending"
    else (namedClasses.lookup (first status)).getD "unknown status"

end Status

end SimCard
