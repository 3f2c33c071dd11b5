import SimCard.Octets

/-!
# Alphabets of seven bits

A septet means a character through two tables of 128 places.  The *locking* table gives its meaning
by default; the septet `escape` says that the next one is to be looked up in the *single shift*
table instead.  Each national language brings its own pair of tables, and Spanish, which defines no
locking table, uses the common one.

Two places of the tables hold no character of any text.  Where `escape` itself stands there is the
placeholder `escapeMark`, and in the single shift tables the reserved control septet has the
placeholder `controlMark`.  Encoding never produces them from a text, and decoding shows either of
them as a space.

* `Language.lockingSeptet?` and `Language.shiftSeptet?` look a character up: the first place that
  holds it.
* `charUnits` is how a character is written under a pair of tables, with the escape where it needs
  one; it is empty for a character that neither table holds.
* `decodeUnits` reads units back.
-/

set_option autoImplicit false

namespace SimCard

/-- The languages that have tables of their own. -/
inductive Language where
  | standard
  | turkish
  | spanish
deriving Repr, DecidableEq, Inhabited

namespace Text

/-- The septet that sends the next one to the single shift table. -/
def escape : UInt8 := 0x1B

/-- The reserved septet of the single shift tables. -/
def reservedControl : UInt8 := 0x0D

/-- What stands in a table at the place of `escape`. -/
def escapeMark : Char := '\uffff'

/-- What stands in a single shift table at the place of `reservedControl`. -/
def controlMark : Char := '\ufffe'

/-- A table of 128 characters, indexed by septet. -/
abbrev Table := List Char

/-! ## The tables -/

/-- The common locking table. -/
def standardLocking : Table :=
  ['@', '£', '$', '¥', 'è', 'é', 'ù', 'ì', 'ò', 'Ç', '\n', 'Ø', 'ø', '\r', 'Å', 'å',
   'Δ', '_', 'Φ', 'Γ', 'Λ', 'Ω', 'Π', 'Ψ', 'Σ', 'Θ', 'Ξ', escapeMark, 'Æ', 'æ', 'ß', 'É',
   ' ', '!', '\x22', '#', '¤', '%', '&', '\x27', '(', ')', '*', '+', ',', '-', '.', '/',
   '0', '1', '2', '3', '4', '5', '6', '7', '8', '9', ':', ';', '<', '=', '>', '?',
   '¡', 'A', 'B', 'C', 'D', 'E', 'F', 'G', 'H', 'I', 'J', 'K', 'L', 'M', 'N', 'O',
   'P', 'Q', 'R', 'S', 'T', 'U', 'V', 'W', 'X', 'Y', 'Z', 'Ä', 'Ö', 'Ñ', 'Ü', '§',
   '¿', 'a', 'b', 'c', 'd', 'e', 'f', 'g', 'h', 'i', 'j', 'k', 'l', 'm', 'n', 'o',
   'p', 'q', 'r', 's', 't', 'u', 'v', 'w', 'x', 'y', 'z', 'ä', 'ö', 'ñ', 'ü', 'à']

/-- The Turkish locking table. -/
def turkishLocking : Table :=
  ['@', '£', '$', '¥', '€', 'é', 'ù', 'ı', 'ò', 'Ç', '\n', 'Ğ', 'ğ', '\r', 'Å', 'å',
   'Δ', '_', 'Φ', 'Γ', 'Λ', 'Ω', 'Π', 'Ψ', 'Σ', 'Θ', 'Ξ', escapeMark, 'Ş', 'ş', 'ß', 'É',
   ' ', '!', '\x22', '#', '¤', '%', '&', '\x27', '(', ')', '*', '+', ',', '-', '.', '/',
   '0', '1', '2', '3', '4', '5', '6', '7', '8', '9', ':', ';', '<', '=', '>', '?',
   'İ', 'A', 'B', 'C', 'D', 'E', 'F', 'G', 'H', 'I', 'J', 'K', 'L', 'M', 'N', 'O',
   'P', 'Q', 'R', 'S', 'T', 'U', 'V', 'W', 'X', 'Y', 'Z', 'Ä', 'Ö', 'Ñ', 'Ü', '§',
   'ç', 'a', 'b', 'c', 'd', 'e', 'f', 'g', 'h', 'i', 'j', 'k', 'l', 'm', 'n', 'o',
   'p', 'q', 'r', 's', 't', 'u', 'v', 'w', 'x', 'y', 'z', 'ä', 'ö', 'ñ', 'ü', 'à']

/-- What every single shift table holds. -/
def commonShiftEntries : List (Nat × Char) :=
  [(0x0A, '\x0c'), (0x14, '^'), (0x28, '\x7b'), (0x29, '\x7d'), (0x2F, '\x5c'), (0x3C, '['),
   (0x3D, '~'), (0x3E, ']'), (0x40, '|'), (0x65, '€')]

/-- What Turkish adds. -/
def turkishShiftEntries : List (Nat × Char) :=
  [(0x47, 'Ğ'), (0x49, 'İ'), (0x53, 'Ş'), (0x63, 'ç'), (0x67, 'ğ'), (0x69, 'ı'), (0x73, 'ş')]

/-- What Spanish adds. -/
def spanishShiftEntries : List (Nat × Char) :=
  [(0x09, 'ç'), (0x41, 'Á'), (0x49, 'Í'), (0x4F, 'Ó'), (0x55, 'Ú'), (0x61, 'á'), (0x69, 'í'),
   (0x6F, 'ó'), (0x75, 'ú')]

/-- The single shift table with the common entries, those of `extra` and the two placeholders;
every other place is a space. -/
def shiftTable (extra : List (Nat × Char)) : Table :=
  let placed := (commonShiftEntries ++ extra).foldl (fun table entry => table.set entry.1 entry.2)
    (List.replicate 128 ' ')
  (placed.set reservedControl.toNat controlMark).set escape.toNat escapeMark

end Text

namespace Language

/-- The number that stands for a language in message headers. -/
def identifier : Language → UInt8
  | .standard => 0
  | .turkish => 1
  | .spanish => 2

/-- The language a number stands for. -/
def ofIdentifier? (identifier : UInt8) : Option Language :=
  [standard, turkish, spanish].find? (·.identifier == identifier)

/-- The name of a language in settings. -/
def name : Language → String
  | .standard => "default"
  | .turkish => "turkish"
  | .spanish => "spanish"

/-- The language of a name. -/
def ofName? (name : String) : Option Language :=
  [standard, turkish, spanish].find? (·.name == name)

/-- The meaning of a septet by default. -/
def lockingTable : Language → Text.Table
  | .standard | .spanish => Text.standardLocking
  | .turkish => Text.turkishLocking

/-- The meaning of a septet after an escape. -/
def singleShiftTable : Language → Text.Table
  | .standard => Text.shiftTable []
  | .turkish => Text.shiftTable Text.turkishShiftEntries
  | .spanish => Text.shiftTable Text.spanishShiftEntries

/-- The septet of a character in the locking table; the escape place never counts. -/
def lockingSeptet? (lang : Language) (c : Char) : Option UInt8 :=
  if c = Text.escapeMark then none else (lang.lockingTable.idxOf? c).map UInt8.ofNat

/-- The septet of a character in the single shift table; the placeholders never count. -/
def shiftSeptet? (lang : Language) (c : Char) : Option UInt8 :=
  if c = Text.escapeMark ∨ c = Text.controlMark then none
  else (lang.singleShiftTable.idxOf? c).map UInt8.ofNat

/-- The character a septet stands for by default. -/
def lockingChar (lang : Language) (septet : UInt8) : Char :=
  lang.lockingTable.getD (septet &&& 0x7F).toNat ' '

/-- The character a septet stands for after an escape; the placeholders are shown as a space. -/
def shiftChar (lang : Language) (septet : UInt8) : Char :=
  let c := lang.singleShiftTable.getD (septet &&& 0x7F).toNat ' '
  if c = Text.escapeMark ∨ c = Text.controlMark then ' ' else c

end Language

namespace Text

/-! ## Texts as units -/

/-- How a character is written: one septet of the locking table, or an escape and one of the single
shift table.  A character in neither is not written at all. -/
def charUnits (lang shift : Language) (c : Char) : List UInt8 :=
  match lang.lockingSeptet? c, shift.shiftSeptet? c with
  | some septet, _ => [septet]
  | none, some septet => [escape, septet]
  | none, none => []

/-- A text as units, escapes included; characters in neither table are dropped. -/
def encodeUnits (lang shift : Language) (text : List Char) : List UInt8 :=
  text.flatMap (charUnits lang shift)

/-- The text that units stand for.  An escape at the very end stands for nothing. -/
def decodeUnits (lang shift : Language) : List UInt8 → List Char
  | [] => []
  | [unit] => if unit = escape then [] else [lang.lockingChar unit]
  | unit :: next :: rest =>
    if unit = escape then shift.shiftChar next :: decodeUnits lang shift rest
    else lang.lockingChar unit :: decodeUnits lang shift (next :: rest)

/-- Is every character of a text in one of the two common tables? -/
def isStandardAlphabet (text : List Char) : Bool :=
  text.all fun c =>
    Language.standard.lockingTable.contains c || Language.standard.singleShiftTable.contains c

/-- How many septets a text takes, escapes included. -/
def septetLength (lang shift : Language) (text : List Char) : Nat :=
  (encodeUnits lang shift text).length

end Text

end SimCard
