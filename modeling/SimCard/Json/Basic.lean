import SimCard.Octets
import SimCard.Text.Utf16

/-!
# JSON

`JsonValue.parse` reads a JSON text into a tree.  The tree keeps what a reader of records needs to
see: the members of an object in their order, repeated ones included, and numbers by their spelling.

A string can be well formed and still stand for no text, when an escape leaves half of a surrogate
pair alone.  Such a string is in the tree as one without text, so that whoever looks at it can
refuse it and whoever passes over it need not.
-/

set_option autoImplicit false

namespace SimCard

/-- A JSON value. -/
inductive JsonValue where
  | null
  | bool (value : Bool)
  /-- A number, as it is spelled. -/
  | number (spelling : String)
  /-- A string, and the text it stands for if it stands for one. -/
  | text (value : Option String)
  | array (items : List JsonValue)
  | object (members : List (Option String × JsonValue))

namespace JsonValue

/-! ## Strings -/

/-- What a string is made of: characters, and sixteen-bit units that were escaped. -/
abbrev Piece := Char ⊕ UInt16

/-- The character that a short escape stands for. -/
def shortEscape? : Char → Option Char
  | '\x22' => some '\x22'
  | '\x5c' => some '\x5c'
  | '/' => some '/'
  | 'b' => some '\x08'
  | 'f' => some '\x0c'
  | 'n' => some '\n'
  | 'r' => some '\r'
  | 't' => some '\t'
  | _ => none

/-- The unit that four digits spell. -/
def unitOfDigits? (a b c d : Char) : Option UInt16 := do
  let a ← hexValue? a
  let b ← hexValue? b
  let c ← hexValue? c
  let d ← hexValue? d
  return UInt16.ofNat (4096 * a + 256 * b + 16 * c + d)

/-- The pieces of a string up to its closing quote, and what follows the quote.  A control character
must be escaped. -/
def scanString : List Char → Option (List Piece × List Char)
  | [] => none
  | '\x22' :: rest => some ([], rest)
  | '\x5c' :: 'u' :: a :: b :: c :: d :: rest => do
    let unit ← unitOfDigits? a b c d
    let (pieces, rest) ← scanString rest
    return (.inr unit :: pieces, rest)
  | '\x5c' :: mark :: rest => do
    let char ← shortEscape? mark
    let (pieces, rest) ← scanString rest
    return (.inl char :: pieces, rest)
  | char :: rest =>
    if char.toNat < 0x20 ∨ char = '\x5c' then none
    else do
      let (pieces, rest) ← scanString rest
      return (.inl char :: pieces, rest)

/-- The text of pieces, if every surrogate among the units is half of a pair. -/
def textOfPieces? : List Piece → Option (List Char)
  | [] => some []
  | .inl char :: rest => (textOfPieces? rest).map (char :: ·)
  | .inr high :: .inr low :: rest =>
    if Text.isHighSurrogate high then
      if Text.isLowSurrogate low then (textOfPieces? rest).map (Text.pairChar high low :: ·)
      else none
    else if Text.isLowSurrogate high then none
    else (textOfPieces? (.inr low :: rest)).map (Text.unitChar high :: ·)
  | .inr unit :: rest =>
    if Text.isHighSurrogate unit || Text.isLowSurrogate unit then none
    else (textOfPieces? rest).map (Text.unitChar unit :: ·)

/-- A string after its opening quote: its text, and what follows it. -/
def parseString (chars : List Char) : Option (Option String × List Char) :=
  (scanString chars).map fun (pieces, rest) => ((textOfPieces? pieces).map String.ofList, rest)

/-! ## Numbers -/

/-- At least one digit, and what follows the digits. -/
def scanDigits (chars : List Char) : Option (List Char × List Char) :=
  match chars.span Char.isDigit with
  | ([], _) => none
  | found => some found

/-- The whole part of a number: zero alone, or digits that do not start with it. -/
def scanWhole : List Char → Option (List Char × List Char)
  | '0' :: rest => some (['0'], rest)
  | chars => scanDigits chars

/-- The fraction of a number, or nothing. -/
def scanFraction : List Char → Option (List Char × List Char)
  | '.' :: rest => (scanDigits rest).map fun (digits, rest) => ('.' :: digits, rest)
  | chars => some ([], chars)

/-- The exponent of a number, or nothing. -/
def scanExponent : List Char → Option (List Char × List Char)
  | mark :: rest =>
    if mark = 'e' ∨ mark = 'E' then
      match rest with
      | sign :: rest' =>
        if sign = '+' ∨ sign = '-' then
          (scanDigits rest').map fun (digits, rest) => (mark :: sign :: digits, rest)
        else (scanDigits rest).map fun (digits, rest) => (mark :: digits, rest)
      | [] => none
    else some ([], mark :: rest)
  | [] => some ([], [])

/-- A number without its sign. -/
def scanUnsigned (chars : List Char) : Option (List Char × List Char) := do
  let (whole, rest) ← scanWhole chars
  let (fraction, rest) ← scanFraction rest
  let (exponent, rest) ← scanExponent rest
  return (whole ++ fraction ++ exponent, rest)

/-- A number. -/
def parseNumber : List Char → Option (JsonValue × List Char)
  | '-' :: rest =>
    (scanUnsigned rest).map fun (digits, rest) => (.number (String.ofList ('-' :: digits)), rest)
  | chars => (scanUnsigned chars).map fun (digits, rest) => (.number (String.ofList digits), rest)

/-! ## Values -/

/-- Is a character blank space? -/
def isBlank (c : Char) : Bool := c == ' ' || c == '\n' || c == '\t' || c == '\r'

/-- What follows blank space. -/
def skipBlank (chars : List Char) : List Char := chars.dropWhile isBlank

mutual

/-- A value, and what follows it. -/
def parseValue : Nat → List Char → Option (JsonValue × List Char)
  | 0, _ => none
  | fuel + 1, chars =>
    match skipBlank chars with
    | 'n' :: 'u' :: 'l' :: 'l' :: rest => some (.null, rest)
    | 't' :: 'r' :: 'u' :: 'e' :: rest => some (.bool true, rest)
    | 'f' :: 'a' :: 'l' :: 's' :: 'e' :: rest => some (.bool false, rest)
    | '\x22' :: rest => (parseString rest).map fun (found, rest) => (.text found, rest)
    | '[' :: rest =>
      match skipBlank rest with
      | ']' :: rest => some (.array [], rest)
      | rest => (parseItems fuel rest).map fun (items, rest) => (.array items, rest)
    | '\x7b' :: rest =>
      match skipBlank rest with
      | '\x7d' :: rest => some (.object [], rest)
      | rest => (parseMembers fuel rest).map fun (members, rest) => (.object members, rest)
    | rest => parseNumber rest

/-- The items of an array from the next one on, and what follows the array. -/
def parseItems : Nat → List Char → Option (List JsonValue × List Char)
  | 0, _ => none
  | fuel + 1, chars => do
    let (item, rest) ← parseValue fuel chars
    match skipBlank rest with
    | ']' :: rest => return ([item], rest)
    | ',' :: rest =>
      let (items, rest) ← parseItems fuel rest
      return (item :: items, rest)
    | _ => none

/-- The members of an object from the next one on, and what follows the object. -/
def parseMembers : Nat → List Char → Option (List (Option String × JsonValue) × List Char)
  | 0, _ => none
  | fuel + 1, chars =>
    match skipBlank chars with
    | '\x22' :: rest => do
      let (key, rest) ← parseString rest
      match skipBlank rest with
      | ':' :: rest =>
        let (value, rest) ← parseValue fuel rest
        match skipBlank rest with
        | '\x7d' :: rest => return ([(key, value)], rest)
        | ',' :: rest =>
          let (members, rest) ← parseMembers fuel rest
          return ((key, value) :: members, rest)
        | _ => none
      | _ => none
    | _ => none

end

/-- **The value that a text spells**, if it is JSON and nothing else.  Every step into a value takes
at least half a character, so twice the length of the text is enough. -/
def parse (text : String) : Option JsonValue := do
  let (value, rest) ← parseValue (2 * text.toList.length + 2) text.toList
  if (skipBlank rest).isEmpty then some value else none

/-! ## Records -/

/-- The member of a name: `some none` when there is none, and nothing at all when there are several.
-/
def member? (members : List (String × JsonValue)) (name : String) : Option (Option JsonValue) :=
  match members.filter fun member => member.1 == name with
  | [] => some none
  | [member] => some (some member.2)
  | _ => none

/-- **The fields of a record** by their names, in order.  A record is written as an object, whose
other members are ignored, or as an array of at least `least` of its fields. -/
def fields? (least : Nat) (names : List String) : JsonValue → Option (List (Option JsonValue))
  | .object members => do
    let named ← members.mapM fun (key, value) => key.map fun name => (name, value)
    names.mapM (member? named)
  | .array items =>
    if least ≤ items.length ∧ items.length ≤ names.length then
      some (items.map some ++ List.replicate (names.length - items.length) none)
    else none
  | _ => none

/-- A truth value. -/
def bool? : JsonValue → Option Bool
  | .bool value => some value
  | _ => none

/-- A text. -/
def text? : JsonValue → Option String
  | .text value => value
  | _ => none

/-- A field that may be null or absent. -/
def optional {α : Type} (read : JsonValue → Option α) : Option JsonValue → Option (Option α)
  | none => some none
  | some .null => some none
  | some value => (read value).map some

/-- A field that may be absent, with what it then is. -/
def withDefault {α : Type} (absent : α) (read : JsonValue → Option α) : Option JsonValue → Option α
  | none => some absent
  | some value => read value

end JsonValue

/-! ## Writing -/

namespace JsonText

/-- A digit in lower case. -/
def lowerDigit (value : Nat) : Char := (hexDigit value).toLower

/-- A character inside a string: quote, backslash and control characters are escaped, and nothing
else. -/
def escape (c : Char) : List Char :=
  if c = '\x22' then ['\x5c', '\x22']
  else if c = '\x5c' then ['\x5c', '\x5c']
  else if c = '\x08' then ['\x5c', 'b']
  else if c = '\t' then ['\x5c', 't']
  else if c = '\n' then ['\x5c', 'n']
  else if c = '\x0c' then ['\x5c', 'f']
  else if c = '\r' then ['\x5c', 'r']
  else if c.toNat < 0x20 then
    ['\x5c', 'u', '0', '0', lowerDigit (c.toNat / 16), lowerDigit (c.toNat % 16)]
  else [c]

/-- A string. -/
def quote (text : String) : List Char := '\x22' :: text.toList.flatMap escape ++ ['\x22']

/-- Nothing. -/
def null : List Char := ['n', 'u', 'l', 'l']

/-- A truth value. -/
def ofBool (value : Bool) : List Char :=
  if value then ['t', 'r', 'u', 'e'] else ['f', 'a', 'l', 's', 'e']

/-- Something, or nothing. -/
def ofOption {α : Type} (write : α → List Char) : Option α → List Char
  | some a => write a
  | none => null

/-- A record on one line without spaces. -/
def compact (fields : List (String × List Char)) : List Char :=
  let members := fields.map fun field => quote field.1 ++ ':' :: field.2
  '\x7b' :: List.intercalate [','] members ++ ['\x7d']

/-- A record with a line for each field, two spaces in. -/
def pretty (fields : List (String × List Char)) : List Char :=
  let lines := fields.map fun field => ' ' :: ' ' :: quote field.1 ++ ':' :: ' ' :: field.2
  '\x7b' :: '\n' :: List.intercalate [',', '\n'] lines ++ ['\n', '\x7d']

end JsonText

end SimCard
