import SimCard.Proofs.Framing
import SimCard.Proofs.NormalForm
import SimCard.Toolkit.Response

/-!
# Messages to the card, read back

A message of the terminal is a list of fields, each a tag octet and the octets of a value.  The
reader of elements takes such a message apart again: one element for each field, in the same order,
with what the octets of the field stand for under its tag (`Field.element`).  That is
`readList_fieldsOctets`, and it needs no more than tags of one octet and values that a length field
can count.

What a message says is put together from what its fields say: `Says` composes along `++`, so that
optional fields can be dealt with one by one.  The fields that several messages share are dealt with
here.

The shortest answer to a command says which command it answers and how that went
(`Response.readList_bare`).
-/

set_option autoImplicit false

namespace SimCard

/-! ## Fields and elements -/

namespace Field

/-- **The element that a field is read as.** -/
def element (entry : Field) : Element where
  tag := (entry.1 &&& 0x7F).toUInt16
  required := entry.1 &&& Tag.requiredFlag != 0
  isLong := false
  length := entry.2.length
  value := Value.interpret (entry.1 &&& 0x7F).toUInt16.toUInt8 entry.2

variable {entry : Field}

theorem frame_element (htag : Element.IsShortTag entry.1) :
    entry.element.frame entry.2 = Element.field entry.1 entry.2 := by
  obtain ⟨-, hoctet⟩ := Element.shortTag_of_octet entry.1 htag
  have htagOctets : entry.element.tagOctets = [entry.1] := by
    rw [Element.tagOctets, if_neg (by simp [element])]
    exact congrArg (fun octet => [octet]) hoctet
  rw [Element.frame, htagOctets]
  rfl

theorem isFrame_element (htag : Element.IsShortTag entry.1) (hlength : entry.2.length < 0x1000000) :
    entry.element.IsFrame (Element.field entry.1 entry.2) := by
  obtain ⟨hfits, -⟩ := Element.shortTag_of_octet entry.1 htag
  exact ⟨entry.2, ⟨hfits, rfl, hlength, rfl⟩, (frame_element htag).symm⟩

end Field

/-- **A message is read back** field by field, and nothing of it is left. -/
theorem readList_fieldsOctets {fields : List Field}
    (htags : ∀ entry ∈ fields, Element.IsShortTag entry.1)
    (hlengths : ∀ entry ∈ fields, entry.2.length < 0x1000000) {c : Cursor} {tail : Octets}
    (hrest : c.rest = fieldsOctets fields ++ tail) :
    Element.readList (fieldsOctets fields).length c =
      (.ok (fields.map Field.element), c.advance (fieldsOctets fields).length) := by
  have hframes : ∀ entry ∈ fields, entry.element.IsFrame (Element.field entry.1 entry.2) :=
    fun entry hentry => Field.isFrame_element (htags entry hentry) (hlengths entry hentry)
  have hfills := fills_flatMap Field.element hframes fun _ _ => Element.IsFrame.ne_nil
  exact Element.yields_readList.2 ⟨_, hfills, Cursor.takes_of_rest_eq hrest⟩

/-! ## What fields say -/

namespace Element

/-- An element with a tag of one octet, by all that can be read of it. -/
def said (tag : Tag) (required : Bool) (length : Nat) (value : Value) : Element :=
  { tag := tag.code.toUInt16, required, isLong := false, length, value }

end Element

/-- Under a tag that is known, octets are what the tag makes of them, or else just octets. -/
theorem Value.interpret_code (tag : Tag) (octets : Octets) :
    interpret tag.code octets = (ofOctets? tag octets).getD (.raw octets) := by
  have htag : Tag.ofCode? tag.code = some tag := by cases tag <;> decide
  rw [interpret, htag, Option.bind_some]

/-- **Fields say elements**: they can be sent, and these elements are what they are read as. -/
structure Says (fields : List Field) (elements : List Element) : Prop where
  elements_eq : fields.map Field.element = elements
  isShortTag : ∀ entry ∈ fields, Element.IsShortTag entry.1
  length_lt : ∀ entry ∈ fields, entry.2.length < 0x1000000

theorem says_nil : Says [] [] := ⟨rfl, by simp, by simp⟩

/-- Messages are put together. -/
theorem Says.append {fields fields' : List Field} {elements elements' : List Element}
    (h : Says fields elements) (h' : Says fields' elements') :
    Says (fields ++ fields') (elements ++ elements') := by
  refine ⟨?_, ?_, ?_⟩
  · rw [List.map_append, h.elements_eq, h'.elements_eq]
  · exact List.forall_mem_append.2 ⟨h.isShortTag, h'.isShortTag⟩
  · exact List.forall_mem_append.2 ⟨h.length_lt, h'.length_lt⟩

theorem Says.cons {entry : Field} {fields : List Field} {element : Element}
    {elements : List Element} (h : Says [entry] [element]) (h' : Says fields elements) :
    Says (entry :: fields) (element :: elements) :=
  h.append h'

/-- A field that may be missing says nothing when it is. -/
theorem says_option {α : Type} {field : α → Field} {element : α → Element} {x : Option α}
    (h : ∀ a, x = some a → Says [field a] [element a]) :
    Says (x.map field).toList (x.map element).toList := by
  cases x with
  | none => exact says_nil
  | some a => exact h a rfl

/-- **One field**, with the flag or without it. -/
theorem says_field (tag : Tag) (required : Bool) {octets : Octets} {value : Value}
    (hvalue : (Value.ofOctets? tag octets).getD (.raw octets) = value)
    (hlength : octets.length < 0x1000000) :
    Says [(if required then tag.required else tag.code, octets)]
      [.said tag required octets.length value] := by
  obtain ⟨htag, hcode, hflag⟩ :
      let octet := if required then tag.required else tag.code
      Element.IsShortTag octet ∧ octet &&& 0x7F = tag.code ∧
        (octet &&& Tag.requiredFlag != 0) = required := by
    cases tag <;> cases required <;> decide
  refine ⟨?_, by simpa using htag, by simpa using hlength⟩
  have hnarrow : tag.code.toUInt16.toUInt8 = tag.code := UInt8.toUInt8_toUInt16 tag.code
  rw [List.map_singleton, Field.element, Element.said]
  simp only [hcode, hflag, hnarrow, Value.interpret_code, hvalue]

/-- A required field. -/
theorem says_required (tag : Tag) {octets : Octets} {value : Value}
    (hvalue : (Value.ofOctets? tag octets).getD (.raw octets) = value)
    (hlength : octets.length < 0x1000000) :
    Says [(tag.required, octets)] [.said tag true octets.length value] :=
  says_field tag true hvalue hlength

/-- A field without the flag. -/
theorem says_plain (tag : Tag) {octets : Octets} {value : Value}
    (hvalue : (Value.ofOctets? tag octets).getD (.raw octets) = value)
    (hlength : octets.length < 0x1000000) :
    Says [(tag.code, octets)] [.said tag false octets.length value] :=
  says_field tag false hvalue hlength

/-- **A message is read as what it says**, and nothing of it is left. -/
theorem Says.readList_eq {fields : List Field} {elements : List Element} (h : Says fields elements)
    {c : Cursor} {tail : Octets} (hrest : c.rest = fieldsOctets fields ++ tail) :
    Element.readList (fieldsOctets fields).length c =
      (.ok elements, c.advance (fieldsOctets fields).length) := by
  rw [readList_fieldsOctets h.isShortTag h.length_lt hrest, h.elements_eq]

/-! ## Fields that several messages share -/

/-- The octets that stand for a location. -/
def Location.octets (place : Location) : Octets := (Field.location place).2

theorem Location.length_octets (place : Location) :
    place.octets.length = if place.cell ≤ 0xFFFF then 7 else 9 := by
  rw [octets, Field.location]
  by_cases h : place.cell ≤ 0xFFFF
  · have hwide : ¬ 0xFFFF < place.cell := UInt32.not_lt.2 h
    rw [if_pos h, if_neg hwide]
    rfl
  · have hwide : 0xFFFF < place.cell := UInt32.not_le.1 h
    rw [if_neg h, if_pos hwide]
    rfl

/-- What is read of a location are its octets. -/
def Element.location (place : Location) : Element :=
  .said .locationInformation true (if place.cell ≤ 0xFFFF then 7 else 9) (.raw place.octets)

theorem says_location (place : Location) : Says [Field.location place] [.location place] := by
  have hlength := place.length_octets
  have hlt : place.octets.length < 0x1000000 := by
    rw [hlength]
    split <;> decide
  have h := @says_required .locationInformation place.octets _ rfl hlt
  rwa [hlength] at h

/-- The seconds that a timer shows: it has two digits for the hours, and stays at `99` of them. -/
def shownSeconds (seconds : Nat) : Nat :=
  if seconds < 360000 then seconds else 99 * 3600 + seconds % 3600

theorem Value.secondsOf_timerOctets (seconds : Nat) :
    ofOctets? .timerValue (timerOctets seconds) = some (.timerValue (shownSeconds seconds)) := by
  by_cases h : seconds < 360000
  · rw [ofOctets?_timerOctets h, shownSeconds, if_pos h]
  · have hhours : min (seconds / 3600) 99 = 99 := by omega
    have hsum : 99 * 3600 + seconds % 3600 / 60 * 60 + seconds % 60 =
        99 * 3600 + seconds % 3600 := by
      omega
    rw [timerOctets, hhours, ofOctets?, secondsOf, Timestamp.octetField_fieldOctet (by omega),
      Timestamp.octetField_fieldOctet (by omega), Timestamp.octetField_fieldOctet (by omega), hsum,
      shownSeconds, if_neg h]

/-- The value of a timer. -/
def Element.timerValue (required : Bool) (seconds : Nat) : Element :=
  .said .timerValue required 3 (.timerValue (shownSeconds seconds))

theorem says_timerValue (required : Bool) (seconds : Nat) :
    Says [Field.timerValue required seconds] [.timerValue required seconds] := by
  refine says_field .timerValue required ?_ (show 3 < 0x1000000 by decide)
  rw [Value.secondsOf_timerOctets, Option.getD_some]

/-- What is read of a language: as much of its code as two octets hold. -/
def Element.language (code : String) : Element :=
  .said .language false 2
    (.language (String.ofList (Text.decodeEightBit (Text.eightBitField 2 code.toList))))

theorem says_language (code : String) : Says [Field.language code] [.language code] := by
  have hlength := Text.length_eightBitField 2 code.toList
  have h := @says_plain .language (Text.eightBitField 2 code.toList) _ rfl
    (by rw [hlength]; decide)
  rwa [hlength] at h

/-- A code of common characters that has room in two octets is read back. -/
theorem Element.language_eq {code : String} (hlength : Text.eightBitLength code ≤ 2)
    (hunits : ∀ c ∈ code.toList, Text.HasUnits .standard .standard c) :
    Element.language code = .said .language false 2 (.language code) := by
  have hkept : Text.takeWithin Text.eightBitCost 2 code.toList = code.toList :=
    Text.takeWithin_eq_self (fun _ => rfl) hlength
  rw [Element.language, Text.decodeEightBit_eightBitField_of_hasUnits hunits, hkept,
    String.ofList_toList]

/-! ## The shortest answer -/

namespace Response

/-- What an answer says that has nothing to add: the command, from the terminal to the card, and the
result. -/
def bareElements (command : CommandDetails) (result : UInt8) : List Element :=
  [.ofValue Tag.commandDetails.code true (.commandDetails command),
   .ofValue Tag.deviceIdentities.code false
    (.deviceIdentities { source := Device.terminal.code, destination := Device.card.code }),
   .ofValue Tag.result.code true (.result { general := result, additional := [] })]

theorem says_bare (command : CommandDetails) (result : UInt8) (lang shift : Language) :
    Says (({ command, result } : Response).fields lang shift) (bareElements command result) := by
  have hfields : ({ command, result } : Response).fields lang shift =
      [(Tag.commandDetails.required, (Value.commandDetails command).toOctets),
       (Tag.deviceIdentities.code, [Device.terminal.code, Device.card.code]),
       (Tag.result.required, [result])] := by
    simp [fields, textFields]
  rw [hfields]
  refine Says.cons ?_ (Says.cons ?_ ?_)
  · exact says_required .commandDetails rfl (show 3 < 0x1000000 by decide)
  · exact says_plain .deviceIdentities rfl (by decide)
  · exact says_required .result rfl (show 1 < 0x1000000 by decide)

/-- **An answer with nothing to add** is read as just that. -/
theorem readList_bare (command : CommandDetails) (result : UInt8) (lang shift : Language)
    {c : Cursor} {tail : Octets}
    (hrest : c.rest = ({ command, result } : Response).toOctets lang shift ++ tail) :
    Element.readList (({ command, result } : Response).toOctets lang shift).length c =
      (.ok (bareElements command result),
        c.advance (({ command, result } : Response).toOctets lang shift).length) :=
  (says_bare command result lang shift).readList_eq hrest

end Response

end SimCard
