import SimCard.Proofs.AcceptedInput
import SimCard.Proofs.Messages
import SimCard.Proofs.NetworkCodes

/-!
# Envelopes are read back

An envelope wraps its fields once more: its tag, the length of what follows in the fewest octets
that spell it, and the fields.  `Envelope.elements` lists what an envelope says, by the conditions
under which it says it, and that is what its body is read as (`Envelope.envelope_is_read_back`).

Two of the fields have readers of their own behind the one for elements.  A dialling number is read
with its type, and what comes back is what could be dialled of it (`Number.dialled`).  A location
stays octets, which are read as a network code, an area and a cell (`Location.exists_read_octets`).
-/

set_option autoImplicit false

namespace SimCard

/-! ## Dialling numbers -/

namespace Number

/-- What can be dialled of a number: a `+` at its start, and its dialling digits. -/
def dialled (number : List Char) : List Char := signedAs number (diallable number)

/-- **A dialling number is read as what can be dialled of it.** -/
theorem decodeDialling_diallingOctets (number : List Char) :
    decodeDialling (diallingOctets number) = dialled number :=
  decodeDialling_numberType number mem_dialDigits_of_mem_digitsOf

/-- A dialling number takes an octet for its type and one for every two digits. -/
theorem length_diallingOctets (number : List Char) :
    (diallingOctets number).length = 1 + ((diallable number).length + 1) / 2 := by
  rw [diallingOctets, List.length_cons, length_digitOctets mem_dialDigits_of_mem_digitsOf,
    Nat.add_comm]
  rfl

end Number

/-! ## Locations -/

namespace Location

/-- The octets behind the network and the area. -/
def cellOctets (place : Location) : Octets :=
  (if 0xFFFF < place.cell then word16Octets (place.cell >>> 16).toUInt16 else []) ++
    word16Octets place.cell.toUInt16

theorem octets_eq (place : Location) :
    place.octets = place.network.toOctets ++ word16Octets place.area ++ place.cellOctets := by
  rw [octets, Field.location, cellOctets, List.append_assoc _ _ (word16Octets _)]

theorem withDigits_word16Octets (number : Nat) (word : UInt16) :
    Length.withDigits number (word16Octets word) = number * 0x10000 + word.toNat := by
  have hword := word.toNat_lt
  simp only [Length.withDigits, word16Octets, List.foldl_cons, List.foldl_nil, UInt8.toNat_ofNat',
    Nat.reducePow]
  omega

/-- A cell takes two octets if that is enough, and four octets otherwise. -/
theorem cellOctets_spec (place : Location) :
    place.cellOctets.length = (if place.cell ≤ 0xFFFF then 2 else 4) ∧
      Length.withDigits 0 place.cellOctets = place.cell.toNat := by
  have hlt := place.cell.toNat_lt
  by_cases h : place.cell ≤ 0xFFFF
  · have hle : place.cell.toNat ≤ 0xFFFF := h
    rw [cellOctets, if_neg (UInt32.not_lt.2 h), if_pos h, List.nil_append, withDigits_word16Octets,
      UInt32.toNat_toUInt16]
    exact ⟨rfl, by omega⟩
  · have hhigh : (place.cell >>> 16).toUInt16.toNat = place.cell.toNat / 0x10000 := by
      simp only [UInt32.toNat_toUInt16, UInt32.toNat_shiftRight, UInt32.reduceToNat, Nat.reduceMod,
        Nat.shiftRight_eq_div_pow]
      omega
    have happend : Length.withDigits 0 (word16Octets (place.cell >>> 16).toUInt16 ++
        word16Octets place.cell.toUInt16) =
        Length.withDigits (Length.withDigits 0 (word16Octets (place.cell >>> 16).toUInt16))
          (word16Octets place.cell.toUInt16) :=
      List.foldl_append
    rw [cellOctets, if_pos (UInt32.not_le.1 h), if_neg h, happend, withDigits_word16Octets,
      withDigits_word16Octets, hhigh, UInt32.toNat_toUInt16]
    exact ⟨rfl, by omega⟩

/-- **The octets of a location are read back**: the network, if it has two digits at least, the
area, and what is left is the cell. -/
theorem exists_read_octets {place : Location} (hnetwork : place.network.isEncodable = true)
    (hdigits : 2 ≤ place.network.network.toList.length) {c : Cursor} {tail : Octets}
    (hrest : c.rest = place.octets ++ tail) :
    ∃ c₁ c₂ cell, NetworkCode.read c = (.ok (some place.network), c₁) ∧
      Cursor.readWord16 c₁ = (.ok place.area, c₂) ∧ c₂.rest = cell ++ tail ∧
      cell.length = (if place.cell ≤ 0xFFFF then 2 else 4) ∧
      Length.withDigits 0 cell = place.cell.toNat := by
  have hcode : NetworkCode.ofOctets? place.network.toOctets = some place.network := by
    rw [NetworkCode.ofOctets?_toOctets hnetwork, NetworkCode.zeroPadded,
      Nat.sub_eq_zero_of_le hdigits, List.replicate_zero, List.nil_append, String.ofList_toList]
  have hsplit : c.rest = place.network.toOctets ++ (word16Octets place.area ++
      (place.cellOctets ++ tail)) := by
    rw [hrest, octets_eq, List.append_assoc, List.append_assoc]
  have htakes := Cursor.takes_of_rest_eq hsplit
  have hsplit' := Cursor.rest_advance_of_rest_eq hsplit
  have htakes' := Cursor.takes_of_rest_eq hsplit'
  have hlast := Cursor.rest_advance_of_rest_eq hsplit'
  have hread := (NetworkCode.yields_read (htakes.start_le (List.cons_ne_nil _ _))).2
    ⟨_, rfl, htakes, hcode⟩
  exact ⟨_, _, place.cellOctets, hread, Cursor.yields_readWord16.2 htakes', hlast,
    place.cellOctets_spec⟩

end Location

/-! ## What an envelope says -/

namespace Envelope

variable {envelope : Envelope}

/-- One octet, if there is something to say. -/
def octetElements (tag : Tag) (value : UInt8 → Value) (octet : Option UInt8) : List Element :=
  (octet.map fun octet => .said tag true 1 (value octet)).toList

theorem says_octet {tag : Tag} {value : UInt8 → Value}
    (h : ∀ octet, (Value.ofOctets? tag [octet]).getD (.raw [octet]) = value octet)
    (octet : Option UInt8) : Says (octetField tag octet) (octetElements tag value octet) :=
  says_option fun a _ => @says_required tag [a] _ (h a) (by simp)

/-- The other party of a call, unless its number is empty. -/
def addressElements (number : String) : List Element :=
  if number = "" then []
  else
    [.said .address true (1 + ((Number.diallable number.toList).length + 1) / 2)
      (.address
        { numberType := if number.toList.head? = some '+' then 0x91 else 0x81
          number := String.ofList (Number.dialled number.toList) })]

theorem says_address {number : String}
    (h : (Number.diallingOctets number.toList).length < 0xFFFF00) :
    Says (addressFields number) (addressElements number) := by
  rw [addressFields, addressElements]
  by_cases hempty : number = ""
  · rw [if_pos (String.isEmpty_iff.2 hempty), if_pos hempty]
    exact says_nil
  · rw [if_neg (mt String.isEmpty_iff.1 hempty), if_neg hempty]
    rw [← Number.length_diallingOctets]
    refine says_required .address ?_ (by omega)
    have htype : Number.numberType number.toList =
        if number.toList.head? = some '+' then 0x91 else 0x81 := by
      simp only [Number.numberType, Number.isInternational, beq_iff_eq]
      rfl
    rw [← Number.decodeDialling_diallingOctets, ← htype]
    rfl

/-- **What an envelope says**: between which devices it goes, and then each thing that there is to
say.  Only the language goes without the flag. -/
def elements (envelope : Envelope) : List Element :=
  [.said .deviceIdentities true 2 (.deviceIdentities envelope.devices)] ++
    octetElements .itemIdentifier .itemIdentifier envelope.item ++
    (if envelope.helpRequested then [.said .helpRequest true 0 .helpRequest] else []) ++
    octetElements .eventList (fun event => .eventList (some [event])) envelope.event ++
    octetElements .locationStatus .locationStatus envelope.status ++
    (envelope.location.map Element.location).toList ++
    octetElements .transactionIdentifier (fun transaction => .raw [transaction])
      envelope.transaction ++
    addressElements (envelope.address.getD "") ++
    (envelope.cause.map fun cause => .said .cause true 2 (.raw [0x60, 0x80 ||| cause])).toList ++
    octetElements .timerIdentifier .timerIdentifier envelope.timer ++
    (envelope.timerValue.map (Element.timerValue true)).toList ++
    (envelope.language.map Element.language).toList ++
    octetElements .browserTerminationCause (fun cause => .raw [cause]) envelope.terminationCause

theorem says_envelope
    (haddress : (Number.diallingOctets (envelope.address.getD "").toList).length < 0xFFFF00) :
    Says envelope.fields envelope.elements := by
  have hhelp : Says (if envelope.helpRequested then [(Tag.helpRequest.required, [])] else [])
      (if envelope.helpRequested then [.said .helpRequest true 0 .helpRequest] else []) := by
    cases envelope.helpRequested with
    | false => exact says_nil
    | true => exact says_required .helpRequest rfl (by decide)
  refine Says.append ?_ (says_octet (fun _ => rfl) _)
  refine Says.append ?_ (says_option fun code _ => says_language code)
  refine Says.append ?_ (says_option fun seconds _ => says_timerValue true seconds)
  refine Says.append ?_ (says_octet (fun _ => rfl) _)
  refine Says.append ?_ (says_option fun cause _ => says_required .cause rfl (by simp))
  refine Says.append ?_ (says_address haddress)
  refine Says.append ?_ (says_octet (fun _ => rfl) _)
  refine Says.append ?_ (says_option fun place _ => says_location place)
  refine Says.append ?_ (says_octet (fun _ => rfl) _)
  refine Says.append ?_ (says_octet (fun _ => rfl) _)
  refine Says.append ?_ hhelp
  refine Says.append ?_ (says_octet (fun _ => rfl) _)
  exact says_required .deviceIdentities rfl (by simp)

/-! ## How much an envelope says -/

theorem length_field_le (tag : UInt8) (value : Octets) :
    (Element.field tag value).length ≤ value.length + 5 := by
  have hsize := Length.size_le value.length
  rw [Element.field, List.length_append, List.length_cons, Length.length_toOctets]
  omega

theorem length_fieldsOctets_append (fields fields' : List Field) :
    (fieldsOctets (fields ++ fields')).length =
      (fieldsOctets fields).length + (fieldsOctets fields').length := by
  rw [fieldsOctets, List.flatMap_append, List.length_append]
  rfl

theorem length_fieldsOctets_singleton_le (entry : Field) :
    (fieldsOctets [entry]).length ≤ entry.2.length + 5 := by
  rw [fieldsOctets, List.flatMap_singleton]
  exact length_field_le entry.1 entry.2

theorem length_fieldsOctets_option_le {α : Type} (field : α → Field) {most : Nat}
    (h : ∀ a, (field a).2.length ≤ most) (x : Option α) :
    (fieldsOctets (x.map field).toList).length ≤ most + 5 := by
  cases x with
  | none => exact Nat.zero_le _
  | some a =>
    have hone := length_fieldsOctets_singleton_le (field a)
    have hmost := h a
    exact Nat.le_trans hone (by omega)

theorem length_octetField_le (tag : Tag) (octet : Option UInt8) :
    (fieldsOctets (octetField tag octet)).length ≤ 6 :=
  length_fieldsOctets_option_le _ (fun _ => Nat.le_refl 1) octet

/-- But for the other party of a call, an envelope is short. -/
theorem length_body_le (envelope : Envelope) :
    (fieldsOctets envelope.fields).length ≤
      (Number.diallingOctets (envelope.address.getD "").toList).length + 89 := by
  have hdevices := length_fieldsOctets_singleton_le
    (Tag.deviceIdentities.required, [envelope.devices.source, envelope.devices.destination])
  have hhelp : (fieldsOctets
      (if envelope.helpRequested then [(Tag.helpRequest.required, [])] else [])).length ≤ 5 := by
    cases envelope.helpRequested <;> decide
  have hlocation := length_fieldsOctets_option_le Field.location (fun place =>
    show place.octets.length ≤ 9 by rw [place.length_octets]; split <;> decide) envelope.location
  have haddress : (fieldsOctets (addressFields (envelope.address.getD ""))).length ≤
      (Number.diallingOctets (envelope.address.getD "").toList).length + 5 := by
    rw [addressFields]
    split
    · exact Nat.zero_le _
    · exact length_fieldsOctets_singleton_le _
  have hcause := length_fieldsOctets_option_le Field.cause (fun _ => Nat.le_refl 2)
    envelope.cause
  have hvalue := length_fieldsOctets_option_le (Field.timerValue true)
    (fun _ => Nat.le_refl 3) envelope.timerValue
  have hlanguage := length_fieldsOctets_option_le Field.language
    (fun code => Nat.le_of_eq (Text.length_eightBitField 2 code.toList)) envelope.language
  have hitem := length_octetField_le .itemIdentifier envelope.item
  have hevent := length_octetField_le .eventList envelope.event
  have hstatus := length_octetField_le .locationStatus envelope.status
  have htransaction := length_octetField_le .transactionIdentifier envelope.transaction
  have htimer := length_octetField_le .timerIdentifier envelope.timer
  have htermination := length_octetField_le .browserTerminationCause envelope.terminationCause
  rw [List.length_cons, List.length_singleton] at hdevices
  simp only [fields, length_fieldsOctets_append]
  omega

/-! ## Whole envelopes -/

/-- **Envelopes are read back.**  An envelope is its tag, the length of its body in the fewest
octets that spell it, and the body, which is read as what the envelope says and nothing else; where
it says a location, the octets of the location can be read further, and the code of a language is
read as it is if it has room.  The number of the other party must not be so long that the body could
not be counted. -/
theorem envelope_is_read_back (envelope : Envelope)
    (haddress : ∀ number, envelope.address = some number →
      (Number.diallingOctets number.toList).length < 0xFFFF00) :
    (∃ length body : Octets, envelope.toOctets = envelope.tag :: length ++ body ∧
      Length.Spells length body.length ∧
      (∀ length', Length.Spells length' body.length → length.length ≤ length'.length) ∧
      ∀ (c : Cursor) (tail : Octets),
        (c.rest = length ++ tail →
          Length.read c = (.ok (body.length, length.length), c.advance length.length)) ∧
        (c.rest = body ++ tail →
          Element.readList body.length c = (.ok envelope.elements, c.advance body.length) ∧
            (c.advance body.length).rest = tail)) ∧
      (∀ place, envelope.location = some place → place.network.isEncodable = true →
        2 ≤ place.network.network.toList.length →
        ∀ (c : Cursor) (tail : Octets), c.rest = place.octets ++ tail →
          ∃ c₁ c₂ cell, NetworkCode.read c = (.ok (some place.network), c₁) ∧
            Cursor.readWord16 c₁ = (.ok place.area, c₂) ∧ c₂.rest = cell ++ tail ∧
            cell.length = (if place.cell ≤ 0xFFFF then 2 else 4) ∧
            Length.withDigits 0 cell = place.cell.toNat) ∧
      ∀ code, envelope.language = some code → Text.eightBitLength code ≤ 2 →
        (∀ c ∈ code.toList, Text.HasUnits .standard .standard c) →
        Element.language code = .said .language false 2 (.language code) := by
  have hnumber : (Number.diallingOctets (envelope.address.getD "").toList).length < 0xFFFF00 := by
    cases h : envelope.address with
    | none => decide
    | some number => exact haddress number h
  have hbody : (fieldsOctets envelope.fields).length < 0x1000000 := by
    have hle := envelope.length_body_le
    omega
  refine ⟨⟨Length.toOctets (fieldsOctets envelope.fields).length, fieldsOctets envelope.fields, rfl,
    (Length.spells_toOctets hbody).1, fun _ => Length.length_toOctets_le, ?_⟩, ?_, ?_⟩
  · intro c tail
    constructor
    · intro hrest
      exact Length.yields_read.2
        ⟨hbody, Length.length_toOctets _, Cursor.takes_of_rest_eq hrest⟩
    · intro hrest
      exact ⟨(says_envelope hnumber).readList_eq hrest, Cursor.rest_advance_of_rest_eq hrest⟩
  · intro place _ hnetwork hdigits c tail hrest
    exact Location.exists_read_octets hnetwork hdigits hrest
  · intro code _ hlength hunits
    exact Element.language_eq hlength hunits

/-- An envelope that says all there is to say, about a number with characters that cannot be dialled
and a cell that takes four octets. -/
theorem envelope_is_read_back_full :
    let place : Location :=
      { network := { country := "310", network := "026" }, area := 0x1234, cell := 0x12345678 }
    let envelope : Envelope :=
      { tag := 0xD6, devices := { source := 0x83, destination := 0x81 }, item := some 3
        helpRequested := true, event := some 0x00, status := some 0x00, location := some place
        transaction := some 0x00, address := some "+49 (0) 30-5*1", cause := some 0x10
        timer := some 4, timerValue := some 3661, language := some "de"
        terminationCause := some 0x01 }
    (∃ length body : Octets, envelope.toOctets = 0xD6 :: length ++ body ∧
      Element.readList body.length (Cursor.ofOctets body) =
        (.ok envelope.elements, (Cursor.ofOctets body).advance body.length)) ∧
      envelope.elements.map (fun element => (element.tag, element.required)) =
        [(0x02, true), (0x10, true), (0x15, true), (0x19, true), (0x1B, true), (0x13, true),
         (0x1C, true), (0x06, true), (0x1A, true), (0x24, true), (0x25, true), (0x2D, false),
         (0x34, true)] ∧
      Number.dialled "+49 (0) 30-5*1".toList = "+490305*1".toList ∧
      ∃ c₁ c₂ cell, NetworkCode.read (Cursor.ofOctets place.octets) =
          (.ok (some place.network), c₁) ∧
        Cursor.readWord16 c₁ = (.ok 0x1234, c₂) ∧ c₂.rest = cell ++ [] ∧ cell.length = 4 ∧
        Length.withDigits 0 cell = 0x12345678 := by
  intro place envelope
  have haddress : ∀ number, envelope.address = some number →
      (Number.diallingOctets number.toList).length < 0xFFFF00 := by
    intro number hnumber
    cases hnumber
    decide +kernel
  obtain ⟨⟨length, body, htoOctets, -, -, hread⟩, hlocation, -⟩ :=
    envelope_is_read_back envelope haddress
  refine ⟨⟨length, body, htoOctets, ?_⟩, by decide +kernel, by decide +kernel, ?_⟩
  · exact ((hread (Cursor.ofOctets body) []).2 (List.append_nil body).symm).1
  · exact hlocation place rfl (by decide +kernel) (by decide +kernel) (Cursor.ofOctets place.octets)
      [] (List.append_nil place.octets).symm

end Envelope

end SimCard
