import SimCard.Element.Value
import SimCard.Proofs.AlphaIdentifiers
import SimCard.Proofs.SemiOctets
import SimCard.Proofs.Septets
import SimCard.Proofs.Timestamps

/-!
# Values are normal forms

Many octets stand for one value: what a value does not need is ignored, and texts and digits have
several spellings.  So a value cannot keep the octets it came from.  What it keeps is its meaning.
A value that has been read is written in one way, and read from there it is the same value again
(`Value.interpret_toOctets`).

Three kinds of value fall outside (`Value.isLossy`).

* A packed text of seven septets more than a multiple of eight leaves seven bits of its last octet
  unused, and those read as one septet more.
* A timer shows at most `99:59:59`, though its three octets can hold more minutes and seconds than
  an hour and a minute have.
* The placeholders of the tables can come up in a text of sixteen-bit units, and are not written as
  themselves.
-/

set_option autoImplicit false

namespace SimCard

/-! ## Texts -/

/-- Does a text hold a placeholder of the tables?  An alpha identifier may not keep such a text. -/
def Text.holdsPlaceholder (text : String) : Bool :=
  text.toList.contains '\ufffe' || text.toList.contains '\uffff'

theorem Value.decodeAlpha_alphaOctets {text : String} (h : Text.holdsPlaceholder text = false) :
    String.ofList (Text.decodeAlpha (alphaOctets text)) = text := by
  obtain ⟨hcontrol, hescape⟩ := Bool.or_eq_false_iff.1 h
  have hcontrol' : Text.controlMark ∉ text.toList := by simpa [Text.controlMark] using hcontrol
  have hescape' : Text.escapeMark ∉ text.toList := by simpa [Text.escapeMark] using hescape
  rw [alphaOctets]
  by_cases hstandard : Text.isStandardAlphabet text.toList = true
  · rw [if_pos hstandard, Text.decodeAlpha_alphaField_eightBit hstandard hescape' hcontrol',
      String.ofList_toList]
  · rw [if_neg hstandard, Text.decodeAlpha_alphaField_wide (Bool.eq_false_iff.2 hstandard) hescape',
      String.ofList_toList]

/-- A text that a field of eight-bit units holds is read again from a field of its own size. -/
theorem Text.decodeEightBit_ofList (octets : Octets) :
    let text := String.ofList (decodeEightBit octets)
    String.ofList (decodeEightBit (eightBitField (eightBitLength text) text.toList)) = text := by
  intro text
  have hunits : ∀ c ∈ text.toList, HasUnits .standard .standard c := by
    intro c hc
    rw [String.toList_ofList] at hc
    exact hasUnits_of_mem_decodeEightBit hc
  rw [decodeEightBit_eightBitField hunits, String.ofList_toList]

/-- **A packed text is read with one character more** if its septets leave seven bits over: the bits
are zeros, and the septet of zeros stands for `@`. -/
theorem TextCoding.decode_encode_packed {text : String}
    (h : ∀ c ∈ text.toList, Text.HasUnits .standard .standard c) :
    packed.decode (packed.encode .standard .standard text) =
      text.toList ++
        if Text.septetLength .standard .standard text.toList % 8 = 7 then ['@'] else [] := by
  have hall := @Text.unpackSeptets_all (Text.encodeUnits .standard .standard text.toList)
    fun _ => Text.lt_of_mem_encodeUnits
  rw [encode, decode, Text.packText, hall, Text.decodeUnits_encodeUnits_append h, Text.septetLength]
  split <;> rfl

/-- **A text whose characters an alphabet has** is read again from what it is written as. -/
theorem TextCoding.decode_encode_of_hasUnits {alphabet : TextCoding} {text : String}
    (hunits : alphabet ≠ .wide → ∀ c ∈ text.toList, Text.HasUnits .standard .standard c)
    (h : alphabet = .packed → Text.septetLength .standard .standard text.toList % 8 ≠ 7) :
    String.ofList (alphabet.decode (alphabet.encode .standard .standard text)) = text := by
  cases alphabet with
  | packed =>
    rw [decode_encode_packed (hunits (by decide)), if_neg (h rfl), List.append_nil,
      String.ofList_toList]
  | eightBit =>
    rw [encode, decode, Text.decodeEightBit_eightBitField (hunits (by decide)),
      String.ofList_toList]
  | wide => rw [encode, decode, Text.decodeWide_wideOctets, String.ofList_toList]

/-- A text that has been read in an alphabet holds its characters only. -/
theorem TextCoding.decode_encode {alphabet : TextCoding} {octets : Octets} {text : String}
    (htext : text = String.ofList (alphabet.decode octets))
    (h : alphabet = .packed → Text.septetLength .standard .standard text.toList % 8 ≠ 7) :
    String.ofList (alphabet.decode (alphabet.encode .standard .standard text)) = text := by
  refine decode_encode_of_hasUnits (fun hwide c hc => ?_) h
  rw [htext, String.toList_ofList] at hc
  cases alphabet with
  | packed =>
    exact Text.hasUnits_of_mem_decodeUnits (fun _ => Text.lt_of_mem_unpackSeptets) hc
  | eightBit => exact Text.hasUnits_of_mem_decodeEightBit hc
  | wide => exact absurd rfl hwide

/-! ## Values -/

namespace Value

/-- May writing change a value? -/
def isLossy : Value → Bool
  | .textString (some text) =>
    TextCoding.ofCode? text.coding = some .packed &&
      Text.septetLength .standard .standard text.text.toList % 8 = 7
  | .timerValue seconds => 360000 ≤ seconds
  | .alphaIdentifier text => Text.holdsPlaceholder text
  | .item (some entry) => Text.holdsPlaceholder entry.text
  | _ => false

/-- Up to `99:59:59`, hours, minutes and seconds are read back. -/
theorem ofOctets?_timerOctets {seconds : Nat} (h : seconds < 360000) :
    ofOctets? .timerValue (timerOctets seconds) = some (.timerValue seconds) := by
  have hhours : min (seconds / 3600) 99 = seconds / 3600 := by omega
  have hsum : seconds / 3600 * 3600 + seconds % 3600 / 60 * 60 + seconds % 60 = seconds := by omega
  rw [timerOctets, hhours, ofOctets?, secondsOf, Timestamp.octetField_fieldOctet (by omega),
    Timestamp.octetField_fieldOctet (by omega), Timestamp.octetField_fieldOctet (by omega), hsum]

theorem codedText_toOctets {octets : Octets} {value : Value}
    (h : ofOctets?.codedText octets = some value) (hkept : value.isLossy = false) :
    ofOctets?.codedText value.toOctets = some value := by
  cases octets with
  | nil =>
    obtain rfl := Option.some.inj h
    rfl
  | cons coding body =>
    obtain ⟨alphabet, hcoding, rfl⟩ := Option.map_eq_some_iff.1 h
    have hpacked : alphabet = .packed →
        Text.septetLength .standard .standard (String.ofList (alphabet.decode body)).toList % 8 ≠
          7 := by
      rintro rfl hseven
      rw [isLossy, hcoding, hseven] at hkept
      exact absurd hkept (by decide)
    rw [toOctets, ofOctets?.codedText, codedTextOctets, hcoding, Option.map_some, Option.getD_some,
      TextCoding.decode_encode rfl hpacked]

/-- What a tag makes of octets, it makes of the octets of the value too. -/
theorem ofOctets?_toOctets {tag : Tag} {octets : Octets} {value : Value}
    (h : ofOctets? tag octets = some value) (hkept : value.isLossy = false) :
    ofOctets? tag value.toOctets = some value := by
  cases tag with
  | alphaIdentifier =>
    cases h
    rw [toOctets, ofOctets?, decodeAlpha_alphaOctets hkept]
  | address =>
    cases octets with
    | nil => cases h
    | cons type digits =>
      cases h
      rw [toOctets, ofOctets?, String.toList_ofList, Number.decodeDialling_digitOctets]
  | textString | defaultText => exact codedText_toOctets h hkept
  | item =>
    cases octets with
    | nil =>
      cases h
      rfl
    | cons identifier text =>
      cases h
      rw [toOctets, ofOctets?, decodeAlpha_alphaOctets hkept]
  | timerValue =>
    rcases octets with _ | ⟨hours, _ | ⟨minutes, _ | ⟨seconds, rest⟩⟩⟩ <;> cases h
    exact ofOctets?_timerOctets (by simpa [isLossy] using hkept)
  | dateTimeZone =>
    obtain ⟨date, hdate, rfl⟩ := Option.map_eq_some_iff.1 h
    rw [toOctets, ofOctets?, Timestamp.ofOctets?_toOctets hdate, Option.map_some]
  | language | url =>
    cases h
    rw [toOctets, ofOctets?, Text.decodeEightBit_ofList]
  | helpRequest | immediateResponse | nextActions =>
    cases h
    rfl
  -- The rest take octets off the front, at most three, and keep them or all that follow.
  | _ => rcases octets with _ | ⟨first, _ | ⟨second, _ | ⟨third, rest⟩⟩⟩ <;> cases h <;> rfl

/-- **Typed values are normal forms.**  A value that has been read, and that is none of those that
writing may change, is read again from its own octets under the same tag. -/
theorem interpret_toOctets (tag : UInt8) (octets : Octets)
    (h : (interpret tag octets).isLossy = false) :
    interpret tag (interpret tag octets).toOctets = interpret tag octets := by
  cases hvalue : (Tag.ofCode? tag).bind fun known => ofOctets? known octets with
  | none =>
    have hraw : interpret tag octets = .raw octets := by rw [interpret, hvalue, Option.getD_none]
    rw [hraw, toOctets, hraw]
  | some value =>
    obtain ⟨known, hknown, hoctets⟩ := Option.bind_eq_some_iff.1 hvalue
    have hread : interpret tag octets = value := by rw [interpret, hvalue, Option.getD_some]
    rw [hread] at h ⊢
    rw [interpret, hknown, Option.bind_some, ofOctets?_toOctets hoctets h, Option.getD_some]

/-- A name relative to a half page, with octets to spare, settles in plain sixteen-bit units. -/
theorem interpret_toOctets_halfPage :
    let octets : Octets := [0x81, 0x03, 0x08, 0x41, 0x90, 0xFF, 0x00, 0xFF]
    (interpret 0x05 octets).isLossy = false ∧
      (interpret 0x05 octets).toOctets = [0x80, 0x00, 0x41, 0x04, 0x10, 0x04, 0x7F] ∧
      interpret 0x05 [0x80, 0x00, 0x41, 0x04, 0x10, 0x04, 0x7F] = interpret 0x05 octets := by
  intro octets
  have hlossy : (interpret 0x05 octets).isLossy = false := by decide +kernel
  have hwritten : (interpret 0x05 octets).toOctets =
      [0x80, 0x00, 0x41, 0x04, 0x10, 0x04, 0x7F] := by
    decide +kernel
  have hstable := interpret_toOctets 0x05 octets hlossy
  rw [hwritten] at hstable
  exact ⟨hlossy, hwritten, hstable⟩

end Value

end SimCard
