import SimCard.Proofs.Responses

/-!
# Texts of messages in the packed alphabet

A text string says which alphabet it is in, but not how long its text is.  In the packed alphabet
the number of septets has to be told from the number of octets, and seven octets are as good for
seven septets and seven bits to spare as for eight septets.  The reader takes them for eight, and
the spare bits for a septet of zeros, which is an `@`.

So what is read is `Text.asPacked`, the text or the text and an `@`, and it is the text just when
its septets do not leave seven bits over (`Text.asPacked_eq_self_iff`).  The same goes for a value
that is written out and for what the user typed, sent in a response
(`Value.packed_text_is_kept_iff`).
-/

set_option autoImplicit false

namespace SimCard

/-! ## What is read of a packed text -/

namespace Text

/-- **What is read of a text in the packed alphabet**: the text, and an `@` behind it if its septets
leave seven bits of the last octet over. -/
def asPacked (text : String) : String :=
  if septetLength .standard .standard text.toList % 8 = 7 then text ++ "@" else text

theorem asPacked_eq_self_iff (text : String) :
    asPacked text = text ↔ septetLength .standard .standard text.toList % 8 ≠ 7 := by
  rw [asPacked]
  split
  · rename_i hseven
    refine iff_of_false ?_ (not_not_intro hseven)
    intro h
    have hchars := congrArg String.toList h
    rw [String.toList_append] at hchars
    simp at hchars
  · rename_i hkept
    exact iff_of_true rfl hkept

/-- A text that the packed alphabet can write is read as that. -/
theorem ofList_decode_encode_packed {text : String}
    (h : ∀ c ∈ text.toList, HasUnits .standard .standard c) :
    String.ofList (TextCoding.packed.decode (TextCoding.packed.encode .standard .standard text)) =
      asPacked text := by
  rw [TextCoding.decode_encode_packed h, asPacked]
  split
  · rw [String.ofList_append, String.ofList_toList]
  · rw [List.append_nil, String.ofList_toList]

end Text

/-! ## Values -/

theorem TextCoding.ofCode?_of_and_eq_zero {scheme : UInt8} (h : scheme &&& 0x0C = 0) :
    ofCode? scheme = some .packed := by
  simp only [ofCode?, h]
  rfl

namespace Value

/-- A text string in the packed alphabet, written out and read under its tag. -/
theorem interpret_packed {scheme : UInt8} (hscheme : scheme &&& 0x0C = 0) {text : String}
    (h : ∀ c ∈ text.toList, Text.HasUnits .standard .standard c) :
    interpret 0x0D (Value.textString (some { coding := scheme, text })).toOctets =
      .textString (some { coding := scheme, text := Text.asPacked text }) := by
  change interpret Tag.textString.code _ = _
  have halphabet := TextCoding.ofCode?_of_and_eq_zero hscheme
  rw [interpret_code, toOctets, codedTextOctets, halphabet, ofOctets?, ofOctets?.codedText,
    halphabet, Option.getD_some, Option.map_some, Option.getD_some,
    Text.ofList_decode_encode_packed h]

end Value

/-! ## Responses -/

/-- The values of the text strings among elements. -/
def textStrings (elements : List Element) : List Value :=
  (elements.filter (·.tag == 0x0D)).map Element.value

theorem textStrings_append (front back : List Element) :
    textStrings (front ++ back) = textStrings front ++ textStrings back := by
  rw [textStrings, List.filter_append, List.map_append]
  rfl

namespace Response

variable {response : Response}

/-- The response has a text that the user typed, in the packed alphabet. -/
structure SendsPacked (response : Response) (text : String) : Prop where
  isPacked : response.isPacked = true
  isWide : response.isWide = false
  isYes : response.isYes = none
  result : response.result ≠ 0x13
  input : response.input = some text
  typed : text ≠ ""

theorem SendsPacked.coding_eq {text : String} (h : response.SendsPacked text) :
    response.coding = .packed := by
  simp [coding, h.isPacked, h.isWide]

/-- Only the text of a response is a text string. -/
theorem textStrings_elements (response : Response) (lang shift : Language) :
    textStrings (response.elements lang shift) =
      textStrings (response.textElements lang shift) := by
  have hitem : textStrings (response.item.map fun item =>
      Element.said .itemIdentifier true 1 (.itemIdentifier item)).toList = [] := by
    cases response.item <;> rfl
  have hinformation :
      textStrings ((response.information.map informationElements).getD []) = [] := by
    cases response.information with
    | none => rfl
    | some information =>
      obtain ⟨location, identity, date, language⟩ := information
      cases location <;> cases identity <;> cases date <;> cases language <;> rfl
  have htimer : textStrings ((response.timer.map timerElements).getD []) = [] := by
    cases response.timer with
    | none => rfl
    | some state =>
      simp only [Option.map_some, Option.getD_some, timerElements, textStrings_append]
      split <;> cases state.value <;> rfl
  rw [elements, textStrings_append, textStrings_append, textStrings_append, textStrings_append,
    hitem, hinformation, htimer, List.append_nil, List.append_nil, List.append_nil]
  rfl

/-- The text string of a response in the packed alphabet. -/
theorem SendsPacked.textStrings_eq {text : String} (h : response.SendsPacked text)
    (htext : ∀ c ∈ text.toList, Text.HasUnits .standard .standard c) :
    textStrings (response.elements .standard .standard) =
      [.textString (some { coding := 0x00, text := Text.asPacked text })] := by
  have hheard : response.heard .standard .standard text = Text.asPacked text := by
    rw [heard, h.coding_eq, Text.ofList_decode_encode_packed htext]
  rw [textStrings_elements, textElements, if_neg h.result, h.isYes, h.input]
  simp only [if_neg h.typed, hheard, h.coding_eq]
  rfl

end Response

/-! ## Packed texts, there and back -/

namespace Value

/-- **A text in the packed alphabet is kept unless its septets leave seven bits over.**  Written out
as a value, under any coding that selects the alphabet, it is read as `Text.asPacked`; sent as what
the user typed, with the common tables, it is read as the same, and is the one text string of the
response. -/
theorem packed_text_is_kept_iff {scheme : UInt8} (hscheme : scheme &&& 0x0C = 0) {text : String}
    (htext : ∀ c ∈ text.toList, Text.HasUnits .standard .standard c)
    (hlength : (Text.packText .standard .standard 0 text).length < 0xFFFFFF) :
    let value := Value.textString (some { coding := scheme, text })
    let isKept := Text.septetLength .standard .standard text.toList % 8 ≠ 7
    interpret 0x0D value.toOctets =
        .textString (some { coding := scheme, text := Text.asPacked text }) ∧
      (interpret 0x0D value.toOctets = value ↔ isKept) ∧
      ∀ response : Response, response.SendsPacked text → ∀ (c : Cursor) (tail : Octets),
        c.rest = response.toOctets .standard .standard ++ tail →
          ∃ elements, Element.readList (response.toOctets .standard .standard).length c =
              (.ok elements, c.advance (response.toOctets .standard .standard).length) ∧
            textStrings elements =
              [.textString (some { coding := 0x00, text := Text.asPacked text })] ∧
            (textStrings elements = [.textString (some { coding := 0x00, text })] ↔ isKept) := by
  intro value isKept
  have hvalue := interpret_packed hscheme htext
  have hkept : Text.asPacked text = text ↔ isKept := Text.asPacked_eq_self_iff text
  refine ⟨hvalue, ?_, ?_⟩
  · rw [hvalue, ← hkept]
    simp [value]
  · intro response hsends c tail hrest
    have hinput : ∀ input, response.input = some input →
        (response.coding.encode .standard .standard input).length < 0xFFFFFF := by
      intro input htyped
      obtain rfl : text = input := Option.some.inj (hsends.input.symm.trans htyped)
      rw [hsends.coding_eq]
      exact hlength
    have hstrings := hsends.textStrings_eq htext
    refine ⟨response.elements .standard .standard,
      (Response.says_response hinput).readList_eq hrest, hstrings, ?_⟩
    rw [hstrings, ← hkept]
    simp

/-- Nine septets, the last two of them for one character, under a coding with other bits set. -/
theorem packed_text_is_kept_iff_nine_septets :
    let text := "Saldo 2€"
    let value := Value.textString (some { coding := 0xF3, text })
    let response : Response :=
      { command := { number := 1, commandType := 0x23, qualifier := 0x08 }
        result := 0x00, input := some text, isPacked := true }
    let octets := response.toOctets .standard .standard
    let c := Cursor.ofOctets (octets ++ [0x90, 0x00])
    Text.septetLength .standard .standard text.toList = 9 ∧ interpret 0x0D value.toOctets = value ∧
      ∃ elements, Element.readList octets.length c = (.ok elements, c.advance octets.length) ∧
        textStrings elements = [.textString (some { coding := 0x00, text })] := by
  intro text value response octets c
  have hseptets : Text.septetLength .standard .standard text.toList = 9 := by decide +kernel
  have htables : text.toList.all (Text.InTables .standard .standard ·) = true := by decide +kernel
  have hlength : (Text.packText .standard .standard 0 text).length < 0xFFFFFF := by decide +kernel
  have hsends : response.SendsPacked text := ⟨rfl, rfl, rfl, by decide, rfl, by decide⟩
  have hscheme : (0xF3 : UInt8) &&& 0x0C = 0 := by decide
  obtain ⟨-, hvalue, hresponse⟩ := packed_text_is_kept_iff hscheme
    (fun c hc => Text.hasUnits_iff_inTables.2 (by simpa using List.all_eq_true.1 htables c hc))
    hlength
  obtain ⟨elements, hread, -, hstrings⟩ := hresponse response hsends c [0x90, 0x00] rfl
  have hkept : Text.septetLength .standard .standard text.toList % 8 ≠ 7 := by
    rw [hseptets]
    decide
  exact ⟨hseptets, hvalue.2 hkept, elements, hread, hstrings.2 hkept⟩

/-- Seven septets leave seven bits over: a value and a response both come back with an `@`. -/
theorem packed_text_gains_a_character :
    let text := "Mozilla"
    let value := Value.textString (some { coding := 0x00, text })
    let longer := Value.textString (some { coding := 0x00, text := "Mozilla@" })
    let response : Response :=
      { command := { number := 1, commandType := 0x26, qualifier := 0x02 }
        result := 0x00, input := some text, isPacked := true }
    text.toList.all (Text.InTables .standard .standard ·) = true ∧
      (Text.packText .standard .standard 0 text).length < 0xFFFFFF ∧
      interpret 0x0D value.toOctets = longer ∧ longer ≠ value ∧
      (response.textFields .standard .standard).map (fun entry => interpret 0x0D entry.2) =
        [longer] := by
  decide +kernel

end Value

end SimCard
