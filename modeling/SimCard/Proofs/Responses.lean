import SimCard.Proofs.Messages
import SimCard.Proofs.NetworkCodes

/-!
# Responses are read back

`Response.elements` lists what a response says, by the conditions under which it says it.  Reading
the octets of a response gives this list, whatever parts of the response are there
(`Response.response_is_read_back`).  The reader leaves the location and the identity of the terminal
as octets; those of the identity are given digit by digit (`Response.identityOctets`), not by the
field they are sent in.

Three parts need not come back as they were given.

* Of the text, what is read is what the alphabet makes of it (`Response.heard`), and that is the
  text itself wherever the alphabet can hold it (`Response.heard_eq`): in sixteen-bit units always,
  in eight-bit units if it has no other characters than the common ones, and in packed septets if
  moreover the common tables were asked for and its septets do not leave seven bits over.
* Of the date, it is the timestamp that seven octets can hold (`Response.dateValue_eq`).
* Of the language, it is what has room in two octets (`Element.language_eq`).
-/

set_option autoImplicit false

namespace SimCard

namespace Response

variable {response : Response} {lang shift : Language}

/-! ## The text -/

/-- What is read of a text that the user typed. -/
def heard (response : Response) (lang shift : Language) (input : String) : String :=
  String.ofList (response.coding.decode (response.coding.encode lang shift input))

/-- Can the alphabet of a response hold a text, under the tables that are asked for? -/
def Holds (response : Response) (lang shift : Language) (input : String) : Prop :=
  match response.coding with
  | .wide => True
  | .eightBit => ∀ c ∈ input.toList, Text.HasUnits .standard .standard c
  | .packed => lang = .standard ∧ shift = .standard ∧
      (∀ c ∈ input.toList, Text.HasUnits .standard .standard c) ∧
      Text.septetLength .standard .standard input.toList % 8 ≠ 7

/-- **A text that the alphabet can hold is heard as it was typed.** -/
theorem heard_eq {input : String} (h : response.Holds lang shift input) :
    response.heard lang shift input = input := by
  rw [heard]
  cases hcoding : response.coding with
  | wide => exact TextCoding.decode_encode_of_hasUnits (fun hwide => absurd rfl hwide) nofun
  | eightBit =>
    rw [Holds, hcoding] at h
    exact TextCoding.decode_encode_of_hasUnits (fun _ => h) nofun
  | packed =>
    rw [Holds, hcoding] at h
    obtain ⟨rfl, rfl, hunits, hseven⟩ := h
    exact TextCoding.decode_encode_of_hasUnits (fun _ => hunits) fun _ => hseven

/-- The text, unless help was asked for: the answer of yes or no, or else what the user typed, if
that is anything. -/
def textElements (response : Response) (lang shift : Language) : List Element :=
  if response.result = 0x13 then []
  else
    match response.isYes, response.input with
    | some yes, _ =>
      [.said .textString true 2 (.textString (some
        { coding := 0x04
          text := String.ofList (Text.decodeEightBit [if yes then 1 else 0]) }))]
    | none, none => []
    | none, some input =>
      if input = "" then []
      else
        [.said .textString true ((response.coding.encode lang shift input).length + 1)
          (.textString (some
            { coding := response.coding.code, text := response.heard lang shift input }))]

theorem ofCode?_code (alphabet : TextCoding) :
    TextCoding.ofCode? alphabet.code = some alphabet := by
  cases alphabet <;> decide

theorem says_text
    (hinput : ∀ input, response.input = some input →
      (response.coding.encode lang shift input).length < 0xFFFFFF) :
    Says (response.textFields lang shift) (response.textElements lang shift) := by
  rw [textFields, textElements, helpRequired]
  by_cases hhelp : response.result = 0x13
  · rw [if_pos hhelp, if_pos hhelp]
    exact says_nil
  · rw [if_neg hhelp, if_neg hhelp]
    cases response.isYes with
    | some yes => cases yes <;> exact says_required .textString rfl (by decide)
    | none =>
      cases htyped : response.input with
      | none => exact says_nil
      | some input =>
        by_cases hempty : input = ""
        · subst hempty
          exact says_nil
        · simp only [Option.getD_some, String.isEmpty_iff, if_neg hempty]
          refine says_required .textString ?_ ?_
          · simp only [Value.ofOctets?, Value.ofOctets?.codedText, ofCode?_code, Option.map_some,
              Option.getD_some]
            rfl
          · have hlt := hinput input htyped
            rw [List.length_cons]
            omega

/-! ## The identity of the terminal -/

/-- The digit of an identity at a place.  Characters that are no digits do not count, and behind the
last digit there are zeros. -/
def identityDigit (identity : String) (place : Nat) : Nat :=
  ((identity.toList.filter Char.isDigit)[place]?.map fun c => c.toNat - '0'.toNat).getD 0

/-- The halves of the octets of an identity: the mark of an odd number of digits, and then the
digits. -/
def identityHalf (identity : String) : Nat → Nat
  | 0 => 0x0A
  | place + 1 => identityDigit identity place

/-- **The eight octets of an identity**, each of two halves, the lower one first. -/
def identityOctets (identity : String) : Octets :=
  (List.range 8).map fun i =>
    UInt8.ofNat (identityHalf identity (2 * i) + 16 * identityHalf identity (2 * i + 1))

theorem identityDigit_lt (identity : String) (place : Nat) : identityDigit identity place < 10 := by
  rw [identityDigit]
  cases hplace : (identity.toList.filter Char.isDigit)[place]? with
  | none => decide
  | some c =>
    have hdigit : c.isDigit = true := (List.mem_filter.1 (List.mem_of_getElem? hplace)).2
    have hrange : 48 ≤ c.toNat ∧ c.toNat ≤ 57 := by
      simpa [Char.isDigit, UInt32.le_iff_toNat_le] using hdigit
    exact Nat.lt_of_le_of_lt (Nat.sub_le_sub_right hrange.2 _) (by decide)

theorem identityHalf_lt (identity : String) (place : Nat) : identityHalf identity place < 16 := by
  cases place with
  | zero => exact show 0x0A < 16 by decide
  | succ place => exact Nat.lt_trans (identityDigit_lt identity place) (by decide)

/-- Exactly `count` entries, by their places. -/
theorem take_append_replicate_eq_map_range {α : Type} (entries : List α) (count : Nat) (fill : α) :
    entries.take count ++ List.replicate (count - entries.length) fill =
      (List.range count).map fun i => entries[i]?.getD fill := by
  refine List.ext_getElem (by simp; omega) fun i _ _ => ?_
  rw [List.getElem_append, List.getElem_map, List.getElem_range]
  split <;> grind

theorem equipmentIdentity_eq (identity : String) :
    (Field.equipmentIdentity identity).2 = identityOctets identity := by
  have hdigit : ∀ i, ((identity.toList.filterMap NetworkCode.decimalValue?)[i]?).getD 0 =
      UInt8.ofNat (identityDigit identity i) := by
    intro i
    rw [NetworkCode.filterMap_decimalValue?, List.getElem?_map, identityDigit]
    cases (identity.toList.filter Char.isDigit)[i]? <;> rfl
  have hhalves : 0x0A :: (List.range 15).map (fun i => UInt8.ofNat (identityDigit identity i)) =
      (List.range (2 * 8)).map fun i => UInt8.ofNat (identityHalf identity i) := by
    rw [show 2 * 8 = 15 + 1 from rfl, List.range_succ_eq_map, List.map_cons, List.map_map]
    rfl
  rw [Field.equipmentIdentity, take_append_replicate_eq_map_range]
  simp only [hdigit, hhalves, Number.joinAll_map_range]
  exact List.map_congr_left fun i _ =>
    Number.joinHalves_ofNat (identityHalf_lt identity (2 * i)) (identityHalf identity (2 * i + 1))

theorem says_identity (identity : String) :
    Says [Field.equipmentIdentity identity]
      [.said .equipmentIdentity false 8 (.raw (identityOctets identity))] := by
  have hlength : (Field.equipmentIdentity identity).2.length = 8 := by
    rw [equipmentIdentity_eq, identityOctets, List.length_map, List.length_range]
  have h := @says_plain .equipmentIdentity (Field.equipmentIdentity identity).2 _ rfl
    (by rw [hlength]; decide)
  rw [hlength] at h
  rwa [← equipmentIdentity_eq]

/-! ## The date -/

/-- What is read of a date: the timestamp that its octets can hold, and of fields that make no date
whatever is in the octets. -/
def dateValue (date : Timestamp) : Value :=
  if date.isValid then .dateTimeZone date.shown
  else ((Timestamp.ofOctets? date.toOctets).map .dateTimeZone).getD (.raw date.toOctets)

/-- **A date that fits is read as it is.** -/
theorem dateValue_eq {date : Timestamp} (h : date.Fits) : dateValue date = .dateTimeZone date := by
  rw [dateValue, if_pos h.isValid, h.shown_eq]

theorem says_date (date : Timestamp) :
    Says [Field.date date] [.said .dateTimeZone false 7 (dateValue date)] := by
  refine @says_plain .dateTimeZone date.toOctets _ ?_ (show 7 < 0x1000000 by decide)
  rw [dateValue]
  split
  · rename_i hvalid
    rw [Value.ofOctets?, Timestamp.ofOctets?_toOctets_of_isValid hvalid]
    rfl
  · rfl

/-! ## The terminal -/

/-- What is said about the terminal. -/
def informationElements (information : LocalInformation) : List Element :=
  (information.location.map Element.location).toList ++
    (information.identity.map fun identity =>
      .said .equipmentIdentity false 8 (.raw (identityOctets identity))).toList ++
    (information.date.map fun date => .said .dateTimeZone false 7 (dateValue date)).toList ++
    (information.language.map Element.language).toList

theorem says_information (information : LocalInformation) :
    Says (informationFields information) (informationElements information) := by
  have hlocation := says_option (x := information.location) fun place _ => says_location place
  have hidentity := says_option (x := information.identity) fun identity _ => says_identity identity
  have hdate := says_option (x := information.date) fun date _ => says_date date
  have hlanguage := says_option (x := information.language) fun code _ => says_language code
  exact ((hlocation.append hidentity).append hdate).append hlanguage

/-- What is said about a timer. -/
def timerElements (state : TimerState) : List Element :=
  (if state.timer = 0 then []
    else [.said .timerIdentifier false 1 (.timerIdentifier state.timer)]) ++
    (state.value.map (Element.timerValue false)).toList

theorem says_timer (state : TimerState) : Says (timerFields state) (timerElements state) := by
  refine Says.append ?_ (says_option fun seconds _ => says_timerValue false seconds)
  by_cases h : state.timer = 0
  · rw [if_pos h, if_pos h]
    exact says_nil
  · rw [if_neg h, if_neg h]
    exact says_plain .timerIdentifier rfl (by simp)

/-! ## Whole responses -/

/-- **What a response says**: the command it answers, from the terminal to the card, how the command
went, and then each thing that there is to say. -/
def elements (response : Response) (lang shift : Language) : List Element :=
  [.said .commandDetails true 3 (.commandDetails response.command),
   .said .deviceIdentities false 2 (.deviceIdentities { source := 0x82, destination := 0x81 }),
   .said .result true (response.additional.toList.length + 1)
    (.result { general := response.result, additional := response.additional.toList })] ++
    (response.item.map fun item => .said .itemIdentifier true 1 (.itemIdentifier item)).toList ++
    response.textElements lang shift ++
    (response.information.map informationElements).getD [] ++
    (response.timer.map timerElements).getD []

theorem says_response
    (hinput : ∀ input, response.input = some input →
      (response.coding.encode lang shift input).length < 0xFFFFFF) :
    Says (response.fields lang shift) (response.elements lang shift) := by
  have hresult : (response.result :: response.additional.toList).length < 0x1000000 := by
    cases response.additional <;> simp
  have hcommand := @says_required .commandDetails (Value.commandDetails response.command).toOctets _
    rfl (show 3 < 0x1000000 by decide)
  have hdevices := @says_plain .deviceIdentities [Device.terminal.code, Device.card.code] _ rfl
    (by decide)
  have hhead := hcommand.cons (hdevices.cons (says_required .result rfl hresult))
  have hitem := says_option (x := response.item) fun item _ =>
    @says_required .itemIdentifier [item] _ rfl (by simp)
  have hinformation : Says ((response.information.map informationFields).getD [])
      ((response.information.map informationElements).getD []) := by
    cases response.information with
    | none => exact says_nil
    | some information => exact says_information information
  have htimer : Says ((response.timer.map timerFields).getD [])
      ((response.timer.map timerElements).getD []) := by
    cases response.timer with
    | none => exact says_nil
    | some state => exact says_timer state
  exact (((hhead.append hitem).append (says_text hinput)).append hinformation).append htimer

/-- **Responses are read back.**  Whatever a response holds, the reader of elements finds in its
octets what it says and nothing else, and stops right behind them.  A text is heard as it was typed
if the alphabet can hold it, and a date and a language are read as they are if their octets can hold
them.  The text must be one that a length field can count. -/
theorem response_is_read_back (response : Response) (lang shift : Language)
    (hinput : ∀ input, response.input = some input →
      (response.coding.encode lang shift input).length < 0xFFFFFF)
    (c : Cursor) (tail : Octets) (hrest : c.rest = response.toOctets lang shift ++ tail) :
    Element.readList (response.toOctets lang shift).length c =
        (.ok (response.elements lang shift),
          c.advance (response.toOctets lang shift).length) ∧
      (c.advance (response.toOctets lang shift).length).rest = tail ∧
      (∀ input, response.Holds lang shift input → response.heard lang shift input = input) ∧
      (∀ date : Timestamp, date.Fits → dateValue date = .dateTimeZone date) ∧
      ∀ code : String, Text.eightBitLength code ≤ 2 →
        (∀ c ∈ code.toList, Text.HasUnits .standard .standard c) →
        Element.language code = .said .language false 2 (.language code) := by
  exact ⟨(says_response hinput).readList_eq hrest, Cursor.rest_advance_of_rest_eq hrest,
    fun input => heard_eq, fun date => dateValue_eq, fun code => Element.language_eq⟩

/-- A response that says all there is to say, with more octets behind it. -/
theorem response_is_read_back_full :
    let response : Response :=
      { command := { number := 1, commandType := 0x23, qualifier := 0x03 }
        result := 0x00, additional := some 0x02, item := some 3
        input := some "Ж€", isWide := true
        information := some
          { location := some
              { network := { country := "262", network := "02" }, area := 0x1234, cell := 0x10000 }
            identity := some "490154203237518"
            date := some
              { year := 2024, month := 2, day := 29, hour := 23, minute := 59, second := 58
                offset := -3600 }
            language := some "de" }
        timer := some { timer := 4, value := some 3661 } }
    let octets := response.toOctets .turkish .spanish
    let c := Cursor.ofOctets (octets ++ [0x90, 0x00])
    Element.readList octets.length c =
        (.ok (response.elements .turkish .spanish), c.advance octets.length) ∧
      (response.elements .turkish .spanish).map (fun element => (element.tag, element.required)) =
        [(0x01, true), (0x02, false), (0x03, true), (0x10, true), (0x0D, true), (0x13, true),
         (0x14, false), (0x26, false), (0x2D, false), (0x24, false), (0x25, false)] ∧
      identityOctets "490154203237518" = [0x4A, 0x09, 0x51, 0x24, 0x30, 0x32, 0x57, 0x81] ∧
      response.heard .turkish .spanish "Ж€" = "Ж€" := by
  intro response octets c
  have hinput : ∀ input, response.input = some input →
      (response.coding.encode .turkish .spanish input).length < 0xFFFFFF := by
    intro input htyped
    cases htyped
    decide +kernel
  obtain ⟨hread, -, hheard, -⟩ :=
    response_is_read_back response .turkish .spanish hinput c [0x90, 0x00] rfl
  exact ⟨hread, by decide +kernel, by decide, hheard "Ж€" trivial⟩

end Response

end SimCard
