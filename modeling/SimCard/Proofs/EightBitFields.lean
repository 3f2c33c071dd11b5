import SimCard.Proofs.Alphabets
import SimCard.Proofs.Reading

/-!
# What a field of eight-bit units keeps, and the test for the common alphabet

A field has a size of its own, and a text in it is cut behind the last character whose units fit as
a whole.  What is written is therefore a row of whole units with filler behind them, and what is
read is the longest part of the text that there are octets for, with a space for each character
that cannot be written (`eight_bit_field_holds_longest_part`).  These are the characters that stand
in neither of the common tables, and two that do stand there, the placeholders U+FFFE and U+FFFF
(`placeholder_is_read_as_space`).

A name is written in eight-bit units if it passes the test for the common alphabet, so the test had
better let a text pass just when a field of eight-bit units keeps it.  A field keeps a text just
when each of its characters can be written, since of any other it makes a space
(`readEightBit_written`).

The test asks another question: whether each character stands somewhere in the tables
(`isStandardAlphabet_iff`).  Two characters stand there that cannot be written, the placeholders
U+FFFE and U+FFFF.  `alphabet_test_agrees_iff` says where that matters: test and field disagree
about the texts that have a placeholder and no character from outside the tables, and about no
others.
-/

set_option autoImplicit false

namespace SimCard

namespace Text

/-! ## Fields of any size -/

variable {c : Cursor}

/-- **A field is read as the part of the text that it holds**, with spaces for the characters that
cannot be written. -/
theorem yields_readEightBit (hc : c.InOrder) (size : Nat) (text : String) :
    (readEightBit size).Yields (c.written (eightBitField size text.toList))
      (String.ofList ((takeWithin eightBitCost size text.toList).map inEightBit))
      ((c.written (eightBitField size text.toList)).advance size) := by
  rw [← decodeEightBit_eightBitField_eq_map]
  exact hc.yields_decoded_written (fun taken => String.ofList (decodeEightBit taken))
    (length_eightBitField size text.toList)

theorem eightBitLength_eq (text : String) : eightBitLength text = unitCount text.toList :=
  length_flatMap_eightBitUnits text.toList

/-- Units are no filler. -/
theorem filler_notMem_flatMap_eightBitUnits (part : List Char) :
    filler ∉ part.flatMap eightBitUnits := by
  intro hmem
  rw [flatMap_eightBitUnits] at hmem
  exact absurd (lt_of_mem_encodeUnits hmem) (by decide)

/-- **A field holds the longest part of a text that it has octets for.**  Writing the text adds just
the octets of the field to a cursor: the whole units of that part, and filler.  Reading them gives
the part, with a space for each character that stands in neither of the common tables and for each
placeholder.  With the octets that the text needs, or more, the part is the whole text, and with
just these there is no filler. -/
theorem eight_bit_field_holds_longest_part (hc : c.InOrder) (size : Nat) (text : String) :
    let octets := eightBitField size text.toList
    let shown := fun d : Char =>
      if (d ∉ Language.standard.lockingTable ∧ d ∉ Language.standard.singleShiftTable) ∨
          d = '\ufffe' ∨ d = '\uffff' then ' '
      else d
    (c.write octets).octets = c.octets ++ octets ∧ octets.length = size ∧
      eightBitLength text = unitCount text.toList ∧
      ∃ part, LongestPrefix (unitCount · ≤ size) text.toList part ∧
        (∀ d ∈ part, IsUnit (eightBitUnits d)) ∧
        octets = part.flatMap eightBitUnits ++ List.replicate (size - unitCount part) 0xFF ∧
        readEightBit size (c.written octets) =
          (.ok (String.ofList (part.map shown)), (c.written octets).advance size) ∧
        (eightBitLength text ≤ size → part = text.toList) ∧
        (eightBitLength text = size → 0xFF ∉ octets) := by
  intro octets shown
  have hlongest := longestPrefix_unitCount size text.toList
  generalize hpart : takeWithin eightBitCost size text.toList = part at hlongest
  have hshown : part.map inEightBit = part.map shown :=
    List.map_congr_left fun d _ => inEightBit_eq d
  have hread := yields_readEightBit hc size text
  rw [hpart, hshown] at hread
  have hoctets : octets =
      part.flatMap eightBitUnits ++ List.replicate (size - unitCount part) 0xFF := by
    rw [← length_flatMap_eightBitUnits, ← hpart]
    rfl
  have hwhole : eightBitLength text ≤ size → part = text.toList := by
    rw [eightBitLength_eq]
    exact hlongest.eq_self
  refine ⟨Cursor.octets_write hc.writeIndex_eq octets, length_eightBitField size text.toList,
    eightBitLength_eq text, part, hlongest, fun d _ => isUnit_eightBitUnits d, hoctets, hread,
    hwhole, ?_⟩
  intro hsize
  -- the part is the whole text, so its units leave nothing to fill
  have hfull : unitCount part = size := by
    rw [hwhole (Nat.le_of_eq hsize), ← eightBitLength_eq, hsize]
  rw [hoctets, hfull, Nat.sub_self, List.replicate_zero, List.append_nil]
  exact filler_notMem_flatMap_eightBitUnits part

/-- A placeholder and a character from outside the tables; one octet is left for a character that
takes two, and is filled. -/
theorem eight_bit_field_holds_longest_part_before_extension :
    let c := Cursor.ofOctets [0xAA]
    let octets := eightBitField 6 "a€\ufffe漢[b".toList
    c.InOrder ∧ octets = [0x61, 0x1B, 0x65, 0x20, 0x20, 0xFF] ∧
      readEightBit 6 (c.written octets) = (.ok "a€  ", (c.written octets).advance 6) := by
  intro c octets
  have hc := Cursor.inOrder_ofOctets [0xAA]
  obtain ⟨-, -, -, part, hlongest, -, -, hread, -⟩ :=
    eight_bit_field_holds_longest_part hc 6 "a€\ufffe漢[b"
  have hpart : part = "a€\ufffe漢".toList := by
    rw [hlongest.unique (longestPrefix_unitCount 6 _)]
    decide +kernel
  rw [← List.map_congr_left fun d _ => inEightBit_eq d, hpart] at hread
  have hshown : "a€\ufffe漢".toList.map inEightBit = "a€  ".toList := by decide +kernel
  rw [hshown, String.ofList_toList] at hread
  exact ⟨hc, by decide +kernel, hread⟩

/-- A placeholder stands in a table, but is written and read as a space. -/
theorem placeholder_is_read_as_space :
    let octets := eightBitField 1 "\ufffe".toList
    '\ufffe' ∈ Language.standard.singleShiftTable ∧ octets = [0x20] ∧
      (readEightBit 1 (Cursor.empty.written octets)).1 = .ok " " := by
  decide +kernel

/-! ## The test for the common alphabet -/

/-- A field that a text just fills holds all of it. -/
theorem readEightBit_written (hc : c.InOrder) (text : String) :
    let octets := eightBitField (eightBitLength text) text.toList
    readEightBit (eightBitLength text) (c.written octets) =
      (.ok (String.ofList (text.toList.map inEightBit)),
        (c.written octets).advance (eightBitLength text)) := by
  have hread := yields_readEightBit hc (eightBitLength text) text
  rwa [takeWithin_eightBitLength] at hread

/-- A field keeps the texts that can be written. -/
theorem ofList_map_inEightBit_eq_iff (text : String) :
    String.ofList (text.toList.map inEightBit) = text ↔
      ∀ c ∈ text.toList, HasUnits .standard .standard c := by
  rw [← map_inEightBit_eq_self_iff]
  constructor
  · intro h
    have hchars := congrArg String.toList h
    rwa [String.toList_ofList] at hchars
  · intro h
    rw [h, String.ofList_toList]

theorem not_hasUnits_of_placeholder {c : Char} (h : c = '\ufffe' ∨ c = '\uffff') :
    ¬ HasUnits .standard .standard c := by
  intro hunits
  obtain ⟨-, hcontrol, hescape⟩ := hasUnits_iff_inTables.1 hunits
  exact h.elim hcontrol hescape

/-- **The alphabet test agrees with the field except about placeholders.**  In a field of just its
size, a text is read back with spaces for what cannot be written, and so as it is just when every
character can be.  The test lets every character that can be written pass, and the two placeholders.
So the two agree about the texts without placeholders, and about those that the test refuses for
another character. -/
theorem alphabet_test_agrees_iff {c : Cursor} (hc : c.InOrder) (text : String) :
    let octets := eightBitField (eightBitLength text) text.toList
    let outcome := readEightBit (eightBitLength text) (c.written octets)
    let passes := isStandardAlphabet text.toList = true
    outcome = (.ok (String.ofList (text.toList.map inEightBit)),
        (c.written octets).advance (eightBitLength text)) ∧
      (outcome.1 = .ok text ↔ ∀ d ∈ text.toList, HasUnits .standard .standard d) ∧
      (passes ↔
        ∀ d ∈ text.toList, HasUnits .standard .standard d ∨ d = '\ufffe' ∨ d = '\uffff') ∧
      ((passes ↔ outcome.1 = .ok text) ↔
        (∀ d ∈ text.toList, ¬ (d = '\ufffe' ∨ d = '\uffff')) ∨
          ∃ d ∈ text.toList,
            ¬ (HasUnits .standard .standard d ∨ d = '\ufffe' ∨ d = '\uffff')) := by
  intro octets outcome passes
  have hread : outcome = _ := readEightBit_written hc text
  have hkept : outcome.1 = .ok text ↔ ∀ d ∈ text.toList, HasUnits .standard .standard d := by
    rw [hread, Except.ok.injEq, ofList_map_inEightBit_eq_iff]
  have hpasses : passes ↔ _ := isStandardAlphabet_iff
  refine ⟨hread, hkept, hpasses, ?_⟩
  rw [hkept, hpasses]
  constructor
  · intro hagree
    -- a text that passes can be written, and then it has no placeholder
    by_cases hall : ∀ d ∈ text.toList,
        HasUnits .standard .standard d ∨ d = '\ufffe' ∨ d = '\uffff'
    · exact .inl fun d hd hmark => not_hasUnits_of_placeholder hmark (hagree.1 hall d hd)
    · right
      simpa using hall
  · rintro (hplain | ⟨d, hd, hstrange⟩)
    · exact ⟨fun hall d hd => (hall d hd).resolve_right (hplain d hd),
        fun hall d hd => .inl (hall d hd)⟩
    · exact iff_of_false (fun hall => hstrange (hall d hd))
        fun hall => hstrange (.inl (hall d hd))

/-- A placeholder beside a character from outside the tables: the test refuses the text, and the
field does not keep it. -/
theorem alphabet_test_agrees_iff_strange :
    let text := "a€\ufffe漢"
    let c := Cursor.ofOctets [0xAA]
    let octets := eightBitField (eightBitLength text) text.toList
    c.InOrder ∧
      (readEightBit (eightBitLength text) (c.written octets)).1 = .ok "a€  " ∧
      (isStandardAlphabet text.toList = true ↔
        (readEightBit (eightBitLength text) (c.written octets)).1 = .ok text) := by
  intro text c octets
  have hc := Cursor.inOrder_ofOctets [0xAA]
  obtain ⟨hread, -, -, hagree⟩ := alphabet_test_agrees_iff hc text
  have hshown : text.toList.map inEightBit = "a€  ".toList := by decide +kernel
  have hstrange : ¬ InTables .standard .standard '漢' := by decide +kernel
  have hmarks : ¬ ('漢' = '\ufffe' ∨ '漢' = '\uffff') := by decide
  refine ⟨hc, ?_, hagree.2 (.inr ⟨'漢', by decide, ?_⟩)⟩
  · rw [hread, hshown, String.ofList_toList]
  · exact not_or.2 ⟨mt hasUnits_iff_inTables.1 hstrange, hmarks⟩

/-- A placeholder alone passes the test, has no units, and comes back from a field as a space. -/
theorem alphabet_test_passes_placeholder :
    let text := "\ufffe"
    let c := Cursor.empty
    let octets := eightBitField (eightBitLength text) text.toList
    isStandardAlphabet text.toList = true ∧ charUnits .standard .standard '\ufffe' = [] ∧
      (readEightBit (eightBitLength text) (c.written octets)).1 = .ok " " := by
  decide +kernel

end Text

end SimCard
