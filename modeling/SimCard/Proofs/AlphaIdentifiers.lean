import SimCard.Proofs.Alphabets
import SimCard.Proofs.Reading
import SimCard.Text.AlphaIdentifier

/-!
# Texts in sixteen-bit units, and alpha identifiers

No character is a surrogate, so a text in sixteen-bit units is read back without exception
(`decodeWords_flatMap_charWords`).  Whatever follows a character cannot change how it is read: a
unit that stands alone is not the first half of a pair, and a pair is complete.

An alpha identifier is read as the longest part of its text that it has room for, as long as the
text holds neither placeholder of the tables (`longestPrefix_decodeAlpha`).  The two are in the
tables but have no units, and `0xFFFF` is also the unit that ends a field.  With just the room that
the text needs, that part is the whole text (`decodeAlpha_alphaField_eightBit`,
`decodeAlpha_alphaField_wide`).  How much room a text needs can be counted off its characters
(`HasRoom`), and `alpha_identifier_is_read_back` puts it all on a cursor.
-/

set_option autoImplicit false

namespace SimCard

namespace Text

variable {c : Char} {text : String}

/-! ## Sixteen-bit units -/

/-- A character is one unit that is no first half, or a pair. -/
theorem charWords_cases (c : Char) :
    (∃ unit, charWords c = [unit] ∧ isHighSurrogate unit = false ∧ unitChar unit = c) ∨
      ∃ high low, charWords c = [high, low] ∧ isHighSurrogate high = true ∧
        isLowSurrogate low = true ∧ pairChar high low = c := by
  have hvalid : c.toNat < 0xD800 ∨ 0xDFFF < c.toNat ∧ c.toNat < 0x110000 := c.valid
  by_cases hcode : c.toNat < 0x10000
  · have hunit : (UInt16.ofNat c.toNat).toNat = c.toNat := UInt16.toNat_ofNat_of_lt' hcode
    have hhigh : isHighSurrogate (UInt16.ofNat c.toNat) = false := by
      simp only [isHighSurrogate, hunit, Bool.and_eq_false_iff, decide_eq_false_iff_not]
      omega
    have hlow : isLowSurrogate (UInt16.ofNat c.toNat) = false := by
      simp only [isLowSurrogate, hunit, Bool.and_eq_false_iff, decide_eq_false_iff_not]
      omega
    refine .inl ⟨UInt16.ofNat c.toNat, by simp [charWords, hcode], hhigh, ?_⟩
    simp [unitChar, hhigh, hlow, hunit]
  · have hhigh : (UInt16.ofNat (0xD800 + (c.toNat - 0x10000) / 0x400)).toNat =
        0xD800 + (c.toNat - 0x10000) / 0x400 := UInt16.toNat_ofNat_of_lt' (by
          change _ < 65536
          omega)
    have hlow : (UInt16.ofNat (0xDC00 + (c.toNat - 0x10000) % 0x400)).toNat =
        0xDC00 + (c.toNat - 0x10000) % 0x400 := UInt16.toNat_ofNat_of_lt' (by
          change _ < 65536
          omega)
    refine .inr ⟨_, _, by simp only [charWords, hcode, if_false]; rfl, ?_, ?_, ?_⟩
    · simp only [isHighSurrogate, hhigh, Bool.and_eq_true, decide_eq_true_eq]
      omega
    · simp only [isLowSurrogate, hlow, Bool.and_eq_true, decide_eq_true_eq]
      omega
    · have hcode : 0x10000 + (0xD800 + (c.toNat - 0x10000) / 0x400 - 0xD800) * 0x400 +
          (0xDC00 + (c.toNat - 0x10000) % 0x400 - 0xDC00) = c.toNat := by omega
      rw [pairChar, hhigh, hlow, hcode, Char.ofNat_toNat]

theorem decodeWords_cons {unit : UInt16} {rest : List UInt16} (h : isHighSurrogate unit = false) :
    decodeWords (unit :: rest) = unitChar unit :: decodeWords rest := by
  cases rest <;> simp [decodeWords, h]

theorem decodeWords_charWords (c : Char) (rest : List UInt16) :
    decodeWords (charWords c ++ rest) = c :: decodeWords rest := by
  obtain ⟨unit, hwords, hhigh, hchar⟩ | ⟨high, low, hwords, hhigh, hlow, hchar⟩ := charWords_cases c
  · rw [hwords, List.singleton_append, decodeWords_cons hhigh, hchar]
  · rw [hwords, List.cons_append, List.singleton_append, decodeWords, hhigh, hlow, hchar]
    rfl

theorem decodeWords_flatMap_charWords (text : List Char) :
    decodeWords (text.flatMap charWords) = text := by
  induction text with
  | nil => rfl
  | cons c text ih => rw [List.flatMap_cons, decodeWords_charWords, ih]

theorem wideOctets_eq (text : List Char) :
    wideOctets text = (text.flatMap charWords).flatMap word16Octets := by
  rw [List.flatMap_assoc]
  rfl

/-- **A text in sixteen-bit units is read back.** -/
theorem decodeWide_wideOctets (text : List Char) : decodeWide (wideOctets text) = text := by
  rw [decodeWide, wideOctets_eq, words16_flatMap_word16Octets, decodeWords_flatMap_charWords]

/-- The unit that ends a field is the unit of one character only. -/
theorem not_mem_charWords (h : c ≠ escapeMark) : 0xFFFF ∉ charWords c := by
  intro hmem
  obtain ⟨unit, hwords, -, hchar⟩ | ⟨high, low, hwords, hhigh, hlow, -⟩ := charWords_cases c
  · rw [hwords, List.mem_singleton] at hmem
    rw [← hmem] at hchar
    exact h (hchar.symm.trans (by decide))
  · rw [hwords, List.mem_cons, List.mem_singleton] at hmem
    rcases hmem with rfl | rfl
    · exact absurd hhigh (by decide)
    · exact absurd hlow (by decide)

/-! ## Alpha identifiers -/

/-- A character of the tables can be written unless it is a placeholder. -/
theorem hasUnits_of_isStandardAlphabet {text : List Char} (h : isStandardAlphabet text = true)
    (hescape : escapeMark ∉ text) (hcontrol : controlMark ∉ text) :
    ∀ c ∈ text, HasUnits .standard .standard c := by
  intro c hc
  rcases isStandardAlphabet_iff.1 h c hc with hunits | rfl | rfl
  · exact hunits
  · exact absurd hc hcontrol
  · exact absurd hc hescape

theorem ofMarker?_of_lt {octet : UInt8} (h : octet < 0x80) : WideScheme.ofMarker? octet = none := by
  revert h
  exact forall_octet (p := fun o => o < 0x80 → WideScheme.ofMarker? o = none) (by decide +kernel)
    octet

/-- Octets of the alphabet and filler announce no scheme. -/
theorem decodeAlpha_eq_decodeEightBit {octets : Octets}
    (h : ∀ octet ∈ octets, octet < 0x80 ∨ octet = filler) :
    decodeAlpha octets = decodeEightBit octets := by
  cases octets with
  | nil => rfl
  | cons octet octets =>
    have hmarker : WideScheme.ofMarker? octet = none := by
      rcases h octet (by simp) with hlt | rfl
      · exact ofMarker?_of_lt hlt
      · decide
    simp [decodeAlpha, hmarker]

/-- **A name of the alphabet is read as the part of it that its field holds.** -/
theorem decodeAlpha_alphaField_of_standard {text : List Char} (h : isStandardAlphabet text = true)
    (hescape : escapeMark ∉ text) (hcontrol : controlMark ∉ text) (size : Nat) :
    decodeAlpha (alphaField size text) = takeWithin eightBitCost size text := by
  have hunits := hasUnits_of_isStandardAlphabet h hescape hcontrol
  have hfield : alphaField size text = eightBitField size text := by
    rw [alphaField, if_pos h]
    split
    · rename_i hzero
      exact (List.length_eq_zero_iff.1 ((length_eightBitField size text).trans hzero)).symm
    · rfl
  have hunmarked : ∀ octet ∈ eightBitField size text, octet < 0x80 ∨ octet = filler := by
    intro octet hoctet
    rcases List.mem_append.1 hoctet with hunit | hfill
    · obtain ⟨c, hc, hunit⟩ := List.mem_flatMap.1 hunit
      have hmem := (longestPrefix_takeWithin (fun _ => rfl) size text).isPrefix.subset hc
      rw [eightBitUnits_eq (hunits c hmem)] at hunit
      exact .inl (lt_of_mem_charUnits hunit)
    · exact .inr (List.eq_of_mem_replicate hfill)
  rw [hfield, decodeAlpha_eq_decodeEightBit hunmarked,
    decodeEightBit_eightBitField_of_hasUnits hunits]

theorem wideCost_pos (c : Char) : 0 < wideCost c := by
  obtain ⟨unit, hwords, -⟩ | ⟨high, low, hwords, -⟩ := charWords_cases c
  · simp [wideCost, charWordOctets, hwords, word16Octets]
  · simp [wideCost, charWordOctets, hwords, word16Octets]

/-- Filler holds no unit but the one that ends a text. -/
theorem takeWhile_words16_replicate (count : Nat) :
    (words16 (List.replicate count filler)).takeWhile (· != 0xFFFF) = [] := by
  match count with
  | 0 => rfl
  | 1 => rfl
  | _ + 2 => rfl

/-- **Any other name is read as the part of it that its field holds**, as long as it does not hold
the unit that ends a field. -/
theorem decodeAlpha_alphaField_of_not_standard {text : List Char}
    (h : isStandardAlphabet text = false) (hescape : escapeMark ∉ text) (size : Nat) :
    decodeAlpha (alphaField size text) = takeWithin wideCost (size - 1) text := by
  have hkept := longestPrefix_takeWithin (fun _ => rfl : ∀ c, wideCost c = _) (size - 1) text
  rcases Nat.eq_zero_or_pos size with rfl | hpos
  · -- a field without octets has room for no character
    have hnil : takeWithin wideCost 0 text = [] := by
      cases text with
      | nil => rfl
      | cons c text => exact if_neg (Nat.not_le.2 (wideCost_pos c))
    rw [Nat.zero_sub, hnil]
    rfl
  · have hfield : alphaField size text = 0x80 :: fillTo (size - 1)
        (wideOctets (takeWithin wideCost (size - 1) text)) := by
      rw [alphaField, if_neg (Nat.ne_of_gt hpos), if_neg (by simp [h])]
      rfl
    have hend : ∀ word ∈ (takeWithin wideCost (size - 1) text).flatMap charWords,
        (word != 0xFFFF) = true := by
      intro word hword
      obtain ⟨c, hc, hmem⟩ := List.mem_flatMap.1 hword
      rw [bne_iff_ne]
      rintro rfl
      exact not_mem_charWords (fun heq => hescape (heq ▸ hkept.isPrefix.subset hc)) hmem
    have hplain : ∀ octets, decodeAlpha (0x80 :: octets) = decodeScheme .plain octets :=
      fun _ => rfl
    rw [hfield, hplain, decodeScheme, fillTo, wideOctets_eq, words16_flatMap_append,
      List.takeWhile_append_of_pos hend, takeWhile_words16_replicate, List.append_nil,
      decodeWords_flatMap_charWords]

/-- Does a part of a text fit into an alpha identifier of `size` octets?  It is coded like the whole
text, and sixteen-bit units leave one octet to their marker. -/
def FitsAlpha (size : Nat) (text part : List Char) : Prop :=
  if isStandardAlphabet text then (part.flatMap eightBitUnits).length ≤ size
  else (wideOctets part).length ≤ size - 1

/-- **An alpha identifier is read as the longest part of its text that fits.** -/
theorem longestPrefix_decodeAlpha {text : List Char} (hescape : escapeMark ∉ text)
    (hcontrol : controlMark ∉ text) (size : Nat) :
    LongestPrefix (FitsAlpha size text) text (decodeAlpha (alphaField size text)) := by
  unfold FitsAlpha
  by_cases h : isStandardAlphabet text = true
  · simp only [if_pos h]
    rw [decodeAlpha_alphaField_of_standard h hescape hcontrol]
    exact longestPrefix_takeWithin (fun _ => rfl) size text
  · simp only [if_neg h]
    rw [decodeAlpha_alphaField_of_not_standard (Bool.eq_false_iff.2 h) hescape]
    exact longestPrefix_takeWithin (fun _ => rfl) (size - 1) text

/-- An alpha identifier has the size that it is to have. -/
theorem length_alphaField (size : Nat) (text : List Char) :
    (alphaField size text).length = size := by
  rw [alphaField]
  split
  · rename_i hzero
    exact hzero.symm
  · split
    · exact length_eightBitField size text
    · have hkept := longestPrefix_takeWithin (fun _ => rfl : ∀ c, wideCost c = _) (size - 1) text
      have hlength := length_fillTo hkept.fits
      rw [List.length_cons, wideOctets, hlength]
      omega

/-- Without a text it is all filler. -/
theorem alphaField_nil (size : Nat) : alphaField size [] = List.replicate size filler := by
  rw [alphaField]
  split
  · rename_i hzero
    rw [hzero, List.replicate_zero]
  · rfl

theorem decodeAlpha_alphaField_eightBit (h : isStandardAlphabet text.toList = true)
    (hescape : escapeMark ∉ text.toList) (hcontrol : controlMark ∉ text.toList) :
    decodeAlpha (alphaField (eightBitLength text) text.toList) = text.toList := by
  rw [decodeAlpha_alphaField_of_standard h hescape hcontrol, takeWithin_eightBitLength]

theorem decodeAlpha_alphaField_wide (h : isStandardAlphabet text.toList = false)
    (hescape : escapeMark ∉ text.toList) :
    decodeAlpha (alphaField (1 + (wideOctets text.toList).length) text.toList) = text.toList := by
  rw [decodeAlpha_alphaField_of_not_standard h hescape, Nat.add_sub_cancel_left]
  exact takeWithin_eq_self (fun _ => rfl) (Nat.le_refl _)

/-! ## The room of a name -/

/-- The octets of a text in eight-bit units: one for each character, and one more for each that is
not in the locking table. -/
def eightBitSize (part : List Char) : Nat :=
  part.length + part.countP (· ∉ Language.standard.lockingTable)

/-- The octets of a text in sixteen-bit units: two for each character, and two more for each from
U+10000 on. -/
def wideSize (part : List Char) : Nat := 2 * (part.length + part.countP (0x10000 ≤ ·.toNat))

theorem unitCount_eq_eightBitSize {part : List Char}
    (h : ∀ c ∈ part, HasUnits .standard .standard c) : unitCount part = eightBitSize part := by
  have hcount : part.countP isExtension =
      part.countP (· ∉ Language.standard.lockingTable) :=
    List.countP_congr fun c hc => by simpa using isExtension_iff (h c hc)
  rw [unitCount, eightBitSize, hcount]

theorem length_charWordOctets (c : Char) :
    (charWordOctets c).length = if 0x10000 ≤ c.toNat then 4 else 2 := by
  rw [charWordOctets, charWords]
  by_cases hcode : c.toNat < 0x10000
  · rw [if_pos hcode, if_neg (Nat.not_le.2 hcode)]
    rfl
  · rw [if_neg hcode, if_pos (Nat.not_lt.1 hcode)]
    rfl

theorem length_wideOctets (part : List Char) : (wideOctets part).length = wideSize part := by
  induction part with
  | nil => rfl
  | cons c part ih =>
    rw [wideOctets, wideSize] at ih
    rw [wideOctets, List.flatMap_cons, List.length_append, ih, length_charWordOctets, wideSize,
      List.length_cons, List.countP_cons]
    by_cases hcode : 0x10000 ≤ c.toNat
    · rw [if_pos hcode, if_pos (decide_eq_true hcode)]
      omega
    · rw [if_neg hcode, if_neg (by simpa using hcode)]
      omega

/-- **Does a part of a name have room in a field of `size` octets?**  If all the characters of the
name are in the common tables, the part is in eight-bit units; if not, it is in sixteen-bit units
behind a marker of one octet. -/
def HasRoom (size : Nat) (text part : List Char) : Prop :=
  if text.all (InTables .standard .standard ·) then eightBitSize part ≤ size
  else wideSize part ≤ size - 1

/-- Without placeholders, the test for the common alphabet is whether all characters are in the
tables. -/
theorem isStandardAlphabet_eq_all {text : List Char} (hescape : escapeMark ∉ text)
    (hcontrol : controlMark ∉ text) :
    isStandardAlphabet text = text.all (InTables .standard .standard ·) := by
  rw [Bool.eq_iff_iff, List.all_eq_true]
  constructor
  · intro h c hc
    have hunits := hasUnits_of_isStandardAlphabet h hescape hcontrol c hc
    exact decide_eq_true (hasUnits_iff_inTables.1 hunits)
  · intro h
    exact isStandardAlphabet_iff.2 fun c hc =>
      .inl (hasUnits_iff_inTables.2 (of_decide_eq_true (h c hc)))

theorem fitsAlpha_iff_hasRoom {text part : List Char} (hescape : escapeMark ∉ text)
    (hcontrol : controlMark ∉ text) (hpart : part <+: text) (size : Nat) :
    FitsAlpha size text part ↔ HasRoom size text part := by
  rw [FitsAlpha, HasRoom, ← isStandardAlphabet_eq_all hescape hcontrol]
  by_cases h : isStandardAlphabet text = true
  · have hunits := hasUnits_of_isStandardAlphabet h hescape hcontrol
    rw [if_pos h, if_pos h, length_flatMap_eightBitUnits,
      unitCount_eq_eightBitSize fun c hc => hunits c (hpart.subset hc)]
  · rw [if_neg h, if_neg h, length_wideOctets]

theorem longestPrefix_hasRoom {text : List Char} (hescape : escapeMark ∉ text)
    (hcontrol : controlMark ∉ text) (size : Nat) :
    LongestPrefix (HasRoom size text) text (decodeAlpha (alphaField size text)) :=
  (longestPrefix_decodeAlpha hescape hcontrol size).congr fun _ hpart =>
    fitsAlpha_iff_hasRoom hescape hcontrol hpart size

/-! ## Names on a cursor -/

theorem yields_readAlpha {c c' : Cursor} (size : Nat) (text : List Char)
    (hc : c.readIndex ≤ c.octets.length) (h : c.Takes (alphaField size text) c') :
    (readAlpha size).Yields c (String.ofList (decodeAlpha (alphaField size text))) c' :=
  Cursor.yields_decoded (fun octets => String.ofList (decodeAlpha octets)) hc
    (length_alphaField size text) h

/-- **Names are cut where their field ends and read back.**  Writing a name adds just as many octets
to a cursor as its field has, and reading them gives the longest part of the name that has room: the
whole name if it has, and nothing if there is no room or no name. -/
theorem alpha_identifier_is_read_back {c : Cursor} (hc : c.InOrder) (size : Nat)
    (name : Option String) (hcontrol : '\ufffe' ∉ (name.getD "").toList)
    (hescape : '\uffff' ∉ (name.getD "").toList) :
    let text := (name.getD "").toList
    let octets := alphaField size text
    (c.write octets).octets = c.octets ++ octets ∧ octets.length = size ∧
      ∃ part, readAlpha size (c.written octets) =
          (.ok (String.ofList part), (c.written octets).advance size) ∧
        ((c.written octets).advance size).rest = [] ∧
        LongestPrefix (HasRoom size text) text part ∧ (HasRoom size text text → part = text) ∧
        (size = 0 ∨ name = none ∨ name = some "" → part = []) := by
  intro text octets
  have hlength : octets.length = size := length_alphaField size text
  have hread := yields_readAlpha size text (hc.readIndex_written_le octets)
    (hc.takes_written hlength)
  have hlongest := longestPrefix_hasRoom hescape hcontrol size
  refine ⟨Cursor.octets_write hc.writeIndex_eq octets, hlength, decodeAlpha octets, hread,
    hc.rest_advance_written hlength, hlongest, hlongest.eq_self, ?_⟩
  rintro (rfl | rfl | rfl)
  · rfl
  · exact List.prefix_nil.1 hlongest.isPrefix
  · exact List.prefix_nil.1 hlongest.isPrefix

/-- A pair of surrogates that would end one octet behind the field is left out whole. -/
theorem alpha_identifier_is_read_back_before_pair :
    let c := Cursor.ofOctets [0xAA]
    let octets := alphaField 6 "a😀漢".toList
    c.InOrder ∧ octets = [0x80, 0x00, 0x61, 0xFF, 0xFF, 0xFF] ∧
      readAlpha 6 (c.written octets) = (.ok "a", (c.written octets).advance 6) := by
  intro c octets
  have hc := Cursor.inOrder_ofOctets [0xAA]
  have hcontrol : '\ufffe' ∉ "a😀漢".toList := by decide
  have hescape : '\uffff' ∉ "a😀漢".toList := by decide
  obtain ⟨-, -, part, hread, -, hlongest, -⟩ :=
    alpha_identifier_is_read_back hc 6 (some "a😀漢") hcontrol hescape
  have hpart : part = "a".toList := by
    rw [hlongest.unique (longestPrefix_hasRoom hescape hcontrol 6)]
    decide +kernel
  rw [hpart, String.ofList_toList] at hread
  exact ⟨hc, by decide +kernel, hread⟩

end Text

end SimCard
