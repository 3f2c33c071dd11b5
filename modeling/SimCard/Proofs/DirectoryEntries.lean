import SimCard.Card.Files
import SimCard.Proofs.AlphaIdentifiers
import SimCard.Proofs.Reading
import SimCard.Proofs.SemiOctets

/-!
# Directory entries are read back

A record of a directory has a fixed size, so it keeps what fits of a name and of a number.  This
file says what that is: of the name, the longest part that has room in its coding; of the number, a
`+` in front and the first twenty dialling digits.

* `Number.yields_readNumberField` reads a number field, in any position.
* `DirectoryEntry.yields_read` reads a whole record, and `DirectoryEntry.length_recordOctets` says
  that the record has just the size that it is to have.
* `DirectoryEntry.record_is_read_back` puts a record on a cursor and takes it off again.

A field of a number is never malformed: twenty digits and the type of the number take eleven octets,
which is what the field has after its length.
-/

set_option autoImplicit false

namespace SimCard

/-! ## Number fields -/

namespace Number

variable {number : List Char}

/-- **What a number field keeps of a number**: whether it starts with `+`, and its first twenty
dialling digits. -/
def kept (number : List Char) : List Char := signedAs number ((diallable number).take 20)

/-- What is written of a number: its type, and its digits as far as they fit. -/
def usedOctets (number : List Char) : Octets :=
  numberType number :: digitOctets ((digitsOf number).take fieldDigits)

theorem mem_dialDigits_of_mem_take :
    ∀ c ∈ (digitsOf number).take fieldDigits, c ∈ dialDigits :=
  fun c hc => mem_dialDigits_of_mem_digitsOf c (List.mem_of_mem_take hc)

theorem length_usedOctets_le (number : List Char) : (usedOctets number).length ≤ 11 := by
  have hdigits := length_digitOctets (@mem_dialDigits_of_mem_take number)
  have htake : ((digitsOf number).take fieldDigits).length ≤ 20 := List.length_take_le _ _
  rw [usedOctets, List.length_cons]
  omega

theorem numberField_of_ne_nil (h : number ≠ []) :
    numberField number = UInt8.ofNat (usedOctets number).length ::
      (usedOctets number ++ List.replicate (fieldSize - (usedOctets number).length) 0xFF) := by
  rw [numberField, if_neg (by simpa using h)]
  rfl

/-- A number field has twelve octets. -/
theorem length_numberField (number : List Char) : (numberField number).length = 12 := by
  by_cases h : number = []
  · rw [h]
    rfl
  · have hle := length_usedOctets_le number
    rw [numberField_of_ne_nil h, List.length_cons, List.length_append, List.length_replicate,
      fieldSize]
    omega

/-- The octets of a number stand for what is kept of it. -/
theorem decodeDialling_usedOctets (number : List Char) :
    decodeDialling (usedOctets number) = kept number :=
  decodeDialling_numberType number mem_dialDigits_of_mem_take

/-- **A number field is read back**, as far as it keeps its number. -/
theorem yields_readNumberField {c c' : Cursor} (hc : c.readIndex ≤ c.octets.length)
    (h : c.Takes (numberField number) c') :
    ∃ found : Option String, readNumberField.Yields c found c' ∧
      found.getD "" = String.ofList (kept number) := by
  by_cases hnumber : number = []
  · subst hnumber
    obtain ⟨c₁, hlength, hfiller⟩ := Cursor.takes_cons.1 h
    refine ⟨none, ?_, rfl⟩
    simp only [readNumberField, Step.yields_bind, yields_liftM_field, Cursor.yields_readOctet]
    refine ⟨0xFF, c₁, hlength, ?_⟩
    rw [if_pos rfl]
    simp only [Step.yields_bind, yields_liftM_field]
    exact ⟨(), c', (Cursor.yields_skip fieldSize (by decide) (hlength.within hc)).2
      ⟨_, rfl, hfiller⟩, Step.yields_pure.2 ⟨rfl, rfl⟩⟩
  · rw [numberField_of_ne_nil hnumber] at h
    obtain ⟨c₁, hlength, h⟩ := Cursor.takes_cons.1 h
    obtain ⟨c₂, hused, hfiller⟩ := Cursor.takes_append.1 h
    have hle := length_usedOctets_le number
    have hnat : (UInt8.ofNat (usedOctets number).length).toNat = (usedOctets number).length :=
      UInt8.toNat_ofNat_of_lt' (by change _ < 256; omega)
    have hne : UInt8.ofNat (usedOctets number).length ≠ 0xFF := by
      intro heq
      rw [heq] at hnat
      exact absurd hle (by rw [← hnat]; decide)
    have hc₁ := hlength.within hc
    refine ⟨some (String.ofList (kept number)), ?_, rfl⟩
    simp only [readNumberField, Step.yields_bind, yields_liftM_field, Cursor.yields_readOctet]
    refine ⟨_, c₁, hlength, ?_⟩
    rw [if_neg hne, if_neg (by rw [hnat]; exact Nat.not_lt.2 hle), hnat]
    simp only [Step.yields_bind, yields_liftM_field, Step.yields_pure]
    refine ⟨_, c₂, yields_readDialling hc₁ hused, (), c', ?_, ?_, rfl⟩
    · refine (Cursor.yields_skip _ (by rw [fieldSize]; omega) (hused.within hc₁)).2
        ⟨_, List.length_replicate, hfiller⟩
    · exact congrArg (some ∘ String.ofList) (decodeDialling_usedOctets number)

end Number

/-! ## Whole records -/

namespace DirectoryEntry

/-- What a record of `size` octets keeps of a name. -/
def keptName (size : Nat) (name : List Char) : List Char :=
  Text.decodeAlpha (Text.alphaField (size - footerSize) name)

/-- The entry of a name and a number, unless both are empty. -/
def ofFields? (name number : List Char) : Option DirectoryEntry :=
  if name = [] ∧ number = [] then none
  else some { name := String.ofList name, number := String.ofList number }

/-- A record has the size that it is to have. -/
theorem length_recordOctets {size : Nat} (h : 14 ≤ size) (name number : Option String) :
    (recordOctets size name number).length = size := by
  rw [recordOctets, List.length_append, List.length_append, Text.length_alphaField,
    Number.length_numberField, footerSize]
  change size - 14 + 12 + 2 = size
  omega

/-- **A record is read back**, as far as it keeps its name and its number. -/
theorem yields_read {c c' : Cursor} (size : Nat) (name number : Option String)
    (hc : c.readIndex ≤ c.octets.length) (h : c.Takes (recordOctets size name number) c') :
    (read size).Yields c
      (ofFields? (keptName size (name.getD "").toList) (Number.kept (number.getD "").toList))
      c' := by
  obtain ⟨c₂, h, hreferences⟩ := Cursor.takes_append.1 h
  obtain ⟨c₁, hname, hnumber⟩ := Cursor.takes_append.1 h
  have hc₁ := hname.within hc
  obtain ⟨found, hfound, hkept⟩ := Number.yields_readNumberField hc₁ hnumber
  simp only [read, Step.yields_bind, yields_liftM_field, Step.yields_pure]
  refine ⟨String.ofList (keptName size (name.getD "").toList), c₁, ?_, found, c₂, hfound, (), c',
    (Cursor.yields_skip 2 (by decide) (hnumber.within hc₁)).2 ⟨_, rfl, hreferences⟩, ?_, rfl⟩
  · exact Text.yields_readAlpha _ _ hc hname
  · rw [hkept, ofFields?]
    simp

theorem ofFields?_eq_none_iff {name number : List Char} :
    ofFields? name number = none ↔ name = [] ∧ number = [] := by
  simp [ofFields?]

/-- A record without a name and a number is all filler. -/
theorem recordOctets_of_empty {size : Nat} (h : 14 ≤ size) {name number : Option String}
    (hname : name.getD "" = "") (hnumber : number.getD "" = "") :
    recordOctets size name number = List.replicate size 0xFF := by
  have hfield : Number.numberField [] = List.replicate 12 0xFF := rfl
  have hreferences : ([0xFF, 0xFF] : Octets) = List.replicate 2 0xFF := rfl
  have hsum : size - footerSize + 12 + 2 = size := by
    rw [footerSize]
    omega
  rw [recordOctets, hname, hnumber, String.toList_empty, Text.alphaField_nil, hfield, hreferences,
    Text.filler, List.replicate_append_replicate, List.replicate_append_replicate, hsum]

/-- **Records of a directory are read back.**  Writing a record adds just as many octets to a cursor
as it is to have, the last two of them filler.  Reading it never fails, takes all of it, and gives
the longest part of the name that has room before the number, and what is kept of the number: a `+`
in front and twenty dialling digits.  A record that keeps neither reads as unused, and one that was
given neither is all filler. -/
theorem record_is_read_back {c : Cursor} (hc : c.InOrder) {size : Nat} (hsize : 14 ≤ size)
    (name number : Option String) (hcontrol : '\ufffe' ∉ (name.getD "").toList)
    (hescape : '\uffff' ∉ (name.getD "").toList) :
    let text := (name.getD "").toList
    let kept := Number.kept (number.getD "").toList
    let octets := recordOctets size name number
    (c.write octets).octets = c.octets ++ octets ∧ octets.length = size ∧
      [0xFF, 0xFF] <:+ octets ∧
      (∃ part, Text.LongestPrefix (Text.HasRoom (size - 14) text) text part ∧
        read size (c.written octets) =
          (.ok (ofFields? part kept), (c.written octets).advance size) ∧
        ((c.written octets).advance size).rest = [] ∧
        (ofFields? part kept = none ↔ part = [] ∧ kept = [])) ∧
      (number.getD "" = "" → kept = []) ∧
      (name.getD "" = "" → number.getD "" = "" → octets = List.replicate size 0xFF) := by
  intro text kept octets
  have hlength : octets.length = size := length_recordOctets hsize name number
  have hread := yields_read size name number (hc.readIndex_written_le octets)
    (hc.takes_written hlength)
  refine ⟨Cursor.octets_write hc.writeIndex_eq octets, hlength, List.suffix_append _ _,
    ⟨keptName size text, Text.longestPrefix_hasRoom hescape hcontrol _, hread,
      hc.rest_advance_written hlength, ofFields?_eq_none_iff⟩, ?_, recordOctets_of_empty hsize⟩
  intro hnumber
  rw [show kept = Number.kept (number.getD "").toList from rfl, hnumber]
  rfl

/-- Four octets for the name, which would need five, and an odd number of digits. -/
theorem record_is_read_back_cut :
    let c := Cursor.ofOctets [0xAA]
    let octets := recordOctets 18 (some "a\x7b€") (some "+1-23")
    c.InOrder ∧ 14 ≤ 18 ∧
      octets = [0x61, 0x1B, 0x28, 0xFF, 0x03, 0x91, 0x21, 0xF3] ++ List.replicate 10 0xFF ∧
      read 18 (c.written octets) =
        (.ok (some { name := "a\x7b", number := "+123" }), (c.written octets).advance 18) := by
  intro c octets
  have hc := Cursor.inOrder_ofOctets [0xAA]
  have hcontrol : '\ufffe' ∉ "a\x7b€".toList := by decide
  have hescape : '\uffff' ∉ "a\x7b€".toList := by decide
  obtain ⟨-, -, -, ⟨part, hpart, hread, -⟩, -⟩ :=
    record_is_read_back hc (show 14 ≤ 18 by decide) (some "a\x7b€") (some "+1-23") hcontrol hescape
  have hname : part = "a\x7b".toList := by
    rw [hpart.unique (Text.longestPrefix_hasRoom hescape hcontrol 4)]
    decide +kernel
  have hentry : ofFields? "a\x7b".toList (Number.kept "+1-23".toList) =
      some { name := "a\x7b", number := "+123" } := by
    decide +kernel
  rw [hname, show ((some "+1-23").getD "").toList = "+1-23".toList from rfl, hentry] at hread
  exact ⟨hc, by decide, by decide +kernel, hread⟩

end DirectoryEntry

end SimCard
