import SimCard.Proofs.Framing

/-!
# Only canonical input is accepted

A list of elements is read from octets, and much of the octets is forgotten: what a value keeps is
its meaning, and the length fields are gone.  This file shows that nothing is lost all the same.
Where a list has been read, the octets that were passed over are the written forms of its elements,
one after the other, each with the octets that its value was made from (`Element.Composes`).  There
is no freedom left in the rest:

* a tag does not begin with one of the three octets that are no tag, and a length is written in the
  fewest octets that can spell it (`Element.HeadCanonical`);
* two inputs that were accepted are the same octets exactly when their elements agree in tag, form
  of the tag, flag and octets of the value, one by one (`Element.trace`).

`Element.accepted_input_is_canonical` puts this together.
-/

set_option autoImplicit false

namespace SimCard

/-! ## What a cursor has passed over -/

namespace Cursor

variable {c c' : Cursor} {octets : Octets}

/-- The octets that lie between a cursor and where it has got to. -/
def passed (c c' : Cursor) : Octets := c.rest.take (c'.readIndex - c.readIndex)

theorem Takes.passed_eq (h : c.Takes octets c') : c.passed c' = octets := by
  rw [passed, h.readIndex_eq, Nat.add_sub_cancel_left, h.rest_eq, List.take_left]

end Cursor

/-! ## Length fields are as short as can be -/

namespace Length

variable {length : Nat} {field : Octets}

/-- **The ways to spell a length**: an octet below `0x80` on its own, or a marker that counts the
octets behind it and those octets.  Nothing is said about leading zeros. -/
inductive Spells : Octets → Nat → Prop
  | short (octet : UInt8) (hoctet : octet < 0x80) : Spells [octet] octet.toNat
  | long (marker : UInt8) (digits : Octets) (hne : digits ≠ [])
      (hmarker : marker.toNat = 0x80 + digits.length) :
      Spells (marker :: digits) (withDigits 0 digits)

/-- The field that is written for a length spells it, and its first octet says so in one of the four
ways that are known. -/
theorem spells_toOctets (h : length < 0x1000000) :
    Spells (toOctets length) length ∧
      ∃ marker digits, toOctets length = marker :: digits ∧ marker ≠ 0x80 ∧ marker < 0x84 := by
  by_cases hlow : length < 0x80
  · have hnat : (UInt8.ofNat length).toNat = length :=
      UInt8.toNat_ofNat_of_lt' (by change _ < 256; omega)
    have hmarker : UInt8.ofNat length < 0x80 := by
      rw [UInt8.lt_iff_toNat_lt, hnat]
      exact hlow
    have hspells := Spells.short (UInt8.ofNat length) hmarker
    rw [hnat] at hspells
    rw [toOctets, if_pos hlow]
    refine ⟨hspells, _, [], rfl, ?_, ?_⟩
    · rintro heq
      rw [heq] at hmarker
      exact absurd hmarker (by decide)
    · exact Nat.lt_trans hmarker (by decide)
  · obtain ⟨marker, count, least, digits, hform, hlen, rfl, -, hoctets⟩ :=
      exists_form (Nat.not_lt.1 hlow) h
    obtain ⟨hcount, hne, hlt, hpos⟩ :
        marker.toNat = 0x80 + count ∧ marker ≠ 0x80 ∧ marker < 0x84 ∧ 0 < count := by
      rcases form?_cases hform with ⟨rfl, rfl, -⟩ | ⟨rfl, rfl, -⟩ | ⟨rfl, rfl, -⟩ <;> decide
    rw [hoctets]
    refine ⟨.long marker digits ?_ (hlen ▸ hcount), marker, digits, rfl, hne, hlt⟩
    exact List.length_pos_iff.1 (hlen ▸ hpos)

/-- One octet of digits stays below `0x100`, and two stay below `0x10000`. -/
theorem withDigits_lt (digits : Octets) :
    (digits.length ≤ 1 → withDigits 0 digits < 0x100) ∧
      (digits.length ≤ 2 → withDigits 0 digits < 0x10000) := by
  rcases digits with _ | ⟨a, _ | ⟨b, _ | ⟨d, digits⟩⟩⟩
  · decide
  · have ha := a.toNat_lt
    simp only [withDigits, List.foldl_cons, List.foldl_nil]
    omega
  · have ha := a.toNat_lt
    have hb := b.toNat_lt
    simp only [withDigits, List.foldl_cons, List.foldl_nil, List.length_cons, List.length_nil]
    omega
  · simp

/-- **A length is written in the fewest octets that spell it.** -/
theorem length_toOctets_le (h : Spells field length) : (toOctets length).length ≤ field.length := by
  rw [length_toOctets, size]
  cases h with
  | short octet hoctet =>
    rw [if_pos (show octet.toNat < 0x80 from hoctet)]
    exact Nat.le_refl 1
  | long marker digits hne hmarker =>
    obtain ⟨hone, htwo⟩ := withDigits_lt digits
    have hpos : 0 < digits.length := List.length_pos_iff.2 hne
    rw [List.length_cons]
    split
    · omega
    · split
      · omega
      · split <;> omega

end Length

/-! ## Elements with the octets of their values -/

namespace Element

variable {c c' : Cursor} {elements elements' : List Element} {octets octets' : Octets}
  {part part' : Element × Octets} {parts parts' : List (Element × Octets)} {budget : Nat}

/-- What stands on the wire for an element, the octets of its value given. -/
def written (part : Element × Octets) : Octets :=
  part.1.tagOctets ++ Length.toOctets part.1.length ++ part.2

/-- **What an element shows on the wire**: its tag, the form of the tag, the flag, and the octets of
its value. -/
def trace (part : Element × Octets) : UInt16 × Bool × Bool × Octets :=
  (part.1.tag, part.1.isLong, part.1.required, part.2)

/-- **Octets are composed of elements** with the octets of their values: these have the length that
the element says, and its value is what they stand for. -/
structure Composes (parts : List (Element × Octets)) (elements : List Element) (octets : Octets) :
    Prop where
  elements_eq : parts.map (·.1) = elements
  octets_eq : octets = parts.flatMap written
  length_eq : ∀ part ∈ parts, part.2.length = part.1.length
  value_eq : ∀ part ∈ parts, part.1.value =
    if part.1.isLong then .raw part.2 else Value.interpret part.1.tag.toUInt8 part.2

/-- **A canonical head**: the tag begins with an octet that tags begin with, and the length is in
its shortest spelling, of a form that is known. -/
structure HeadCanonical (element : Element) : Prop where
  tag : ∃ first rest, element.tagOctets = first :: rest ∧
    first ≠ 0x00 ∧ first ≠ 0x80 ∧ first ≠ 0xFF
  spells : Length.Spells (Length.toOctets element.length) element.length
  least : ∀ field, Length.Spells field element.length →
    (Length.toOctets element.length).length ≤ field.length
  marker : ∃ marker digits, Length.toOctets element.length = marker :: digits ∧
    marker ≠ 0x80 ∧ marker < 0x84

theorem written_eq_frame (h : part.1.Holds part.2) : written part = part.1.frame part.2 := by
  rw [written, frame, h.length_eq]

/-- Elements that fill a budget are what the octets are composed of. -/
theorem exists_composes (h : Fills IsFrame budget elements octets) :
    ∃ parts, Composes parts elements octets ∧ ∀ part ∈ parts, part.1.Holds part.2 := by
  induction h with
  | nil => exact ⟨[], ⟨rfl, rfl, by simp, by simp⟩, by simp⟩
  | @cons budget element elements front back hbudget hframe hrest ih =>
    obtain ⟨value, hholds, rfl⟩ := hframe
    obtain ⟨parts, hcomposes, hparts⟩ := ih
    refine ⟨(element, value) :: parts, ⟨?_, ?_, ?_, ?_⟩, List.forall_mem_cons.2 ⟨hholds, hparts⟩⟩
    · rw [List.map_cons, hcomposes.elements_eq]
    · rw [List.flatMap_cons, ← hcomposes.octets_eq, written_eq_frame hholds]
    · exact List.forall_mem_cons.2 ⟨hholds.length_eq.symm, hcomposes.length_eq⟩
    · exact List.forall_mem_cons.2 ⟨hholds.value_eq, hcomposes.value_eq⟩

/-- What a reader of a list has passed over is composed of the elements it gives. -/
theorem composes_of_readList {count : Nat} (h : readList count c = (.ok elements, c')) :
    c.Takes (c.passed c') c' ∧
      ∃ parts, Composes parts elements (c.passed c') ∧ ∀ part ∈ parts, part.1.Holds part.2 := by
  obtain ⟨octets, hfills, htakes⟩ := yields_readList.1 h
  rw [htakes.passed_eq]
  exact ⟨htakes, exists_composes hfills⟩

/-- An element that holds octets has a canonical head. -/
theorem Holds.headCanonical {element : Element} (h : element.Holds octets) :
    HeadCanonical element := by
  obtain ⟨hspells, hmarker⟩ := Length.spells_toOctets (h.length_eq ▸ h.length_lt)
  refine ⟨?_, hspells, fun field => Length.length_toOctets_le, hmarker⟩
  obtain ⟨tag, required, isLong, length, value⟩ := element
  have hfits := h.tag_fits
  cases isLong with
  | true => exact ⟨Tag.longMarker, _, rfl, by decide⟩
  | false =>
    obtain ⟨⟨hinvalid, -⟩, -⟩ := octet_of_shortTag tag required hfits.1 hfits.2
    exact ⟨_, [], rfl, fun h => hinvalid (.inl h), fun h => hinvalid (.inr (.inl h)),
      fun h => hinvalid (.inr (.inr h))⟩

/-! ## Equal octets, equal elements -/

/-- **Written forms are told apart from the front**: where two of them begin the same octets, they
are the same.  The reader settles it, since it finds either of them there. -/
theorem eq_of_written_append_eq (h : part.1.Holds part.2) (h' : part'.1.Holds part'.2)
    {tail tail' : Octets} (heq : written part ++ tail = written part' ++ tail') :
    part = part' ∧ tail = tail' := by
  obtain ⟨element, value⟩ := part
  obtain ⟨element', value'⟩ := part'
  rw [written_eq_frame h, written_eq_frame h'] at heq
  let c := Cursor.ofOctets (element.frame value ++ tail)
  have hread : read c = (.ok element, c.advance (element.frame value).length) :=
    yields_read.2 ⟨value, h, Cursor.takes_of_rest_eq rfl⟩
  have hread' : read c = (.ok element', c.advance (element'.frame value').length) :=
    yields_read.2 ⟨value', h', Cursor.takes_of_rest_eq heq⟩
  obtain ⟨helement, hadvance⟩ := Prod.mk.inj (hread.symm.trans hread')
  obtain rfl : element = element' := Except.ok.inj helement
  have hlength : (element.frame value).length = (element.frame value').length :=
    Nat.add_left_cancel (congrArg Cursor.readIndex hadvance)
  obtain ⟨hframe, htail⟩ := List.append_inj heq hlength
  rw [frame, frame, ← h.length_eq, ← h'.length_eq, List.append_cancel_left_eq] at hframe
  exact ⟨Prod.ext rfl hframe, htail⟩

theorem written_ne_nil (part : Element × Octets) : written part ≠ [] := by
  simp [written, tagOctets_ne_nil]

/-- Octets are composed in one way only. -/
theorem eq_of_flatMap_written_eq (h : ∀ part ∈ parts, part.1.Holds part.2)
    (h' : ∀ part ∈ parts', part.1.Holds part.2)
    (heq : parts.flatMap written = parts'.flatMap written) : parts = parts' := by
  induction parts generalizing parts' with
  | nil =>
    cases parts' with
    | nil => rfl
    | cons part' parts' => simp [written_ne_nil] at heq
  | cons part parts ih =>
    cases parts' with
    | nil => simp [written_ne_nil] at heq
    | cons part' parts' =>
      rw [List.forall_mem_cons] at h h'
      rw [List.flatMap_cons, List.flatMap_cons] at heq
      obtain ⟨rfl, hrest⟩ := eq_of_written_append_eq h.1 h'.1 heq
      rw [ih h.2 h'.2 hrest]

/-- The octets of an element depend on what it shows and on nothing else. -/
theorem flatMap_written_eq_of_trace_eq (h : ∀ part ∈ parts, part.2.length = part.1.length)
    (h' : ∀ part ∈ parts', part.2.length = part.1.length)
    (htrace : parts.map trace = parts'.map trace) :
    parts.flatMap written = parts'.flatMap written := by
  induction parts generalizing parts' with
  | nil =>
    obtain rfl := List.map_eq_nil_iff.1 htrace.symm
    rfl
  | cons part parts ih =>
    cases parts' with
    | nil => cases htrace
    | cons part' parts' =>
      rw [List.forall_mem_cons] at h h'
      obtain ⟨hpart, hrest⟩ := List.cons.inj htrace
      obtain ⟨htag, hlong, hrequired, hvalue⟩ :
          part.1.tag = part'.1.tag ∧ part.1.isLong = part'.1.isLong ∧
            part.1.required = part'.1.required ∧ part.2 = part'.2 := by
        simpa [trace] using hpart
      have hwritten : written part = written part' := by
        rw [written, written, ← h.1, ← h'.1, tagOctets, tagOctets, htag, hlong, hrequired, hvalue]
      rw [List.flatMap_cons, List.flatMap_cons, hwritten, ih h.2 h'.2 hrest]

/-- What a list that has been read is composed of holds together. -/
theorem Composes.holds (h : Composes parts elements octets)
    (hread : ∃ parts, Composes parts elements octets ∧ ∀ part ∈ parts, part.1.Holds part.2) :
    ∀ part ∈ parts, part.1.Holds part.2 := by
  obtain ⟨parts', h', hholds⟩ := hread
  intro part hpart
  have hmem : part.1 ∈ parts'.map (·.1) := by
    rw [h'.elements_eq, ← h.elements_eq]
    exact List.mem_map_of_mem hpart
  obtain ⟨other, hother, heq⟩ := List.mem_map.1 hmem
  have hfits := hholds other hother
  rw [heq] at hfits
  have hlength := h.length_eq part hpart
  exact ⟨hfits.tag_fits, hlength.symm, hlength ▸ hfits.length_eq ▸ hfits.length_lt,
    h.value_eq part hpart⟩

/-- **Only canonical input is accepted, and nothing of it is lost.**  Where a list of elements has
been read, the cursor has passed over octets that are composed of these elements, and the head of
each is canonical.  Two inputs that were accepted, under any budgets, are the same octets exactly
when their elements show the same. -/
theorem accepted_input_is_canonical {count : Nat} (h : readList count c = (.ok elements, c')) :
    c' = c.advance (c.passed c').length ∧
      (∃ parts, Composes parts elements (c.passed c')) ∧
      (∀ element ∈ elements, HeadCanonical element) ∧
      ∀ (count' : Nat) (d d' : Cursor) (elements' : List Element),
        readList count' d = (.ok elements', d') →
        ∀ parts parts', Composes parts elements (c.passed c') →
          Composes parts' elements' (d.passed d') →
          (c.passed c' = d.passed d' ↔ parts.map trace = parts'.map trace) := by
  obtain ⟨htakes, hread⟩ := composes_of_readList h
  obtain ⟨found, hfound, hholds⟩ := id hread
  refine ⟨htakes.2, ⟨found, hfound⟩, ?_, ?_⟩
  · intro element helement
    rw [← hfound.elements_eq] at helement
    obtain ⟨part, hpart, rfl⟩ := List.mem_map.1 helement
    exact (hholds part hpart).headCanonical
  · intro count' d d' elements' h' parts parts' hcomposes hcomposes'
    have hread' := (composes_of_readList h').2
    constructor
    · intro heq
      rw [hcomposes.octets_eq, hcomposes'.octets_eq] at heq
      rw [eq_of_flatMap_written_eq (hcomposes.holds hread) (hcomposes'.holds hread') heq]
    · intro htrace
      rw [hcomposes.octets_eq, hcomposes'.octets_eq]
      exact flatMap_written_eq_of_trace_eq hcomposes.length_eq hcomposes'.length_eq htrace

/-- Two inputs that differ in the flag of a tag in the long form, and in what stands behind them. -/
theorem accepted_input_is_canonical_flag :
    let c := Cursor.ofOctets [0x7F, 0x12, 0x34, 0x01, 0xAB, 0x0E, 0x01, 0x05]
    let d := Cursor.ofOctets [0x7F, 0x92, 0x34, 0x01, 0xAB, 0x0E, 0x01, 0x05, 0x00]
    let long (required : Bool) : Element :=
      { tag := 0x1234, required, isLong := true, length := 1, value := .raw [0xAB] }
    let tone : Element := .ofValue 0x0E false (.tone 0x05)
    readList 8 c = (.ok [long false, tone], c.advance 8) ∧
      readList 6 d = (.ok [long true, tone], d.advance 8) ∧
      (∃ parts, Composes parts [long false, tone] (c.passed (c.advance 8))) ∧
      ∀ parts parts', Composes parts [long false, tone] (c.passed (c.advance 8)) →
        Composes parts' [long true, tone] (d.passed (d.advance 8)) →
        parts.map trace ≠ parts'.map trace := by
  intro c d long tone
  have hc : readList 8 c = (.ok [long false, tone], c.advance 8) := rfl
  have hd : readList 6 d = (.ok [long true, tone], d.advance 8) := rfl
  obtain ⟨-, hparts, -, hsame⟩ := accepted_input_is_canonical hc
  refine ⟨hc, hd, hparts, ?_⟩
  intro parts parts' hcomposes hcomposes' htrace
  have heq := (hsame 6 d _ _ hd parts parts' hcomposes hcomposes').2 htrace
  exact absurd heq (by decide)

end Element

end SimCard
