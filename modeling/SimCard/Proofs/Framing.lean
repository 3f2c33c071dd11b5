import SimCard.Element.Basic
import SimCard.Proofs.Reading

/-!
# The wire format of elements

The writers of `SimCard.Element` say how an element is laid out.  This file shows that the readers
accept exactly that: each reader yields a result if and only if the octets ahead of the cursor are a
written form of it, and then it stops right behind them.

* `Length.yields_read` — a length field.  The four forms share out the lengths below `2^24`, and a
  length that is written in a form longer than its own is refused.
* `Element.yields_readTag` — a tag, in either form, with its flag.
* `Element.yields_read` — an element.  The octets of its value are not determined by the element
  (interpreting forgets filler and the like), so an element has as many written forms as there are
  octets it `Holds`.
* `Element.yields_readList`, `Block.yields_readList` — lists.  `Fills` says which octets make up a
  list under a budget: elements follow each other while there is budget left, whatever the last one
  does to it.
* `Template.yields_read` — a template, whose length is checked against the octets that are there
  for it, and whose elements are not checked against its length.
-/

set_option autoImplicit false

namespace SimCard

@[simp] theorem yields_liftM {α : Type} {x : Reader CursorError α} {c c' : Cursor} {a : α} :
    (liftM x : Reader ElementError α).Yields c a c' ↔ x.Yields c a c' :=
  Step.yields_mapError

/-! ## Length fields -/

namespace Length

variable {c c' : Cursor} {marker : UInt8} {digits : Octets} {number length size' count least : Nat}

/-- A number with more digits of eight bits behind it, the most significant one first. -/
def withDigits (number : Nat) (digits : Octets) : Nat :=
  digits.foldl (fun value digit => value * 256 + digit.toNat) number

theorem yields_readDigits :
    (readDigits number count).Yields c length c' ↔
      ∃ digits : Octets, digits.length = count ∧ withDigits number digits = length ∧
        c.Takes digits c' := by
  induction count generalizing number c with
  | zero =>
    simp only [readDigits, Step.yields_pure]
    constructor
    · rintro ⟨rfl, rfl⟩
      exact ⟨[], rfl, rfl, Cursor.takes_nil.2 rfl⟩
    · rintro ⟨digits, hlen, rfl, h⟩
      obtain rfl := List.length_eq_zero_iff.1 hlen
      exact ⟨rfl, (Cursor.takes_nil.1 h).symm⟩
  | succ count ih =>
    simp only [readDigits, Step.yields_bind, Cursor.yields_readOctet, ih]
    constructor
    · rintro ⟨octet, c₁, h₁, digits, hlen, rfl, h₂⟩
      exact ⟨octet :: digits, by rw [List.length_cons, hlen], rfl, h₁.append h₂⟩
    · rintro ⟨digits, hlen, rfl, h⟩
      cases digits with
      | nil => cases hlen
      | cons octet digits =>
        obtain ⟨c₁, h₁, h₂⟩ := Cursor.takes_cons.1 h
        exact ⟨octet, c₁, h₁, digits, by simpa using hlen, rfl, h₂⟩

theorem length_toOctets (length : Nat) : (toOctets length).length = size length := by
  unfold toOctets size
  split
  · rfl
  · split
    · rfl
    · split <;> rfl

theorem size_le (length : Nat) : size length ≤ 4 := by
  rw [size]
  split
  · decide
  · split
    · decide
    · split <;> decide

theorem toOctets_ne_nil (length : Nat) : toOctets length ≠ [] := by
  rw [← List.length_pos_iff, length_toOctets, size]
  split
  · omega
  · split
    · omega
    · split <;> omega

/-- The markers that are known, each with its count of octets and the least length it is for. -/
theorem form?_cases (h : form? marker = some (count, least)) :
    (marker = 0x81 ∧ count = 1 ∧ least = 0x80) ∨ (marker = 0x82 ∧ count = 2 ∧ least = 0x100) ∨
      (marker = 0x83 ∧ count = 3 ∧ least = 0x10000) := by
  unfold form? at h
  split at h
  · cases h
    exact .inl ⟨‹_›, rfl, rfl⟩
  · split at h
    · cases h
      exact .inr (.inl ⟨‹_›, rfl, rfl⟩)
    · split at h
      · cases h
        exact .inr (.inr ⟨‹_›, rfl, rfl⟩)
      · cases h

theorem not_lt_of_form (h : form? marker = some (count, least)) : ¬ marker < 0x80 := by
  rcases form?_cases h with ⟨rfl, -⟩ | ⟨rfl, -⟩ | ⟨rfl, -⟩ <;> decide

/-- Behind a marker, digits that make up a length which needs them are its written form. -/
theorem toOctets_of_form (hform : form? marker = some (count, least))
    (hlen : digits.length = count) (hleast : least ≤ withDigits 0 digits) :
    withDigits 0 digits < 0x1000000 ∧ size (withDigits 0 digits) = 1 + count ∧
      toOctets (withDigits 0 digits) = marker :: digits := by
  rcases form?_cases hform with ⟨rfl, rfl, rfl⟩ | ⟨rfl, rfl, rfl⟩ | ⟨rfl, rfl, rfl⟩
  · match digits, hlen with
    | [a], _ =>
      have ha := a.toNat_lt
      simp only [withDigits, List.foldl_cons, List.foldl_nil] at hleast ⊢
      refine ⟨by omega, ?_, ?_⟩
      · rw [size, if_neg (by omega), if_pos (by omega)]
      · rw [toOctets, if_neg (by omega), if_pos (by omega)]
        simp
  · match digits, hlen with
    | [a, b], _ =>
      have ha := a.toNat_lt
      have hb := b.toNat_lt
      simp only [withDigits, List.foldl_cons, List.foldl_nil] at hleast ⊢
      refine ⟨by omega, ?_, ?_⟩
      · rw [size, if_neg (by omega), if_neg (by omega), if_pos (by omega)]
      · rw [toOctets, if_neg (by omega), if_neg (by omega), if_pos (by omega)]
        simp only [List.cons.injEq, true_and, and_true, ← UInt8.toNat_inj, UInt8.toNat_ofNat']
        omega
  · match digits, hlen with
    | [a, b, d], _ =>
      have ha := a.toNat_lt
      have hb := b.toNat_lt
      have hd := d.toNat_lt
      simp only [withDigits, List.foldl_cons, List.foldl_nil] at hleast ⊢
      refine ⟨by omega, ?_, ?_⟩
      · rw [size, if_neg (by omega), if_neg (by omega), if_neg (by omega)]
      · rw [toOctets, if_neg (by omega), if_neg (by omega), if_neg (by omega)]
        simp only [List.cons.injEq, true_and, and_true, ← UInt8.toNat_inj, UInt8.toNat_ofNat']
        omega

/-- A length that one octet cannot hold has a marker and the digits it calls for. -/
theorem exists_form (hlow : 0x80 ≤ length) (hhigh : length < 0x1000000) :
    ∃ marker count least digits, form? marker = some (count, least) ∧ digits.length = count ∧
      withDigits 0 digits = length ∧ least ≤ length ∧ toOctets length = marker :: digits := by
  rw [toOctets, if_neg (by omega)]
  split
  · refine ⟨0x81, 1, 0x80, [UInt8.ofNat length], rfl, rfl, ?_, hlow, rfl⟩
    simp only [withDigits, List.foldl_cons, List.foldl_nil, UInt8.toNat_ofNat']
    omega
  · split
    · refine ⟨0x82, 2, 0x100, [UInt8.ofNat (length / 256), UInt8.ofNat length], rfl, rfl, ?_,
        by omega, rfl⟩
      simp only [withDigits, List.foldl_cons, List.foldl_nil, UInt8.toNat_ofNat']
      omega
    · refine ⟨0x83, 3, 0x10000,
        [UInt8.ofNat (length / 65536), UInt8.ofNat (length / 256), UInt8.ofNat length], rfl, rfl,
        ?_, by omega, rfl⟩
      simp only [withDigits, List.foldl_cons, List.foldl_nil, UInt8.toNat_ofNat']
      omega

theorem toOctets_toNat (h : marker < 0x80) :
    toOctets marker.toNat = [marker] ∧ size marker.toNat = 1 := by
  have hlt : marker.toNat < 0x80 := h
  rw [toOctets, size, if_pos hlt, if_pos hlt, UInt8.ofNat_toNat]
  exact ⟨rfl, rfl⟩

/-- **A length field** is read exactly when it is the written form of a length below `2^24`. -/
theorem yields_read :
    read.Yields c (length, size') c' ↔
      length < 0x1000000 ∧ size' = size length ∧ c.Takes (toOctets length) c' := by
  simp only [read, Step.yields_bind, yields_liftM, Cursor.yields_readOctet]
  constructor
  · rintro ⟨marker, c₁, h₁, h⟩
    split at h
    · rename_i hmarker
      obtain ⟨heq, rfl⟩ := Step.yields_pure.1 h
      obtain ⟨rfl, rfl⟩ : marker.toNat = length ∧ 1 = size' := by simpa using heq
      obtain ⟨hoctets, hsize⟩ := toOctets_toNat hmarker
      have hlt := marker.toNat_lt
      exact ⟨by omega, hsize.symm, by rwa [hoctets]⟩
    · split at h
      · exact absurd h Step.not_yields_fail
      · rename_i count least hform
        simp only [Step.yields_bind, yields_liftM, yields_readDigits] at h
        obtain ⟨_, c₂, ⟨digits, hlen, rfl, h₂⟩, h⟩ := h
        split at h
        · exact absurd h Step.not_yields_fail
        · rename_i hleast
          obtain ⟨heq, rfl⟩ := Step.yields_pure.1 h
          obtain ⟨rfl, rfl⟩ : withDigits 0 digits = length ∧ 1 + count = size' := by
            simpa using heq
          obtain ⟨hlt, hsize, hoctets⟩ := toOctets_of_form hform hlen (Nat.not_lt.1 hleast)
          exact ⟨hlt, hsize.symm, hoctets ▸ h₁.append h₂⟩
  · rintro ⟨hlt, rfl, h⟩
    by_cases hlow : length < 0x80
    · refine ⟨UInt8.ofNat length, c', ?_, ?_⟩
      · rwa [toOctets, if_pos hlow] at h
      · have hnat : (UInt8.ofNat length).toNat = length := by
          rw [UInt8.toNat_ofNat']
          omega
        have hmarker : UInt8.ofNat length < 0x80 := by
          rw [UInt8.lt_iff_toNat_lt, hnat]
          exact hlow
        rw [if_pos hmarker, Step.yields_pure, hnat, size, if_pos hlow]
        exact ⟨rfl, rfl⟩
    · obtain ⟨marker, count, least, digits, hform, hlen, rfl, hleast, hoctets⟩ :=
        exists_form (Nat.not_lt.1 hlow) hlt
      rw [hoctets] at h
      obtain ⟨c₁, h₁, h₂⟩ := Cursor.takes_cons.1 h
      refine ⟨marker, c₁, h₁, ?_⟩
      rw [if_neg (not_lt_of_form hform), hform]
      simp only [Step.yields_bind, yields_liftM, yields_readDigits]
      refine ⟨_, c', ⟨digits, hlen, rfl, h₂⟩, ?_⟩
      rw [if_neg (Nat.not_lt.2 hleast), Step.yields_pure,
        (toOctets_of_form hform hlen hleast).2.1]
      exact ⟨rfl, rfl⟩

end Length

/-! ## Tags -/

namespace Element

variable {c c' : Cursor}

/-- The tags that can be written: a long one has fifteen bits; a short one has seven, of which
neither all are clear nor all are set. -/
def TagFits (element : Element) : Prop :=
  if element.isLong then element.tag < 0x8000 else 0x01 ≤ element.tag ∧ element.tag ≤ 0x7E

theorem tagOctets_ne_nil (element : Element) : element.tagOctets ≠ [] := by
  unfold tagOctets
  split <;> simp

/-- The octets that are a tag on their own, flag included. -/
def IsShortTag (octet : UInt8) : Prop :=
  ¬ (octet = 0x00 ∨ octet = 0x80 ∨ octet = 0xFF) ∧ octet ≠ Tag.longMarker

instance : DecidablePred IsShortTag := fun _ => inferInstanceAs (Decidable (_ ∧ _))

/-- An octet that is a tag on its own is seven bits of tag and the flag. -/
theorem shortTag_of_octet (first : UInt8) (hshort : IsShortTag first) :
    (0x01 ≤ (first &&& 0x7F).toUInt16 ∧ (first &&& 0x7F).toUInt16 ≤ 0x7E) ∧
      ((first &&& 0x7F).toUInt16.toUInt8 &&& 0x7F) |||
        (if first &&& Tag.requiredFlag != 0 then Tag.requiredFlag else 0) = first := by
  revert hshort
  revert first
  exact forall_octet (by decide +kernel)

/-- The octet of a short tag and its flag gives both back. -/
theorem octet_of_shortTag (tag : UInt16) (required : Bool) (hlow : 0x01 ≤ tag)
    (hhigh : tag ≤ 0x7E) :
    let first := (tag.toUInt8 &&& 0x7F) ||| (if required then Tag.requiredFlag else 0)
    IsShortTag first ∧ (first &&& 0x7F).toUInt16 = tag ∧
      (first &&& Tag.requiredFlag != 0) = required := by
  have key : ∀ n < 0x7F, 0x01 ≤ n → ∀ required : Bool,
      let first := ((UInt16.ofNat n).toUInt8 &&& 0x7F) |||
        (if required then Tag.requiredFlag else 0)
      IsShortTag first ∧ (first &&& 0x7F).toUInt16 = UInt16.ofNat n ∧
        (first &&& Tag.requiredFlag != 0) = required := by
    decide +kernel
  have h := key tag.toNat (Nat.lt_succ_of_le hhigh) hlow required
  rwa [UInt16.ofNat_toNat] at h

theorem toNat_and_lowBits (word : UInt16) : (word &&& 0x7FFF).toNat = word.toNat % 0x8000 := by
  rw [UInt16.toNat_and]
  exact Nat.and_two_pow_sub_one_eq_mod word.toNat 15

/-- The highest bit of a word is set exactly when the word is in the upper half. -/
theorem and_highBit_ne_zero (word : UInt16) :
    (word &&& 0x8000 != 0) = decide (0x8000 ≤ word.toNat) := by
  have hword := word.toNat_lt
  have hbit : word.toNat.testBit 15 = decide (0x8000 ≤ word.toNat) := by
    rw [Nat.testBit_eq_decide_div_mod_eq, decide_eq_decide]
    omega
  rw [← hbit, bne_eq, Bool.not_eq_eq_eq_not]
  cases h : word.toNat.testBit 15 with
  | true =>
    rw [Bool.not_true, beq_eq_false_iff_ne]
    intro h0
    have h15 : (word.toNat &&& 2 ^ 15).testBit 15 = Nat.testBit 0 15 := by
      rw [← UInt16.toNat_zero, ← h0, UInt16.toNat_and]
      rfl
    rw [Nat.testBit_and, h, Nat.testBit_two_pow] at h15
    simp at h15
  | false =>
    rw [Bool.not_false, beq_iff_eq]
    apply UInt16.toNat_inj.1
    apply Nat.eq_of_testBit_eq
    intro i
    rw [UInt16.toNat_and, Nat.testBit_and, show (0x8000 : UInt16).toNat = 2 ^ 15 from rfl,
      Nat.testBit_two_pow]
    by_cases hi : 15 = i
    · subst hi; simp [h]
    · simp [hi]

theorem toNat_or_highBit (word : UInt16) (h : word.toNat < 0x8000) :
    (word ||| 0x8000).toNat = word.toNat + 0x8000 := by
  rw [UInt16.toNat_or, Nat.or_comm]
  exact (Nat.two_pow_add_eq_or_of_lt (i := 15) h 1).symm.trans (Nat.add_comm _ _)

/-- A word is its low fifteen bits and its highest one. -/
theorem longTag_of_word (word : UInt16) :
    word &&& 0x7FFF < 0x8000 ∧
      ((word &&& 0x7FFF) &&& 0x7FFF) ||| (if word &&& 0x8000 != 0 then 0x8000 else 0) = word := by
  have hword := word.toNat_lt
  have hlow := toNat_and_lowBits word
  have hlt : (word &&& 0x7FFF).toNat < 0x8000 := by omega
  refine ⟨hlt, ?_⟩
  rw [UInt16.and_assoc, UInt16.and_self, and_highBit_ne_zero]
  apply UInt16.toNat_inj.1
  by_cases h : 0x8000 ≤ word.toNat
  · rw [decide_eq_true h, if_pos rfl, toNat_or_highBit _ hlt]
    omega
  · rw [decide_eq_false h, if_neg (by decide), UInt16.or_zero]
    omega

/-- Fifteen bits and the flag above them are the parts of the word they make. -/
theorem word_of_longTag (tag : UInt16) (required : Bool) (h : tag < 0x8000) :
    let word := (tag &&& 0x7FFF) ||| (if required then 0x8000 else 0)
    word &&& 0x7FFF = tag ∧ (word &&& 0x8000 != 0) = required := by
  have hlt : tag.toNat < 0x8000 := h
  have htag : tag &&& 0x7FFF = tag := by
    apply UInt16.toNat_inj.1
    rw [toNat_and_lowBits]
    omega
  have hlow := toNat_and_lowBits (tag ||| 0x8000)
  rw [toNat_or_highBit _ hlt] at hlow
  simp only [htag, and_highBit_ne_zero]
  cases required with
  | false => simp [htag, hlt]
  | true =>
    rw [if_pos rfl, toNat_or_highBit _ hlt]
    refine ⟨UInt16.toNat_inj.1 ?_, by simp⟩
    rw [hlow]
    omega

/-- **A tag** is read exactly when it is the written form of one that fits, flag included. -/
theorem yields_readTag {element : Element} :
    readTag.Yields c (element.tag, element.required, element.isLong) c' ↔
      element.TagFits ∧ c.Takes element.tagOctets c' := by
  obtain ⟨tag, required, isLong, length, value⟩ := element
  simp only [readTag, Step.yields_bind, yields_liftM, Cursor.yields_readOctet, TagFits, tagOctets]
  constructor
  · rintro ⟨first, c₁, h₁, h⟩
    split at h
    · exact absurd h Step.not_yields_fail
    · rename_i hinvalid
      split at h
      · rename_i hmarker
        subst hmarker
        simp only [Step.yields_bind, yields_liftM, Cursor.yields_readWord16] at h
        obtain ⟨word, c₂, h₂, h⟩ := h
        obtain ⟨heq, rfl⟩ := Step.yields_pure.1 h
        obtain ⟨rfl, rfl, rfl⟩ :
            word &&& 0x7FFF = tag ∧ (word &&& 0x8000 != 0) = required ∧ true = isLong := by
          simpa only [Prod.mk.injEq] using heq
        obtain ⟨hfits, hword⟩ := longTag_of_word word
        refine ⟨hfits, ?_⟩
        rw [if_pos rfl, hword]
        exact h₁.append h₂
      · rename_i hshort
        obtain ⟨heq, rfl⟩ := Step.yields_pure.1 h
        obtain ⟨rfl, rfl, rfl⟩ : (first &&& 0x7F).toUInt16 = tag ∧
            (first &&& Tag.requiredFlag != 0) = required ∧ false = isLong := by
          simpa only [Prod.mk.injEq] using heq
        obtain ⟨hfits, hfirst⟩ := shortTag_of_octet first ⟨hinvalid, hshort⟩
        refine ⟨hfits, ?_⟩
        rwa [if_neg (by decide), hfirst]
  · rintro ⟨hfits, h⟩
    cases isLong with
    | false =>
      obtain ⟨⟨hinvalid, hshort⟩, htag, hrequired⟩ :=
        octet_of_shortTag tag required hfits.1 hfits.2
      refine ⟨_, c', h, ?_⟩
      rw [if_neg hinvalid, if_neg hshort, htag, hrequired]
      exact Step.yields_pure.2 ⟨rfl, rfl⟩
    | true =>
      obtain ⟨htag, hrequired⟩ := word_of_longTag tag required hfits
      obtain ⟨c₁, h₁, h₂⟩ := Cursor.takes_cons.1 h
      refine ⟨Tag.longMarker, c₁, h₁, ?_⟩
      rw [if_neg (by decide), if_pos rfl]
      simp only [Step.yields_bind, yields_liftM, Cursor.yields_readWord16]
      refine ⟨_, c', h₂, ?_⟩
      rw [htag, hrequired]
      exact Step.yields_pure.2 ⟨rfl, rfl⟩

/-! ## Elements -/

/-- **An element holds octets** if they are what its value was made from: there are as many as its
length says, and interpreting them under its tag gives its value. -/
structure Holds (element : Element) (octets : Octets) : Prop where
  tag_fits : element.TagFits
  length_eq : element.length = octets.length
  length_lt : octets.length < 0x1000000
  value_eq : element.value =
    if element.isLong then .raw octets else Value.interpret element.tag.toUInt8 octets

/-- The written form of an element with these octets for its value. -/
def frame (element : Element) (octets : Octets) : Octets :=
  element.tagOctets ++ Length.toOctets octets.length ++ octets

theorem frame_ne_nil (element : Element) (octets : Octets) : element.frame octets ≠ [] := by
  simp [frame, tagOctets_ne_nil]

theorem toOctets_eq_frame (element : Element) :
    element.toOctets = element.frame element.value.toOctets := rfl

/-- **An element** is read exactly when it is written ahead of the cursor, with any octets that it
holds. -/
theorem yields_read {element : Element} :
    read.Yields c element c' ↔
      ∃ octets, element.Holds octets ∧ c.Takes (element.frame octets) c' := by
  simp only [read, Step.yields_bind, yields_liftM]
  constructor
  · rintro ⟨⟨tag, required, isLong⟩, c₁, h₁, ⟨length, _⟩, c₂, h₂, octets, c₃, h₃, h⟩
    obtain ⟨rfl, rfl⟩ := Step.yields_pure.1 h
    obtain ⟨hlt, -, h₂⟩ := Length.yields_read.1 h₂
    obtain ⟨rfl, hvalue⟩ :=
      (Cursor.yields_readOctets (h₂.readIndex_le (Length.toOctets_ne_nil _))).1 h₃
    let element : Element :=
      { tag, required, isLong, length := octets.length
        value := if isLong then .raw octets else Value.interpret tag.toUInt8 octets }
    obtain ⟨hfits, htag⟩ : element.TagFits ∧ c.Takes element.tagOctets c₁ := yields_readTag.1 h₁
    exact ⟨octets, ⟨hfits, rfl, hlt, rfl⟩, (htag.append h₂).append hvalue⟩
  · rintro ⟨octets, hholds, h⟩
    obtain ⟨c₂, h₁₂, h₃⟩ := Cursor.takes_append.1 h
    obtain ⟨c₁, h₁, h₂⟩ := Cursor.takes_append.1 h₁₂
    refine ⟨_, c₁, yields_readTag.2 ⟨hholds.tag_fits, h₁⟩, (octets.length, _), c₂,
      Length.yields_read.2 ⟨hholds.length_lt, rfl, h₂⟩, octets, c',
      (Cursor.yields_readOctets (h₂.readIndex_le (Length.toOctets_ne_nil _))).2 ⟨rfl, h₃⟩, ?_⟩
    obtain ⟨tag, required, isLong, length, value⟩ := element
    obtain rfl : length = octets.length := hholds.length_eq
    rw [Step.yields_pure, ← hholds.value_eq]
    exact ⟨rfl, rfl⟩

end Element

/-! ## Lists under a budget

Elements and blocks are read by the same loop: as long as some of the budget is left, read one more
and take what it used off the budget.  What differs is the written form of a single item. -/

/-- **Octets that fill a budget** with the written forms of items: each item starts before the
budget is used up, and the last one uses it up. -/
inductive Fills {α : Type} (IsFrame : α → Octets → Prop) : Nat → List α → Octets → Prop
  | nil : Fills IsFrame 0 [] []
  | cons {budget : Nat} {item : α} {items : List α} {front back : Octets} (hbudget : budget ≠ 0)
      (hframe : IsFrame item front) (hrest : Fills IsFrame (budget - front.length) items back) :
      Fills IsFrame budget (item :: items) (front ++ back)

/-- Written forms one after the other fill the budget of their own octets. -/
theorem fills_flatMap {α β : Type} {IsFrame : α → Octets → Prop} (item : β → α)
    {write : β → Octets} {entries : List β}
    (h : ∀ entry ∈ entries, IsFrame (item entry) (write entry))
    (hne : ∀ item front, IsFrame item front → front ≠ []) :
    Fills IsFrame (entries.flatMap write).length (entries.map item) (entries.flatMap write) := by
  induction entries with
  | nil => exact .nil
  | cons entry entries ih =>
    have hframe := h entry (by simp)
    have hpos := List.length_pos_iff.2 (hne _ _ hframe)
    rw [List.flatMap_cons, List.length_append, List.map_cons]
    refine .cons (by omega) hframe ?_
    rw [Nat.add_sub_cancel_left]
    exact ih fun e he => h e (by simp [he])

/-- One turn of a loop that reads items under a budget, its fuel going down by one. -/
def IsBudgetLoop {ε α : Type} (IsFrame : α → Octets → Prop)
    (loop : Nat → Nat → Reader ε (List α)) : Prop :=
  ∀ fuel budget c items c'', (loop (fuel + 1) budget).Yields c items c'' ↔
    (budget = 0 ∧ items = [] ∧ c'' = c) ∨
      (budget ≠ 0 ∧ ∃ item rest front c', items = item :: rest ∧ IsFrame item front ∧
        c.Takes front c' ∧ (loop fuel (budget - front.length)).Yields c' rest c'')

/-- **What a whole loop reads.**  Each item takes an octet at least, so fuel beyond the octets that
are left never runs out. -/
theorem IsBudgetLoop.yields_iff {ε α : Type} {IsFrame : α → Octets → Prop}
    {loop : Nat → Nat → Reader ε (List α)} (hloop : IsBudgetLoop IsFrame loop)
    (hne : ∀ item front, IsFrame item front → front ≠ []) {fuel budget : Nat} {c c' : Cursor}
    {items : List α} (hfuel : c.remaining < fuel) :
    (loop fuel budget).Yields c items c' ↔
      ∃ octets, Fills IsFrame budget items octets ∧ c.Takes octets c' := by
  induction fuel generalizing budget c items with
  | zero => omega
  | succ fuel ih =>
    -- an item that was taken leaves fewer octets, so the fuel that is left still exceeds them
    have hless : ∀ {item front c₁}, IsFrame item front → c.Takes front c₁ →
        c₁.remaining < fuel := by
      intro item front c₁ hframe htakes
      have hpos := List.length_pos_iff.2 (hne item front hframe)
      have hrest := htakes.remaining_eq
      omega
    rw [hloop]
    constructor
    · rintro (⟨rfl, rfl, rfl⟩ | ⟨hbudget, item, rest, front, c₁, rfl, hframe, h₁, h₂⟩)
      · exact ⟨[], .nil, Cursor.takes_nil.2 rfl⟩
      · obtain ⟨back, hfills, h₂⟩ := (ih (hless hframe h₁)).1 h₂
        exact ⟨front ++ back, .cons hbudget hframe hfills, h₁.append h₂⟩
    · rintro ⟨octets, hfills, h⟩
      cases hfills with
      | nil => exact .inl ⟨rfl, rfl, Cursor.takes_nil.1 h⟩
      | cons hbudget hframe hrest =>
        obtain ⟨c₁, h₁, h₂⟩ := Cursor.takes_append.1 h
        exact .inr ⟨hbudget, _, _, _, c₁, rfl, hframe, h₁,
          (ih (hless hframe h₁)).2 ⟨_, hrest, h₂⟩⟩

namespace Element

variable {c c' : Cursor} {budget : Nat} {elements : List Element}

/-- The written forms of an element. -/
def IsFrame (element : Element) (octets : Octets) : Prop :=
  ∃ value, element.Holds value ∧ octets = element.frame value

theorem IsFrame.ne_nil {element : Element} {octets : Octets} (h : element.IsFrame octets) :
    octets ≠ [] := by
  obtain ⟨value, -, rfl⟩ := h
  exact frame_ne_nil element value

theorem yields_read_iff_isFrame {element : Element} :
    read.Yields c element c' ↔ ∃ octets, element.IsFrame octets ∧ c.Takes octets c' := by
  rw [yields_read]
  constructor
  · rintro ⟨value, hholds, h⟩
    exact ⟨_, ⟨value, hholds, rfl⟩, h⟩
  · rintro ⟨_, ⟨value, hholds, rfl⟩, h⟩
    exact ⟨value, hholds, h⟩

/-- The budget of elements goes by how far the cursor moved, and that is the size of what was
read. -/
theorem isBudgetLoop_readWithin : IsBudgetLoop IsFrame readWithin := by
  intro fuel budget c items c''
  rw [readWithin]
  by_cases hbudget : budget = 0
  · rw [if_pos hbudget, Step.yields_pure]
    simp [hbudget, eq_comm]
  · rw [if_neg hbudget]
    simp only [Step.yields_bind, Step.yields_get, yields_read_iff_isFrame, Step.yields_pure]
    constructor
    · rintro ⟨_, _, ⟨rfl, rfl⟩, element, c₁, ⟨octets, hframe, h₁⟩, _, _, ⟨rfl, rfl⟩, rest, _, h₂,
        rfl, rfl⟩
      rw [h₁.readIndex_eq, Nat.add_sub_cancel_left] at h₂
      exact .inr ⟨hbudget, element, rest, octets, c₁, rfl, hframe, h₁, h₂⟩
    · rintro (⟨h0, -⟩ | ⟨-, element, rest, octets, c₁, rfl, hframe, h₁, h₂⟩)
      · exact absurd h0 hbudget
      · refine ⟨c, c, ⟨rfl, rfl⟩, element, c₁, ⟨octets, hframe, h₁⟩, c₁, c₁, ⟨rfl, rfl⟩, rest, c'',
          ?_, rfl, rfl⟩
        rwa [h₁.readIndex_eq, Nat.add_sub_cancel_left]

/-- **A list of elements** is read exactly when its written forms fill the budget. -/
theorem yields_readList :
    (readList budget).Yields c elements c' ↔
      ∃ octets, Fills IsFrame budget elements octets ∧ c.Takes octets c' :=
  isBudgetLoop_readWithin.yields_iff (fun _ _ => IsFrame.ne_nil) (Nat.lt_succ_self _)

end Element

namespace Block

variable {c c' : Cursor} {budget : Nat} {blocks : List Block}

/-- The written form of a block. -/
def IsFrame (block : Block) (octets : Octets) : Prop :=
  block.length = block.value.length ∧ block.length < 256 ∧
    octets = block.tag :: UInt8.ofNat block.length :: block.value

theorem IsFrame.length_eq {block : Block} {octets : Octets} (h : block.IsFrame octets) :
    octets.length = 2 + block.length := by
  rw [h.2.2, h.1, List.length_cons, List.length_cons]
  omega

/-- **A block** is read exactly when it is written ahead of the cursor. -/
theorem yields_read {block : Block} :
    read.Yields c block c' ↔ ∃ octets, block.IsFrame octets ∧ c.Takes octets c' := by
  simp only [read, Step.yields_bind, yields_liftM, Cursor.yields_readOctet]
  constructor
  · rintro ⟨tag, c₁, h₁, length, c₂, h₂, value, c₃, h₃, h⟩
    obtain ⟨rfl, rfl⟩ := Step.yields_pure.1 h
    obtain ⟨hlen, h₃⟩ := (Cursor.yields_readOctets (h₂.readIndex_le (List.cons_ne_nil _ _))).1 h₃
    refine ⟨_, ⟨hlen.symm, length.toNat_lt, rfl⟩, ?_⟩
    rw [UInt8.ofNat_toNat]
    exact h₁.append (h₂.append h₃)
  · rintro ⟨_, ⟨hlen, hlt, rfl⟩, h⟩
    obtain ⟨tag, length, value⟩ := block
    obtain rfl : length = value.length := hlen
    obtain ⟨c₁, h₁, h⟩ := Cursor.takes_cons.1 h
    obtain ⟨c₂, h₂, h₃⟩ := Cursor.takes_cons.1 h
    have hnat : (UInt8.ofNat value.length).toNat = value.length :=
      UInt8.toNat_ofNat_of_lt' hlt
    refine ⟨tag, c₁, h₁, _, c₂, h₂, value, c', ?_, ?_⟩
    · exact (Cursor.yields_readOctets (h₂.readIndex_le (List.cons_ne_nil _ _))).2
        ⟨hnat.symm, h₃⟩
    · rw [Step.yields_pure, hnat]
      exact ⟨rfl, rfl⟩

/-- The budget of blocks goes by their length octets. -/
theorem isBudgetLoop_readWithin : IsBudgetLoop IsFrame readWithin := by
  intro fuel budget c items c''
  rw [readWithin]
  by_cases hbudget : budget = 0
  · rw [if_pos hbudget, Step.yields_pure]
    simp [hbudget, eq_comm]
  · rw [if_neg hbudget]
    simp only [Step.yields_bind, yields_read, Step.yields_pure]
    constructor
    · rintro ⟨block, c₁, ⟨octets, hframe, h₁⟩, rest, _, h₂, rfl, rfl⟩
      rw [← hframe.length_eq] at h₂
      exact .inr ⟨hbudget, block, rest, octets, c₁, rfl, hframe, h₁, h₂⟩
    · rintro (⟨h0, -⟩ | ⟨-, block, rest, octets, c₁, rfl, hframe, h₁, h₂⟩)
      · exact absurd h0 hbudget
      · rw [hframe.length_eq] at h₂
        exact ⟨block, c₁, ⟨octets, hframe, h₁⟩, rest, c'', h₂, rfl, rfl⟩

/-- **A list of blocks** is read exactly when its written forms fill the budget. -/
theorem yields_readList :
    (readList budget).Yields c blocks c' ↔
      ∃ octets, Fills IsFrame budget blocks octets ∧ c.Takes octets c' := by
  refine isBudgetLoop_readWithin.yields_iff (fun block octets h => ?_) (Nat.lt_succ_self _)
  rw [h.2.2]
  exact List.cons_ne_nil _ _

end Block

/-! ## Templates -/

namespace Template

variable {c c' : Cursor} {size : Nat} {template : Template}

/-- **A template** is read exactly when it is a command, its length is within the octets that are
there for it, and elements that fill this length follow. -/
theorem yields_read :
    (read size).Yields c template c' ↔
      template.tag = Template.Tag.proactiveCommand.code ∧ template.length < 0x1000000 ∧
        template.length ≤ size - (1 + Length.size template.length) ∧
        ∃ octets, Fills Element.IsFrame template.length template.elements octets ∧
          c.Takes (template.tag :: Length.toOctets template.length ++ octets) c' := by
  simp only [read, Step.yields_bind, yields_liftM, Cursor.yields_readOctet]
  constructor
  · rintro ⟨tag, c₁, h₁, h⟩
    split at h
    · exact absurd h Step.not_yields_fail
    · rename_i htag
      simp only [Step.yields_bind] at h
      obtain ⟨⟨length, lengthSize⟩, c₂, h₂, h⟩ := h
      obtain ⟨hlt, rfl, hlength⟩ := Length.yields_read.1 h₂
      split at h
      · exact absurd h Step.not_yields_fail
      · rename_i havailable
        simp only [Step.yields_bind, Element.yields_readList, Step.yields_pure] at h
        obtain ⟨elements, c₃, ⟨octets, hfills, h₃⟩, rfl, rfl⟩ := h
        exact ⟨Decidable.not_not.1 htag, hlt, Nat.not_lt.1 havailable, octets, hfills,
          h₁.append (hlength.append h₃)⟩
  · rintro ⟨htag, hlt, havailable, octets, hfills, h⟩
    obtain ⟨c₁, h₁, h⟩ := Cursor.takes_cons.1 h
    obtain ⟨c₂, h₂, h₃⟩ := Cursor.takes_append.1 h
    refine ⟨template.tag, c₁, h₁, ?_⟩
    rw [if_neg (not_not_intro htag)]
    simp only [Step.yields_bind]
    refine ⟨_, c₂, Length.yields_read.2 ⟨hlt, rfl, h₂⟩, ?_⟩
    rw [if_neg (Nat.not_lt.2 havailable)]
    simp only [Step.yields_bind, Element.yields_readList, Step.yields_pure]
    exact ⟨_, c', ⟨octets, hfills, h₃⟩, rfl, rfl⟩

end Template

end SimCard
