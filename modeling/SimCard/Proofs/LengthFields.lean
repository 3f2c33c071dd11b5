import SimCard.Proofs.Framing

/-!
# One field for each length

The lengths below `2^24` and the fields that are read as lengths are in one to one correspondence.
From a length to its field and back is `Length.yields_read`, in either direction, and it leaves no
room for a second field.  This file adds what becomes of the other fields that might have been one:

* an octet that announces no length at all, or more octets than three, is refused as soon as it is
  read (`Length.fails_read_of_unknown`);
* a marker followed by as many octets as it announces is refused behind them, unless these are the
  field of their length, which is to say that the length needs them all
  (`Length.fails_read_of_ne`).
-/

set_option autoImplicit false

namespace SimCard

namespace Length

open Cursor

variable {c c' : Cursor} {marker : UInt8} {digits : Octets}

/-- The octets beyond those of the short form that are not known to start a field. -/
theorem form?_of_unknown (h : marker = 0x80 ∨ 0x84 ≤ marker) :
    ¬ marker < 0x80 ∧ form? marker = none := by
  have hne : ∀ known : UInt8, 0x80 < known → known < 0x84 → marker ≠ known := by
    rintro known hlow hhigh rfl
    rcases h with rfl | h
    · exact UInt8.lt_irrefl _ hlow
    · exact UInt8.not_lt.2 h hhigh
  constructor
  · rcases h with rfl | h
    · exact UInt8.lt_irrefl _
    · exact UInt8.not_lt.2 (UInt8.le_trans (by decide) h)
  · rw [form?, if_neg (hne 0x81 (by decide) (by decide)),
      if_neg (hne 0x82 (by decide) (by decide)), if_neg (hne 0x83 (by decide) (by decide))]

/-- A marker announces as many octets as it is above `0x80`, if these are three at most. -/
theorem exists_form?_eq {count : Nat} (hmarker : marker.toNat = 0x80 + count) (hpos : 1 ≤ count)
    (hle : count ≤ 3) : ∃ least, form? marker = some (count, least) := by
  obtain rfl | rfl | rfl : count = 1 ∨ count = 2 ∨ count = 3 := by omega
  · obtain rfl : marker = 0x81 := UInt8.toNat_inj.1 hmarker
    exact ⟨_, rfl⟩
  · obtain rfl : marker = 0x82 := UInt8.toNat_inj.1 hmarker
    exact ⟨_, rfl⟩
  · obtain rfl : marker = 0x83 := UInt8.toNat_inj.1 hmarker
    exact ⟨_, rfl⟩

/-- **An octet that starts no length field** is refused, whatever follows it. -/
theorem fails_read_of_unknown (hmarker : marker = 0x80 ∨ 0x84 ≤ marker) (h : c.Takes [marker] c') :
    read.Fails c (.lengthMarker marker) c' := by
  obtain ⟨hlong, hform⟩ := form?_of_unknown hmarker
  rw [read]
  refine (yields_liftM.2 (yields_readOctet.2 h)).fails_bind ?_
  rw [if_neg hlong, hform]
  rfl

/-- **Octets behind a marker that are not the field of their length** are refused: there is a form
with fewer of them. -/
theorem fails_read_of_ne (hmarker : marker.toNat = 0x80 + digits.length)
    (hpos : 1 ≤ digits.length) (hle : digits.length ≤ 3)
    (hne : marker :: digits ≠ toOctets (withDigits 0 digits)) (h : c.Takes (marker :: digits) c') :
    read.Fails c (.lengthForm marker (withDigits 0 digits)) c' := by
  obtain ⟨least, hform⟩ := exists_form?_eq hmarker hpos hle
  have hlt : withDigits 0 digits < least := by
    refine Nat.not_le.1 fun hleast => hne ?_
    exact (toOctets_of_form hform rfl hleast).2.2.symm
  obtain ⟨c₁, hfirst, hdigits⟩ := takes_cons.1 h
  have hread : (readDigits 0 digits.length).Yields c₁ (withDigits 0 digits) c' :=
    yields_readDigits.2 ⟨digits, rfl, rfl, hdigits⟩
  rw [read]
  refine (yields_liftM.2 (yields_readOctet.2 hfirst)).fails_bind ?_
  rw [if_neg (not_lt_of_form hform), hform]
  refine (yields_liftM.2 hread).fails_bind ?_
  rw [if_pos hlt]
  rfl

/-- **Lengths and their fields correspond one to one.**  The field of a length below `2^24` has the
size that is foretold for it, and from whatever octets follow it the length is read with this size
and nothing else is touched.  A length that was read, from whatever octets, is below `2^24`, and the
octets that were read are its field.  So a field that is not in its shortest form is refused for
what it spells, and an octet that starts no field is refused by itself. -/
theorem length_field_is_exact (c : Cursor) :
    (∀ length < 0x1000000, (toOctets length).length = size length ∧
      ∀ tail, c.rest = toOctets length ++ tail →
        read c = (.ok (length, size length), c.advance (size length)) ∧
          (c.advance (size length)).rest = tail) ∧
      (∀ length count c', read c = (.ok (length, count), c') →
        length < 0x1000000 ∧ count = size length ∧ c.rest.take count = toOctets length ∧
          c' = c.advance count) ∧
      (∀ marker digits tail, c.rest = marker :: digits ++ tail →
        marker.toNat = 0x80 + digits.length → 1 ≤ digits.length → digits.length ≤ 3 →
        marker :: digits ≠ toOctets (withDigits 0 digits) →
          read c = (.error (.lengthForm marker (withDigits 0 digits)),
            c.advance (1 + digits.length))) ∧
      ∀ marker tail, c.rest = marker :: tail → marker = 0x80 ∨ 0x84 ≤ marker →
        read c = (.error (.lengthMarker marker), c.advance 1) := by
  refine ⟨fun length hlength => ⟨length_toOctets length, fun tail htail => ?_⟩, ?_, ?_, ?_⟩
  · rw [← length_toOctets]
    exact ⟨yields_read.2 ⟨hlength, length_toOctets length, takes_of_rest_eq htail⟩,
      rest_advance_of_rest_eq htail⟩
  · intro length count c' h
    obtain ⟨hlength, rfl, htakes⟩ := yields_read.1 h
    rw [← length_toOctets]
    exact ⟨hlength, rfl, by rw [htakes.rest_eq, List.take_left], htakes.2⟩
  · intro marker digits tail hrest hmarker hpos hle hne
    rw [Nat.add_comm]
    exact fails_read_of_ne hmarker hpos hle hne (takes_of_rest_eq hrest)
  · intro marker tail hrest hmarker
    have htakes : c.Takes [marker] (c.advance 1) := takes_of_rest_eq hrest
    exact fails_read_of_unknown hmarker htakes

/-- The least length whose field has three octets, the same length spelled in four, and a marker
that would announce four octets. -/
theorem length_field_is_exact_at_boundary :
    read (.ofOctets [0x82, 0x01, 0x00, 0xAA]) =
        (.ok (0x100, 3), (Cursor.ofOctets [0x82, 0x01, 0x00, 0xAA]).advance 3) ∧
      read (.ofOctets [0x83, 0x00, 0x01, 0x00]) =
        (.error (.lengthForm 0x83 0x100), (Cursor.ofOctets [0x83, 0x00, 0x01, 0x00]).advance 4) ∧
      read (.ofOctets [0x84, 0x00]) =
        (.error (.lengthMarker 0x84), (Cursor.ofOctets [0x84, 0x00]).advance 1) := by
  refine ⟨?_, ?_, ?_⟩
  · exact (((length_field_is_exact _).1 0x100 (by decide)).2 [0xAA] rfl).1
  · exact (length_field_is_exact _).2.2.1 0x83 [0x00, 0x01, 0x00] [] rfl (by decide) (by decide)
      (by decide) (by decide)
  · exact (length_field_is_exact _).2.2.2 0x84 [0x00] rfl (by decide)

end Length

end SimCard
