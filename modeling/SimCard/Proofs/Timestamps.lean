import SimCard.Number.Timestamp
import SimCard.Proofs.Reading

/-!
# Timestamps are read back

Seven octets hold a date of this century, a time of day in whole seconds, and a distance from
universal time in whole quarters of an hour.  There are less than eighty quarters either way, as the
bit of the sign is one of the four that the tens of the distance are in.  `Timestamp.Fits` says just
that, in the terms of the calendar.

A timestamp is read of every date (`Timestamp.ofOctets?_toOctets_of_isValid`).  What is lost is the
century, the part of a quarter that is not whole, and whether a bit was the sign or eighty quarters
(`Timestamp.shown`).  The timestamps that fit are the ones that are read back
(`Timestamp.Fits.ofOctets?_toOctets`), and reading gives no others (`Timestamp.fits_of_ofOctets?`),
though it accepts many octets that are never written: with filler in a high half, with halves that
are no digits, and with a sign at a distance of nothing.
-/

set_option autoImplicit false

namespace SimCard

namespace Timestamp

variable {t : Timestamp} {c c' : Cursor} {octets : Octets}

/-! ## Fields -/

theorem octetField_fieldOctet {value : Nat} (h : value < 100) :
    octetField (fieldOctet value) = value := by
  revert value
  decide +kernel

theorem octetField_lt (octet : UInt8) : octetField octet < 100 :=
  forall_octet (p := fun o => octetField o < 100) (by decide +kernel) octet

/-! ## What seven octets can hold -/

/-- **A timestamp that seven octets can hold.** -/
structure Fits (t : Timestamp) : Prop where
  year_ge : 2000 ≤ t.year
  year_le : t.year ≤ 2099
  month_pos : 1 ≤ t.month
  month_le : t.month ≤ 12
  day_pos : 1 ≤ t.day
  day_le : t.day ≤ daysInMonth t.year t.month
  hour_lt : t.hour < 24
  minute_lt : t.minute < 60
  second_lt : t.second < 60
  quarters : 900 ∣ t.offset
  distance_le : t.offset.natAbs ≤ 79 * 900

/-- A month with days is one of the twelve. -/
theorem month_of_day_le {year : Int} {month day : Nat} (hpos : 1 ≤ day)
    (hle : day ≤ daysInMonth year month) : 1 ≤ month ∧ month ≤ 12 := by
  rw [daysInMonth] at hle
  split at hle
  · omega
  · split at hle
    · rename_i hmonth
      simp only [List.contains_iff_mem, List.mem_cons, List.not_mem_nil, or_false] at hmonth
      omega
    · split at hle
      · assumption
      · omega

theorem daysInMonth_lt (year : Int) (month : Nat) : daysInMonth year month < 100 := by
  rw [daysInMonth]
  repeat' split
  all_goals decide

theorem isValid_iff :
    t.isValid = true ↔ 1 ≤ t.day ∧ t.day ≤ daysInMonth t.year t.month ∧ t.hour < 24 ∧
      t.minute < 60 ∧ t.second < 60 ∧ t.offset.natAbs < 86400 := by
  simp only [isValid, Bool.and_eq_true, decide_eq_true_eq, and_assoc]

theorem Fits.isValid (h : t.Fits) : t.isValid = true :=
  isValid_iff.2 ⟨h.day_pos, h.day_le, h.hour_lt, h.minute_lt, h.second_lt,
    Nat.lt_of_le_of_lt h.distance_le (by decide)⟩

/-! ## Distances -/

/-- The distance that is read of one: whole quarters of an hour on its side of universal time.  From
eighty quarters on the tens run into the bit of the sign, which then stands for the eighty. -/
def shownOffset (offset : Int) : Int :=
  let quarters : Int := (offset.natAbs / 900 : Nat)
  if 80 ≤ quarters then -(900 * (quarters - 80))
  else if offset < 0 then -(900 * quarters)
  else 900 * quarters

/-- The quarters of an hour in a day, on either side. -/
theorem octetOffset_fieldOctet : ∀ count < 96,
    octetOffset (fieldOctet count) =
        (if 80 ≤ count then -(900 * (count - 80 : Nat) : Int) else (900 * count : Nat)) ∧
      octetOffset (fieldOctet count ||| 0x08) =
        (if 80 ≤ count then -(900 * (count - 80 : Nat) : Int) else -(900 * count : Nat)) := by
  decide +kernel

theorem octetOffset_offsetOctet {offset : Int} (hlt : offset.natAbs < 86400) :
    octetOffset (offsetOctet offset) = shownOffset offset := by
  obtain ⟨hahead, hbehind⟩ := octetOffset_fieldOctet (offset.natAbs / 900) (by omega)
  by_cases hside : offset < 0
  · rw [offsetOctet, if_pos hside, hbehind, shownOffset, if_pos hside]
    split <;> split <;> omega
  · rw [offsetOctet, if_neg hside, hahead, shownOffset, if_neg hside]
    split <;> split <;> omega

theorem shownOffset_eq {offset : Int} (hquarters : 900 ∣ offset)
    (hle : offset.natAbs ≤ 79 * 900) : shownOffset offset = offset := by
  rw [shownOffset, if_neg (by omega)]
  split <;> omega

/-- Whatever octet is read, it is a distance of that kind. -/
theorem octetOffset_bounds (octet : UInt8) :
    900 ∣ octetOffset octet ∧ (octetOffset octet).natAbs ≤ 79 * 900 :=
  forall_octet (p := fun o => 900 ∣ octetOffset o ∧ (octetOffset o).natAbs ≤ 79 * 900)
    (by decide +kernel) octet

/-! ## Seven octets -/

/-- **The timestamp that is read of a date**: one of this century, at a distance of whole
quarters. -/
def shown (t : Timestamp) : Timestamp :=
  { t with year := 2000 + t.year % 100, offset := shownOffset t.offset }

/-- A month is no shorter in this century: every fourth of its years has a 29th of February. -/
theorem daysInMonth_le (year : Int) (month : Nat) :
    daysInMonth year month ≤ daysInMonth (2000 + year % 100) month := by
  have hleap : isLeapYear year = true → isLeapYear (2000 + year % 100) = true := by
    simp only [isLeapYear, Bool.or_eq_true, Bool.and_eq_true, beq_iff_eq, bne_iff_ne]
    omega
  rw [daysInMonth, daysInMonth]
  by_cases hmonth : month = 2
  · rw [if_pos hmonth, if_pos hmonth]
    split
    · rename_i h
      exact Nat.le_of_eq (if_pos (hleap h)).symm
    · split <;> decide
  · exact Nat.le_of_eq (by rw [if_neg hmonth, if_neg hmonth])

theorem isValid_shown (h : t.isValid = true) : t.shown.isValid = true := by
  obtain ⟨hpos, hday, hhour, hminute, hsecond, hoffset⟩ := isValid_iff.1 h
  refine isValid_iff.2 ⟨hpos, Nat.le_trans hday (daysInMonth_le t.year t.month), hhour, hminute,
    hsecond, ?_⟩
  change (shownOffset t.offset).natAbs < 86400
  rw [← octetOffset_offsetOctet hoffset]
  exact Nat.lt_of_le_of_lt (octetOffset_bounds _).2 (by decide)

/-- **A date is read from its octets**, as far as they can hold it. -/
theorem ofOctets?_toOctets_of_isValid (h : t.isValid = true) :
    ofOctets? t.toOctets = some t.shown := by
  obtain ⟨hpos, hle, hhour, hminute, hsecond, hoffset⟩ := isValid_iff.1 h
  have hday := Nat.lt_of_le_of_lt hle (daysInMonth_lt t.year t.month)
  have hmonth := Nat.lt_of_le_of_lt (month_of_day_le hpos hle).2 (show 12 < 100 by decide)
  have hyear : 2000 + (((t.year - 2000) % 100).toNat : Int) = 2000 + t.year % 100 := by omega
  have hfields : ofFields (fieldOctet ((t.year - 2000) % 100).toNat) (fieldOctet t.month)
      (fieldOctet t.day) (fieldOctet t.hour) (fieldOctet t.minute) (fieldOctet t.second)
      (offsetOctet t.offset) = t.shown := by
    rw [ofFields, octetField_fieldOctet (show ((t.year - 2000) % 100).toNat < 100 by omega), hyear,
      octetField_fieldOctet hmonth, octetField_fieldOctet hday,
      octetField_fieldOctet (Nat.lt_trans hhour (by decide)),
      octetField_fieldOctet (Nat.lt_trans hminute (by decide)),
      octetField_fieldOctet (Nat.lt_trans hsecond (by decide)), octetOffset_offsetOctet hoffset,
      shown]
  simp only [ofOctets?, toOctets, hfields, if_pos (isValid_shown h)]

theorem Fits.shown_eq (h : t.Fits) : t.shown = t := by
  have hyear : 2000 + t.year % 100 = t.year := by
    have hge := h.year_ge
    have hle := h.year_le
    omega
  rw [shown, hyear, shownOffset_eq h.quarters h.distance_le]

/-- **A timestamp that fits is read from its octets.** -/
theorem Fits.ofOctets?_toOctets (h : t.Fits) : ofOctets? t.toOctets = some t := by
  rw [ofOctets?_toOctets_of_isValid h.isValid, h.shown_eq]

/-- **What is read fits**, whatever the octets are. -/
theorem fits_of_ofOctets? (h : ofOctets? octets = some t) : t.Fits := by
  rw [ofOctets?.eq_def] at h
  split at h
  · rename_i year month day hour minute second zone _
    simp only at h
    split at h
    · rename_i hvalid
      obtain rfl := Option.some.inj h
      obtain ⟨hdayPos, hdayLe, hhour, hminute, hsecond, -⟩ := isValid_iff.1 hvalid
      obtain ⟨hmonthPos, hmonthLe⟩ := month_of_day_le hdayPos hdayLe
      obtain ⟨hquarters, hdistance⟩ := octetOffset_bounds zone
      have hyear := octetField_lt year
      exact {
        year_ge := by
          change (2000 : Int) ≤ 2000 + (octetField year : Int)
          omega
        year_le := by
          change 2000 + (octetField year : Int) ≤ 2099
          omega
        month_pos := hmonthPos
        month_le := hmonthLe
        day_pos := hdayPos
        day_le := hdayLe
        hour_lt := hhour
        minute_lt := hminute
        second_lt := hsecond
        quarters := hquarters
        distance_le := hdistance }
    · cases h
  · cases h

/-- **A timestamp that has been read** is read again from its octets. -/
theorem ofOctets?_toOctets (h : ofOctets? octets = some t) : ofOctets? t.toOctets = some t :=
  (fits_of_ofOctets? h).ofOctets?_toOctets

/-! ## On a cursor -/

/-- Reading a timestamp takes seven octets, one by one. -/
theorem yields_read :
    read.Yields c t c' ↔
      ∃ octets : Octets, octets.length = 7 ∧ c.Takes octets c' ∧ ofOctets? octets = some t := by
  simp only [read, Step.yields_bind, yields_liftM_field, Cursor.yields_readOctet]
  constructor
  · rintro ⟨year, c₁, h₁, month, c₂, h₂, day, c₃, h₃, hour, c₄, h₄, minute, c₅, h₅, second, c₆, h₆,
      zone, c₇, h₇, h⟩
    refine ⟨[year, month, day, hour, minute, second, zone], rfl, ?_, ?_⟩
    · split at h
      · obtain ⟨-, rfl⟩ := Step.yields_pure.1 h
        exact h₁.append (h₂.append (h₃.append (h₄.append (h₅.append (h₆.append h₇)))))
      · exact absurd h Step.not_yields_fail
    · split at h
      · rename_i hvalid
        obtain ⟨rfl, -⟩ := Step.yields_pure.1 h
        exact if_pos hvalid
      · exact absurd h Step.not_yields_fail
  · rintro ⟨octets, hlength, htakes, hoctets⟩
    unfold ofOctets? at hoctets
    split at hoctets
    · rename_i year month day hour minute second zone rest
      obtain rfl : rest = [] := by simpa using hlength
      obtain ⟨c₁, h₁, h⟩ := Cursor.takes_cons.1 htakes
      obtain ⟨c₂, h₂, h⟩ := Cursor.takes_cons.1 h
      obtain ⟨c₃, h₃, h⟩ := Cursor.takes_cons.1 h
      obtain ⟨c₄, h₄, h⟩ := Cursor.takes_cons.1 h
      obtain ⟨c₅, h₅, h⟩ := Cursor.takes_cons.1 h
      obtain ⟨c₆, h₆, h₇⟩ := Cursor.takes_cons.1 h
      refine ⟨year, c₁, h₁, month, c₂, h₂, day, c₃, h₃, hour, c₄, h₄, minute, c₅, h₅, second, c₆,
        h₆, zone, c', h₇, ?_⟩
      obtain ⟨hvalid, heq⟩ := Option.ite_none_right_eq_some.1 hoctets
      rw [if_pos hvalid]
      exact Step.yields_pure.2 ⟨Option.some.inj heq, rfl⟩
    · cases hoctets

/-- A timestamp that fits is read from where it was written. -/
theorem Fits.read_written (h : t.Fits) (hc : c.InOrder) :
    read (c.written t.toOctets) = (.ok t, (c.written t.toOctets).advance 7) :=
  yields_read.2 ⟨t.toOctets, rfl, hc.takes_written rfl, h.ofOctets?_toOctets⟩

/-- **Timestamps are read back.**  Writing a date of this century, a time of day and a distance of
less than eighty quarters of an hour adds seven octets to a cursor, and reading them gives all its
fields again, the sign of the distance included.  Reading gives no other timestamps: one that has
been read, from whatever octets, is read again from the octets it is written as. -/
theorem timestamp_is_read_back {c : Cursor} (hc : c.InOrder) :
    (∀ t : Timestamp, t.Fits →
      (c.write t.toOctets).octets = c.octets ++ t.toOctets ∧ t.toOctets.length = 7 ∧
        read (c.written t.toOctets) = (.ok t, (c.written t.toOctets).advance 7) ∧
        ((c.written t.toOctets).advance 7).rest = []) ∧
      ∀ (c₁ c₂ : Cursor) (t : Timestamp), read c₁ = (.ok t, c₂) →
        t.Fits ∧ read (c.written t.toOctets) = (.ok t, (c.written t.toOctets).advance 7) := by
  constructor
  · intro t h
    exact ⟨Cursor.octets_write hc.writeIndex_eq _, rfl, h.read_written hc,
      hc.rest_advance_written rfl⟩
  · intro c₁ c₂ t hread
    obtain ⟨octets, -, -, hoctets⟩ := yields_read.1 hread
    have hfits := fits_of_ofOctets? hoctets
    exact ⟨hfits, hfits.read_written hc⟩

/-- The last second of a leap day, as far behind universal time as can be written; and a date that
is read from octets which are written otherwise. -/
theorem timestamp_is_read_back_leap_day :
    let c := Cursor.ofOctets [0xAA]
    let t : Timestamp := ⟨2096, 2, 29, 23, 59, 59, -(79 * 900)⟩
    let strange : Octets := [0xFF, 0xFC, 0x13, 0xA0, 0x00, 0xF7, 0xA8]
    let t' : Timestamp := ⟨2000, 12, 31, 0, 0, 7, 0⟩
    c.InOrder ∧ t.Fits ∧ t.toOctets = [0x69, 0x20, 0x92, 0x32, 0x95, 0x95, 0x9F] ∧
      read (c.written t.toOctets) = (.ok t, (c.written t.toOctets).advance 7) ∧
      read (.ofOctets strange) = (.ok t', (Cursor.ofOctets strange).advance 7) ∧
      t'.toOctets = [0x00, 0x21, 0x13, 0x00, 0x00, 0x70, 0x00] ∧
      read (c.written t'.toOctets) = (.ok t', (c.written t'.toOctets).advance 7) := by
  intro c t strange t'
  have hc : c.InOrder := Cursor.inOrder_ofOctets [0xAA]
  have hfits : t.Fits := by constructor <;> decide
  have hstrange : read (.ofOctets strange) = (.ok t', (Cursor.ofOctets strange).advance 7) :=
    yields_read.2 ⟨strange, rfl, ⟨List.prefix_rfl, rfl⟩, by decide +kernel⟩
  obtain ⟨hwritten, hread⟩ := timestamp_is_read_back hc
  exact ⟨hc, hfits, by decide +kernel, (hwritten t hfits).2.2.1, hstrange, by decide +kernel,
    (hread _ _ t' hstrange).2⟩

end Timestamp

end SimCard
