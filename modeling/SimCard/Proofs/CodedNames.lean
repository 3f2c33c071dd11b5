import SimCard.Proofs.AlphaIdentifiers
import SimCard.Proofs.PackedTexts
import SimCard.Text.NetworkName

/-!
# Names of networks are read back

Seven octets hold seven septets as well as eight, and whoever has only the octets cannot tell which.
The name of a network is coded so that one can: its first octet counts the bits that the septets
leave over.  Taking these off before counting the septets gives just as many as were packed
(`count_of_spareBits`), so a name of seven septets does not come back with one character more, as
the text of a message does.

A name in sixteen-bit units has nothing to count, and is read back whatever its characters are.  In
either case the coding octet has bits that do not matter: whether the initials of the country are to
be shown beside the name, and for sixteen-bit units the spare bits too.
-/

set_option autoImplicit false

namespace SimCard

namespace Text

variable {text : String} {octets : Octets} {coding : UInt8}

/-! ## The coding octet -/

/-- The bits that septets leave over in the last of their octets. -/
def spareBits (count : Nat) : Nat := 8 * packedLength count 0 - 7 * count

/-- The coding of a name in septets, with or without the initials of the country. -/
def septetCoding (initials : Bool) (spare : Nat) : UInt8 :=
  0x80 ||| (if initials then 0x08 else 0x00) ||| UInt8.ofNat spare

/-- Three bits are enough to count the spare ones. -/
theorem spareBits_lt (count : Nat) : spareBits count < 8 := by
  rw [spareBits, packedLength]
  omega

/-- **The spare bits tell how many septets there are.** -/
theorem count_of_spareBits (count : Nat) :
    (packedLength count 0 * 8 - spareBits count) / 7 = count := by
  rw [spareBits, packedLength]
  omega

/-- A coding of septets is marked as a coding, selects the septets and counts the spare bits. -/
theorem septetCoding_fields (initials : Bool) {spare : Nat} (h : spare < 8) :
    septetCoding initials spare &&& 0x80 ≠ 0 ∧
      (septetCoding initials spare &&& 0x70) >>> 4 = 0 ∧
      (septetCoding initials spare &&& 0x07).toNat = spare := by
  revert initials spare
  decide +kernel

/-- A coding of sixteen-bit units is marked as a coding and selects the units. -/
theorem wideCoding_fields (h : coding &&& 0xF0 = 0x90) :
    coding &&& 0x80 ≠ 0 ∧ (coding &&& 0x70) >>> 4 = 1 := by
  revert h
  exact forall_octet
    (p := fun o => o &&& 0xF0 = 0x90 → o &&& 0x80 ≠ 0 ∧ (o &&& 0x70) >>> 4 = 1)
    (by decide +kernel) coding

/-! ## The name behind it -/

/-- **A name in septets** is read with as many of them as were packed. -/
theorem decodeNetworkName_septets (h : ∀ d ∈ text.toList, HasUnits .standard .standard d)
    (initials : Bool) :
    decodeNetworkName
        (septetCoding initials (spareBits (septetLength .standard .standard text.toList)) ::
          packText .standard .standard 0 text) = some text.toList := by
  obtain ⟨hmarked, hseptets, hspare⟩ := septetCoding_fields initials
    (spareBits_lt (septetLength .standard .standard text.toList))
  have hunpack : unpackSeptets (septetLength .standard .standard text.toList) 0
      (packText .standard .standard 0 text) = encodeUnits .standard .standard text.toList :=
    unpackSeptets_packSeptets (Nat.zero_le 7) fun _ => lt_of_mem_encodeUnits
  simp only [decodeNetworkName, if_neg hmarked, hseptets, hspare,
    length_packText .standard .standard (Nat.zero_le 7), count_of_spareBits, hunpack,
    decodeUnits_encodeUnits h]

/-- **A name in sixteen-bit units** is read as it is. -/
theorem decodeNetworkName_wide (h : coding &&& 0xF0 = 0x90) (text : List Char) :
    decodeNetworkName (coding :: wideOctets text) = some text := by
  obtain ⟨hmarked, hwide⟩ := wideCoding_fields h
  simp only [decodeNetworkName, if_neg hmarked, hwide, decodeWide_wideOctets]

/-! ## Names on a cursor -/

/-- **The octets are read as a name**, all of them, wherever they stand and whatever comes behind
them. -/
def ReadAsName (octets : Octets) (name : String) : Prop :=
  ∀ (c : Cursor) (tail : Octets), c.rest = octets ++ tail →
    readNetworkName octets.length c = (.ok (some name), c.advance octets.length)

theorem readAsName_of_decode (hne : octets ≠ [])
    (h : decodeNetworkName octets = some text.toList) : ReadAsName octets text := by
  intro c tail hrest
  have htakes := Cursor.takes_of_rest_eq hrest
  have hread := Cursor.yields_decoded (fun taken => (decodeNetworkName taken).map String.ofList)
    (htakes.start_le hne) rfl htakes
  rwa [h, Option.map_some, String.ofList_toList] at hread

/-- **Names of networks decode to what was coded.**  A text of the common alphabet in septets, with
the spare bits counted in the coding octet, is read back whatever the number of its septets; and
every text at all is read back from sixteen-bit units. -/
theorem network_name_is_read_back (text : String) :
    let count := septetLength .standard .standard text.toList
    let spare := 8 * packedLength count 0 - 7 * count
    ((∀ d ∈ text.toList, HasUnits .standard .standard d) → ∀ initials : Bool,
        ReadAsName ((0x80 ||| (if initials then 0x08 else 0x00) ||| UInt8.ofNat spare) ::
          packText .standard .standard 0 text) text) ∧
      ∀ coding : UInt8, coding &&& 0xF0 = 0x90 →
        ReadAsName (coding :: wideOctets text.toList) text := by
  intro count spare
  constructor
  · intro h initials
    exact readAsName_of_decode (List.cons_ne_nil _ _) (decodeNetworkName_septets h initials)
  · intro coding h
    exact readAsName_of_decode (List.cons_ne_nil _ _) (decodeNetworkName_wide h text.toList)

/-- Seven septets, one of them an escape, in seven octets with the bit for the initials; and a pair
of surrogates behind a coding that counts spare bits. -/
theorem network_name_is_read_back_seven_septets :
    septetLength .standard .standard "Orbi €".toList = 7 ∧
      ReadAsName [0x8F, 0x4F, 0xB9, 0x38, 0x0D, 0xDA, 0x94, 0x01] "Orbi €" ∧
      ReadAsName [0x95, 0x00, 0x61, 0xD8, 0x3D, 0xDE, 0x00] "a😀" := by
  have htables : "Orbi €".toList.all (InTables .standard .standard ·) = true := by decide +kernel
  have hunits : ∀ d ∈ "Orbi €".toList, HasUnits .standard .standard d := fun d hd =>
    hasUnits_iff_inTables.2 (by simpa using List.all_eq_true.1 htables d hd)
  have hpacked : packText .standard .standard 0 "Orbi €" =
      [0x4F, 0xB9, 0x38, 0x0D, 0xDA, 0x94, 0x01] := by
    decide +kernel
  have hwide : wideOctets "a😀".toList = [0x00, 0x61, 0xD8, 0x3D, 0xDE, 0x00] := by decide +kernel
  have hcount : septetLength .standard .standard "Orbi €".toList = 7 := by decide +kernel
  have hname := (network_name_is_read_back "Orbi €").1 hunits true
  have hname' := (network_name_is_read_back "a😀").2 0x95 (by decide)
  rw [hpacked, hcount] at hname
  rw [hwide] at hname'
  exact ⟨hcount, hname, hname'⟩

end Text

end SimCard
