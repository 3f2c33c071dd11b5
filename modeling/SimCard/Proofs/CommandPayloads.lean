import SimCard.File.Command
import SimCard.Proofs.Parcels

/-!
# Payloads that stand for one command

A file command travels as the payload of a parcel, and nothing in this library reads it there.  What
the modem makes of it can still be only one thing: two commands that ask for different things have
different payloads.

The payload is words and framed strings, one after the other.  Each of them says where it ends,
words because they all have four octets (`word32Octets_append_inj`) and framed strings because they
start with their size (`framed_append_inj`), so two payloads that are equal are equal part by part.
The parts then give the fields back.  For the path this is where its form matters: the octets stand
for digits in capitals, two to an octet (`hexText_octetsOfHexText`).
-/

set_option autoImplicit false

namespace SimCard

/-! ## Parts that say where they end -/

theorem word32Octets_inj {v w : UInt32} : word32Octets v = word32Octets w ↔ v = w := by
  refine ⟨fun h => ?_, fun h => h ▸ rfl⟩
  simp only [word32Octets, List.cons.injEq] at h
  obtain ⟨h₀, h₁, h₂, h₃, -⟩ := h
  rw [← word32_of_word32Octets v, ← word32_of_word32Octets w, h₀, h₁, h₂, h₃]

/-- A word ends after four octets. -/
theorem word32Octets_append_inj {v w : UInt32} {s t : Octets} :
    word32Octets v ++ s = word32Octets w ++ t ↔ v = w ∧ s = t := by
  constructor
  · intro h
    obtain ⟨hword, hrest⟩ := List.append_inj h rfl
    exact ⟨word32Octets_inj.1 hword, hrest⟩
  · rintro ⟨rfl, rfl⟩
    rfl

/-- A framed string ends where its size says. -/
theorem framed_append_inj {a b s t : Octets} (ha : a.length < frameLimit)
    (hb : b.length < frameLimit) : framed a ++ s = framed b ++ t ↔ a = b ∧ s = t := by
  constructor
  · intro h
    simp only [framed, List.append_assoc] at h
    obtain ⟨hsize, h⟩ := word32Octets_append_inj.1 h
    have hlength : a.length = b.length := by
      have hdigits := congrArg UInt32.toNat hsize
      rw [frameSize_toNat ha, frameSize_toNat hb] at hdigits
      omega
    obtain ⟨hoctets, h⟩ := List.append_inj h hlength
    exact ⟨hoctets, List.append_cancel_left h⟩
  · rintro ⟨rfl, rfl⟩
    rfl

/-! ## Digits -/

theorem hexValue?_hexDigit {value : Nat} (h : value < 16) :
    hexValue? (hexDigit value) = some value := by
  revert value
  decide

theorem exists_hexDigit {c : Char} (h : c ∈ hexDigits) : ∃ value < 16, hexDigit value = c := by
  obtain ⟨value, hvalue, rfl⟩ := List.getElem_of_mem h
  refine ⟨value, hvalue, ?_⟩
  rw [hexDigit, List.getD_eq_getElem?_getD, List.getElem?_eq_getElem hvalue, Option.getD_some]

theorem octetDigits_ofNat {high low : Nat} (hhigh : high < 16) (hlow : low < 16) :
    octetDigits (UInt8.ofNat (16 * high + low)) = [hexDigit high, hexDigit low] := by
  have hoctet : (UInt8.ofNat (16 * high + low)).toNat = 16 * high + low :=
    UInt8.toNat_ofNat_of_lt' (by change _ < 256; omega)
  rw [octetDigits, hoctet, show (16 * high + low) / 16 = high by omega,
    show (16 * high + low) % 16 = low by omega]

/-- A text of capital digits is the text of some values. -/
theorem exists_values {text : List Char} (h : text.all (hexDigits.contains ·)) :
    ∃ values : List Nat, (∀ value ∈ values, value < 16) ∧ values.map hexDigit = text := by
  induction text with
  | nil => exact ⟨[], by simp⟩
  | cons c text ih =>
    simp only [List.all_cons, Bool.and_eq_true, List.contains_iff_mem] at h
    obtain ⟨values, hvalues, rfl⟩ := ih h.2
    obtain ⟨value, hvalue, rfl⟩ := exists_hexDigit h.1
    exact ⟨value :: values, by simpa using ⟨hvalue, hvalues⟩, rfl⟩

theorem filterMap_hexValue? {values : List Nat} (h : ∀ value ∈ values, value < 16) :
    (values.map hexDigit).filterMap hexValue? = values := by
  induction values with
  | nil => rfl
  | cons value values ih =>
    obtain ⟨hvalue, hvalues⟩ := List.forall_mem_cons.1 h
    rw [List.map_cons, List.filterMap_cons_some (hexValue?_hexDigit hvalue), ih hvalues]

/-- Digits taken in pairs as octets are the digits of these octets. -/
theorem flatMap_octetDigits {values : List Nat} (h : ∀ value ∈ values, value < 16)
    (heven : values.length % 2 = 0) :
    (octetsOfDigits values).flatMap octetDigits = values.map hexDigit := by
  fun_induction octetsOfDigits values with
  | case1 high low rest ih =>
    simp only [List.forall_mem_cons] at h
    simp only [List.length_cons] at heven
    rw [List.flatMap_cons, octetDigits_ofNat h.1 h.2.1, ih h.2.2 (by omega)]
    rfl
  | case2 values hshort =>
    obtain _ | ⟨high, _ | ⟨low, rest⟩⟩ := values
    · rfl
    · simp at heven
    · exact absurd rfl (hshort high low rest)

theorem length_octetsOfDigits (values : List Nat) :
    (octetsOfDigits values).length = values.length / 2 := by
  fun_induction octetsOfDigits values with
  | case1 high low rest ih =>
    simp only [List.length_cons, ih]
    omega
  | case2 values hshort =>
    obtain _ | ⟨high, _ | ⟨low, rest⟩⟩ := values
    · rfl
    · simp
    · exact absurd rfl (hshort high low rest)

/-- **An even number of capital digits** spells octets whose text it is. -/
theorem hexText_octetsOfHexText {text : String} (h : text.toList.all (hexDigits.contains ·))
    (heven : text.length % 2 = 0) : hexText (octetsOfHexText text) = text := by
  obtain ⟨values, hvalues, htext⟩ := exists_values h
  have hlength : values.length = text.length := by
    rw [← String.length_toList, ← htext, List.length_map]
  rw [hexText, octetsOfHexText, ← htext, filterMap_hexValue? hvalues,
    flatMap_octetDigits hvalues (by omega), htext, String.ofList_toList]

theorem length_octetsOfHexText {text : String} (h : text.toList.all (hexDigits.contains ·)) :
    (octetsOfHexText text).length = text.length / 2 := by
  obtain ⟨values, hvalues, htext⟩ := exists_values h
  rw [octetsOfHexText, ← htext, filterMap_hexValue? hvalues, length_octetsOfDigits,
    ← String.length_toList, ← htext, List.length_map]

/-! ## Texts as octets -/

theorem utf8Octets_inj {s t : String} : s.toUTF8.data.toList = t.toUTF8.data.toList ↔ s = t := by
  refine ⟨fun h => ?_, fun h => h ▸ rfl⟩
  exact String.toByteArray_inj.1 (ByteArray.ext (Array.toList_inj.1 h))

/-! ## Payloads -/

namespace FileCommand

/-- **A command that a payload has room for**: its path is an even number of capital digits, and
path, data and second PIN are all small enough for a frame. -/
structure Sendable (command : FileCommand) : Prop where
  path_digits : command.path.toList.all (hexDigits.contains ·)
  path_even : command.path.length % 2 = 0
  path_small : command.path.length / 2 < frameLimit
  data_small : (command.data.getD []).length < frameLimit
  pin2_small : (command.pin2.getD "").utf8ByteSize < frameLimit

/-- **Two commands ask for the same thing.**  Data that are absent are no data, and a second PIN
that is absent is an empty one; in all else the commands are equal. -/
structure SameRequest (a b : FileCommand) : Prop where
  instruction_eq : a.instruction = b.instruction
  file_eq : a.file = b.file
  path_eq : a.path = b.path
  p1_eq : a.p1 = b.p1
  p2_eq : a.p2 = b.p2
  p3_eq : a.p3 = b.p3
  data_eq : a.data.getD [] = b.data.getD []
  pin2_eq : a.pin2.getD "" = b.pin2.getD ""

variable {a b : FileCommand}

theorem Sendable.length_path (h : a.Sendable) : (octetsOfHexText a.path).length < frameLimit := by
  rw [length_octetsOfHexText h.path_digits]
  exact h.path_small

theorem Sendable.length_pin2 (h : a.Sendable) :
    (a.pin2.getD "").toUTF8.data.toList.length < frameLimit := h.pin2_small

/-- The path can be told from the octets it travels as. -/
theorem Sendable.path_inj (ha : a.Sendable) (hb : b.Sendable)
    (h : octetsOfHexText a.path = octetsOfHexText b.path) : a.path = b.path := by
  rw [← hexText_octetsOfHexText ha.path_digits ha.path_even, h,
    hexText_octetsOfHexText hb.path_digits hb.path_even]

theorem SameRequest.toOctets_eq (h : a.SameRequest b) : a.toOctets = b.toOctets := by
  simp only [toOctets, h.instruction_eq, h.file_eq, h.path_eq, h.p1_eq, h.p2_eq, h.p3_eq, h.data_eq,
    h.pin2_eq]

/-- Equal payloads are equal part by part. -/
theorem sameRequest_of_toOctets_eq (ha : a.Sendable) (hb : b.Sendable)
    (h : a.toOctets = b.toOctets) : a.SameRequest b := by
  simp only [toOctets, List.append_assoc] at h
  obtain ⟨hinstruction, h⟩ := word32Octets_append_inj.1 h
  obtain ⟨hfile, h⟩ := word32Octets_append_inj.1 h
  obtain ⟨hpath, h⟩ := (framed_append_inj ha.length_path hb.length_path).1 h
  obtain ⟨hp1, h⟩ := word32Octets_append_inj.1 h
  obtain ⟨hp2, h⟩ := word32Octets_append_inj.1 h
  obtain ⟨hp3, h⟩ := word32Octets_append_inj.1 h
  obtain ⟨hdata, h⟩ := (framed_append_inj ha.data_small hb.data_small).1 h
  -- the last part has nothing behind it
  obtain ⟨hpin2, -⟩ := (framed_append_inj ha.length_pin2 hb.length_pin2).1 (congrArg (· ++ []) h)
  exact {
    instruction_eq := UInt8.toUInt32_inj.1 hinstruction
    file_eq := UInt16.toUInt32_inj.1 hfile
    path_eq := ha.path_inj hb hpath
    p1_eq := UInt8.toUInt32_inj.1 hp1
    p2_eq := UInt8.toUInt32_inj.1 hp2
    p3_eq := UInt8.toUInt32_inj.1 hp3
    data_eq := hdata
    pin2_eq := utf8Octets_inj.1 hpin2 }

/-- **A payload stands for one command.**  Two commands have the same octets exactly if they ask for
the same thing; so requests that differ never travel as the same payload, whatever their tokens. -/
theorem payload_is_unambiguous (ha : a.Sendable) (hb : b.Sendable) :
    (a.toOctets = b.toOctets ↔ a.SameRequest b) ∧
      ∀ token token', ¬ a.SameRequest b →
        (a.toParcel token).payload ≠ (b.toParcel token').payload := by
  have hiff : a.toOctets = b.toOctets ↔ a.SameRequest b :=
    ⟨sameRequest_of_toOctets_eq ha hb, SameRequest.toOctets_eq⟩
  exact ⟨hiff, fun _ _ hdiffer hpayload => hdiffer (hiff.1 hpayload)⟩

/-- Replace a record by one octet. -/
def octetUpdate : FileCommand := updateRecord 0x6F3A "3F007F10" 1 [0x31]

/-- The same octet in the place of the second PIN. -/
def pinnedUpdate : FileCommand := { octetUpdate with data := some [], pin2 := some "1" }

theorem payload_is_unambiguous_shifted :
    octetUpdate.Sendable ∧ pinnedUpdate.Sendable ∧
      (octetUpdate.toParcel 7).payload ≠ (pinnedUpdate.toParcel 7).payload ∧
      pinnedUpdate.toOctets = { pinnedUpdate with data := none }.toOctets := by
  have hoctet : octetUpdate.Sendable := ⟨by decide, by decide, by decide, by decide, by decide⟩
  have hpinned : pinnedUpdate.Sendable := ⟨by decide, by decide, by decide, by decide, by decide⟩
  have hbare : { pinnedUpdate with data := none }.Sendable :=
    ⟨hpinned.path_digits, hpinned.path_even, hpinned.path_small, hpinned.data_small,
      hpinned.pin2_small⟩
  refine ⟨hoctet, hpinned, ?_, ?_⟩
  · refine (payload_is_unambiguous hoctet hpinned).2 7 7 fun h => ?_
    exact absurd h.data_eq (by decide)
  · exact (payload_is_unambiguous hpinned hbare).1.2 ⟨rfl, rfl, rfl, rfl, rfl, rfl, rfl, rfl⟩

end FileCommand

end SimCard
