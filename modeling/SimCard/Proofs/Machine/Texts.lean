import SimCard.Proofs.Alphabets
import SimCard.Proofs.Machine.Reading
import SimCard.Proofs.Septets
import SimCard.Text.AlphaIdentifier

/-!
# Texts on a machine

What a machine does to make a text out of octets: a septet is an index into a table, a field is cut
where its filler starts, a pair of octets is taken apart, and septets are shifted out of an
accumulator of 32 bits.  None of it faults, and the texts are those of the library
(`Machine.agrees_readEightBit`, `Machine.agrees_readWide`, `Machine.agrees_readAlpha`,
`Machine.agrees_readPacked`).

Only the last of these has to do with the numbers that are asked for.  The accumulator takes an
octet at a time and gives off septets as long as there is room for them; once there is none, it
fills up, and the fifth octet would be shifted out of it.  The room is for as many septets as the
octets hold, so all but six bits at most are given off (`Machine.unpack_eq`).
-/

set_option autoImplicit false

namespace SimCard

namespace Machine

variable (m : Machine) {c : Cursor} {lang shift : Language}

/-! ## Units -/

/-- The character of a septet. -/
def septetChar (lang shift : Language) (escaped : Bool) (septet : UInt8) : Checked Char := do
  if escaped then
    let c ← item shift.singleShiftTable (septet &&& 0x7F).toNat
    return if c = Text.escapeMark ∨ c = Text.controlMark then ' ' else c
  else
    item lang.lockingTable (septet &&& 0x7F).toNat

/-- The text that units stand for, the first of them behind an escape or not. -/
def decodeUnits (lang shift : Language) : Bool → List UInt8 → Checked (List Char)
  | _, [] => return []
  | escaped, unit :: rest => do
    if !escaped && unit == Text.escape then
      decodeUnits lang shift true rest
    else
      let c ← septetChar lang shift escaped unit
      let text ← decodeUnits lang shift false rest
      return c :: text

/-- A table has a place for every septet. -/
theorem item_septet {table : Text.Table} (htable : table.length = 128) (septet : UInt8) :
    item table (septet &&& 0x7F).toNat = .ok (table.getD (septet &&& 0x7F).toNat ' ') := by
  have hlt := Language.septet_and_mask_lt septet
  rw [← htable] at hlt
  rw [item_of_getElem? (List.getElem?_eq_getElem hlt), List.getD_eq_getElem _ _ hlt]

theorem septetChar_eq (escaped : Bool) (septet : UInt8) :
    septetChar lang shift escaped septet =
      .ok (if escaped then shift.shiftChar septet else lang.lockingChar septet) := by
  cases escaped with
  | false => exact item_septet lang.length_lockingTable septet
  | true =>
    rw [septetChar, if_pos rfl, item_septet shift.length_singleShiftTable]
    rfl

theorem decodeUnits_eq (escaped : Bool) (units : List UInt8) :
    decodeUnits lang shift escaped units =
      .ok (Text.decodeUnits lang shift (if escaped then Text.escape :: units else units)) := by
  induction units generalizing escaped with
  | nil => cases escaped <;> rfl
  | cons unit rest ih =>
    rw [decodeUnits]
    cases escaped with
    | true =>
      rw [if_neg (by simp), septetChar_eq, ih]
      exact congrArg _ Text.decodeUnits_escape_cons.symm
    | false =>
      by_cases hescape : unit = Text.escape
      · subst hescape
        exact ih true
      · rw [if_neg (by simpa using hescape), septetChar_eq, ih]
        exact congrArg _ (Text.decodeUnits_cons hescape).symm

/-! ## Fields of eight-bit units -/

/-- The text of a field of eight-bit units. -/
def decodeEightBit (octets : Octets) : Checked (List Char) := do
  let units ← slice octets 0 (octets.findIdx (· == Text.filler))
  decodeUnits .standard .standard false (units.filter (· < 0x80))

/-- The text of the next `size` octets. -/
def readEightBit (size : Nat) : Step Cursor (Stop CursorError) String := do
  let octets ← m.readOctets size
  let text ← decodeEightBit octets
  return String.ofList text

theorem decodeEightBit_eq (octets : Octets) :
    decodeEightBit octets = .ok (Text.decodeEightBit octets) := by
  have htake : octets.take (octets.findIdx (· == Text.filler)) =
      octets.takeWhile (· != Text.filler) := by
    rw [List.takeWhile_eq_take_findIdx_not]
    simp only [bne, Bool.not_not]
  rw [decodeEightBit, slice_zero List.findIdx_le_length, htake, Checked.ok_bind, decodeUnits_eq]
  rfl

theorem agrees_readEightBit (hc : c.Bounded) {size : Nat} (hsize : size < 0x80000000) :
    (m.readEightBit size).Agrees (Text.readEightBit size) c :=
  (m.agrees_readOctets hc hsize).bind fun octets _ _ =>
    Step.agrees_check (decodeEightBit_eq octets) (Step.agrees_pure _)

/-! ## Sixteen-bit units -/

/-- Octets cut into pairs; an odd one at the end is in none. -/
def pairs : Octets → List Octets
  | high :: low :: rest => [high, low] :: pairs rest
  | _ => []

/-- The word of a pair. -/
def pairWord (pair : Octets) : Checked UInt16 := do
  let high ← item pair 0
  let low ← item pair 1
  return word16 high low

/-- Octets as words. -/
def words16 (octets : Octets) : Checked (List UInt16) := (pairs octets).mapM pairWord

/-- The text of the next `size` octets, in sixteen-bit units. -/
def readWide (size : Nat) : Step Cursor (Stop CursorError) String := do
  let octets ← m.readOctets size
  let words ← words16 octets
  return String.ofList (Text.decodeWords words)

theorem words16_eq (octets : Octets) : words16 octets = .ok (SimCard.words16 octets) := by
  unfold words16
  fun_induction pairs octets with
  | case1 high low rest ih =>
    rw [List.mapM_cons, ih]
    rfl
  | case2 octets hshort =>
    rw [SimCard.words16]
    · rfl
    · exact hshort

theorem agrees_readWide (hc : c.Bounded) {size : Nat} (hsize : size < 0x80000000) :
    (m.readWide size).Agrees (Text.readWide size) c :=
  (m.agrees_readOctets hc hsize).bind fun octets _ _ =>
    Step.agrees_check (words16_eq octets) (Step.agrees_pure _)

/-! ## Alpha identifiers -/

/-- The text of octets relative to a base; `run` holds, last one first, the eight-bit units since
the last character above the base.  A character beyond the last one is counted from the first. -/
def decodeRelative (base : UInt16) (run : Octets) : Octets → Checked (List Char)
  | [] => decodeEightBit run.reverse
  | unit :: rest => do
    if unit &&& 0x80 != 0 then
      let before ← decodeEightBit run.reverse
      let behind ← decodeRelative base [] rest
      return before ++ Text.unitChar (base + (unit &&& 0x7F).toUInt16) :: behind
    else
      decodeRelative base (unit :: run) rest

/-- The octets that a count and a base of so many octets in all announce. -/
def relativeBody (header : Nat) (octets : Octets) : Checked Octets := do
  let count ← item octets 0
  let body ← slice octets header octets.length
  slice body 0 (min count.toNat body.length)

/-- The text of a field under a scheme. -/
def decodeScheme (scheme : Text.WideScheme) (octets : Octets) : Checked (List Char) := do
  match scheme with
  | .plain =>
    let words ← words16 octets
    return Text.decodeWords (words.takeWhile (· != 0xFFFF))
  | .halfPage =>
    if octets.length < 2 then
      return []
    let page ← item octets 1
    let base ← Word.shiftLeft 16 page.toNat 7
    let body ← relativeBody 2 octets
    decodeRelative (UInt16.ofNat base) [] body
  | .based =>
    if octets.length < 3 then
      return []
    let high ← item octets 1
    let low ← item octets 2
    let body ← relativeBody 3 octets
    decodeRelative (word16 high low) [] body

/-- The text of an alpha identifier. -/
def decodeAlpha (octets : Octets) : Checked (List Char) := do
  let marker ← item octets 0
  match Text.WideScheme.ofMarker? marker with
  | some scheme =>
    let body ← slice octets 1 octets.length
    decodeScheme scheme body
  | none => decodeEightBit octets

/-- The alpha identifier in the next `size` octets. -/
def readAlpha (size : Nat) : Step Cursor (Stop CursorError) String := do
  if size = 0 then
    return ""
  let octets ← m.readOctets size
  let text ← decodeAlpha octets
  return String.ofList text

theorem decodeRelative_eq (base : UInt16) (run octets : Octets) :
    decodeRelative base run octets = .ok (Text.decodeRelative base run octets) := by
  induction octets generalizing run with
  | nil => exact decodeEightBit_eq run.reverse
  | cons unit rest ih =>
    have hhigh : (unit &&& 0x80 != 0) = !decide (unit < 0x80) :=
      forall_octet (p := fun unit => (unit &&& 0x80 != 0) = !decide (unit < 0x80))
        (by decide +kernel) unit
    rw [decodeRelative, Text.decodeRelative, hhigh]
    by_cases hunit : unit < 0x80
    · rw [if_neg (by simpa using hunit), if_pos hunit, ih]
    · rw [if_pos (by simpa using hunit), if_neg hunit, decodeEightBit_eq, ih]
      rfl

/-- What is announced is cut off where the octets end. -/
theorem relativeBody_eq (count : UInt8) (base body : Octets) :
    relativeBody (base.length + 1) (count :: (base ++ body)) = .ok (body.take count.toNat) := by
  have hle : base.length + 1 ≤ (count :: (base ++ body)).length := by simp
  rw [relativeBody, item_of_getElem? rfl, Checked.ok_bind, slice_length hle, List.drop_succ_cons,
    List.drop_left, Checked.ok_bind, slice_zero (Nat.min_le_right _ _), ← List.take_eq_take_min]

theorem decodeScheme_eq (scheme : Text.WideScheme) (octets : Octets) :
    decodeScheme scheme octets = .ok (Text.decodeScheme scheme octets) := by
  cases scheme with
  | plain =>
    rw [decodeScheme, words16_eq]
    rfl
  | halfPage =>
    match octets with
    | [] | [_] => rfl
    | count :: page :: body =>
      have hpage := page.toNat_lt
      have hbase : Word.shiftLeft 16 page.toNat 7 = .ok (page.toNat * 128) := by
        rw [Word.shiftLeft_of_lt (by decide), Nat.shiftLeft_eq]
        rw [Nat.shiftLeft_eq]
        omega
      have hbody := relativeBody_eq count [page] body
      rw [decodeScheme, if_neg (by simp), item_of_getElem? rfl, Checked.ok_bind, hbase,
        Checked.ok_bind]
      exact (congrArg (· >>= _) hbody).trans (decodeRelative_eq _ _ _)
  | based =>
    match octets with
    | [] | [_] | [_, _] => rfl
    | count :: high :: low :: body =>
      have hbody := relativeBody_eq count [high, low] body
      rw [decodeScheme, if_neg (by simp), item_of_getElem? rfl, Checked.ok_bind,
        item_of_getElem? rfl, Checked.ok_bind]
      exact (congrArg (· >>= _) hbody).trans (decodeRelative_eq _ _ _)

theorem decodeAlpha_eq {octets : Octets} (h : octets ≠ []) :
    decodeAlpha octets = .ok (Text.decodeAlpha octets) := by
  cases octets with
  | nil => exact absurd rfl h
  | cons marker body =>
    rw [decodeAlpha, item_of_getElem? rfl, Checked.ok_bind, Text.decodeAlpha]
    cases Text.WideScheme.ofMarker? marker with
    | none => exact decodeEightBit_eq (marker :: body)
    | some scheme =>
      have hbody : slice (marker :: body) 1 (marker :: body).length = .ok body :=
        slice_length (by simp)
      exact (congrArg (· >>= _) hbody).trans (decodeScheme_eq scheme body)

theorem agrees_readAlpha (hc : c.Bounded) {size : Nat} (hsize : size < 0x80000000) :
    (m.readAlpha size).Agrees (Text.readAlpha size) c := by
  rw [readAlpha]
  split
  · next hzero =>
    have hnone : Cursor.readOctets 0 c = (.ok [], c) := if_pos hc.readIndex_le
    rw [hzero, Step.Agrees, Step.mapError, Text.readAlpha, Step.bind_apply, hnone]
    rfl
  · next hpos =>
    refine (m.agrees_readOctets hc hsize).bind fun octets _ hoctets => ?_
    have hlength := ((Cursor.yields_readOctets hc.readIndex_le).1 hoctets).1
    have hne : octets ≠ [] := fun hnil => hpos (by rw [← hlength, hnil]; rfl)
    exact Step.agrees_check (decodeAlpha_eq hne) (Step.agrees_pure _)

/-! ## Packed septets -/

/-- Septets out of an accumulator of 32 bits, as long as it holds one and there is room for it. -/
def drain : Nat → Nat → Nat → Checked (List UInt8 × Nat × Nat × Nat)
  | 0, data, bits => return ([], 0, data, bits)
  | room + 1, data, bits => do
    if bits < 7 then
      return ([], room + 1, data, bits)
    let shifted ← Word.shiftRight 32 data 7
    let left ← Word.sub bits 7
    let (septets, state) ← drain room shifted left
    return (UInt8.ofNat (data &&& 0x7F) :: septets, state)

/-- The first `pending` bits are dropped as soon as that many are held. -/
def dropPadding (pending data bits : Nat) : Checked (Nat × Nat × Nat) := do
  if 0 < pending ∧ pending ≤ bits then
    let shifted ← Word.shiftRight 32 data pending
    let left ← Word.sub bits pending
    return (0, shifted, left)
  else
    return (pending, data, bits)

/-- Septets out of octets, until there is no room for more. -/
def unpack (pending room data bits : Nat) : Octets → Checked (List UInt8)
  | [] => return []
  | octet :: rest => do
    let added ← Word.shiftLeft 32 octet.toNat bits
    let more ← Word.add 32 bits 8
    let (pending, data, bits) ← dropPadding pending (data ||| added) more
    let (septets, room, data, bits) ← drain room data bits
    let others ← unpack pending room data bits rest
    return septets ++ others

/-- How many octets so many septets take. -/
def packedLength (count padding : Nat) : Checked Nat := do
  let bits ← Word.mul m.sizeBits count 7
  let bits ← Word.add m.sizeBits bits padding
  let bits ← Word.add m.sizeBits bits 7
  return bits / 8

/-- The text of the next `count` septets. -/
def readPacked (lang shift : Language) (count padding : Nat) :
    Step Cursor (Stop CursorError) String := do
  let size ← m.packedLength count padding
  let octets ← m.readOctets size
  let septets ← unpack padding count 0 0 octets
  let text ← decodeUnits lang shift false septets
  return String.ofList text

theorem drain_eq_takeGroups (room data bits : Nat) :
    drain room data bits =
      .ok (Text.takeGroups 7 (min (bits / 7) room) data, room - min (bits / 7) room,
        data >>> (7 * min (bits / 7) room), bits - 7 * min (bits / 7) room) := by
  induction room generalizing data bits with
  | zero =>
    rw [Nat.min_zero]
    rfl
  | succ room ih =>
    rw [drain]
    split
    · next hfew =>
      rw [Nat.div_eq_of_lt hfew, Nat.zero_min]
      rfl
    · next henough =>
      have htaken : min (bits / 7) (room + 1) = min ((bits - 7) / 7) room + 1 := by omega
      have hseptet : data &&& 0x7F = data % (1 <<< 7) := Nat.and_two_pow_sub_one_eq_mod data 7
      rw [Word.shiftRight_of_lt (by decide), Checked.ok_bind, Word.sub_of_le (by omega),
        Checked.ok_bind, ih, htaken, Text.takeGroups, hseptet, Nat.mul_succ, Nat.add_comm (7 * _),
        Nat.shiftRight_add, Nat.add_sub_add_right, ← Nat.sub_sub]
      rfl

/-- What is left of a turn of unpacking once the padding is gone: septets are given off, and then it
is the turn of the other octets. -/
def giveOff (room data bits : Nat) (octets : Octets) : Checked (List UInt8) := do
  let (septets, room, data, bits) ← drain room data bits
  let others ← unpack 0 room data bits octets
  return septets ++ others

/-- An octet goes above the bits that are held, if these are few. -/
theorem shiftLeft_octet {bits : Nat} (hbits : bits ≤ 6) (octet : UInt8) :
    Word.shiftLeft 32 octet.toNat bits = .ok (octet.toNat <<< bits) ∧
      Word.add 32 bits 8 = .ok (bits + 8) := by
  have hpow : 2 ^ bits ≤ 2 ^ 6 := Nat.pow_le_pow_right (by decide) hbits
  refine ⟨Word.shiftLeft_of_lt (by omega) ?_,
    Word.add_of_lt (Nat.lt_of_le_of_lt (Nat.add_le_add_right hbits 8) (by decide))⟩
  rw [Nat.shiftLeft_eq]
  exact Nat.lt_of_le_of_lt (Nat.mul_le_mul (Nat.le_of_lt octet.toNat_lt) hpow) (by decide)

/-- What goes above the bits that are held does not touch them. -/
theorem or_shiftLeft {data bits : Nat} (hdata : data < 2 ^ bits) (value : Nat) :
    data ||| value <<< bits = data + 2 ^ bits * value := by
  rw [Nat.or_comm, ← Nat.shiftLeft_add_eq_or_of_lt hdata, Nat.shiftLeft_eq, Nat.mul_comm,
    Nat.add_comm]

theorem unpack_cons {room data bits : Nat} (hbits : bits ≤ 6) (hdata : data < 2 ^ bits)
    (octet : UInt8) (rest : Octets) :
    unpack 0 room data bits (octet :: rest) =
      giveOff room (data + 2 ^ bits * octet.toNat) (bits + 8) rest := by
  obtain ⟨hshift, hmore⟩ := shiftLeft_octet hbits octet
  rw [unpack, hshift, Checked.ok_bind, hmore, Checked.ok_bind, or_shiftLeft hdata, dropPadding,
    if_neg (by simp), Checked.pure_eq, Checked.ok_bind]
  rfl

/-- **Unpacking does not fault** as long as fewer than fourteen bits are left over when all septets
are out.  While there is room, fewer than seven bits are held between the octets; and when there is
none, what is left over has one octet more at most to come. -/
theorem giveOff_eq {room data bits : Nat} {octets : Octets} (hbits : bits ≤ 14)
    (hdata : data < 2 ^ bits) (hroom : 8 * octets.length + bits ≤ 7 * room + 13) :
    giveOff room data bits octets = .ok (Text.drain room data bits octets) := by
  induction octets generalizing room data bits with
  | nil =>
    simp only [giveOff, drain_eq_takeGroups, Checked.ok_bind, unpack, Checked.pure_eq, Text.drain,
      Text.unpackFrom]
  | cons octet rest ih =>
    rw [List.length_cons] at hroom
    have hdrain := drain_eq_takeGroups room data bits
    rw [Text.drain]
    generalize htaken : min (bits / 7) room = taken at hdrain ⊢
    have hheld : bits - 7 * taken ≤ 6 := by omega
    have hleft : data >>> (7 * taken) < 2 ^ (bits - 7 * taken) := by
      rw [Nat.shiftRight_eq_div_pow]
      refine Nat.div_lt_of_lt_mul ?_
      rw [← Nat.pow_add, Nat.add_sub_cancel' (by omega)]
      exact hdata
    have hnext := Text.add_mul_lt hleft octet.toNat_lt
    have hrest := @ih (room - taken) _ _ (by omega) hnext (by omega)
    rw [giveOff, hdrain, Checked.ok_bind]
    dsimp only
    rw [unpack_cons hheld hleft, hrest, Text.unpackFrom_cons (by omega), Checked.ok_bind,
      Checked.pure_eq]

/-- Octets are unpacked without a fault if there is room for all the septets that they and the bits
held make up. -/
theorem unpack_eq {room data bits : Nat} {octets : Octets} (hbits : bits ≤ 6)
    (hdata : data < 2 ^ bits) (hroom : 8 * octets.length + bits ≤ 7 * room + 6) :
    unpack 0 room data bits octets = .ok (Text.unpackFrom room 0 data bits octets) := by
  cases octets with
  | nil => rfl
  | cons octet rest =>
    rw [List.length_cons] at hroom
    rw [unpack_cons hbits hdata, Text.unpackFrom_cons (by omega)]
    exact giveOff_eq (by omega) (Text.add_mul_lt hdata octet.toNat_lt) (by omega)

/-- Without room, the fifth octet is shifted out of the accumulator. -/
example : unpack 0 0 0 0 [0x01, 0x02, 0x03, 0x04, 0x05] = .error .shift := rfl

theorem packedLength_eq {count padding : Nat} (hcount : count < 0x10000000)
    (hpadding : padding < 8) :
    m.packedLength count padding = .ok (Text.packedLength count padding) := by
  rw [packedLength, m.mul_size (by omega), Checked.ok_bind, m.add_size (by omega), Checked.ok_bind,
    m.add_size (by omega), Checked.ok_bind]
  rfl

/-- All the septets that a number of octets has room for take just as many octets. -/
theorem packedLength_room (size : Nat) : Text.packedLength (size * 8 / 7) 0 = size := by
  rw [Text.packedLength]
  omega

/-- **Packed texts**, with all the septets that the octets have room for. -/
theorem agrees_readPacked (hc : c.Bounded) {size : Nat} (hsize : size < 0x1000000) :
    (m.readPacked lang shift (size * 8 / 7) 0).Agrees
      (Text.readPackedText lang shift (size * 8 / 7) 0) c := by
  refine Step.agrees_check (m.packedLength_eq (by omega) (by decide)) ?_
  rw [Text.readPackedText, packedLength_room]
  refine (m.agrees_readOctets hc (by omega)).bind fun octets _ hoctets => ?_
  have hsize := ((Cursor.yields_readOctets hc.readIndex_le).1 hoctets).1
  refine Step.agrees_check (unpack_eq (by decide) (by decide) (by omega)) ?_
  exact Step.agrees_check (decodeUnits_eq false _) (Step.agrees_pure _)

end Machine

end SimCard
