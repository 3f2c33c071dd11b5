import SimCard.Proofs.Machine.Texts

/-!
# Septets on a machine

Packed septets are a stream of bits that starts at the least significant end.  Read as a number, the
octets are the septets, each at its place: seven bits above the one before, and the first of them
above the padding.  Neither packing nor unpacking looks at this number.  Both go through an
accumulator of 32 bits, from octet to octet and from septet to septet, and what they shift by is the
number of bits that happen to be held.

* Packing holds fewer than eight bits between two septets, and gives off what is full
  (`Machine.pack_eq`).
* Unpacking drops the padding with the first octet, and then holds fewer than seven bits between two
  octets (`Machine.unpack_padded`).  When all the septets that were asked for are out, it still goes
  through the octets that are left and holds on to them.  So there may not be too many of these:
  with less than fourteen bits to spare there is one at most.

Then nothing is shifted out of the accumulator, and both compute the number and its digits
(`Machine.septets_are_one_stream`).
-/

set_option autoImplicit false

namespace SimCard

/-! ## Numbers by their places -/

namespace Text

/-- **The number of groups behind padding** is the sum of the groups at their places. -/
theorem mul_stream_eq_sum (padding width : Nat) (groups : List UInt8) :
    2 ^ padding * stream width groups =
      (groups.mapIdx fun i group => group.toNat * 2 ^ (padding + width * i)).sum := by
  induction groups generalizing padding with
  | nil => rfl
  | cons group groups ih =>
    -- seen from the second group, the first one is more padding
    have hplace : ∀ i, padding + width * (i + 1) = padding + width + width * i := by
      intro i
      ring
    rw [List.mapIdx_cons, List.sum_cons, stream_cons]
    simp only [hplace]
    rw [← ih, Nat.mul_zero, Nat.add_zero, pow_add]
    ring

/-- **The septets that are unpacked** are found at their places in the number of the octets, if this
has room for them. -/
theorem getElem?_unpackSeptets {padding count i : Nat} (hpadding : padding ≤ 7) {octets : Octets}
    (hroom : padding + 7 * count ≤ 8 * octets.length) (hi : i < count) :
    (unpackSeptets count padding octets)[i]?.map UInt8.toNat =
      some (stream 8 octets / 2 ^ (padding + 7 * i) % 2 ^ 7) := by
  have hcount : min count ((8 * octets.length - padding) / 7) = count := by omega
  rw [unpackSeptets_eq hpadding, hcount, getElem?_takeGroups (by decide) hi,
    Nat.div_div_eq_div_mul, pow_add]

theorem length_unpackSeptets {padding count : Nat} (hpadding : padding ≤ 7) {octets : Octets}
    (hroom : padding + 7 * count ≤ 8 * octets.length) :
    (unpackSeptets count padding octets).length = count := by
  rw [unpackSeptets_eq hpadding, length_takeGroups]
  omega

end Text

namespace Machine

open Text (stream packText encodeUnits unpackSeptets)

/-! ## Packing -/

/-- Full octets out of an accumulator of 32 bits. -/
def flush : Nat → Nat → Checked (Octets × Nat × Nat)
  | data, bits + 8 => do
    let shifted ← Word.shiftRight 32 data 8
    let (octets, state) ← flush shifted bits
    return (UInt8.ofNat data :: octets, state)
  | data, bits => return ([], data, bits)

/-- Septets into octets, behind the bits that are held; what is left over at the end goes into one
last octet. -/
def pack (data bits : Nat) : List UInt8 → Checked Octets
  | [] => return if bits = 0 then [] else [UInt8.ofNat data]
  | septet :: rest => do
    let added ← Word.shiftLeft 32 septet.toNat bits
    let more ← Word.add 32 bits 7
    let (octets, data, bits) ← flush (data ||| added) more
    let others ← pack data bits rest
    return octets ++ others

theorem flush_eq_takeGroups (data bits : Nat) :
    flush data bits =
      .ok (Text.takeGroups 8 (bits / 8) data, data >>> (8 * (bits / 8)), bits % 8) := by
  fun_induction flush data bits with
  | case1 data bits ih =>
    have hoctet : UInt8.ofNat data = UInt8.ofNat (data % (1 <<< 8)) := by
      rw [← UInt8.toNat_inj, UInt8.toNat_ofNat', UInt8.toNat_ofNat']
      exact (Nat.mod_mod _ _).symm
    change _ = Except.ok (Text.takeGroups 8 ((bits + 8) / 8) data, data >>> (8 * ((bits + 8) / 8)),
      (bits + 8) % 8)
    rw [Word.shiftRight_of_lt (by decide), Checked.ok_bind, ih, Nat.add_div_right _ (by decide),
      Text.takeGroups, ← hoctet, Nat.mul_succ, Nat.add_comm (8 * _), Nat.shiftRight_add,
      Nat.add_mod_right]
    rfl
  | case2 data bits hfew =>
    have hlt : bits < 8 := by
      refine Nat.not_le.1 fun hle => ?_
      exact hfew (bits - 8) (by omega)
    rw [Nat.div_eq_of_lt hlt, Nat.mod_eq_of_lt hlt]
    rfl

/-- **Packing does not fault** behind fewer than eight bits. -/
theorem pack_eq {data bits : Nat} (hbits : bits ≤ 7) (hdata : data < 2 ^ bits)
    {septets : List UInt8} (h : ∀ septet ∈ septets, septet.toNat < 2 ^ 7) :
    pack data bits septets = .ok (Text.packFrom data bits septets) := by
  induction septets generalizing data bits with
  | nil => rfl
  | cons septet rest ih =>
    obtain ⟨hseptet, hothers⟩ := List.forall_mem_cons.1 h
    have hpow : 2 ^ bits ≤ 2 ^ 7 := Nat.pow_le_pow_right (by decide) hbits
    have hshift : Word.shiftLeft 32 septet.toNat bits = .ok (septet.toNat <<< bits) := by
      refine Word.shiftLeft_of_lt (by omega) ?_
      rw [Nat.shiftLeft_eq]
      exact Nat.lt_of_le_of_lt (Nat.mul_le_mul (Nat.le_of_lt hseptet) hpow) (by decide)
    have hmore : Word.add 32 bits 7 = .ok (bits + 7) :=
      Word.add_of_lt (Nat.lt_of_le_of_lt (Nat.add_le_add_right hbits 7) (by decide))
    have hnext := Text.add_mul_lt hdata hseptet
    rw [pack, hshift, Checked.ok_bind, hmore, Checked.ok_bind, or_shiftLeft hdata,
      flush_eq_takeGroups, Checked.ok_bind, Text.packFrom, Text.addBits_eq (by omega)]
    generalize data + 2 ^ bits * septet.toNat = next at hnext ⊢
    have hleft : next >>> (8 * ((bits + 7) / 8)) < 2 ^ ((bits + 7) % 8) := by
      rw [Nat.shiftRight_eq_div_pow]
      refine Nat.div_lt_of_lt_mul ?_
      rw [← Nat.pow_add, Nat.div_add_mod]
      exact hnext
    dsimp only
    rw [ih (by omega) hleft hothers, Checked.ok_bind, Checked.pure_eq]

/-! ## Unpacking -/

theorem dropPadding_eq {pending data bits : Nat} (hpending : pending ≤ bits) (hbits : bits < 32) :
    dropPadding pending data bits = .ok (0, data >>> pending, bits - pending) := by
  rw [dropPadding]
  split
  · rw [Word.shiftRight_of_lt (by omega), Checked.ok_bind, Word.sub_of_le hpending]
    rfl
  · obtain rfl : pending = 0 := by omega
    rfl

/-- **Unpacking behind padding does not fault** as long as fewer than fourteen bits are left over
when all septets are out. -/
theorem unpack_padded {padding room : Nat} {octets : Octets} (hpadding : padding ≤ 7)
    (hroom : 8 * octets.length ≤ padding + 7 * room + 13) :
    unpack padding room 0 0 octets = .ok (unpackSeptets room padding octets) := by
  cases octets with
  | nil => rfl
  | cons octet rest =>
    rw [List.length_cons] at hroom
    obtain ⟨hshift, hmore⟩ := shiftLeft_octet (Nat.zero_le 6) octet
    have hheld : octet.toNat / 2 ^ padding < 2 ^ (8 - padding) := by
      refine Nat.div_lt_of_lt_mul ?_
      rw [← Nat.pow_add, Nat.add_sub_cancel' (by omega)]
      exact octet.toNat_lt
    have hrest := @giveOff_eq room _ _ rest (show 8 - padding ≤ 14 by omega) hheld (by omega)
    rw [unpack, hshift, Checked.ok_bind, hmore, Checked.ok_bind, Nat.shiftLeft_zero, Nat.zero_or,
      dropPadding_eq (by omega) (by decide), Checked.ok_bind, Text.unpackSeptets_cons hpadding,
      ← hrest, ← Nat.shiftRight_eq_div_pow, Nat.zero_add]
    rfl

/-! ## One stream -/

/-- **Septets and octets are one stream of bits**, with up to seven bits of padding.

The octets that a text is packed into, which are added to a cursor that is written at its end, are
those of a number: the sum of the septets at their places behind the padding.  The padding and the
bits behind the last septet are zero, and there are no more octets than the septets need.

Of octets that hold the septets asked for and less than fourteen bits more, just these septets are
unpacked, each as it is found at its place in the number of the octets.

Neither of the two faults on a machine; in particular, nothing is shifted by 32 bits or more. -/
theorem septets_are_one_stream (lang shift : Language) {padding : Nat} (hpadding : padding ≤ 7) :
    (∀ (text : String) (c : Cursor), c.writeIndex = c.octets.length →
      let septets := encodeUnits lang shift text.toList
      let packed := packText lang shift padding text
      pack 0 padding septets = .ok packed ∧ (c.write packed).octets = c.octets ++ packed ∧
        stream 8 packed =
          (septets.mapIdx fun i septet => septet.toNat * 2 ^ (padding + 7 * i)).sum ∧
        stream 8 packed % 2 ^ padding = 0 ∧
        stream 8 packed < 2 ^ (padding + 7 * septets.length) ∧
        packed.length = Text.packedLength septets.length padding) ∧
      ∀ (octets : Octets) (count : Nat), padding + 7 * count ≤ 8 * octets.length →
        8 * octets.length - padding - 7 * count < 14 →
        let unpacked := unpackSeptets count padding octets
        unpack padding count 0 0 octets = .ok unpacked ∧ unpacked.length = count ∧
          ∀ i < count, unpacked[i]?.map UInt8.toNat =
            some (stream 8 octets / 2 ^ (padding + 7 * i) % 128) := by
  refine ⟨fun text c hc => ?_, fun octets count hcount hspare => ?_⟩
  · have hseptets : ∀ septet ∈ encodeUnits lang shift text.toList, septet.toNat < 2 ^ 7 :=
      fun _ => Text.lt_of_mem_encodeUnits
    obtain ⟨hstream, hlength⟩ := Text.stream_packFrom (Nat.two_pow_pos padding) hpadding hseptets
    rw [Nat.zero_add] at hstream
    refine ⟨pack_eq hpadding (Nat.two_pow_pos padding) hseptets, Cursor.octets_write hc _,
      hstream.trans (Text.mul_stream_eq_sum padding 7 _), ?_, ?_, hlength⟩
    · exact (congrArg (· % 2 ^ padding) hstream).trans (Nat.mul_mod_right _ _)
    · have hlt := Text.stream_lt (by decide) hseptets
      refine lt_of_eq_of_lt hstream ?_
      rw [pow_add]
      exact Nat.mul_lt_mul_of_pos_left hlt (Nat.two_pow_pos padding)
  · refine ⟨unpack_padded hpadding (by omega), Text.length_unpackSeptets hpadding hcount, ?_⟩
    exact fun i hi => Text.getElem?_unpackSeptets hpadding hcount hi

/-- A text of three septets, and octets of which one is still to come when the septets asked for are
out. -/
theorem septets_are_one_stream_octet_over :
    let packed := packText .standard .standard 1 "a€"
    let octets : Octets := [0xE8, 0x32, 0x9B, 0xFD, 0x06]
    1 ≤ 7 ∧ stream 8 packed = 0x61 * 2 ^ 1 + 0x1B * 2 ^ 8 + 0x65 * 2 ^ 15 ∧
      8 * octets.length - 1 - 7 * 4 = 11 ∧
      unpack 1 4 0 0 octets = .ok (unpackSeptets 4 1 octets) ∧
      (unpackSeptets 4 1 octets)[3]?.map UInt8.toNat = some (0x06FD9B32E8 / 2 ^ 22 % 128) := by
  intro packed octets
  have hpadding : 1 ≤ 7 := by decide
  have hseptets : encodeUnits .standard .standard "a€".toList = [0x61, 0x1B, 0x65] := rfl
  obtain ⟨hpack, hunpack⟩ := septets_are_one_stream .standard .standard hpadding
  obtain ⟨-, -, hsum, -⟩ := hpack "a€" .empty rfl
  obtain ⟨hmachine, -, hplace⟩ := hunpack octets 4 (by decide) (by decide)
  refine ⟨hpadding, ?_, rfl, hmachine, hplace 3 (by decide)⟩
  rw [hsum, hseptets]
  rfl

end Machine

end SimCard
