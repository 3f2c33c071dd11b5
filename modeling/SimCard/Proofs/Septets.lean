import Mathlib.Data.Nat.Digits.Defs
import Mathlib.Tactic.Ring
import SimCard.Text.Septets

/-!
# Septets and octets as one stream of bits

Packing and unpacking go through the octets with a small accumulator.  What they compute has a
description without one: a list of groups of bits is a number, the first group being its least
significant digit (`stream`), and

* packing septets gives the octets of the same number, moved up by the padding
  (`stream_packFrom`);
* unpacking octets gives the lowest septets of the same number, moved down by the padding
  (`unpackSeptets_eq`).

So unpacking undoes packing (`unpackSeptets_packSeptets`), as long as as many septets are asked for
as were packed.  Somebody who only knows the octets has to guess: seven octets hold eight septets,
but also seven of them and seven spare bits, and those look like one more septet of zeros.  Only in
this one case is the guess off (`unpackSeptets_all`).
-/

set_option autoImplicit false

namespace SimCard

namespace Text

/-! ## Groups of bits -/

/-- The number whose digits of `width` bits are these groups, the least significant one first. -/
def stream (width : Nat) (groups : List UInt8) : Nat :=
  Nat.ofDigits (2 ^ width) (groups.map UInt8.toNat)

@[simp] theorem stream_nil (width : Nat) : stream width [] = 0 := rfl

@[simp] theorem stream_cons (width : Nat) (group : UInt8) (groups : List UInt8) :
    stream width (group :: groups) = group.toNat + 2 ^ width * stream width groups :=
  Nat.ofDigits_cons

theorem stream_append (width : Nat) (front back : List UInt8) :
    stream width (front ++ back) =
      stream width front + 2 ^ (width * front.length) * stream width back := by
  rw [stream, List.map_append, Nat.ofDigits_append, List.length_map, ← pow_mul]
  rfl

/-- Bits that go above those that are held take up their own width and no more. -/
theorem add_mul_lt {held bits width value : Nat} (hheld : held < 2 ^ bits)
    (hvalue : value < 2 ^ width) : held + 2 ^ bits * value < 2 ^ (bits + width) := by
  rw [pow_add]
  calc held + 2 ^ bits * value < 2 ^ bits + 2 ^ bits * value := by omega
    _ = 2 ^ bits * (value + 1) := by ring
    _ ≤ 2 ^ bits * 2 ^ width := Nat.mul_le_mul_left _ hvalue

theorem takeGroups_succ (width count held : Nat) :
    takeGroups width (count + 1) held =
      UInt8.ofNat (held % 2 ^ width) :: takeGroups width count (held / 2 ^ width) := by
  rw [takeGroups, Nat.one_shiftLeft, Nat.shiftRight_eq_div_pow]

/-- A group of eight bits or fewer is kept whole in its octet. -/
theorem toNat_group {width : Nat} (hwidth : width ≤ 8) (held : Nat) :
    (UInt8.ofNat (held % 2 ^ width)).toNat = held % 2 ^ width :=
  UInt8.toNat_ofNat_of_lt' (lt_of_lt_of_le (Nat.mod_lt _ (Nat.two_pow_pos width))
    (Nat.pow_le_pow_right (by decide) hwidth : 2 ^ width ≤ 2 ^ 8))

theorem length_takeGroups (width count held : Nat) :
    (takeGroups width count held).length = count := by
  induction count generalizing held with
  | zero => rfl
  | succ count ih => rw [takeGroups_succ, List.length_cons, ih]

/-- A group is found at its place in the number. -/
theorem getElem?_takeGroups {width count i : Nat} (hwidth : width ≤ 8) (hi : i < count)
    (held : Nat) :
    (takeGroups width count held)[i]?.map UInt8.toNat =
      some (held / 2 ^ (width * i) % 2 ^ width) := by
  induction count generalizing i held with
  | zero => exact absurd hi (Nat.not_lt_zero i)
  | succ count ih =>
    rw [takeGroups_succ]
    cases i with
    | zero =>
      rw [List.getElem?_cons_zero, Option.map_some, toNat_group hwidth, Nat.mul_zero, pow_zero,
        Nat.div_one]
    | succ i =>
      rw [List.getElem?_cons_succ, ih (Nat.lt_of_succ_lt_succ hi), Nat.div_div_eq_div_mul,
        ← pow_add, Nat.mul_succ, Nat.add_comm width]

/-- Groups are taken in two goes as well as in one. -/
theorem takeGroups_add (width m n held : Nat) :
    takeGroups width (m + n) held =
      takeGroups width m held ++ takeGroups width n (held / 2 ^ (width * m)) := by
  induction m generalizing held with
  | zero => simp [takeGroups]
  | succ m ih =>
    rw [Nat.succ_add, takeGroups_succ, takeGroups_succ, ih, Nat.div_div_eq_div_mul, ← pow_add,
      Nat.mul_succ, Nat.add_comm width, List.cons_append]

/-- The lowest groups do not depend on the bits above them. -/
theorem takeGroups_add_mul {width count k : Nat} (h : width * count ≤ k) (held more : Nat) :
    takeGroups width count (held + 2 ^ k * more) = takeGroups width count held := by
  induction count generalizing held k with
  | zero => rfl
  | succ count ih =>
    rw [Nat.mul_succ] at h
    have hk : 2 ^ k * more = 2 ^ width * (2 ^ (k - width) * more) := by
      rw [← mul_assoc, ← pow_add, Nat.add_sub_cancel' (by omega)]
    rw [takeGroups_succ, takeGroups_succ, hk, Nat.add_mul_mod_self_left,
      Nat.add_mul_div_left _ _ (Nat.two_pow_pos width), ih (by omega)]

/-- The lowest groups of a number are its digits, up to as many as there are of them. -/
theorem stream_takeGroups {width : Nat} (hwidth : width ≤ 8) (count held : Nat) :
    stream width (takeGroups width count held) = held % 2 ^ (width * count) := by
  induction count generalizing held with
  | zero => simp [takeGroups, Nat.mod_one]
  | succ count ih =>
    rw [takeGroups_succ, stream_cons, ih, toNat_group hwidth, Nat.mul_succ, pow_add,
      Nat.mul_comm (2 ^ (width * count)), Nat.mod_mul]

/-- A number gives its digits back. -/
theorem takeGroups_stream {width : Nat} {groups : List UInt8}
    (h : ∀ group ∈ groups, group.toNat < 2 ^ width) :
    takeGroups width groups.length (stream width groups) = groups := by
  induction groups with
  | nil => rfl
  | cons group groups ih =>
    have hgroup := h group (by simp)
    rw [List.length_cons, takeGroups_succ, stream_cons, Nat.add_mul_mod_self_left,
      Nat.mod_eq_of_lt hgroup, UInt8.ofNat_toNat, Nat.add_mul_div_left _ _ (Nat.two_pow_pos width),
      Nat.div_eq_of_lt hgroup, Nat.zero_add, ih fun g hg => h g (by simp [hg])]

/-- Below fifteen bits the accumulator has room for one more octet. -/
theorem addBits_eq {bits : Nat} (hbits : bits ≤ 14) (held : Nat) (octet : UInt8) :
    addBits held bits octet.toNat = held + 2 ^ bits * octet.toNat := by
  have hlt : 2 ^ bits * octet.toNat < UInt32.size := by
    have hpow : 2 ^ bits ≤ 2 ^ 14 := Nat.pow_le_pow_right (by decide) hbits
    calc 2 ^ bits * octet.toNat ≤ 2 ^ 14 * octet.toNat := Nat.mul_le_mul_right _ hpow
      _ < 2 ^ 14 * 2 ^ 8 := Nat.mul_lt_mul_of_pos_left octet.toNat_lt (by decide)
      _ < UInt32.size := by decide
  rw [addBits, Nat.shiftLeft_eq, Nat.mul_comm, Nat.mod_eq_of_lt hlt]

/-! ## Packing -/

/-- **Packing keeps the stream.**  Behind fewer than eight bits that are already held, the octets
are those of the number that the held bits and the septets make up, and there are just enough of
them. -/
theorem stream_packFrom {held bits : Nat} (hheld : held < 2 ^ bits) (hbits : bits ≤ 7)
    {septets : List UInt8} (h : ∀ septet ∈ septets, septet.toNat < 2 ^ 7) :
    stream 8 (packFrom held bits septets) = held + 2 ^ bits * stream 7 septets ∧
      (packFrom held bits septets).length = packedLength septets.length bits := by
  induction septets generalizing held bits with
  | nil =>
    rw [packFrom, packedLength]
    split
    · rename_i hzero
      subst hzero
      obtain rfl : held = 0 := by simpa using hheld
      exact ⟨rfl, rfl⟩
    · have hlt : held < 256 :=
        lt_of_lt_of_le hheld (Nat.pow_le_pow_right (by decide) hbits |>.trans (by decide))
      refine ⟨?_, ?_⟩
      · rw [stream_cons, stream_nil, stream_nil, UInt8.toNat_ofNat_of_lt' hlt]
        omega
      · rw [List.length_singleton, List.length_nil]
        omega
  | cons septet septets ih =>
    have hseptet := h septet (by simp)
    rw [packFrom, addBits_eq (by omega)]
    generalize hfull : (bits + 7) / 8 = full
    generalize hnext : held + 2 ^ bits * septet.toNat = next
    have hsplit : 8 * full + (bits + 7) % 8 = bits + 7 := by omega
    -- the octets that are full go out; fewer than eight bits are held again
    have hnextlt : next < 2 ^ (8 * full) * 2 ^ ((bits + 7) % 8) := by
      rw [← pow_add, hsplit, ← hnext]
      exact add_mul_lt hheld hseptet
    have hrest : next / 2 ^ (8 * full) < 2 ^ ((bits + 7) % 8) := Nat.div_lt_of_lt_mul hnextlt
    obtain ⟨hstream, hlength⟩ := ih hrest (by omega) fun s hs => h s (by simp [hs])
    rw [Nat.shiftRight_eq_div_pow]
    refine ⟨?_, ?_⟩
    · rw [stream_append, length_takeGroups, stream_takeGroups (le_refl 8), hstream, stream_cons]
      calc next % 2 ^ (8 * full) + 2 ^ (8 * full) *
            (next / 2 ^ (8 * full) + 2 ^ ((bits + 7) % 8) * stream 7 septets)
          = (next % 2 ^ (8 * full) + 2 ^ (8 * full) * (next / 2 ^ (8 * full))) +
              2 ^ (8 * full + (bits + 7) % 8) * stream 7 septets := by rw [pow_add]; ring
        _ = next + 2 ^ (bits + 7) * stream 7 septets := by rw [Nat.mod_add_div, hsplit]
        _ = held + 2 ^ bits * (septet.toNat + 2 ^ 7 * stream 7 septets) := by
          rw [← hnext, pow_add]; ring
    · rw [List.length_append, length_takeGroups, hlength, packedLength, packedLength,
        List.length_cons]
      omega

/-! ## Unpacking -/

theorem unpackFrom_zero (pending held bits : Nat) (octets : Octets) :
    unpackFrom 0 pending held bits octets = [] := by
  induction octets generalizing pending held bits with
  | nil => rfl
  | cons octet octets ih =>
    rw [unpackFrom]
    simp only [Nat.min_zero, takeGroups, List.nil_append, Nat.zero_sub]
    exact ih _ _ _

/-- What one turn of unpacking does once the padding is gone: take the septets that are held, up to
`count`, and go on. -/
def drain (count held bits : Nat) (octets : Octets) : List UInt8 :=
  let taken := min (bits / 7) count
  takeGroups 7 taken held ++
    unpackFrom (count - taken) 0 (held >>> (7 * taken)) (bits - 7 * taken) octets

theorem unpackFrom_cons {bits : Nat} (hbits : bits ≤ 14) (count held : Nat) (octet : UInt8)
    (octets : Octets) :
    unpackFrom count 0 held bits (octet :: octets) =
      drain count (held + 2 ^ bits * octet.toNat) (bits + 8) octets := by
  rw [unpackFrom, addBits_eq hbits, drain]
  simp

theorem unpackSeptets_cons {padding : Nat} (hpadding : padding ≤ 7) (count : Nat) (octet : UInt8)
    (octets : Octets) :
    unpackSeptets count padding (octet :: octets) =
      drain count (octet.toNat / 2 ^ padding) (8 - padding) octets := by
  rw [unpackSeptets, unpackFrom, addBits_eq (by omega), drain]
  simp [if_pos (show padding ≤ 8 by omega), Nat.shiftRight_eq_div_pow]

/-- **Unpacking keeps the stream.**  The septets that come out are the lowest ones of the number
that the held bits and the octets make up, as many as it has or as are asked for. -/
theorem drain_eq {held bits : Nat} (hheld : held < 2 ^ bits) (hbits : bits ≤ 14) (count : Nat)
    (octets : Octets) :
    drain count held bits octets =
      takeGroups 7 (min count ((bits + 8 * octets.length) / 7))
        (held + 2 ^ bits * stream 8 octets) := by
  induction octets generalizing held bits count with
  | nil =>
    rw [drain, unpackFrom, List.append_nil, stream_nil, Nat.mul_zero, Nat.add_zero,
      List.length_nil, Nat.mul_zero, Nat.add_zero, Nat.min_comm]
  | cons octet octets ih =>
    rw [drain, Nat.shiftRight_eq_div_pow]
    rcases Nat.le_total count (bits / 7) with hcount | hcount
    · -- everything that was asked for is already held
      rw [Nat.min_eq_right hcount, Nat.sub_self, unpackFrom_zero, List.append_nil,
        Nat.min_eq_left (by rw [List.length_cons]; omega), takeGroups_add_mul (by omega)]
    · have hlow : bits - 7 * (bits / 7) ≤ 6 := by omega
      have hsum : 7 * (bits / 7) + (bits - 7 * (bits / 7)) = bits := by omega
      generalize hrest : bits - 7 * (bits / 7) = rest at hlow hsum
      generalize bits / 7 = taken at *
      have hpow : 2 ^ bits = 2 ^ (7 * taken) * 2 ^ rest := by rw [← pow_add, hsum]
      have hheld' : held / 2 ^ (7 * taken) < 2 ^ rest :=
        Nat.div_lt_of_lt_mul (by rw [← hpow]; exact hheld)
      have hnext : held / 2 ^ (7 * taken) + 2 ^ rest * octet.toNat < 2 ^ (rest + 8) :=
        add_mul_lt hheld' octet.toNat_lt
      rw [Nat.min_eq_left hcount, hrest, unpackFrom_cons (by omega), ih hnext (by omega)]
      have hcut : min count ((bits + 8 * (octet :: octets).length) / 7) =
          taken + min (count - taken) ((rest + 8 + 8 * octets.length) / 7) := by
        rw [List.length_cons]
        omega
      have hvalue : held / 2 ^ (7 * taken) + 2 ^ rest * octet.toNat +
            2 ^ (rest + 8) * stream 8 octets =
          (held + 2 ^ bits * stream 8 (octet :: octets)) / 2 ^ (7 * taken) := by
        rw [hpow, mul_assoc, Nat.add_mul_div_left _ _ (Nat.two_pow_pos _), stream_cons, pow_add]
        ring
      rw [hcut, takeGroups_add, hvalue, takeGroups_add_mul (by omega)]

/-- **Unpacking** takes the lowest septets of the stream behind the padding. -/
theorem unpackSeptets_eq {padding : Nat} (hpadding : padding ≤ 7) (count : Nat) (octets : Octets) :
    unpackSeptets count padding octets =
      takeGroups 7 (min count ((8 * octets.length - padding) / 7))
        (stream 8 octets / 2 ^ padding) := by
  cases octets with
  | nil => simp [unpackSeptets, unpackFrom, takeGroups]
  | cons octet octets =>
    have hpow : 2 ^ 8 = 2 ^ padding * 2 ^ (8 - padding) := by
      rw [← pow_add, Nat.add_sub_cancel' (by omega)]
    have hheld : octet.toNat / 2 ^ padding < 2 ^ (8 - padding) :=
      Nat.div_lt_of_lt_mul (by rw [← hpow]; exact octet.toNat_lt)
    have hbits : 8 - padding + 8 * octets.length = 8 * (octet :: octets).length - padding := by
      rw [List.length_cons]
      omega
    rw [unpackSeptets_cons hpadding, drain_eq hheld (by omega), hbits, stream_cons, hpow, mul_assoc,
      Nat.add_mul_div_left _ _ (Nat.two_pow_pos _)]

/-! ## There and back -/

/-- **Unpacking undoes packing**, when as many septets are asked for as there are. -/
theorem unpackSeptets_packSeptets {padding : Nat} (hpadding : padding ≤ 7) {septets : List UInt8}
    (h : ∀ septet ∈ septets, septet.toNat < 2 ^ 7) :
    unpackSeptets septets.length padding (packSeptets padding septets) = septets := by
  obtain ⟨hstream, hlength⟩ := stream_packFrom (Nat.two_pow_pos padding) hpadding h
  have hcount : min septets.length ((8 * packedLength septets.length padding - padding) / 7) =
      septets.length := by
    rw [packedLength]
    omega
  rw [unpackSeptets_eq hpadding, packSeptets, hstream, hlength, hcount, Nat.zero_add,
    Nat.mul_div_cancel_left _ (Nat.two_pow_pos padding), takeGroups_stream h]

theorem lt_of_mem_takeGroups {width : Nat} (hwidth : width ≤ 8) {count held : Nat} {group : UInt8}
    (h : group ∈ takeGroups width count held) : group.toNat < 2 ^ width := by
  induction count generalizing held with
  | zero => cases h
  | succ count ih =>
    rw [takeGroups_succ] at h
    rcases List.mem_cons.1 h with rfl | h
    · rw [toNat_group hwidth]
      exact Nat.mod_lt held (Nat.two_pow_pos width)
    · exact ih h

theorem lt_of_mem_unpackFrom {count pending held bits : Nat} {octets : Octets} {septet : UInt8}
    (h : septet ∈ unpackFrom count pending held bits octets) : septet.toNat < 2 ^ 7 := by
  induction octets generalizing count pending held bits with
  | nil => cases h
  | cons octet octets ih =>
    rw [unpackFrom] at h
    rcases List.mem_append.1 h with h | h
    · exact lt_of_mem_takeGroups (by decide) h
    · exact ih h

theorem lt_of_mem_unpackSeptets {count padding : Nat} {octets : Octets} {septet : UInt8}
    (h : septet ∈ unpackSeptets count padding octets) : septet.toNat < 2 ^ 7 :=
  lt_of_mem_unpackFrom h

theorem length_packSeptets {padding : Nat} (hpadding : padding ≤ 7) {septets : List UInt8}
    (h : ∀ septet ∈ septets, septet.toNat < 2 ^ 7) :
    (packSeptets padding septets).length = packedLength septets.length padding :=
  (stream_packFrom (Nat.two_pow_pos padding) hpadding h).2

/-- The octets of septets have room for just as many, or for one more if seven bits are over. -/
theorem count_packedLength (count : Nat) :
    packedLength count 0 * 8 / 7 = count + if count % 8 = 7 then 1 else 0 := by
  have hoctets : packedLength count 0 = 7 * (count / 8) + count % 8 := by
    rw [packedLength]
    omega
  rw [hoctets]
  split <;> omega

theorem stream_lt {width : Nat} (hwidth : width ≤ 8) {groups : List UInt8}
    (h : ∀ group ∈ groups, group.toNat < 2 ^ width) :
    stream width groups < 2 ^ (width * groups.length) := by
  have hmod := stream_takeGroups hwidth groups.length (stream width groups)
  rw [takeGroups_stream h] at hmod
  rw [hmod]
  exact Nat.mod_lt _ (Nat.two_pow_pos _)

/-- **Seven bits to spare read as one more septet**, of zeros, when all that the octets can hold is
asked for. -/
theorem unpackSeptets_all {septets : List UInt8}
    (h : ∀ septet ∈ septets, septet.toNat < 2 ^ 7) :
    unpackSeptets ((packSeptets 0 septets).length * 8 / 7) 0 (packSeptets 0 septets) =
      septets ++ if septets.length % 8 = 7 then [0] else [] := by
  obtain ⟨hstream, hlength⟩ := stream_packFrom (Nat.two_pow_pos 0) (Nat.zero_le 7) h
  have hcount := count_packedLength septets.length
  have hmin : min (packedLength septets.length 0 * 8 / 7)
      ((8 * packedLength septets.length 0 - 0) / 7) =
        septets.length + if septets.length % 8 = 7 then 1 else 0 := by
    rw [Nat.sub_zero, Nat.mul_comm 8, Nat.min_self, hcount]
  -- the number has no bits above its septets, so a septet that is taken from there is zero
  rw [unpackSeptets_eq (Nat.zero_le 7), packSeptets, hlength, hmin, hstream, Nat.zero_add, pow_zero,
    Nat.one_mul, Nat.div_one, takeGroups_add, takeGroups_stream h,
    Nat.div_eq_of_lt (stream_lt (by decide) h)]
  split <;> rfl

end Text

end SimCard
