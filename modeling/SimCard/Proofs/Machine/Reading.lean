import SimCard.Proofs.Framing
import SimCard.Proofs.Machine.Basic

/-!
# Reading on a machine

A buffer is octets and an index, and a read takes an index, adds to it, and compares it with the
length.  None of this faults as long as the buffer has less than half the octets that an index can
count (`Cursor.Bounded`), and then reading is what it is in the library: `Machine.agrees_readOctet`,
`Machine.agrees_readOctets`, `Machine.agrees_readWord16`.

A length field is read octet by octet into a size (`Machine.agrees_readLength`).  It has three
octets at most, so the size has room for it.
-/

set_option autoImplicit false

namespace SimCard

/-! ## Buffers -/

/-- **A buffer that a machine can read**: its index is in it, and twice its length is still a
size. -/
structure Cursor.Bounded (c : Cursor) : Prop where
  readIndex_le : c.readIndex ≤ c.octets.length
  length_lt : c.octets.length < 0x80000000

theorem Cursor.Takes.bounded {c c' : Cursor} {octets : Octets} (h : c.Takes octets c')
    (hc : c.Bounded) : c'.Bounded :=
  ⟨h.within hc.readIndex_le, h.octets_eq ▸ hc.length_lt⟩

namespace Machine

variable (m : Machine) {c c' : Cursor}

/-- Are so many octets there? -/
def ensure (wanted : Nat) : Step Cursor (Stop CursorError) Unit := do
  let c ← Step.get
  let stop ← Word.add m.sizeBits c.readIndex wanted
  if c.octets.length < stop then
    Step.fail (.error (.overrun c.readIndex wanted c.octets.length))

/-- Move the index on by so many octets. -/
def advance (count : Nat) : Step Cursor (Stop CursorError) Unit := do
  let c ← Step.get
  let readIndex ← Word.add m.sizeBits c.readIndex count
  Step.modify fun c => { c with readIndex }

/-- The next octet, left where it is. -/
def peekOctet : Step Cursor (Stop CursorError) UInt8 := do
  m.ensure 1
  let c ← Step.get
  item c.octets c.readIndex

/-- The next octet. -/
def readOctet : Step Cursor (Stop CursorError) UInt8 := do
  let octet ← m.peekOctet
  m.advance 1
  return octet

/-- The next two octets as a word, the most significant one first. -/
def readWord16 : Step Cursor (Stop CursorError) UInt16 := do
  let high ← m.readOctet
  let low ← m.readOctet
  let shifted ← Word.shiftLeft 16 high.toNat 8
  return UInt16.ofNat (shifted ||| low.toNat)

/-- The next `count` octets. -/
def readOctets (count : Nat) : Step Cursor (Stop CursorError) Octets := do
  m.ensure count
  let c ← Step.get
  m.advance count
  let stop ← Word.add m.sizeBits c.readIndex count
  slice c.octets c.readIndex stop

theorem ensure_of_le (hc : c.Bounded) {wanted : Nat} (h : c.readIndex + wanted ≤ c.octets.length) :
    m.ensure wanted c = (.ok (), c) := by
  have hlength := hc.length_lt
  have hsum := m.add_size (show c.readIndex + wanted < 0x100000000 by omega)
  rw [ensure, Step.get_bind, Step.check_bind hsum, if_neg (Nat.not_lt.2 h)]
  rfl

theorem ensure_of_lt (hc : c.Bounded) {wanted : Nat} (hwanted : wanted < 0x80000000)
    (h : c.octets.length < c.readIndex + wanted) :
    m.ensure wanted c = (.error (.error (.overrun c.readIndex wanted c.octets.length)), c) := by
  have hlength := hc.length_lt
  have hindex := hc.readIndex_le
  have hsum := m.add_size (show c.readIndex + wanted < 0x100000000 by omega)
  rw [ensure, Step.get_bind, Step.check_bind hsum, if_pos h]
  rfl

theorem advance_eq (hc : c.Bounded) {count : Nat} (h : c.readIndex + count ≤ c.octets.length) :
    m.advance count c = (.ok (), c.advance count) := by
  have hlength := hc.length_lt
  have hsum := m.add_size (show c.readIndex + count < 0x100000000 by omega)
  rw [advance, Step.get_bind, Step.check_bind hsum]
  rfl

theorem agrees_peekOctet (hc : c.Bounded) : m.peekOctet.Agrees Cursor.peekOctet c := by
  rw [Step.Agrees, peekOctet, Step.bind_apply, Step.mapError, Cursor.peekOctet]
  cases hoctet : c.octets[c.readIndex]? with
  | none =>
    have hle := List.getElem?_eq_none_iff.1 hoctet
    rw [m.ensure_of_lt hc (by decide) (Nat.lt_succ_of_le hle)]
  | some octet =>
    have hlt := (List.getElem?_eq_some_iff.1 hoctet).1
    rw [m.ensure_of_le hc hlt]
    change (liftM (item c.octets c.readIndex) : Step Cursor (Stop CursorError) UInt8) c = _
    rw [item_of_getElem? hoctet]
    rfl

/-- **The next octet.** -/
theorem agrees_readOctet (hc : c.Bounded) : m.readOctet.Agrees Cursor.readOctet c := by
  have hpeek := m.agrees_peekOctet hc
  rw [Step.Agrees, Step.mapError, Cursor.peekOctet] at hpeek
  rw [Step.Agrees, readOctet, Step.bind_apply, hpeek, Step.mapError, Cursor.readOctet]
  cases hoctet : c.octets[c.readIndex]? with
  | none => rfl
  | some octet =>
    have hlt := (List.getElem?_eq_some_iff.1 hoctet).1
    change (m.advance 1 >>= fun _ => pure octet) c = _
    rw [Step.bind_apply, m.advance_eq hc hlt]
    rfl

/-- Behind the next octet the buffer can still be read. -/
theorem agrees_readOctet_bind {α : Type} {f : UInt8 → Step Cursor (Stop CursorError) α}
    {g : UInt8 → Reader CursorError α} (hc : c.Bounded)
    (h : ∀ octet c', c'.Bounded → (f octet).Agrees (g octet) c') :
    (m.readOctet >>= f).Agrees (Cursor.readOctet >>= g) c :=
  (m.agrees_readOctet hc).bind fun octet c' hoctet =>
    h octet c' ((Cursor.yields_readOctet.1 hoctet).bounded hc)

theorem agrees_liftM_readOctet_bind {α : Type} {f : UInt8 → Step Cursor (Stop ElementError) α}
    {g : UInt8 → Reader ElementError α} (hc : c.Bounded)
    (h : ∀ octet c', c'.Bounded → (f octet).Agrees (g octet) c') :
    ((liftM m.readOctet : Step Cursor (Stop ElementError) UInt8) >>= f).Agrees
      ((liftM Cursor.readOctet : Reader ElementError UInt8) >>= g) c :=
  ((m.agrees_readOctet hc).mapError ElementError.cursor).bind fun octet c' hoctet =>
    h octet c' ((Cursor.yields_readOctet.1 (yields_liftM.1 hoctet)).bounded hc)

/-- **The next octets**, unless more are asked for than an index can count. -/
theorem agrees_readOctets (hc : c.Bounded) {count : Nat} (hcount : count < 0x80000000) :
    (m.readOctets count).Agrees (Cursor.readOctets count) c := by
  have hlength := hc.length_lt
  rw [Step.Agrees, readOctets, Step.bind_apply, Step.mapError, Cursor.readOctets]
  by_cases h : c.readIndex + count ≤ c.octets.length
  · have hsum := m.add_size (show c.readIndex + count < 0x100000000 by omega)
    have hslice : slice c.octets c.readIndex (c.readIndex + count) = .ok (c.rest.take count) := by
      rw [slice_of_le (Nat.le_add_right _ _) h, List.drop_take, Nat.add_sub_cancel_left]
      rfl
    rw [m.ensure_of_le hc h, if_pos h]
    change (m.advance count >>= fun _ => _) c = _
    rw [Step.bind_apply, m.advance_eq hc h]
    change ((liftM (Word.add m.sizeBits c.readIndex count) : Step Cursor (Stop CursorError) Nat) >>=
      fun stop => liftM (slice c.octets c.readIndex stop)) (c.advance count) = _
    rw [Step.check_bind hsum, hslice]
    rfl
  · rw [m.ensure_of_lt hc hcount (Nat.lt_of_not_le h), if_neg h]

/-- An octet fills the eight bits that a shift has made free. -/
theorem shiftLeft_or_octet (number : Nat) (octet : UInt8) :
    number <<< 8 ||| octet.toNat = number * 256 + octet.toNat := by
  rw [← Nat.shiftLeft_add_eq_or_of_lt octet.toNat_lt, Nat.shiftLeft_eq]

/-- **The next two octets**, the second of which fills the low half of the word. -/
theorem agrees_readWord16 (hc : c.Bounded) : m.readWord16.Agrees Cursor.readWord16 c := by
  refine m.agrees_readOctet_bind hc fun high c₁ hc₁ => ?_
  refine m.agrees_readOctet_bind hc₁ fun low c₂ _ => ?_
  have hlt := high.toNat_lt
  have hshift : Word.shiftLeft 16 high.toNat 8 = .ok (high.toNat <<< 8) := by
    refine Word.shiftLeft_of_lt (by decide) ?_
    rw [Nat.shiftLeft_eq]
    omega
  have hword : UInt16.ofNat (high.toNat <<< 8 ||| low.toNat) = word16 high low := by
    rw [shiftLeft_or_octet, Nat.mul_comm]
    rfl
  refine Step.agrees_check hshift ?_
  rw [hword]
  exact Step.agrees_pure _

/-! ## Length fields -/

/-- The next `count` octets as the continuation of a size. -/
def readDigits (number : Nat) : Nat → Step Cursor (Stop CursorError) Nat
  | 0 => pure number
  | count + 1 => do
    let shifted ← Word.shiftLeft m.sizeBits number 8
    let octet ← m.readOctet
    readDigits (shifted ||| octet.toNat) count

/-- The length in the next field, and how many octets the field has. -/
def readLength : Step Cursor (Stop ElementError) (Nat × Nat) := do
  let marker ← m.readOctet
  if marker < 0x80 then
    return (marker.toNat, 1)
  else
    match Length.form? marker with
    | none => Step.fail (.error (.lengthMarker marker))
    | some (count, least) =>
      let length ← m.readDigits 0 count
      if length < least then
        Step.fail (.error (.lengthForm marker length))
      else
        let size ← Word.add m.sizeBits 1 count
        return (length, size)

/-- Octets that are read into a size agree as long as it has room for all of them. -/
theorem agrees_readDigits (hc : c.Bounded) {number count : Nat}
    (h : (number + 1) <<< (8 * count) ≤ 0x1000000) :
    (m.readDigits number count).Agrees (Length.readDigits number count) c := by
  induction count generalizing number c with
  | zero => exact Step.agrees_pure number
  | succ count ih =>
    have hdigits : (number + 1) * 256 * 2 ^ (8 * count) ≤ 0x1000000 := by
      rw [Nat.shiftLeft_eq, Nat.mul_succ, Nat.pow_add, Nat.mul_comm (2 ^ _), ← Nat.mul_assoc] at h
      exact h
    have hroom : number <<< 8 < 0x1000000 := by
      have hle := Nat.le_mul_of_pos_right ((number + 1) * 256) (Nat.two_pow_pos (8 * count))
      rw [Nat.shiftLeft_eq]
      omega
    have hshift : Word.shiftLeft m.sizeBits number 8 = .ok (number <<< 8) :=
      Word.shiftLeft_of_lt (Nat.lt_of_lt_of_le (by decide) m.le_sizeBits)
        (m.lt_size (Nat.lt_trans hroom (by decide)))
    refine Step.agrees_check hshift ?_
    refine m.agrees_readOctet_bind hc fun octet c₁ hc₁ => ?_
    have hlow := octet.toNat_lt
    rw [shiftLeft_or_octet]
    refine ih hc₁ (Nat.le_trans ?_ hdigits)
    rw [Nat.shiftLeft_eq]
    exact Nat.mul_le_mul_right _ (by omega)

theorem agrees_readLength (hc : c.Bounded) : m.readLength.Agrees Length.read c := by
  refine m.agrees_liftM_readOctet_bind hc fun marker c₁ hc₁ => ?_
  refine .ite (fun _ => Step.agrees_pure _) fun _ => ?_
  cases hform : Length.form? marker with
  | none => exact Step.agrees_fail _
  | some form =>
    obtain ⟨count, least⟩ := form
    have hroom : (0 + 1) <<< (8 * count) ≤ 0x1000000 ∧ count ≤ 3 := by
      rcases Length.form?_cases hform with ⟨-, rfl, -⟩ | ⟨-, rfl, -⟩ | ⟨-, rfl, -⟩ <;> decide
    have hsize := m.add_size (show 1 + count < 0x100000000 by omega)
    refine ((m.agrees_readDigits hc₁ hroom.1).mapError ElementError.cursor).bind
      fun length c₂ _ => ?_
    exact .ite (fun _ => Step.agrees_fail _) fun _ =>
      Step.agrees_check hsize (Step.agrees_pure _)

end Machine

end SimCard
