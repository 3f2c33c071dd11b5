import SimCard.Proofs.Machine.Reading
import SimCard.Proofs.Timestamps

/-!
# Numbers on a machine

A number of the card is made of the halves of octets, and whatever a card puts there, a field of two
digits stays below a hundred.  So nothing is too wide that a machine makes of such fields: the
number itself in an octet (`Machine.octetPair_eq`), the seconds of a timer (`Machine.seconds_eq`),
the year and the distance from universal time of a date (`Machine.offset_eq`).

Dialling numbers are read digit by digit (`Machine.agrees_readDialling`).
-/

set_option autoImplicit false

namespace SimCard

namespace Machine

variable (m : Machine) {c : Cursor}

/-! ## Fields of two digits -/

/-- The half of an octet that comes second. -/
def highHalf (octet : UInt8) : Checked UInt8 := do
  let half ← Word.shiftRight 8 octet.toNat 4
  return UInt8.ofNat half

/-- What a half of an octet counts as tens. -/
def tens (half : UInt8) : Checked Nat :=
  if half ≤ 9 then Word.mul 8 half.toNat 10 else return 0

/-- The number in an octet. -/
def octetPair (octet : UInt8) : Checked UInt8 := do
  let units ← highHalf octet
  let tens ← tens (Number.lowHalf octet)
  let pair ← Word.add 8 tens (if units ≤ 9 then units.toNat else 0)
  return UInt8.ofNat pair

/-- A number of 32 bits with one more octet after it. -/
def appendPair (number : Nat) (octet : UInt8) : Checked Nat := do
  if octet = 0xFF then
    return number
  else if octet &&& 0xF0 = 0xF0 then
    let tenfold ← Word.mul 32 number 10
    Word.add 32 tenfold (Number.lowHalf octet).toNat
  else
    let pair ← octetPair octet
    let hundredfold ← Word.mul 32 number 100
    Word.add 32 hundredfold pair.toNat

/-- The next `pairs` octets as the continuation of a number. -/
def readNumberFrom (number : Nat) : Nat → Step Cursor (Stop CursorError) Nat
  | 0 => pure number
  | pairs + 1 => do
    let octet ← m.readOctet
    let number ← appendPair number octet
    readNumberFrom number pairs

/-- The number in the next `pairs` octets. -/
def readNumber (pairs : Nat) : Step Cursor (Stop CursorError) Nat := m.readNumberFrom 0 pairs

theorem highHalf_eq (octet : UInt8) : highHalf octet = .ok (Number.highHalf octet) := by
  have hhalf : UInt8.ofNat (octet.toNat >>> 4) = Number.highHalf octet := by
    apply UInt8.toNat_inj.1
    rw [Number.highHalf, UInt8.toNat_shiftRight, UInt8.toNat_ofNat']
    exact Nat.mod_eq_of_lt (Nat.lt_of_le_of_lt (Nat.shiftRight_le _ _) octet.toNat_lt)
  rw [highHalf, Word.shiftRight_of_lt (by decide), Checked.ok_bind, hhalf, Checked.pure_eq]

theorem tens_eq (half : UInt8) : tens half = .ok (if half ≤ 9 then half.toNat * 10 else 0) := by
  rw [tens]
  split
  · next hhalf =>
    have hle : half.toNat ≤ 9 := hhalf
    exact Word.mul_of_lt (by omega)
  · rfl

/-- Two digits have room in an octet. -/
theorem toNat_octetPair (octet : UInt8) :
    (Number.octetPair octet).toNat =
      (if Number.lowHalf octet ≤ 9 then (Number.lowHalf octet).toNat * 10 else 0) +
        (if Number.highHalf octet ≤ 9 then (Number.highHalf octet).toNat else 0) := by
  have hdigit : ∀ half : UInt8, half ≤ 9 → half.toNat ≤ 9 := fun _ h => h
  rw [Number.octetPair, UInt8.toNat_add]
  split <;> split <;> rename_i htens hunits
  · have htens := hdigit _ htens
    have hunits := hdigit _ hunits
    rw [UInt8.toNat_mul]
    change (_ * 10 % 256 + _) % 256 = _
    omega
  · have htens := hdigit _ htens
    rw [UInt8.toNat_mul]
    change (_ * 10 % 256 + 0) % 256 = _
    omega
  · have hunits := hdigit _ hunits
    change (0 + _) % 256 = _
    omega
  · rfl

theorem octetPair_eq (octet : UInt8) : octetPair octet = .ok (Number.octetPair octet) := by
  have hpair := (toNat_octetPair octet).symm
  rw [octetPair, highHalf_eq, Checked.ok_bind, tens_eq, Checked.ok_bind,
    Word.add_of_lt (hpair ▸ (Number.octetPair octet).toNat_lt), hpair, Checked.ok_bind,
    UInt8.ofNat_toNat, Checked.pure_eq]

/-- **A number with one more octet after it** is made without a fault if it fits. -/
theorem appendPair_of_lt {number : Nat} {octet : UInt8}
    (h : Number.appendPair number octet < 0x100000000) :
    appendPair number octet = .ok (Number.appendPair number octet) := by
  have hfiller : (octet &&& 0xF0 = 0xF0) = (Number.highHalf octet = Number.fillerHalf) :=
    forall_octet
      (p := fun octet => (octet &&& 0xF0 = 0xF0) = (Number.highHalf octet = Number.fillerHalf))
      (by simp only [eq_iff_iff]; decide +kernel) octet
  rw [Number.appendPair] at h
  rw [appendPair, Number.appendPair]
  simp only [hfiller]
  split
  · rfl
  · rename_i hpair
    rw [if_neg hpair] at h
    split
    · rename_i hhigh
      rw [if_pos hhigh] at h
      rw [Word.mul_of_lt (by omega), Checked.ok_bind, Word.add_of_lt (by omega)]
    · rename_i hhigh
      rw [if_neg hhigh] at h
      rw [octetPair_eq, Checked.ok_bind, Word.mul_of_lt (by omega), Checked.ok_bind,
        Word.add_of_lt (by omega)]

/-- A number of six digits has room for two more. -/
theorem appendPair_eq {number : Nat} (hnumber : number < 1000000) (octet : UInt8) :
    appendPair number octet = .ok (Number.appendPair number octet) := by
  have hlow := (Number.lowHalf octet).toNat_lt
  have hpair := (Number.octetPair octet).toNat_lt
  refine appendPair_of_lt ?_
  rw [Number.appendPair]
  split
  · omega
  · split <;> omega

theorem agrees_readNumber (hc : c.Bounded) : (m.readNumber 1).Agrees (Number.readNumber 1) c :=
  (m.agrees_readOctet hc).bind fun octet _ _ =>
    Step.agrees_check (appendPair_eq (by decide) octet) (Step.agrees_pure _)

/-! ## Times -/

/-- Hours, minutes and seconds in seconds. -/
def seconds (hours minutes seconds : Nat) : Checked Nat := do
  let hours ← Word.mul 32 hours 60
  let hours ← Word.mul 32 hours 60
  let minutes ← Word.mul 32 minutes 60
  let sum ← Word.add 32 hours minutes
  Word.add 32 sum seconds

/-- The distance from universal time that an octet stands for. -/
def offset (zone : UInt8) : Checked Int := do
  let quarters ← octetPair (zone &&& ~~~0x08)
  let minutes ← Word.fitSigned 32 (quarters.toNat * 15)
  let distance ← Word.fitSigned 32 (minutes * 60)
  if zone &&& 0x08 ≠ 0 then
    Word.fitSigned 32 (-distance)
  else
    return distance

/-- A timestamp, if its fields make a date. -/
def validated (t : Timestamp) : Step Cursor (Stop FieldError) Timestamp :=
  if t.isValid then return t else Step.fail (.error .timestamp)

/-- The timestamp in the next seven octets. -/
def readTimestamp : Step Cursor (Stop FieldError) Timestamp := do
  let year ← m.readNumber 1
  let year ← Word.fitSigned 32 (2000 + year)
  let month ← m.readNumber 1
  let day ← m.readNumber 1
  let hour ← m.readNumber 1
  let minute ← m.readNumber 1
  let second ← m.readNumber 1
  let zone ← m.readOctet
  let offset ← offset zone
  validated { year, month, day, hour, minute, second, offset }

theorem seconds_eq {hours minutes second : Nat} (hhours : hours < 100) (hminutes : minutes < 100)
    (hsecond : second < 100) :
    seconds hours minutes second = .ok (hours * 3600 + minutes * 60 + second) := by
  rw [seconds, Word.mul_of_lt (by omega), Checked.ok_bind, Word.mul_of_lt (by omega),
    Checked.ok_bind, Word.mul_of_lt (by omega), Checked.ok_bind,
    Word.add_of_lt (by omega), Checked.ok_bind, Word.add_of_lt (by omega),
    Nat.mul_assoc]

theorem offset_eq (zone : UInt8) : offset zone = .ok (Timestamp.octetOffset zone) := by
  have hquarters := (Number.octetPair (zone &&& ~~~0x08)).toNat_lt
  rw [offset, octetPair_eq, Checked.ok_bind, Word.fitSigned_of_lt (by omega) (by omega),
    Checked.ok_bind, Word.fitSigned_of_lt (by omega) (by omega), Checked.ok_bind,
    Timestamp.octetOffset, Int.natCast_mul, Int.mul_assoc]
  by_cases hbehind : zone &&& 0x08 = 0
  · rw [if_neg fun h => h hbehind, if_pos hbehind]
    rfl
  · rw [if_pos hbehind, if_neg hbehind, Word.fitSigned_of_lt (by omega) (by omega)]
    rfl

/-! ## Dialling numbers -/

/-- The digit string in octets. -/
def decodeDigits : Octets → Checked (List Char)
  | [] => return []
  | octet :: rest => do
    let low := Number.lowHalf octet
    let high ← highHalf octet
    if low = Number.fillerHalf then
      return []
    else
      let digits ← decodeDigits rest
      return (Number.halfDigit? low).toList ++
        (if high = Number.fillerHalf then [] else (Number.halfDigit? high).toList) ++ digits

/-- The dialling number in the next `size` octets.  Room is made for two digits an octet. -/
def readDialling (size : Nat) : Step Cursor (Stop CursorError) String := do
  if size = 0 then
    return ""
  let type ← m.readOctet
  let high ← highHalf type
  let international ← highHalf Number.internationalType
  let count ← Word.sub size 1
  let octets ← m.readOctets count
  let _room ← Word.mul m.sizeBits count 2
  let digits ← decodeDigits octets
  return String.ofList ((if high = international then ['+'] else []) ++ digits)

theorem decodeDigits_eq (octets : Octets) :
    decodeDigits octets = .ok (Number.decodeDigits octets) := by
  induction octets with
  | nil => rfl
  | cons octet rest ih =>
    rw [decodeDigits, highHalf_eq, Checked.ok_bind, Number.decodeDigits, ih]
    split
    · rfl
    · rfl

theorem agrees_readDialling (hc : c.Bounded) {size : Nat} (hsize : size < 0x80000000) :
    (m.readDialling size).Agrees (Number.readDialling size) c := by
  refine .ite (fun _ => Step.agrees_pure _) fun hpos => ?_
  refine m.agrees_readOctet_bind hc fun type c₁ hc₁ => ?_
  refine Step.agrees_check (highHalf_eq type) ?_
  refine Step.agrees_check (highHalf_eq Number.internationalType) ?_
  refine Step.agrees_check (Word.sub_of_le (by omega)) ?_
  refine (m.agrees_readOctets hc₁ (by omega)).bind fun octets _ _ => ?_
  refine Step.agrees_check (m.mul_size (by omega)) ?_
  exact Step.agrees_check (decodeDigits_eq octets) (Step.agrees_pure _)

end Machine

end SimCard
