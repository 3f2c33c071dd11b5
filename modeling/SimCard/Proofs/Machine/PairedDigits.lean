import Mathlib.Tactic.Ring
import SimCard.Proofs.Machine.Numbers
import SimCard.Proofs.SemiOctets

/-!
# Numbers in pairs of digits

A number is written as so many pairs of decimal digits, the most significant pair first, and what
does not fit is left off at the front.  Writer and reader go about it differently.  The writer
divides by the power of a hundred of each place in turn, and the reader multiplies what it has by a
hundred, except that it takes some octets for filler.

* No pair of digits looks like filler (`Number.pairOctet_spec`), so every octet that was written
  counts as two digits, and what is read is the number modulo a power of a hundred
  (`Number.foldl_numberOctets`).
* On a machine both stay within 32 bits, though only just.  The writer needs the fourth power of a
  hundred and no higher one (`Machine.numberOctets_eq`).  The reader never has more than the number
  that comes out in the end, as multiplying and adding only makes it larger
  (`Machine.foldlM_numberOctets`).
-/

set_option autoImplicit false

namespace SimCard

/-! ## Pairs of digits -/

namespace Number

variable {c c' : Cursor} {value number pairs : Nat}

theorem mod_ten_le (value : UInt8) : value % 10 ≤ 9 := by
  rw [UInt8.le_iff_toNat_le, UInt8.toNat_mod]
  exact Nat.le_of_lt_succ (Nat.mod_lt _ (by decide))

/-- The tens of a pair come first and its units second. -/
theorem halves_pairOctet (value : UInt8) :
    lowHalf (pairOctet value) = value / 10 % 10 ∧ highHalf (pairOctet value) = value % 10 :=
  halves_joinHalves (UInt8.lt_of_le_of_lt (mod_ten_le _) (by decide))
    (UInt8.lt_of_le_of_lt (mod_ten_le _) (by decide))

/-- **A pair of digits is no filler**, neither as a whole nor by its second half. -/
theorem pairOctet_spec (h : value < 100) :
    pairOctet (UInt8.ofNat value) ≠ 0xFF ∧
      highHalf (pairOctet (UInt8.ofNat value)) ≠ fillerHalf ∧
      (octetPair (pairOctet (UInt8.ofNat value))).toNat = value := by
  obtain ⟨hlow, hhigh⟩ := halves_pairOctet (UInt8.ofNat value)
  have hfiller : highHalf (pairOctet (UInt8.ofNat value)) ≠ fillerHalf := by
    rw [hhigh]
    exact UInt8.ne_of_lt (UInt8.lt_of_le_of_lt (mod_ten_le _) (by decide))
  refine ⟨fun heq => hfiller (by rw [heq]; rfl), hfiller, ?_⟩
  rw [Machine.toNat_octetPair, hlow, hhigh, if_pos (mod_ten_le _), if_pos (mod_ten_le _),
    UInt8.toNat_mod, UInt8.toNat_mod, UInt8.toNat_div, UInt8.toNat_ofNat']
  change value % 256 / 10 % 10 * 10 + value % 256 % 10 = value
  omega

theorem appendPair_pairOctet (h : value < 100) (number : Nat) :
    appendPair number (pairOctet (UInt8.ofNat value)) = number * 100 + value := by
  obtain ⟨hfiller, hhigh, hpair⟩ := pairOctet_spec h
  rw [appendPair, if_neg hfiller, if_neg hhigh, hpair]

theorem length_numberOctets (value pairs : Nat) : (numberOctets value pairs).length = pairs := by
  induction pairs generalizing value with
  | zero => rfl
  | succ pairs ih => rw [numberOctets, List.length_append, ih, List.length_singleton]

/-- What is written are pairs of digits. -/
theorem exists_pair_of_mem {octet : UInt8} (h : octet ∈ numberOctets value pairs) :
    ∃ pair < 100, octet = pairOctet (UInt8.ofNat pair) := by
  induction pairs generalizing value with
  | zero => cases h
  | succ pairs ih =>
    rw [numberOctets, List.mem_append, List.mem_singleton] at h
    rcases h with h | rfl
    · exact ih h
    · exact ⟨value % 100, Nat.mod_lt _ (by decide), rfl⟩

/-- The last pairs of a number are those before the last one and the last one. -/
theorem mod_pow_succ (value pairs : Nat) :
    value % 100 ^ (pairs + 1) = value / 100 % 100 ^ pairs * 100 + value % 100 := by
  rw [pow_succ', Nat.mod_mul, Nat.add_comm, Nat.mul_comm]

/-- **A number grows by the pairs that were written.** -/
theorem foldl_numberOctets (value pairs number : Nat) :
    (numberOctets value pairs).foldl appendPair number =
      number * 100 ^ pairs + value % 100 ^ pairs := by
  induction pairs generalizing value with
  | zero => simp [numberOctets, Nat.mod_one]
  | succ pairs ih =>
    rw [numberOctets, List.foldl_append, ih, List.foldl_cons, List.foldl_nil,
      appendPair_pairOctet (Nat.mod_lt _ (by decide)), mod_pow_succ, pow_succ]
    ring

/-- **A number is read** off as many octets as there are pairs, whatever they are. -/
theorem yields_readNumberFrom {result : Nat} :
    (readNumberFrom number pairs).Yields c result c' ↔
      ∃ octets : Octets, octets.length = pairs ∧ octets.foldl appendPair number = result ∧
        c.Takes octets c' := by
  induction pairs generalizing number c with
  | zero =>
    simp only [readNumberFrom, Step.yields_pure]
    constructor
    · rintro ⟨rfl, rfl⟩
      exact ⟨[], rfl, rfl, Cursor.takes_nil.2 rfl⟩
    · rintro ⟨octets, hlength, rfl, h⟩
      obtain rfl := List.length_eq_zero_iff.1 hlength
      exact ⟨rfl, (Cursor.takes_nil.1 h).symm⟩
  | succ pairs ih =>
    simp only [readNumberFrom, Step.yields_bind, Cursor.yields_readOctet, ih]
    constructor
    · rintro ⟨octet, c₁, hoctet, octets, hlength, rfl, h⟩
      exact ⟨octet :: octets, by rw [List.length_cons, hlength], rfl, hoctet.append h⟩
    · rintro ⟨octets, hlength, rfl, h⟩
      cases octets with
      | nil => cases hlength
      | cons octet octets =>
        obtain ⟨c₁, hoctet, hrest⟩ := Cursor.takes_cons.1 h
        exact ⟨octet, c₁, hoctet, octets, Nat.succ.inj hlength, rfl, hrest⟩

/-- The pairs of a number from the front, where the library builds them up from the back. -/
theorem numberOctets_eq_cons (value pairs : Nat) :
    numberOctets value (pairs + 1) =
      pairOctet (UInt8.ofNat (value / 100 ^ pairs % 100)) :: numberOctets value pairs := by
  induction pairs generalizing value with
  | zero => simp [numberOctets]
  | succ pairs ih =>
    rw [numberOctets, ih, List.cons_append, Nat.div_div_eq_div_mul, ← pow_succ']
    rfl

end Number

/-! ## On a machine -/

/-- A power of a word, one factor after the other. -/
def Word.pow (bits base : Nat) : Nat → Checked Nat
  | 0 => fit bits 1
  | exponent + 1 => do
    let power ← pow bits base exponent
    mul bits power base

theorem Word.pow_of_lt {bits base exponent : Nat} (hbase : 0 < base)
    (h : base ^ exponent < 1 <<< bits) : pow bits base exponent = .ok (base ^ exponent) := by
  induction exponent with
  | zero => exact if_pos h
  | succ exponent ih =>
    rw [pow_succ] at h ⊢
    have hpower := Nat.lt_of_le_of_lt (Nat.le_mul_of_pos_right _ hbase) h
    rw [pow, ih hpower, Checked.ok_bind, mul_of_lt h]

namespace Machine

variable (m : Machine) {c c' : Cursor} {value number pairs : Nat}

/-- The octet of a number below a hundred. -/
def pairOctet (value : UInt8) : Checked UInt8 := do
  let units ← Word.shiftLeft 8 (value % 10).toNat 4
  return UInt8.ofNat (units ||| ((value / 10) % 10).toNat)

/-- The octet of the pair at a place, counted from the last one. -/
def placeOctet (value place : Nat) : Checked UInt8 := do
  let power ← Word.pow 32 100 place
  pairOctet (UInt8.ofNat (value / power % 100))

/-- The pairs of a number of 32 bits, one place after the other. -/
def numberOctets (value : Nat) : Nat → Checked Octets
  | 0 => return []
  | place + 1 => do
    let octet ← placeOctet value place
    let others ← numberOctets value place
    return octet :: others

theorem pairOctet_eq (value : UInt8) : pairOctet value = .ok (Number.pairOctet value) := by
  have hoctet : UInt8.ofNat (((value % 10).toNat <<< 4) % (1 <<< 8) ||| ((value / 10) % 10).toNat) =
      Number.pairOctet value := by
    apply UInt8.toNat_inj.1
    rw [UInt8.toNat_ofNat', Number.pairOctet, UInt8.toNat_or, UInt8.toNat_shiftLeft]
    exact Nat.mod_eq_of_lt <|
      Nat.or_lt_two_pow (n := 8) (Nat.mod_lt _ (by decide)) (UInt8.toNat_lt _)
  rw [pairOctet, Word.shiftLeft, if_pos (by decide), Checked.ok_bind, hoctet, Checked.pure_eq]

/-- The fourth power of a hundred is the last one that has room. -/
theorem placeOctet_eq {place : Nat} (hplace : place < 5) (value : Nat) :
    placeOctet value place = .ok (Number.pairOctet (UInt8.ofNat (value / 100 ^ place % 100))) := by
  have hpower : 100 ^ place ≤ 100 ^ 4 := Nat.pow_le_pow_right (by decide) (Nat.le_of_lt_succ hplace)
  rw [placeOctet, Word.pow_of_lt (by decide) (Nat.lt_of_le_of_lt hpower (by decide)),
    Checked.ok_bind, pairOctet_eq]

/-- One place more, and the power of a hundred is too wide. -/
example : placeOctet 0 5 = .error .overflow := rfl

/-- **Writing up to five pairs does not fault.** -/
theorem numberOctets_eq (hpairs : pairs ≤ 5) (value : Nat) :
    numberOctets value pairs = .ok (Number.numberOctets value pairs) := by
  induction pairs with
  | zero => rfl
  | succ pairs ih =>
    rw [numberOctets, placeOctet_eq hpairs, Checked.ok_bind, ih (Nat.le_of_succ_le hpairs),
      Checked.ok_bind, Number.numberOctets_eq_cons, Checked.pure_eq]

/-- **Reading pairs that were written does not fault** if there is room for the number that comes
out. -/
theorem foldlM_numberOctets (h : number * 100 ^ pairs + value % 100 ^ pairs < 0x100000000) :
    (Number.numberOctets value pairs).foldlM appendPair number =
      .ok (number * 100 ^ pairs + value % 100 ^ pairs) := by
  induction pairs generalizing value with
  | zero =>
    rw [pow_zero, Nat.mod_one, Nat.mul_one]
    rfl
  | succ pairs ih =>
    have hlast : value % 100 < 100 := Nat.mod_lt _ (by decide)
    have hresult : number * 100 ^ (pairs + 1) + value % 100 ^ (pairs + 1) =
        (number * 100 ^ pairs + value / 100 % 100 ^ pairs) * 100 + value % 100 := by
      rw [Number.mod_pow_succ, pow_succ]
      ring
    rw [hresult] at h ⊢
    rw [Number.numberOctets, List.foldlM_append, ih (by omega), Checked.ok_bind, List.foldlM_cons,
      appendPair_of_lt (by rwa [Number.appendPair_pairOctet hlast]),
      Number.appendPair_pairOctet hlast]
    rfl

/-- A number is read without a fault if it can be made of the octets without one. -/
theorem readNumberFrom_eq {octets : Octets} {result : Nat} (hc : c.Bounded)
    (h : c.Takes octets c') (hresult : octets.foldlM appendPair number = .ok result) :
    m.readNumberFrom number octets.length c = (.ok result, c') := by
  induction octets generalizing number c with
  | nil =>
    obtain rfl := Cursor.takes_nil.1 h
    obtain rfl : number = result := Except.ok.inj hresult
    rfl
  | cons octet octets ih =>
    obtain ⟨c₁, hoctet, hrest⟩ := Cursor.takes_cons.1 h
    have hread := (m.agrees_readOctet hc).eq_of_yields (Cursor.yields_readOctet.2 hoctet)
    rw [List.foldlM_cons] at hresult
    cases hnext : appendPair number octet with
    | error fault =>
      rw [hnext] at hresult
      cases hresult
    | ok next =>
      rw [hnext, Checked.ok_bind] at hresult
      rw [List.length_cons, readNumberFrom, Step.bind_apply, hread]
      exact (Step.check_bind hnext _ c₁).trans (ih (hoctet.bounded hc) hrest hresult)

/-- **Numbers come back as far as there is room for their digits.**  A number of 32 bits is written
as up to five pairs of digits, which are added to a cursor that is written at its end.  None of
these octets is taken for filler, and reading them gives the number modulo a hundred to the power of
the pairs.  Neither power nor product nor sum is ever too wide for 32 bits: all octets are written,
and the number is made of them, without a fault. -/
theorem number_is_kept_within_pairs (value : UInt32) (hpairs : pairs ≤ 5) :
    let octets := Number.numberOctets value.toNat pairs
    let result := value.toNat % 100 ^ pairs
    octets.length = pairs ∧
      (∀ c : Cursor, c.writeIndex = c.octets.length →
        (c.write octets).octets = c.octets ++ octets) ∧
      (∀ octet ∈ octets, octet ≠ 0xFF ∧ Number.highHalf octet ≠ Number.fillerHalf) ∧
      numberOctets value.toNat pairs = .ok octets ∧
      octets.foldlM appendPair 0 = .ok result ∧
      ∀ (c : Cursor) (tail : Octets), c.rest = octets ++ tail →
        Number.readNumber pairs c = (.ok result, c.advance pairs) ∧
          (c.Bounded → m.readNumber pairs c = (.ok result, c.advance pairs)) := by
  have hlength := Number.length_numberOctets value.toNat pairs
  have hfits : value.toNat % 100 ^ pairs < 0x100000000 :=
    Nat.lt_of_le_of_lt (Nat.mod_le _ _) value.toNat_lt
  have hfold := Number.foldl_numberOctets value.toNat pairs 0
  have hmachine := @foldlM_numberOctets value.toNat 0 pairs (by omega)
  rw [Nat.zero_mul, Nat.zero_add] at hfold hmachine
  refine ⟨hlength, fun c hc => Cursor.octets_write hc _, fun octet hoctet => ?_,
    numberOctets_eq hpairs _, hmachine, fun c tail hrest => ?_⟩
  · obtain ⟨pair, hpair, rfl⟩ := Number.exists_pair_of_mem hoctet
    obtain ⟨hfiller, hhigh, -⟩ := Number.pairOctet_spec hpair
    exact ⟨hfiller, hhigh⟩
  · have htakes := Cursor.takes_of_rest_eq hrest
    have hread := fun hc : c.Bounded => m.readNumberFrom_eq hc htakes hmachine
    rw [hlength] at htakes hread
    exact ⟨Number.yields_readNumberFrom.2 ⟨_, hlength, hfold, htakes⟩, hread⟩

/-- The largest number in all five pairs, and in two of them. -/
theorem number_is_kept_within_pairs_largest :
    let octets : Octets := [0x24, 0x49, 0x69, 0x27, 0x59]
    5 ≤ 5 ∧ numberOctets 4294967295 5 = .ok octets ∧
      octets.foldlM appendPair 0 = .ok 4294967295 ∧
      Number.readNumber 5 (.ofOctets octets) =
        (.ok 4294967295, (Cursor.ofOctets octets).advance 5) ∧
      Number.readNumber 2 (.ofOctets [0x27, 0x59]) =
        (.ok 7295, (Cursor.ofOctets [0x27, 0x59]).advance 2) := by
  intro octets
  let m : Machine := ⟨32, Nat.le_refl 32⟩
  have hoctets : Number.numberOctets 4294967295 5 = octets := rfl
  have hlast : Number.numberOctets 4294967295 2 = [0x27, 0x59] := rfl
  obtain ⟨-, -, -, hwritten, hmade, hread⟩ :=
    m.number_is_kept_within_pairs 4294967295 (Nat.le_refl 5)
  obtain ⟨-, -, -, -, -, hread'⟩ :=
    m.number_is_kept_within_pairs 4294967295 (show 2 ≤ 5 by decide)
  refine ⟨Nat.le_refl 5, hwritten.trans (congrArg _ hoctets), ?_, ?_, ?_⟩
  · rw [← hoctets]
    exact hmade
  · exact (hread _ [] (by rw [List.append_nil]; exact hoctets.symm)).1
  · exact (hread' _ [] (by rw [List.append_nil]; exact hlast.symm)).1

end Machine

end SimCard
