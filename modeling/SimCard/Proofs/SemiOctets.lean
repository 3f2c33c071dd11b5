import Mathlib.Data.List.Basic
import Mathlib.Data.List.TakeWhile
import SimCard.Number.Dialling
import SimCard.Proofs.Octets

/-!
# Digits in semi-octets

Reading semi-octets is generous: halves that are no digits are passed over, and filler ends a string
in a low half and is skipped in a high one.  What has been read is plain again: it holds dialling
digits only, so it is written and read back as it is.

A string that has not been read may hold anything.  Of its characters only the *marks* are written,
the dialling digits and the letter F, which is written as filler; and what is read is what is
`heard` of the marks.

* `decodeDigits_digitOctets_eq`: every string, read as what is heard of its marks.
* `decodeDigits_digitOctets`: strings of dialling digits, of any length, read as they are.
-/

set_option autoImplicit false

namespace SimCard

namespace Number

/-! ## Halves -/

variable {c d : Char} {low high : UInt8} {marks : List Char}

theorem halves_joinHalves (hlow : low < 0x10) (hhigh : high < 0x10) :
    lowHalf (joinHalves low high) = low ∧ highHalf (joinHalves low high) = high :=
  forall_octet_lt
    (p := fun l => lowHalf (joinHalves l high) = l ∧ highHalf (joinHalves l high) = high)
    (forall_octet_lt (p := fun h => ∀ n < 16,
      lowHalf (joinHalves (UInt8.ofNat n) h) = UInt8.ofNat n ∧
        highHalf (joinHalves (UInt8.ofNat n) h) = h) (by decide +kernel) hhigh) hlow

theorem length_joinAll (halves : List UInt8) :
    (joinAll halves).length = (halves.length + 1) / 2 := by
  fun_induction joinAll halves with
  | case1 => rfl
  | case2 low => simp
  | case3 low high rest ih =>
    simp only [List.length_cons, ih]
    omega

/-- In numbers, the low half counts units and the high half sixteens. -/
theorem joinHalves_ofNat {low : Nat} (hlow : low < 16) (high : Nat) :
    joinHalves (UInt8.ofNat low) (UInt8.ofNat high) = UInt8.ofNat (low + 16 * high) := by
  have hor : high <<< 4 ||| low = low + 16 * high := by
    rw [← Nat.shiftLeft_add_eq_or_of_lt (i := 4) hlow, Nat.shiftLeft_eq]
    omega
  have hshift : UInt8.ofNat high <<< 4 = UInt8.ofNat (high <<< 4) :=
    (UInt8.ofNat_shiftLeft high 4 (by decide)).symm
  rw [joinHalves, hshift, ← UInt8.ofNat_or, hor]

/-- The halves of an octet are those at twice its place and right behind. -/
theorem joinAll_map_range (half : Nat → UInt8) (count : Nat) :
    joinAll ((List.range (2 * count)).map half) =
      (List.range count).map fun i => joinHalves (half (2 * i)) (half (2 * i + 1)) := by
  induction count generalizing half with
  | zero => rfl
  | succ count ih =>
    rw [show 2 * (count + 1) = 2 * count + 1 + 1 by omega, List.range_succ_eq_map,
      List.range_succ_eq_map, List.range_succ_eq_map (n := count)]
    simp only [List.map_cons, List.map_map, joinAll]
    exact congrArg _ (ih _)

/-! ## Marks -/

/-- Is a character the letter that is written as filler? -/
def isFillLetter (c : Char) : Bool := c == 'F' || c == 'f'

/-- Is a character written at all? -/
def isMark (c : Char) : Bool := isDialDigit c || isFillLetter c

theorem isFillLetter_iff : isFillLetter c = true ↔ c = 'F' ∨ c = 'f' := by
  simp [isFillLetter]

theorem isDialDigit_iff : isDialDigit c = true ↔ c ∈ dialDigits := by
  simp [isDialDigit]

/-- The letter is no digit. -/
theorem isDialDigit_of_isFillLetter (h : isFillLetter c = true) : isDialDigit c = false := by
  rcases isFillLetter_iff.1 h with rfl | rfl <;> decide

/-- A mark that is not the letter is a digit. -/
theorem isDialDigit_of_isMark (h : isMark c = true) (hletter : isFillLetter c = false) :
    isDialDigit c = true := by
  simpa [isMark, hletter] using h

theorem digitHalf?_of_isFillLetter (h : isFillLetter c = true) : digitHalf? c = some fillerHalf :=
  if_pos (isFillLetter_iff.1 h)

/-- Characters that are no marks are not written. -/
theorem digitHalf?_of_not_isMark (h : isMark c = false) : digitHalf? c = none := by
  obtain ⟨hdigit, hletter⟩ := Bool.or_eq_false_iff.1 h
  have hmem : c ∉ dialDigits := by simpa [isDialDigit] using hdigit
  rw [digitHalf?, if_neg (by simpa [isFillLetter] using hletter), List.idxOf?_eq_none_iff.2 hmem]
  rfl

/-- A dialling digit has a half of its own. -/
theorem digitHalf?_of_mem (h : c ∈ dialDigits) :
    ∃ half, digitHalf? c = some half ∧ half < 0x10 ∧ half ≠ fillerHalf ∧
      halfDigit? half = some c := by
  simp only [dialDigits, List.mem_cons, List.not_mem_nil, or_false] at h
  rcases h with rfl | rfl | rfl | rfl | rfl | rfl | rfl | rfl | rfl | rfl | rfl | rfl | rfl <;>
    exact ⟨_, rfl, by decide, by decide, rfl⟩

/-- **A mark has a half of its own**: filler for the letter, and for a digit one that stands for
it. -/
theorem exists_half (h : isMark c = true) :
    ∃ half, digitHalf? c = some half ∧ half < 0x10 ∧
      if isFillLetter c then half = fillerHalf
      else half ≠ fillerHalf ∧ halfDigit? half = some c := by
  by_cases hletter : isFillLetter c = true
  · refine ⟨fillerHalf, digitHalf?_of_isFillLetter hletter, by decide, ?_⟩
    rw [if_pos hletter]
  · have hdigit := isDialDigit_of_isMark h (Bool.eq_false_iff.2 hletter)
    obtain ⟨half, hhalf, hlt, hfiller, hback⟩ := digitHalf?_of_mem (isDialDigit_iff.1 hdigit)
    refine ⟨half, hhalf, hlt, ?_⟩
    rw [if_neg hletter]
    exact ⟨hfiller, hback⟩

/-- Only the marks of a text count. -/
theorem digitOctets_filter (text : List Char) :
    digitOctets (text.filter isMark) = digitOctets text := by
  rw [digitOctets, digitOctets, List.filterMap_filter]
  refine congrArg joinAll (List.filterMap_congr fun c _ => ?_)
  by_cases h : isMark c = true
  · rw [if_pos h]
  · rw [if_neg h, digitHalf?_of_not_isMark (Bool.eq_false_iff.2 h)]

theorem length_filter_isMark (text : List Char) :
    (text.filter isMark).length =
      (text.filter isDialDigit).length + (text.filter isFillLetter).length := by
  induction text with
  | nil => rfl
  | cons c text ih =>
    by_cases hletter : isFillLetter c = true
    · simp [isMark, hletter, isDialDigit_of_isFillLetter hletter, ih, Nat.add_assoc]
    · by_cases hdigit : isDialDigit c = true
      · simp [isMark, hletter, hdigit, ih, Nat.add_right_comm]
      · simp [isMark, hletter, hdigit, ih]

/-- **Each digit takes half an octet, and so does each letter F.** -/
theorem length_digitOctets_eq (text : List Char) :
    (digitOctets text).length =
      ((text.filter isDialDigit).length + (text.filter isFillLetter).length + 1) / 2 := by
  have hhalves : ((text.filter isMark).filterMap digitHalf?).length =
      (text.filter isMark).length := by
    refine List.filterMap_length_eq_length.2 fun c hc => ?_
    obtain ⟨half, hhalf, -⟩ := exists_half (List.mem_filter.1 hc).2
    rw [hhalf, Option.isSome_some]
  rw [← digitOctets_filter, digitOctets, length_joinAll, hhalves, length_filter_isMark]

/-! ## What is heard of marks -/

/-- What is heard of a mark that does not come first: a letter is passed over. -/
def spoken (c : Char) : List Char := if isFillLetter c then [] else [c]

/-- **What is heard of marks**: they go two and two, a letter in the first place ends them and a
letter in the second place is passed over. -/
def heard : List Char → List Char
  | [] => []
  | [c] => spoken c
  | c :: d :: rest => if isFillLetter c then [] else c :: (spoken d ++ heard rest)

theorem decodeDigits_joinHalves_cons (hlow : low < 0x10) (hfiller : low ≠ fillerHalf)
    (hhigh : high < 0x10) (rest : Octets) :
    decodeDigits (joinHalves low high :: rest) =
      (halfDigit? low).toList ++ (if high = fillerHalf then [] else (halfDigit? high).toList) ++
        decodeDigits rest := by
  obtain ⟨hl, hh⟩ := halves_joinHalves hlow hhigh
  simp only [decodeDigits, hl, hh, if_neg hfiller]

/-- Filler in a first half is the end. -/
theorem decodeDigits_fillerHalf_cons (hhigh : high < 0x10) (rest : Octets) :
    decodeDigits (joinHalves fillerHalf high :: rest) = [] := by
  obtain ⟨hlow, -⟩ := halves_joinHalves (show fillerHalf < 0x10 by decide) hhigh
  rw [decodeDigits, hlow, if_pos rfl]

/-- One step of reading: a mark in the first half of an octet, and any half in the second. -/
theorem decodeDigits_mark_cons (h : isMark c = true) (hhigh : high < 0x10) (rest : Octets) :
    ∃ half, digitHalf? c = some half ∧
      decodeDigits (joinHalves half high :: rest) =
        if isFillLetter c then []
        else c :: ((if high = fillerHalf then [] else (halfDigit? high).toList) ++
          decodeDigits rest) := by
  obtain ⟨half, hhalf, hlt, hmeans⟩ := exists_half h
  refine ⟨half, hhalf, ?_⟩
  split at hmeans
  · rename_i hletter
    rw [hmeans, decodeDigits_fillerHalf_cons hhigh, if_pos hletter]
  · rename_i hletter
    rw [decodeDigits_joinHalves_cons hlt hmeans.1 hhigh, hmeans.2, if_neg hletter]
    rfl

/-- A mark in the second half of an octet. -/
theorem exists_second_half (h : isMark d = true) :
    ∃ half, digitHalf? d = some half ∧ half < 0x10 ∧
      (if half = fillerHalf then [] else (halfDigit? half).toList) = spoken d := by
  obtain ⟨half, hhalf, hlt, hmeans⟩ := exists_half h
  refine ⟨half, hhalf, hlt, ?_⟩
  rw [spoken]
  split at hmeans
  · rename_i hletter
    rw [if_pos hmeans, if_pos hletter]
  · rename_i hletter
    rw [if_neg hmeans.1, if_neg hletter, hmeans.2]
    rfl

theorem decodeDigits_digitOctets_of_isMark (h : ∀ c ∈ marks, isMark c = true) :
    decodeDigits (digitOctets marks) = heard marks := by
  fun_induction heard marks with
  | case1 => rfl
  | case2 c =>
    -- the second half is filler, as if the letter stood there
    obtain ⟨half, hhalf, hread⟩ :=
      decodeDigits_mark_cons (h c (by simp)) (show fillerHalf < 0x10 by decide) []
    simp [digitOctets, hhalf, joinAll, hread, decodeDigits, spoken]
  | case3 c d rest hletter =>
    obtain ⟨high, hhigh, hlt, -⟩ := exists_second_half (h d (by simp))
    obtain ⟨low, hlow, hread⟩ :=
      decodeDigits_mark_cons (h c (by simp)) hlt (joinAll (rest.filterMap digitHalf?))
    simp [digitOctets, hlow, hhigh, joinAll, hread, hletter]
  | case4 c d rest hletter ih =>
    obtain ⟨high, hhigh, hlt, hsecond⟩ := exists_second_half (h d (by simp))
    obtain ⟨low, hlow, hread⟩ :=
      decodeDigits_mark_cons (h c (by simp)) hlt (joinAll (rest.filterMap digitHalf?))
    have hrest : decodeDigits (joinAll (rest.filterMap digitHalf?)) = heard rest :=
      ih fun e he => h e (by simp [he])
    simp [digitOctets, hlow, hhigh, joinAll, hread, hletter, hsecond, hrest]

/-- **A digit string is read as what is heard of its marks.** -/
theorem decodeDigits_digitOctets_eq (text : List Char) :
    decodeDigits (digitOctets text) = heard (text.filter isMark) := by
  rw [← digitOctets_filter]
  exact decodeDigits_digitOctets_of_isMark fun c hc => (List.mem_filter.1 hc).2

/-! ## Dialling digits -/

theorem isMark_of_mem (h : c ∈ dialDigits) : isMark c = true ∧ isFillLetter c = false := by
  have hdigit := isDialDigit_iff.2 h
  refine ⟨by simp [isMark, hdigit], Bool.eq_false_iff.2 fun hletter => ?_⟩
  rw [isDialDigit_of_isFillLetter hletter] at hdigit
  cases hdigit

/-- Of digits alone everything is heard. -/
theorem heard_of_mem {digits : List Char} (h : ∀ c ∈ digits, c ∈ dialDigits) :
    heard digits = digits := by
  fun_induction heard digits with
  | case1 => rfl
  | case2 c => simp [spoken, (isMark_of_mem (h c (by simp))).2]
  | case3 c d rest hletter => simp [(isMark_of_mem (h c (by simp))).2] at hletter
  | case4 c d rest _ ih =>
    simp [spoken, (isMark_of_mem (h d (by simp))).2, ih fun e he => h e (by simp [he])]

/-- **Dialling digits are read back.** -/
theorem decodeDigits_digitOctets {digits : List Char} (h : ∀ c ∈ digits, c ∈ dialDigits) :
    decodeDigits (digitOctets digits) = digits := by
  rw [decodeDigits_digitOctets_of_isMark fun c hc => (isMark_of_mem (h c hc)).1, heard_of_mem h]

theorem length_digitOctets {digits : List Char} (h : ∀ c ∈ digits, c ∈ dialDigits) :
    (digitOctets digits).length = (digits.length + 1) / 2 := by
  have hdigits : digits.filter isDialDigit = digits :=
    List.filter_eq_self.2 fun c hc => isDialDigit_iff.2 (h c hc)
  have hletters : digits.filter isFillLetter = [] :=
    List.filter_eq_nil_iff.2 fun c hc => by simp [(isMark_of_mem (h c hc)).2]
  rw [length_digitOctets_eq, hdigits, hletters, List.length_nil, Nat.add_zero]

theorem mem_dialDigits_of_mem_digitsOf {number : List Char} :
    ∀ c ∈ digitsOf number, c ∈ dialDigits := by
  intro c hc
  simpa [isDialDigit] using (List.mem_filter.1 hc).2

/-- The characters of a number that can be dialled. -/
def diallable (number : List Char) : List Char :=
  number.filter ("0123456789*#,".toList.contains ·)

/-- Digits with a `+` in front, if the number has one at its start. -/
def signedAs (number digits : List Char) : List Char :=
  (if number.head? = some '+' then ['+'] else []) ++ digits

/-- The type of a number brings its `+` back, before whatever digits are written. -/
theorem decodeDialling_numberType (number : List Char) {digits : List Char}
    (h : ∀ c ∈ digits, c ∈ dialDigits) :
    decodeDialling (numberType number :: digitOctets digits) = signedAs number digits := by
  rw [signedAs, decodeDialling, decodeDigits_digitOctets h, numberType, isInternational]
  by_cases hplus : number.head? = some '+'
  · rw [if_pos hplus, if_pos (beq_iff_eq.2 hplus), if_pos rfl]
  · rw [if_neg hplus, if_neg (mt beq_iff_eq.1 hplus), if_neg (by decide)]

theorem mem_dialDigits_of_halfDigit? {half : UInt8} (h : c ∈ (halfDigit? half).toList) :
    c ∈ dialDigits :=
  List.mem_of_getElem? (Option.mem_toList.1 h)

/-- What octets hold are dialling digits. -/
theorem mem_dialDigits_of_mem_decodeDigits {octets : Octets} (h : c ∈ decodeDigits octets) :
    c ∈ dialDigits := by
  induction octets with
  | nil => cases h
  | cons octet octets ih =>
    rw [decodeDigits] at h
    split at h
    · cases h
    · rcases List.mem_append.1 h with hfront | hrest
      · rcases List.mem_append.1 hfront with hlow | hhigh
        · exact mem_dialDigits_of_halfDigit? hlow
        · split at hhigh
          · cases hhigh
          · exact mem_dialDigits_of_halfDigit? hhigh
      · exact ih hrest

/-- Taking the `+` off a number leaves its digits. -/
theorem dropWhile_decodeDialling (type : UInt8) (digits : Octets) :
    (decodeDialling (type :: digits)).dropWhile (· == '+') = decodeDigits digits := by
  have hdigits : (decodeDigits digits).dropWhile (· == '+') = decodeDigits digits := by
    apply List.dropWhile_eq_self_iff.2
    intro hpos
    have hmem := mem_dialDigits_of_mem_decodeDigits (List.getElem_mem hpos)
    intro hplus
    rw [beq_iff_eq.1 hplus] at hmem
    exact absurd hmem (by decide)
  rw [decodeDialling]
  split
  · rw [List.singleton_append, List.dropWhile_cons_of_pos rfl, hdigits]
  · rw [List.nil_append, hdigits]

/-- **A number that has been read** is read again from its type and its digits. -/
theorem decodeDialling_digitOctets (type : UInt8) (digits : Octets) :
    decodeDialling (type :: digitOctets ((decodeDialling (type :: digits)).dropWhile (· == '+'))) =
      decodeDialling (type :: digits) := by
  rw [dropWhile_decodeDialling, decodeDialling,
    decodeDigits_digitOctets fun _ => mem_dialDigits_of_mem_decodeDigits, decodeDialling]

end Number

end SimCard
