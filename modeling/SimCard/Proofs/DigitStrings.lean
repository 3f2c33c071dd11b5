import SimCard.Proofs.Reading
import SimCard.Proofs.SemiOctets

/-!
# The letter F in a digit string

A digit string may have anything between its digits, and what is no dialling digit is passed over.
The letter F is not: it is written as filler.  Filler means something by where it stands.  In the
second half of an octet it is passed over when the octets are read, but in the first half it ends
the string.

So a letter takes up room like a digit, and may hide digits behind it.  What is heard of digits and
letters are the digits just when no letter with an even number of marks before it has a digit behind
it (`heard_eq_filter_iff`).
-/

set_option autoImplicit false

namespace SimCard

namespace Number

variable {c d : Char} {marks : List Char}

/-! ## Which digits are hidden -/

/-- **No digit is behind an end**: a letter with an even number of marks before it, which comes
first in its octet, has no digits behind it. -/
def HidesNothing (marks : List Char) : Prop :=
  ∀ front letter back, marks = front ++ letter :: back → isFillLetter letter = true →
    front.length % 2 = 0 → ∀ d ∈ back, isDialDigit d = false

/-- A letter in front hides all that is behind it. -/
theorem hidesNothing_letter_cons (hletter : isFillLetter c = true) :
    HidesNothing (c :: marks) ↔ ∀ d ∈ marks, isDialDigit d = false := by
  constructor
  · intro h
    exact h [] c marks rfl hletter rfl
  · intro h front letter back hmarks _ _ d hd
    have hsuffix : back <:+ marks := by
      cases front with
      | nil =>
        cases hmarks
        exact List.suffix_rfl
      | cons _ front =>
        cases hmarks
        exact ⟨front ++ [letter], by simp⟩
    exact h d (hsuffix.subset hd)

/-- An octet that starts with a digit hides nothing. -/
theorem hidesNothing_cons_cons (hdigit : isFillLetter c = false) :
    HidesNothing (c :: d :: marks) ↔ HidesNothing marks := by
  constructor
  · intro h front letter back hmarks hletter heven
    refine h (c :: d :: front) letter back (by rw [hmarks]; rfl) hletter ?_
    rw [List.length_cons, List.length_cons]
    omega
  · intro h front letter back hmarks hletter heven
    -- an even number of marks before the letter: none, which leaves a digit, or two and more
    rcases front with _ | ⟨first, _ | ⟨second, front⟩⟩
    · cases hmarks
      rw [hdigit] at hletter
      cases hletter
    · cases heven
    · cases hmarks
      rw [List.length_cons, List.length_cons] at heven
      exact h front letter back rfl hletter (by omega)

/-- Nor is there anything to hide behind a single mark. -/
theorem hidesNothing_singleton (c : Char) : HidesNothing [c] := by
  intro front letter back hmarks _ _ d hd
  have hlength := congrArg List.length hmarks
  have hback := List.length_pos_of_mem hd
  simp only [List.length_append, List.length_cons, List.length_nil] at hlength
  omega

theorem spoken_eq_filter (h : isMark c = true) : spoken c = [c].filter isDialDigit := by
  rw [spoken]
  by_cases hletter : isFillLetter c = true
  · simp [hletter, isDialDigit_of_isFillLetter hletter]
  · simp [hletter, isDialDigit_of_isMark h (Bool.eq_false_iff.2 hletter)]

/-- **Every digit is heard just when none is behind an end.** -/
theorem heard_eq_filter_iff (h : ∀ c ∈ marks, isMark c = true) :
    heard marks = marks.filter isDialDigit ↔ HidesNothing marks := by
  fun_induction heard marks with
  | case1 =>
    refine iff_of_true rfl ?_
    intro front letter back hmarks
    simp at hmarks
  | case2 c => exact iff_of_true (spoken_eq_filter (h c (by simp))) (hidesNothing_singleton c)
  | case3 c d rest hletter =>
    rw [hidesNothing_letter_cons hletter, List.filter_cons,
      if_neg (by simp [isDialDigit_of_isFillLetter hletter]), eq_comm, List.filter_eq_nil_iff]
    simp
  | case4 c d rest hletter ih =>
    have hfirst := isDialDigit_of_isMark (h c (by simp)) (Bool.eq_false_iff.2 hletter)
    have hfilter : (c :: d :: rest).filter isDialDigit =
        c :: (spoken d ++ rest.filter isDialDigit) := by
      rw [spoken_eq_filter (h d (by simp)), ← List.filter_append, List.filter_cons_of_pos hfirst]
      rfl
    rw [hfilter, hidesNothing_cons_cons (Bool.eq_false_iff.2 hletter),
      ← ih fun e he => h e (by simp [he])]
    simp

/-! ## Digit strings on a cursor -/

/-- **A digit string is kept as long as the letter F does not get in the way.**  Writing it adds
half an octet for each digit and for each letter F, which is what the digits alone take just when
there is no such letter, or one that completes an odd number of digits.  Reading gives what is heard
of digits and letters, and these are the digits just when no letter hides any. -/
theorem digit_string_is_kept_iff {c : Cursor} (hc : c.InOrder) (text : String) :
    let octets := digitOctets text.toList
    let digits := text.toList.filter isDialDigit
    let letters := text.toList.filter isFillLetter
    let marks := text.toList.filter isMark
    (c.write octets).octets = c.octets ++ octets ∧
      octets.length = (digits.length + letters.length + 1) / 2 ∧
      (octets.length = (digits.length + 1) / 2 ↔
        letters.length = 0 ∨ letters.length = 1 ∧ digits.length % 2 = 1) ∧
      readDigits octets.length (c.written octets) =
        (.ok (String.ofList (heard marks)), (c.written octets).advance octets.length) ∧
      (heard marks = digits ↔ HidesNothing marks) := by
  intro octets digits letters marks
  have hlength : octets.length = (digits.length + letters.length + 1) / 2 :=
    length_digitOctets_eq text.toList
  have hread : (readDigits octets.length).Yields (c.written octets)
      (String.ofList (decodeDigits octets)) ((c.written octets).advance octets.length) :=
    hc.yields_decoded_written (fun taken => String.ofList (decodeDigits taken)) rfl
  have hdigits : marks.filter isDialDigit = digits := by
    rw [List.filter_filter]
    exact List.filter_congr fun d _ => by cases h : isDialDigit d <;> simp [isMark, h]
  rw [decodeDigits_digitOctets_eq] at hread
  refine ⟨Cursor.octets_write hc.writeIndex_eq octets, hlength, ?_, hread, ?_⟩
  · rw [hlength]
    omega
  · rw [← hdigits]
    exact heard_eq_filter_iff fun d hd => (List.mem_filter.1 hd).2

/-- A letter that completes an octet is passed over like any other character. -/
theorem digit_string_is_kept_iff_completed :
    let c := Cursor.ofOctets [0xAA]
    let octets := digitOctets "+1F-2 3".toList
    c.InOrder ∧ octets = [0xF1, 0x32] ∧
      readDigits octets.length (c.written octets) = (.ok "123", (c.written octets).advance 2) := by
  intro c octets
  have hc := Cursor.inOrder_ofOctets [0xAA]
  obtain ⟨-, -, -, hread, -⟩ := digit_string_is_kept_iff hc "+1F-2 3"
  have hheard : heard ("+1F-2 3".toList.filter isMark) = "123".toList := by decide +kernel
  rw [hheard, String.ofList_toList] at hread
  exact ⟨hc, by decide +kernel, hread⟩

/-- A letter in front takes half an octet and hides both digits behind it. -/
theorem digit_string_is_hidden :
    let octets := digitOctets "F12".toList
    "F12".toList.filter isDialDigit = ['1', '2'] ∧ octets = [0x1F, 0xF2] ∧
      octets.length ≠ (2 + 1) / 2 ∧
      (readDigits octets.length (Cursor.empty.written octets)).1 = .ok "" := by
  decide +kernel

end Number

end SimCard
