import SimCard.Octets

/-!
# Octets and words

The facts about single octets and words that the rest of the theory rests on.  There are only
256 octets, so what concerns one of them is settled by looking at all (`forall_octet`).
-/

set_option autoImplicit false

namespace SimCard

/-- What holds of the first `bound` octets one by one holds of every octet below `bound`. -/
theorem forall_octet_lt {p : UInt8 → Prop} {bound : Nat} (h : ∀ n < bound, p (UInt8.ofNat n))
    {octet : UInt8} (hlt : octet.toNat < bound) : p octet := by
  have hp := h octet.toNat hlt
  rwa [UInt8.ofNat_toNat] at hp

/-- What holds of the 256 octets one by one holds of every octet. -/
theorem forall_octet {p : UInt8 → Prop} (h : ∀ n < 256, p (UInt8.ofNat n)) (octet : UInt8) :
    p octet :=
  forall_octet_lt h octet.toNat_lt

theorem word16Octets_word16 (high low : UInt8) : word16Octets (word16 high low) = [high, low] := by
  have hhigh := high.toNat_lt
  have hlow := low.toNat_lt
  simp only [word16Octets, word16, UInt16.toNat_ofNat', List.cons.injEq, and_true]
  constructor
  · apply UInt8.toNat_inj.1
    rw [UInt8.toNat_ofNat']
    omega
  · apply UInt8.toNat_inj.1
    rw [UInt8.toNat_ofNat']
    omega

theorem word16_of_word16Octets (word : UInt16) :
    word16 (UInt8.ofNat (word.toNat / 256)) (UInt8.ofNat word.toNat) = word := by
  have hword := word.toNat_lt
  apply UInt16.toNat_inj.1
  rw [word16, UInt16.toNat_ofNat', UInt8.toNat_ofNat', UInt8.toNat_ofNat']
  omega

theorem word32Octets_word32 (a b c d : UInt8) : word32Octets (word32 a b c d) = [a, b, c, d] := by
  have ha := a.toNat_lt
  have hb := b.toNat_lt
  have hc := c.toNat_lt
  have hd := d.toNat_lt
  simp only [word32Octets, word32, UInt32.toNat_ofNat', List.cons.injEq, and_true]
  refine ⟨?_, ?_, ?_, ?_⟩ <;> apply UInt8.toNat_inj.1 <;> rw [UInt8.toNat_ofNat'] <;> omega

theorem word32_of_word32Octets (word : UInt32) :
    word32 (UInt8.ofNat word.toNat) (UInt8.ofNat (word.toNat / 256))
      (UInt8.ofNat (word.toNat / 65536)) (UInt8.ofNat (word.toNat / 16777216)) = word := by
  have hword := word.toNat_lt
  apply UInt32.toNat_inj.1
  simp only [word32, UInt32.toNat_ofNat', UInt8.toNat_ofNat']
  omega

/-- Words written one after the other are read back, whatever follows. -/
theorem words16_flatMap_append (words : List UInt16) (tail : Octets) :
    words16 (words.flatMap word16Octets ++ tail) = words ++ words16 tail := by
  induction words with
  | nil => rfl
  | cons word words ih =>
    rw [List.flatMap_cons, List.append_assoc, word16Octets, List.cons_append, List.cons_append,
      List.nil_append, words16, word16_of_word16Octets, ih, List.cons_append]

theorem words16_flatMap_word16Octets (words : List UInt16) :
    words16 (words.flatMap word16Octets) = words := by
  simpa [words16] using words16_flatMap_append words []

end SimCard
