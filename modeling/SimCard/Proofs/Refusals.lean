import SimCard.Proofs.Parcels

/-!
# What a refused operation leaves behind

Whoever is refused by a cursor may want to try something else at the same place.  This works only if
the operation that failed has left the cursor as it was, which `Step.AllOrNothing` says of a step at
a state.

* **Every operation but one is all or nothing.**  An operation looks whether its octets are there
  before it moves, and what comes after the move does not fail (`Step.AllOrNothing.bind`).  The word
  of two octets is the exception: it is read octet by octet, and where just one is left, that one is
  gone when the word is refused (`Cursor.fails_readWord16`).
* **Passing over octets is reading them without looking** (`Cursor.SkipsAsReads`).  This takes an
  argument, because a count is a word of 64 bits and the move it makes is that word taken as a
  signed one: a count from 2⁶³ on stands for a move backward.  As long as place and count together
  stay in the range of words, such a move leads out of the octets and is refused.  Beyond that range
  it does not (`Cursor.yields_skip_back`).
-/

set_option autoImplicit false

namespace SimCard

/-! ## Steps that do all or nothing -/

namespace Step

variable {σ ε α β : Type} {s s' s'' : σ} {e : ε} {x : Step σ ε α} {f : α → Step σ ε β}

/-- If the step fails at `s`, it leaves `s` as it was. -/
def AllOrNothing (x : Step σ ε α) (s : σ) : Prop := ∀ e s', x.Fails s e s' → s' = s

/-- A sequence fails with its first step, or with its second one behind the first. -/
theorem fails_bind : (x >>= f).Fails s e s'' ↔
    x.Fails s e s'' ∨ ∃ a s', x.Yields s a s' ∧ (f a).Fails s' e s'' := by
  constructor
  · intro h
    rw [Fails, bind_apply] at h
    split at h
    · rename_i a s' hx
      exact .inr ⟨a, s', hx, h⟩
    · rename_i e' s' hx
      cases h
      exact .inl hx
  · rintro (h | ⟨a, s', hx, hf⟩)
    · exact h.bind f
    · exact hx.fails_bind hf

theorem succeeds_pure (a : α) (s : σ) : (pure a : Step σ ε α).Succeeds s := ⟨a, s, rfl⟩

theorem Succeeds.not_fails (h : x.Succeeds s) : ¬ x.Fails s e s' := by
  obtain ⟨a, t, h⟩ := h
  intro hfails
  cases h.symm.trans hfails

/-- A step that looks first, and moves only if it likes what it sees. -/
theorem allOrNothing_of_check {p : Prop} [Decidable p] {a : α} {e : ε}
    (h : x s = if p then (.ok a, s') else (.error e, s)) : x.AllOrNothing s := by
  intro e' s'' hfails
  rw [Fails, h] at hfails
  split at hfails
  · cases hfails
  · cases hfails
    rfl

/-- A sequence is all or nothing if its first part is and its second part does not fail. -/
theorem AllOrNothing.bind (hx : x.AllOrNothing s) (hf : ∀ a s', (f a).Succeeds s') :
    (x >>= f).AllOrNothing s := by
  intro e s'' h
  obtain h | ⟨a, s', -, h⟩ := fails_bind.1 h
  · exact hx e s'' h
  · exact absurd h (hf a s').not_fails

theorem allOrNothing_discard_iff : (Functor.discard x).AllOrNothing s ↔ x.AllOrNothing s := by
  have h : ∀ e s', (Functor.discard x).Fails s e s' ↔ x.Fails s e s' := by
    intro e s'
    rw [Fails, Fails, discard_apply]
    obtain ⟨a | a, t⟩ := x s <;> simp [Except.map]
  simp only [AllOrNothing, h]

end Step

namespace Cursor

variable {c c' : Cursor} {e : CursorError} {count : Nat}

/-! ## The operations of a cursor -/

theorem fails_readOctet :
    readOctet.Fails c e c' ↔
      c.octets.length ≤ c.readIndex ∧ e = .overrun c.readIndex 1 c.octets.length ∧ c' = c := by
  rw [Step.Fails, readOctet, ← List.getElem?_eq_none_iff]
  cases c.octets[c.readIndex]? <;> simp [eq_comm]

theorem allOrNothing_peekOctet : peekOctet.AllOrNothing c := by
  intro e c' h
  rw [Step.Fails, peekOctet] at h
  split at h
  · cases h
  · cases h
    rfl

theorem allOrNothing_readOctet : readOctet.AllOrNothing c :=
  fun _ _ h => (fails_readOctet.1 h).2.2

theorem allOrNothing_readOctets (count : Nat) : (readOctets count).AllOrNothing c :=
  Step.allOrNothing_of_check rfl

theorem allOrNothing_seek (delta : Int) : (seek delta).AllOrNothing c :=
  Step.allOrNothing_of_check rfl

theorem allOrNothing_skip (count : Nat) : (skip count).AllOrNothing c := by
  rw [skip]
  exact allOrNothing_seek _

theorem allOrNothing_readWord32 : readWord32.AllOrNothing c := by
  refine (allOrNothing_readOctets 4).bind fun octets c' => ?_
  split <;> exact Step.succeeds_pure _ _

theorem allOrNothing_readFrameSize : readFrameSize.AllOrNothing c :=
  allOrNothing_readWord32.bind fun _ => Step.succeeds_pure _

theorem allOrNothing_readFrameDelimiter : readFrameDelimiter.AllOrNothing c :=
  (allOrNothing_readOctets 2).bind fun _ => Step.succeeds_pure _

/-- **A word of two octets** is refused at its first octet or at its second one, and in the latter
case the first one is gone. -/
theorem fails_readWord16 :
    readWord16.Fails c e c' ↔
      readOctet.Fails c e c' ∨
        c.remaining = 1 ∧ e = .overrun (c.readIndex + 1) 1 c.octets.length ∧ c' = c.advance 1 := by
  have hlast : ∀ {high c₁}, (readOctet >>= fun low => pure (word16 high low)).Fails c₁ e c' ↔
      readOctet.Fails c₁ e c' := by
    intro high c₁
    rw [Step.fails_bind, or_iff_left]
    rintro ⟨low, c₂, -, h⟩
    exact (Step.succeeds_pure _ _).not_fails h
  rw [readWord16, Step.fails_bind]
  simp only [hlast, yields_readOctet, takes_singleton]
  refine or_congr_right ⟨?_, ?_⟩
  · rintro ⟨high, c₁, ⟨hhigh, rfl⟩, hlow⟩
    obtain ⟨hend, rfl, rfl⟩ := fails_readOctet.1 hlow
    have hstart := (List.getElem?_eq_some_iff.1 hhigh).1
    simp only [advance_readIndex, advance_octets] at hend
    exact ⟨by rw [remaining]; omega, rfl, rfl⟩
  · rintro ⟨hone, rfl, rfl⟩
    rw [remaining] at hone
    have hstart : c.readIndex < c.octets.length := by omega
    have hend : (c.advance 1).octets.length ≤ (c.advance 1).readIndex := by
      simp only [advance_readIndex, advance_octets]
      omega
    exact ⟨c.octets[c.readIndex], _, ⟨List.getElem?_eq_getElem hstart, rfl⟩,
      fails_readOctet.2 ⟨hend, rfl, rfl⟩⟩

theorem advance_one_ne : c.advance 1 ≠ c := by
  intro h
  have hindex : c.readIndex + 1 = c.readIndex := congrArg readIndex h
  omega

theorem allOrNothing_readWord16_iff : readWord16.AllOrNothing c ↔ c.remaining ≠ 1 := by
  constructor
  · intro h hone
    exact advance_one_ne (h _ _ (fails_readWord16.2 (.inr ⟨hone, rfl, rfl⟩)))
  · intro hmore e c' h
    obtain h | ⟨hone, -⟩ := fails_readWord16.1 h
    · exact allOrNothing_readOctet e c' h
    · exact absurd hone hmore

/-- **A refused operation changes nothing**, unless it is a word of two octets where just one is
left.  That word is refused for want of its second octet, with the cursor behind the first. -/
theorem refused_operation_changes_nothing_iff (c : Cursor) (operation : Operation) :
    (operation.step.AllOrNothing c ↔ ¬ (operation = .readWord16 ∧ c.remaining = 1)) ∧
      (readWord16.Fails c (.overrun (c.readIndex + 1) 1 c.octets.length) (c.advance 1) ↔
        c.remaining = 1) := by
  have hother : operation ≠ .readWord16 → operation.step.AllOrNothing c →
      (operation.step.AllOrNothing c ↔ ¬ (operation = .readWord16 ∧ c.remaining = 1)) :=
    fun hne hstep => iff_of_true hstep fun h => hne h.1
  refine ⟨?_, ?_⟩
  · cases operation with
    | peekOctet => exact hother (by simp) (Step.allOrNothing_discard_iff.2 allOrNothing_peekOctet)
    | readOctet => exact hother (by simp) (Step.allOrNothing_discard_iff.2 allOrNothing_readOctet)
    | readOctets count =>
      exact hother (by simp) (Step.allOrNothing_discard_iff.2 (allOrNothing_readOctets count))
    | readWord16 =>
      exact Step.allOrNothing_discard_iff.trans (by simp [allOrNothing_readWord16_iff])
    | readWord32 => exact hother (by simp) (Step.allOrNothing_discard_iff.2 allOrNothing_readWord32)
    | readFrameSize =>
      exact hother (by simp) (Step.allOrNothing_discard_iff.2 allOrNothing_readFrameSize)
    | readFrameDelimiter => exact hother (by simp) allOrNothing_readFrameDelimiter
    | seek delta => exact hother (by simp) (allOrNothing_seek delta)
    | skip count => exact hother (by simp) (allOrNothing_skip count)
    | write octets =>
      refine hother (by simp) fun e c' h => ?_
      cases h
  · rw [fails_readWord16]
    constructor
    · rintro (h | h)
      · exact absurd (allOrNothing_readOctet _ _ h) advance_one_ne
      · exact h.1
    · exact fun hone => .inr ⟨hone, rfl, rfl⟩

/-- A single octet is lost to a word that is not there. -/
theorem refused_word_takes_an_octet :
    readWord16.Fails (ofOctets [0x0A]) (.overrun 1 1 1) ((ofOctets [0x0A]).advance 1) ∧
      ¬ Operation.readWord16.step.AllOrNothing (ofOctets [0x0A]) := by
  refine ⟨rfl, fun h => ?_⟩
  exact allOrNothing_readWord16_iff.1 (Step.allOrNothing_discard_iff.1 h) rfl

/-! ## Passing over octets -/

/-- **Passing over `count` octets agrees with reading them** at `c`: it succeeds where there are so
many, it leaves the cursor where reading leaves it, and this is never further back. -/
structure SkipsAsReads (c : Cursor) (count : Nat) : Prop where
  succeeds_iff : (skip count).Succeeds c ↔ count ≤ c.remaining
  yields_iff : ∀ c', (skip count).Yields c () c' ↔ ∃ octets, (readOctets count).Yields c octets c'
  forward : ∀ c', (skip count).Yields c () c' → c.readIndex ≤ c'.readIndex

/-- A count that is taken as a negative one is a move backward, by what it lacks to the range of
words. -/
theorem skip_of_le (hcount : 0x8000000000000000 ≤ count) (hlt : count < UInt64.size)
    (hc : c.readIndex ≤ c.octets.length) :
    skip count c =
      if UInt64.size ≤ c.readIndex + count then
        (.ok (), { c with readIndex := c.readIndex + count - UInt64.size })
      else (.error (.invalidSeek c.readIndex (count - UInt64.size) c.octets.length), c) := by
  have hsigned : Int.bmod count UInt64.size = count - UInt64.size := by
    rw [← Int.sub_bmod_right]
    exact Int.bmod_eq_of_le (by simp [UInt64.size]; omega) (by simp [UInt64.size] at hlt ⊢; omega)
  have htarget : ((c.readIndex : Int) + (count - UInt64.size)).toNat =
      c.readIndex + count - UInt64.size := by omega
  have hwithin : (0 ≤ (c.readIndex : Int) + (count - UInt64.size) ∧
      c.readIndex + count - UInt64.size ≤ c.octets.length) ↔
        UInt64.size ≤ c.readIndex + count := by omega
  rw [skip, hsigned, seek, htarget]
  simp only [hwithin]

theorem exists_yields_readOctets :
    (∃ octets, (readOctets count).Yields c octets c') ↔
      c.readIndex + count ≤ c.octets.length ∧ c' = c.advance count := by
  simp only [Step.Yields, readOctets]
  split
  · rename_i hle
    simp [hle, advance, eq_comm]
  · rename_i hlt
    simp [hlt]

/-- A count that is not taken as a negative one is passed over as it is read. -/
theorem skipsAsReads_of_lt (hcount : count < 0x8000000000000000)
    (hc : c.readIndex ≤ c.octets.length) : c.SkipsAsReads count := by
  have hskip : ∀ c', (skip count).Yields c () c' ↔
      c.readIndex + count ≤ c.octets.length ∧ c' = c.advance count := by
    intro c'
    rw [Step.Yields, skip_of_lt hcount]
    split
    · rename_i hle
      simp [hle, eq_comm]
    · rename_i hlt
      simp [hlt]
  constructor
  · simp only [Step.Succeeds, hskip, remaining]
    constructor
    · rintro ⟨_, c', hle, -⟩
      omega
    · exact fun hle => ⟨(), _, by omega, rfl⟩
  · intro c'
    rw [hskip, exists_yields_readOctets]
  · intro c' h
    rw [((hskip c').1 h).2, advance_readIndex]
    omega

/-- A count that is taken as a negative one is refused, as long as the place and the count together
stay in the range of words, and there are never so many octets. -/
theorem skipsAsReads_of_le (hcount : 0x8000000000000000 ≤ count)
    (hsum : c.readIndex + count < UInt64.size) (hc : c.readIndex ≤ c.octets.length)
    (hlength : c.octets.length < 0x8000000000000000) : c.SkipsAsReads count := by
  have hrefused : ∀ c', ¬ (skip count).Yields c () c' := by
    intro c' h
    rw [Step.Yields, skip_of_le hcount (by omega) hc, if_neg (by omega)] at h
    cases h
  constructor
  · constructor
    · rintro ⟨_, c', h⟩
      exact absurd h (hrefused c')
    · intro hle
      rw [remaining] at hle
      omega
  · intro c'
    rw [exists_yields_readOctets]
    exact iff_of_false (hrefused c') fun h => by omega
  · exact fun c' h => absurd h (hrefused c')

/-- Beyond the range of words the move is one backward, and nobody refuses it. -/
theorem yields_skip_back (hcount : count < UInt64.size) (hsum : UInt64.size ≤ c.readIndex + count)
    (hc : c.readIndex ≤ c.octets.length) (hlength : c.octets.length < 0x8000000000000000) :
    (skip count).Yields c () { c with readIndex := c.readIndex + count - UInt64.size } := by
  have hnegative : 0x8000000000000000 ≤ count := by
    have hsize : UInt64.size = 0x10000000000000000 := rfl
    omega
  rw [Step.Yields, skip_of_le hnegative hcount hc, if_pos hsum]

/-- **Passing over octets agrees with reading them**, whatever the count is, as long as the place
and the count together stay in the range of words. -/
theorem skip_agrees_with_reading {c : Cursor} (hc : c.readIndex ≤ c.octets.length)
    (hlength : c.octets.length < 0x8000000000000000) (count : UInt64)
    (hsum : c.readIndex + count.toNat < UInt64.size) : c.SkipsAsReads count.toNat := by
  obtain hsmall | hlarge := Nat.lt_or_ge count.toNat 0x8000000000000000
  · exact skipsAsReads_of_lt hsmall hc
  · exact skipsAsReads_of_le hlarge hsum hc hlength

/-- One octet was read and one is left: that one can be passed over, and the least count that stands
for a move backward is as good as any other that is too great. -/
theorem skip_agrees_with_reading_between_octets :
    let c := (ofOctets [0x0A, 0x0B]).advance 1
    (c.readIndex ≤ c.octets.length ∧ c.octets.length < 0x8000000000000000 ∧
        c.readIndex + 1 < UInt64.size ∧ c.readIndex + 0x8000000000000000 < UInt64.size) ∧
      c.SkipsAsReads 1 ∧ c.SkipsAsReads 0x8000000000000000 := by
  intro c
  have hplace : c.readIndex ≤ c.octets.length := by decide
  have hsize : c.octets.length < 0x8000000000000000 := by decide
  have hone : c.readIndex + (1 : UInt64).toNat < UInt64.size := by decide
  have hgreat : c.readIndex + (0x8000000000000000 : UInt64).toNat < UInt64.size := by decide
  exact ⟨⟨hplace, hsize, hone, hgreat⟩, skip_agrees_with_reading hplace hsize 1 hone,
    skip_agrees_with_reading hplace hsize 0x8000000000000000 hgreat⟩

end Cursor

end SimCard
