import SimCard.Number.Dialling
import SimCard.Proofs.Octets

/-!
# What a reader takes off a cursor

A reader is a function on cursors, but nothing that is said about one should have to mention the
places and bounds it computes with.  This file gives the two relations in which the readers of the
library are specified.

* `Step.Yields x s a s'` — the step `x`, run at `s`, succeeds with `a` and leaves `s'`.  A sequence
  of steps yields what its parts yield one after the other (`Step.yields_bind`), so a reader written
  in `do` notation is taken apart without unfolding the monad.
* `Cursor.Takes c octets c'` — the octets are the next ones of `c`, and `c'` is `c` just behind
  them.  Taking composes along `++` (`Cursor.takes_append`), which is what turns a sequence of reads
  into a concatenation of octets.

The readers of the cursor itself are then each one equivalence: `Cursor.yields_readOctet`,
`Cursor.yields_readOctets`, `Cursor.yields_skip`, `Cursor.yields_readWord16`,
`Cursor.yields_readWord32`.  A field of a fixed size is read by all readers in the same way
(`Cursor.yields_decoded`).

`Step.Fails` is to failures what `Step.Yields` is to success.  Where it does not matter whether a
step succeeds, `Step.Keeps` says what it leaves as it was.

A cursor whose two places make sense is `Cursor.InOrder`; what is written to such a cursor comes
behind everything that is still to be read (`Cursor.InOrder.rest_write`), and read from where it
starts it is all there is (`Cursor.InOrder.takes_written`).
-/

set_option autoImplicit false

namespace SimCard

/-! ## Steps that succeed -/

namespace Step

variable {σ ε ε' α β : Type} {s s' s'' : σ} {a b : α}

/-- The step succeeds at `s` with `a` and leaves `s'`. -/
def Yields (x : Step σ ε α) (s : σ) (a : α) (s' : σ) : Prop := x s = (.ok a, s')

@[simp] theorem yields_pure : (pure a : Step σ ε α).Yields s b s' ↔ a = b ∧ s = s' := by
  simp [Yields]

@[simp] theorem not_yields_fail {e : ε} : ¬ (fail e : Step σ ε α).Yields s a s' := by
  simp [Yields]

@[simp] theorem yields_get {t : σ} : (get : Step σ ε σ).Yields s t s' ↔ s = t ∧ s = s' := by
  simp [Yields, get]

/-- **A sequence of steps** yields what its parts yield one after the other. -/
theorem yields_bind {x : Step σ ε α} {f : α → Step σ ε β} {b : β} :
    (x >>= f).Yields s b s'' ↔ ∃ a s', x.Yields s a s' ∧ (f a).Yields s' b s'' := by
  rw [Yields, bind_apply]
  constructor
  · intro h
    match hx : x s with
    | (.ok a, s') =>
      rw [hx] at h
      exact ⟨a, s', hx, h⟩
    | (.error e, s') =>
      rw [hx] at h
      cases h
  · rintro ⟨a, s', hx, hf⟩
    rw [show x s = _ from hx]
    exact hf

/-- Renaming the failures of a step does not touch its success. -/
theorem yields_mapError {x : Step σ ε α} {f : ε → ε'} :
    (x.mapError f).Yields s a s' ↔ x.Yields s a s' := by
  rw [Yields, Yields, mapError]
  split <;> simp_all

/-- Nor does it touch the state that is left. -/
theorem mapError_snd (f : ε → ε') (x : Step σ ε α) (s : σ) : (x.mapError f s).2 = (x s).2 := by
  rw [mapError]
  split <;> simp_all

/-- The step succeeds at `s`. -/
def Succeeds (x : Step σ ε α) (s : σ) : Prop := ∃ a s', x.Yields s a s'

/-! ## Steps that fail -/

section Fails

variable {e : ε}

/-- The step fails at `s` with `e` and leaves `s'`. -/
def Fails (x : Step σ ε α) (s : σ) (e : ε) (s' : σ) : Prop := x s = (.error e, s')

/-- A sequence fails with its first step. -/
theorem Fails.bind {x : Step σ ε α} (h : x.Fails s e s') (f : α → Step σ ε β) :
    (x >>= f).Fails s e s' := by
  rw [Fails, bind_apply, show x s = _ from h]

/-- A sequence fails with its second step, if the first one succeeds. -/
theorem Yields.fails_bind {x : Step σ ε α} {f : α → Step σ ε β} (h : x.Yields s a s')
    (hf : (f a).Fails s' e s'') : (x >>= f).Fails s e s'' := by
  rw [Fails, bind_apply, show x s = _ from h]
  exact hf

theorem Fails.mapError {x : Step σ ε α} (h : x.Fails s e s') (f : ε → ε') :
    (x.mapError f).Fails s (f e) s' := by
  rw [Fails, Step.mapError, show x s = _ from h]

end Fails

/-! ## Steps that keep something -/

section Keeps

variable {p : σ → Prop}

/-- Whatever comes of the step, what held of the state holds of the state that is left. -/
def Keeps (p : σ → Prop) (x : Step σ ε α) : Prop := ∀ s, p s → p (x s).2

theorem keeps_pure (a : α) : (pure a : Step σ ε α).Keeps p := fun _ hs => hs

theorem keeps_get : (get : Step σ ε σ).Keeps p := fun _ hs => hs

theorem keeps_fail (e : ε) : (fail e : Step σ ε α).Keeps p := fun _ hs => hs

theorem Keeps.bind {x : Step σ ε α} {f : α → Step σ ε β} (hx : x.Keeps p)
    (hf : ∀ a, (f a).Keeps p) : (x >>= f).Keeps p := by
  intro s hs
  have hs' := hx s hs
  rw [bind_apply]
  match hrun : x s with
  | (.ok a, s') =>
    rw [hrun] at hs'
    exact hf a s' hs'
  | (.error e, s') =>
    rw [hrun] at hs'
    exact hs'

theorem Keeps.mapError {x : Step σ ε α} (hx : x.Keeps p) (f : ε → ε') :
    (x.mapError f).Keeps p := by
  intro s hs
  rw [mapError_snd]
  exact hx s hs

theorem Keeps.ignoring {x : Step σ ε α} (hx : x.Keeps p) :
    (x.ignoring : Step σ ε' Unit).Keeps p := hx

theorem discard_apply (x : Step σ ε α) (s : σ) :
    Functor.discard x s = ((x s).1.map fun _ => (), (x s).2) := by
  change (x >>= fun _ => pure ()) s = _
  rw [bind_apply]
  match x s with
  | (.ok _, _) => rfl
  | (.error _, _) => rfl

/-- To keep something is a matter of the state alone. -/
theorem keeps_discard_iff {x : Step σ ε α} : (Functor.discard x).Keeps p ↔ x.Keeps p := by
  simp only [Keeps, discard_apply]

end Keeps

end Step

/-! ## Octets taken off a cursor -/

namespace Cursor

variable {c c' c'' : Cursor} {octet : UInt8} {octets front back : Octets}

/-- The cursor `count` octets further on. -/
def advance (c : Cursor) (count : Nat) : Cursor := { c with readIndex := c.readIndex + count }

@[simp] theorem advance_readIndex (count : Nat) :
    (c.advance count).readIndex = c.readIndex + count := rfl

@[simp] theorem advance_octets (count : Nat) : (c.advance count).octets = c.octets := rfl

@[simp] theorem advance_zero : c.advance 0 = c := rfl

theorem advance_add (m n : Nat) : c.advance (m + n) = (c.advance m).advance n := by
  simp [advance, Nat.add_assoc]

@[simp] theorem rest_advance (count : Nat) : (c.advance count).rest = c.rest.drop count := by
  rw [rest, rest, List.drop_drop]
  rfl

/-- **Taking octets**: they are the next ones of `c`, and `c'` is `c` just behind them. -/
def Takes (c : Cursor) (octets : Octets) (c' : Cursor) : Prop :=
  octets <+: c.rest ∧ c' = c.advance octets.length

@[simp] theorem takes_nil : c.Takes [] c' ↔ c' = c := by
  simp [Takes]

/-- Octets are taken in two goes as well as in one. -/
theorem takes_append :
    c.Takes (front ++ back) c'' ↔ ∃ c', c.Takes front c' ∧ c'.Takes back c'' := by
  constructor
  · rintro ⟨⟨tail, htail⟩, rfl⟩
    refine ⟨c.advance front.length, ⟨⟨back ++ tail, by simpa using htail⟩, rfl⟩, ⟨tail, ?_⟩, ?_⟩
    · rw [rest_advance, ← htail, List.append_assoc, List.drop_left]
    · rw [List.length_append, advance_add]
  · rintro ⟨c', ⟨⟨tail, htail⟩, rfl⟩, ⟨tail', htail'⟩, rfl⟩
    rw [rest_advance, ← htail, List.drop_left] at htail'
    refine ⟨⟨tail', ?_⟩, ?_⟩
    · rw [← htail, ← htail', List.append_assoc]
    · rw [List.length_append, advance_add]

theorem takes_cons : c.Takes (octet :: back) c'' ↔ ∃ c', c.Takes [octet] c' ∧ c'.Takes back c'' :=
  @takes_append c c'' [octet] back

theorem Takes.append (h : c.Takes front c') (h' : c'.Takes back c'') :
    c.Takes (front ++ back) c'' :=
  takes_append.2 ⟨c', h, h'⟩

theorem Takes.readIndex_eq (h : c.Takes octets c') :
    c'.readIndex = c.readIndex + octets.length := by
  rw [h.2, advance_readIndex]

theorem Takes.octets_eq (h : c.Takes octets c') : c'.octets = c.octets := by
  rw [h.2, advance_octets]

/-- What was there to read is what has been taken and what is left. -/
theorem Takes.rest_eq (h : c.Takes octets c') : c.rest = octets ++ c'.rest := by
  obtain ⟨⟨tail, htail⟩, rfl⟩ := h
  rw [rest_advance, ← htail, List.drop_left]

theorem takes_of_rest_eq {tail : Octets} (h : c.rest = octets ++ tail) :
    c.Takes octets (c.advance octets.length) :=
  ⟨⟨tail, h.symm⟩, rfl⟩

theorem rest_advance_of_rest_eq {tail : Octets} (h : c.rest = octets ++ tail) :
    (c.advance octets.length).rest = tail := by
  rw [rest_advance, h, List.drop_left]

theorem length_rest : c.rest.length = c.remaining := by
  rw [rest, remaining, List.length_drop]

theorem Takes.remaining_eq (h : c.Takes octets c') :
    c.remaining = octets.length + c'.remaining := by
  rw [← length_rest, ← length_rest, h.rest_eq, List.length_append]

/-- Behind an octet that was taken, a cursor is within the octets it holds. -/
theorem Takes.readIndex_le (h : c.Takes octets c') (hne : octets ≠ []) :
    c'.readIndex ≤ c'.octets.length := by
  have hpos : 0 < octets.length := List.length_pos_iff.2 hne
  have hrest := h.remaining_eq
  rw [h.readIndex_eq, h.octets_eq]
  rw [remaining, remaining, h.octets_eq, h.readIndex_eq] at hrest
  omega

/-- Before an octet that can be taken, it is too. -/
theorem Takes.start_le (h : c.Takes octets c') (hne : octets ≠ []) :
    c.readIndex ≤ c.octets.length := by
  have hle := h.readIndex_le hne
  rw [h.readIndex_eq, h.octets_eq] at hle
  omega

/-- Taking octets does not lead out of those that are held. -/
theorem Takes.within (h : c.Takes octets c') (hc : c.readIndex ≤ c.octets.length) :
    c'.readIndex ≤ c'.octets.length := by
  have hrest := h.remaining_eq
  rw [h.readIndex_eq, h.octets_eq]
  rw [remaining, remaining, h.octets_eq, h.readIndex_eq] at hrest
  omega

/-! ## Cursors in order -/

/-- **The places of a cursor are in order**: what is written goes behind all that is held, and what
is read next is held or is the end. -/
structure InOrder (c : Cursor) : Prop where
  writeIndex_eq : c.writeIndex = c.octets.length
  readIndex_le : c.readIndex ≤ c.octets.length

theorem inOrder_ofOctets (octets : Octets) : (ofOctets octets).InOrder := ⟨rfl, Nat.zero_le _⟩

/-- Writing at the end goes over nothing. -/
theorem octets_write (h : c.writeIndex = c.octets.length) (octets : Octets) :
    (c.write octets).octets = c.octets ++ octets := by
  simp [write, h]

theorem InOrder.write (h : c.InOrder) (octets : Octets) : (c.write octets).InOrder := by
  have hle := h.readIndex_le
  refine ⟨?_, ?_⟩
  · rw [octets_write h.writeIndex_eq, List.length_append, ← h.writeIndex_eq]
    rfl
  · rw [octets_write h.writeIndex_eq, List.length_append]
    change c.readIndex ≤ _
    omega

/-- **What is written comes behind what is still to be read.** -/
theorem InOrder.rest_write (h : c.InOrder) (octets : Octets) :
    (c.write octets).rest = c.rest ++ octets := by
  rw [rest, octets_write h.writeIndex_eq]
  exact List.drop_append_of_le_length h.readIndex_le

theorem Takes.inOrder (h : c.Takes octets c') (hc : c.InOrder) : c'.InOrder := by
  refine ⟨?_, h.within hc.readIndex_le⟩
  rw [h.2]
  exact hc.writeIndex_eq

/-- The cursor after octets were written to it, at the place where they start. -/
def written (c : Cursor) (octets : Octets) : Cursor :=
  { c.write octets with readIndex := c.octets.length }

theorem InOrder.rest_written (h : c.InOrder) (octets : Octets) :
    (c.written octets).rest = octets := by
  change (c.write octets).octets.drop c.octets.length = octets
  rw [octets_write h.writeIndex_eq, List.drop_left]

theorem InOrder.readIndex_written_le (h : c.InOrder) (octets : Octets) :
    (c.written octets).readIndex ≤ (c.written octets).octets.length := by
  change c.octets.length ≤ (c.write octets).octets.length
  rw [octets_write h.writeIndex_eq, List.length_append]
  omega

/-- **What was written is there to be taken.** -/
theorem InOrder.takes_written (h : c.InOrder) {size : Nat} (hlength : octets.length = size) :
    (c.written octets).Takes octets ((c.written octets).advance size) := by
  rw [← hlength]
  exact takes_of_rest_eq (by rw [h.rest_written, List.append_nil])

/-- Nothing is left behind it. -/
theorem InOrder.rest_advance_written (h : c.InOrder) {size : Nat} (hlength : octets.length = size) :
    ((c.written octets).advance size).rest = [] := by
  rw [← hlength]
  exact rest_advance_of_rest_eq (by rw [h.rest_written, List.append_nil])

/-! ## What readers leave alone -/

/-- **What no reader changes**: these octets are held and the place to write is this one, and what
is read next is held or is the end. -/
structure Held (octets : Octets) (index : Nat) (c : Cursor) : Prop where
  octets_eq : c.octets = octets
  writeIndex_eq : c.writeIndex = index
  readIndex_le : c.readIndex ≤ c.octets.length

section Held

variable {index : Nat}

theorem keeps_readOctet : readOctet.Keeps (Held octets index) := by
  intro c hc
  rw [readOctet]
  split
  · rename_i octet hget
    exact ⟨hc.octets_eq, hc.writeIndex_eq, (List.getElem?_eq_some_iff.1 hget).1⟩
  · exact hc

theorem keeps_readOctets (count : Nat) : (readOctets count).Keeps (Held octets index) := by
  intro c hc
  rw [readOctets]
  split
  · rename_i hle
    exact ⟨hc.octets_eq, hc.writeIndex_eq, hle⟩
  · exact hc

/-- A move that would leave the octets held is refused. -/
theorem keeps_seek (delta : Int) : (seek delta).Keeps (Held octets index) := by
  intro c hc
  rw [seek]
  split
  · rename_i hwithin
    exact ⟨hc.octets_eq, hc.writeIndex_eq, hwithin.2⟩
  · exact hc

theorem keeps_skip (count : Nat) : (skip count).Keeps (Held octets index) := by
  rw [skip]
  exact keeps_seek _

end Held

/-! ## The readers of a cursor -/

theorem takes_singleton :
    c.Takes [octet] c' ↔ c.octets[c.readIndex]? = some octet ∧ c' = c.advance 1 := by
  rw [Takes, rest, List.length_singleton, ← List.head?_drop]
  cases c.octets.drop c.readIndex <;> simp [eq_comm]

theorem yields_readOctet : readOctet.Yields c octet c' ↔ c.Takes [octet] c' := by
  rw [takes_singleton, Step.Yields, readOctet]
  cases c.octets[c.readIndex]? <;> simp [advance, eq_comm]

/-- A run of octets is read exactly when it is there.  The bound is only needed for a run of none,
which a cursor that has left its octets refuses. -/
theorem yields_readOctets {count : Nat} (hc : c.readIndex ≤ c.octets.length) :
    (readOctets count).Yields c octets c' ↔ octets.length = count ∧ c.Takes octets c' := by
  rw [Step.Yields, readOctets]
  constructor
  · intro h
    split at h
    · rename_i hle
      obtain ⟨rfl, rfl⟩ : c.rest.take count = octets ∧ c.advance count = c' := by
        simpa [advance] using h
      have hlen : (c.rest.take count).length = count := by
        rw [List.length_take, length_rest, remaining]
        omega
      refine ⟨hlen, List.take_prefix _ _, ?_⟩
      rw [hlen]
    · cases h
  · rintro ⟨rfl, h⟩
    have hrest := h.remaining_eq
    rw [remaining] at hrest
    rw [if_pos (by omega), h.2, h.rest_eq, List.take_left]
    rfl

/-- **A field of a fixed size** is read by taking its octets, whatever is then made of them. -/
theorem yields_decoded {α : Type} (decode : Octets → α) {size : Nat}
    (hc : c.readIndex ≤ c.octets.length) (hlength : octets.length = size) (h : c.Takes octets c') :
    (readOctets size >>= fun taken => pure (decode taken)).Yields c (decode octets) c' :=
  Step.yields_bind.2
    ⟨octets, c', (yields_readOctets hc).2 ⟨hlength, h⟩, Step.yields_pure.2 ⟨rfl, rfl⟩⟩

/-- A field that was written is read from where it starts. -/
theorem InOrder.yields_decoded_written {α : Type} (h : c.InOrder) (decode : Octets → α) {size : Nat}
    (hlength : octets.length = size) :
    (readOctets size >>= fun taken => pure (decode taken)).Yields (c.written octets) (decode octets)
      ((c.written octets).advance size) :=
  yields_decoded decode (h.readIndex_written_le octets) hlength (h.takes_written hlength)

/-- A count that is not taken as a negative one is a move forward. -/
theorem skip_of_lt {count : Nat} (hcount : count < 0x8000000000000000) :
    skip count c =
      if c.readIndex + count ≤ c.octets.length then (.ok (), c.advance count)
      else (.error (.invalidSeek c.readIndex count c.octets.length), c) := by
  have hsigned : Int.bmod count UInt64.size = count :=
    Int.bmod_eq_of_le (by simp [UInt64.size]) (by simp [UInt64.size]; omega)
  have htarget : ((c.readIndex : Int) + count).toNat = c.readIndex + count := by omega
  have hnonneg : (0 : Int) ≤ c.readIndex + count := by omega
  rw [skip, hsigned, seek, htarget]
  simp only [hnonneg, true_and]
  rfl

/-- Passing over octets is reading them, for every count that is not taken as a negative one. -/
theorem yields_skip (count : Nat) (hcount : count < 0x8000000000000000)
    (hc : c.readIndex ≤ c.octets.length) :
    (skip count).Yields c () c' ↔ ∃ octets : Octets, octets.length = count ∧ c.Takes octets c' := by
  rw [Step.Yields, skip_of_lt hcount]
  constructor
  · intro h
    split at h
    · rename_i hle
      obtain rfl : c.advance count = c' := congrArg Prod.snd h
      have hlen : (c.rest.take count).length = count := by
        rw [List.length_take, length_rest, remaining]
        omega
      refine ⟨c.rest.take count, hlen, List.take_prefix _ _, ?_⟩
      rw [hlen]
    · cases h
  · rintro ⟨octets, rfl, h⟩
    have hrest := h.remaining_eq
    rw [remaining] at hrest
    rw [if_pos (by omega), h.2]

theorem yields_readWord32 {word : UInt32} (hc : c.readIndex ≤ c.octets.length) :
    readWord32.Yields c word c' ↔ c.Takes (word32Octets word) c' := by
  simp only [readWord32, Step.yields_bind, yields_readOctets hc]
  constructor
  · rintro ⟨octets, c₁, ⟨hlen, h⟩, hword⟩
    match octets, hlen with
    | [a, b, d, e], _ =>
      obtain ⟨rfl, rfl⟩ := Step.yields_pure.1 hword
      rwa [word32Octets_word32]
  · intro h
    exact ⟨_, c', ⟨rfl, h⟩, Step.yields_pure.2 ⟨word32_of_word32Octets word, rfl⟩⟩

theorem yields_readWord16 {word : UInt16} :
    readWord16.Yields c word c' ↔ c.Takes (word16Octets word) c' := by
  simp only [readWord16, Step.yields_bind, yields_readOctet, Step.yields_pure]
  constructor
  · rintro ⟨high, c₁, h₁, low, c₂, h₂, rfl, rfl⟩
    rw [word16Octets_word16]
    exact h₁.append h₂
  · intro h
    rw [word16Octets, takes_cons] at h
    obtain ⟨c₁, h₁, h₂⟩ := h
    exact ⟨_, c₁, h₁, _, c', h₂, word16_of_word16Octets word, rfl⟩

end Cursor

/-- Among the readers of fields, a reader of octets does the same. -/
@[simp] theorem yields_liftM_field {α : Type} {x : Reader CursorError α} {c c' : Cursor} {a : α} :
    (liftM x : Reader FieldError α).Yields c a c' ↔ x.Yields c a c' :=
  Step.yields_mapError

/-- A dialling number is read where its octets stand. -/
theorem Number.yields_readDialling {c c' : Cursor} {type : UInt8} {digits : Octets}
    (hc : c.readIndex ≤ c.octets.length) (h : c.Takes (type :: digits) c') :
    (Number.readDialling (type :: digits).length).Yields c
      (String.ofList (Number.decodeDialling (type :: digits))) c' := by
  obtain ⟨c₁, htype, hdigits⟩ := Cursor.takes_cons.1 h
  rw [Number.readDialling, if_neg (by simp)]
  simp only [Step.yields_bind, Cursor.yields_readOctet, Step.yields_pure]
  refine ⟨type, c₁, htype, digits, c', ?_, rfl, rfl⟩
  exact (Cursor.yields_readOctets (htype.within hc)).2 ⟨rfl, hdigits⟩

end SimCard
