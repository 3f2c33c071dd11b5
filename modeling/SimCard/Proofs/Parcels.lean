import SimCard.Parcel
import SimCard.Proofs.Reading

/-!
# A cursor as a queue of parcels

A cursor is read at one place and written at another, and both places move.  Nothing in its type
keeps a write from going over octets that nobody has read yet, or a read from stopping in the middle
of a parcel.  This file shows that neither happens.

* **The places stay in order.**  `Cursor.Operation` lists what can be done to a cursor.  None of it
  leaves the two places out of order or touches an octet that is held (`Cursor.perform_holds`), so a
  cursor only ever grows at its end (`Cursor.runAll_holds`).
* **Parcels leave in the order in which they came.**  `Cursor.Carries c parcels` says that the
  octets still to be read are these parcels, one after the other.  Writing a parcel adds one at the
  back, reading takes one off the front (`Cursor.Carries.write`, `Cursor.Carries.read`), and on a
  cursor that carries none reading fails and leaves it alone (`Cursor.Carries.read_none`).

The size of a frame counts half octets in a word of 32 bits, so a parcel comes back only if its
payload has fewer than `frameLimit` octets.
-/

set_option autoImplicit false

namespace SimCard

/-! ## What can be done to a cursor -/

namespace Cursor

variable {c c' : Cursor} {octets : Octets}

/-- A cursor in order that holds these octets. -/
def Holds (octets : Octets) (c : Cursor) : Prop := c.octets = octets ∧ c.InOrder

theorem holds_iff_held : Holds octets c ↔ Held octets octets.length c := by
  constructor
  · rintro ⟨rfl, hc⟩
    exact ⟨rfl, hc.writeIndex_eq, hc.readIndex_le⟩
  · rintro ⟨rfl, hindex, hle⟩
    exact ⟨rfl, hindex, hle⟩

section Held

variable {index : Nat}

theorem keeps_peekOctet : peekOctet.Keeps (Held octets index) := by
  intro c hc
  rw [peekOctet]
  split <;> exact hc

theorem keeps_readWord16 : readWord16.Keeps (Held octets index) :=
  keeps_readOctet.bind fun _ => keeps_readOctet.bind fun _ => Step.keeps_pure _

theorem keeps_readWord32 : readWord32.Keeps (Held octets index) := by
  refine (keeps_readOctets 4).bind fun read => ?_
  split <;> exact Step.keeps_pure _

theorem keeps_readFrameSize : readFrameSize.Keeps (Held octets index) :=
  keeps_readWord32.bind fun _ => Step.keeps_pure _

theorem keeps_readFrameDelimiter : readFrameDelimiter.Keeps (Held octets index) :=
  (keeps_readOctets 2).bind fun _ => Step.keeps_pure _

end Held

/-- What can be done to a cursor.  Octets, words, sizes, delimiters and framed strings are all
written as the octets they are made of. -/
inductive Operation where
  | peekOctet
  | readOctet
  | readOctets (count : Nat)
  | readWord16
  | readWord32
  | readFrameSize
  | readFrameDelimiter
  | seek (delta : Int)
  | skip (count : Nat)
  | write (octets : Octets)

/-- Carry out an operation, for what it does to the cursor. -/
def Operation.step : Operation → Reader CursorError Unit
  | .peekOctet => Functor.discard Cursor.peekOctet
  | .readOctet => Functor.discard Cursor.readOctet
  | .readOctets count => Functor.discard (Cursor.readOctets count)
  | .readWord16 => Functor.discard Cursor.readWord16
  | .readWord32 => Functor.discard Cursor.readWord32
  | .readFrameSize => Functor.discard SimCard.readFrameSize
  | .readFrameDelimiter => SimCard.readFrameDelimiter
  | .seek delta => Cursor.seek delta
  | .skip count => Cursor.skip count
  | .write octets => Step.modify (Cursor.write octets)

/-- The cursor after one operation, whatever came of it. -/
def perform (c : Cursor) (operation : Operation) : Cursor := (operation.step c).2

/-- The cursor after operations, one after the other. -/
def runAll (c : Cursor) (operations : List Operation) : Cursor := operations.foldl perform c

/-- **One operation** adds octets at the end or none at all, and leaves the places in order. -/
theorem perform_holds (h : Holds octets c) (operation : Operation) :
    ∃ more, Holds (octets ++ more) (c.perform operation) := by
  have hkept : operation.step.Keeps (Held octets octets.length) →
      ∃ more, Holds (octets ++ more) (c.perform operation) := by
    intro hstep
    refine ⟨[], ?_⟩
    rw [List.append_nil]
    exact holds_iff_held.2 (hstep c (holds_iff_held.1 h))
  cases operation with
  | peekOctet => exact hkept (Step.keeps_discard_iff.2 keeps_peekOctet)
  | readOctet => exact hkept (Step.keeps_discard_iff.2 keeps_readOctet)
  | readOctets count => exact hkept (Step.keeps_discard_iff.2 (keeps_readOctets count))
  | readWord16 => exact hkept (Step.keeps_discard_iff.2 keeps_readWord16)
  | readWord32 => exact hkept (Step.keeps_discard_iff.2 keeps_readWord32)
  | readFrameSize => exact hkept (Step.keeps_discard_iff.2 keeps_readFrameSize)
  | readFrameDelimiter => exact hkept keeps_readFrameDelimiter
  | seek delta => exact hkept (keeps_seek delta)
  | skip count => exact hkept (keeps_skip count)
  | write more =>
    obtain ⟨rfl, hc⟩ := h
    exact ⟨more, octets_write hc.writeIndex_eq more, hc.write more⟩

/-- **A whole run** adds octets at the end or none at all, and leaves the places in order. -/
theorem runAll_holds (h : Holds octets c) (operations : List Operation) :
    ∃ more, Holds (octets ++ more) (c.runAll operations) := by
  induction operations generalizing c octets with
  | nil => exact ⟨[], by rwa [List.append_nil]⟩
  | cons operation operations ih =>
    obtain ⟨front, hfront⟩ := perform_holds h operation
    obtain ⟨back, hback⟩ := ih hfront
    exact ⟨front ++ back, by rwa [List.append_assoc] at hback⟩

end Cursor

/-! ## Framed strings -/

/-- A frame has fewer octets than this: its size counts half octets, in a word of 32 bits. -/
def frameLimit : Nat := 0x80000000

theorem frameSize_toNat {count : Nat} (h : count < frameLimit) :
    (frameSize count).toNat = count * 2 := by
  rw [frameLimit] at h
  exact UInt32.toNat_ofNat_of_lt' (by change _ < 4294967296; omega)

/-- The size of a frame is read as the double of what it counts. -/
theorem yields_readFrameSize {c c' : Cursor} {count : Nat} (hcount : count < frameLimit)
    (hc : c.readIndex ≤ c.octets.length) (h : c.Takes (word32Octets (frameSize count)) c') :
    readFrameSize.Yields c (count * 2) c' := by
  rw [readFrameSize, Step.yields_bind]
  exact ⟨_, c', (Cursor.yields_readWord32 hc).2 h,
    Step.yields_pure.2 ⟨frameSize_toNat hcount, rfl⟩⟩

theorem yields_readFrameDelimiter {c c' : Cursor} (hc : c.readIndex ≤ c.octets.length)
    (h : c.Takes frameDelimiter c') : readFrameDelimiter.Yields c () c' := by
  rw [readFrameDelimiter, Step.yields_bind]
  exact ⟨_, c', (Cursor.yields_readOctets hc).2 ⟨rfl, h⟩, Step.yields_pure.2 ⟨rfl, rfl⟩⟩

/-- **A framed string** is taken in three parts: its size, its octets and the delimiter. -/
theorem Cursor.Takes.framed_parts {c c' : Cursor} {octets : Octets} (h : c.Takes (framed octets) c')
    (hlen : octets.length < frameLimit) (hc : c.readIndex ≤ c.octets.length) :
    ∃ c₁ c₂, readFrameSize.Yields c (octets.length * 2) c₁ ∧
      (Cursor.readOctets (octets.length * 2 / 2)).Yields c₁ octets c₂ ∧
      readFrameDelimiter.Yields c₂ () c' := by
  rw [framed, Cursor.takes_append] at h
  obtain ⟨c₂, h, hdelimiter⟩ := h
  obtain ⟨c₁, hsize, hoctets⟩ := Cursor.takes_append.1 h
  have hc₁ := hsize.within hc
  have hhalf : octets.length = octets.length * 2 / 2 := by omega
  exact ⟨c₁, c₂, yields_readFrameSize hlen hc hsize,
    (Cursor.yields_readOctets hc₁).2 ⟨hhalf, hoctets⟩,
    yields_readFrameDelimiter (hoctets.within hc₁) hdelimiter⟩

/-! ## Parcels on a cursor -/

/-- **A parcel is read back**, whatever follows it. -/
theorem Parcel.yields_read {c c' : Cursor} {parcel : Parcel}
    (hlen : parcel.payload.length < frameLimit) (hc : c.readIndex ≤ c.octets.length)
    (h : c.Takes parcel.toOctets c') : Parcel.read.Yields c parcel c' := by
  rw [toOctets, Cursor.takes_append] at h
  obtain ⟨c₂, h, hpayload⟩ := h
  obtain ⟨c₁, htype, htoken⟩ := Cursor.takes_append.1 h
  have hc₁ := htype.within hc
  obtain ⟨c₃, c₄, hsize, hoctets, hdelimiter⟩ := hpayload.framed_parts hlen (htoken.within hc₁)
  simp only [read, Step.yields_bind, Step.yields_pure]
  exact ⟨_, c₁, (Cursor.yields_readWord32 hc).2 htype, _, c₂,
    (Cursor.yields_readWord32 hc₁).2 htoken, _, c₃, hsize, _, c₄, hoctets, _, c', hdelimiter,
    rfl, rfl⟩

namespace Cursor

variable {c : Cursor} {parcel : Parcel} {parcels : List Parcel}

/-- **A cursor carries parcels**: its places are in order, and what is still to be read is these
parcels, the first one first. -/
structure Carries (c : Cursor) (parcels : List Parcel) : Prop where
  inOrder : c.InOrder
  rest_eq : c.rest = parcels.flatMap Parcel.toOctets

theorem carries_empty : empty.Carries [] := ⟨inOrder_ofOctets [], rfl⟩

/-- Writing a parcel adds it at the back. -/
theorem Carries.write (h : c.Carries parcels) (parcel : Parcel) :
    (c.write parcel.toOctets).Carries (parcels ++ [parcel]) := by
  refine ⟨h.inOrder.write _, ?_⟩
  rw [h.inOrder.rest_write, h.rest_eq, List.flatMap_append, List.flatMap_singleton]

/-- Reading a parcel takes it off the front. -/
theorem Carries.read (h : c.Carries (parcel :: parcels))
    (hlen : parcel.payload.length < frameLimit) :
    ∃ c', Parcel.read c = (.ok parcel, c') ∧ c'.Carries parcels := by
  have hrest : c.rest = parcel.toOctets ++ parcels.flatMap Parcel.toOctets := h.rest_eq
  have htakes := takes_of_rest_eq hrest
  refine ⟨_, Parcel.yields_read hlen h.inOrder.readIndex_le htakes, htakes.inOrder h.inOrder, ?_⟩
  exact rest_advance_of_rest_eq hrest

/-- Where there is no parcel, reading fails at its first word and takes nothing. -/
theorem Carries.read_none (h : c.Carries []) : ∃ error, Parcel.read c = (.error error, c) := by
  have hend : c.octets.length ≤ c.readIndex := List.drop_eq_nil_iff.1 h.rest_eq
  have hword : ¬ c.readIndex + 4 ≤ c.octets.length := by omega
  refine ⟨.overrun c.readIndex 4 c.octets.length, ?_⟩
  simp only [Parcel.read, readWord32, Step.bind_apply, readOctets, if_neg hword]

end Cursor

/-! ## Parcels coming and going -/

/-- What is done with parcels on a cursor. -/
inductive Transfer where
  | write (parcel : Parcel)
  | read

/-- A cursor that parcels come and go through, with the parcels that were written to it and the
parcels that were read off it, the earliest first. -/
structure Traffic where
  cursor : Cursor := .empty
  written : List Parcel := []
  taken : List Parcel := []

namespace Traffic

/-- What one transfer does.  A parcel that cannot be read counts as none. -/
def perform (traffic : Traffic) : Transfer → Traffic
  | .write parcel =>
    { traffic with
      cursor := traffic.cursor.write parcel.toOctets
      written := traffic.written ++ [parcel] }
  | .read =>
    match Parcel.read traffic.cursor with
    | (.ok parcel, cursor) => { traffic with cursor, taken := traffic.taken ++ [parcel] }
    | (.error _, cursor) => { traffic with cursor }

/-- What transfers do, one after the other. -/
def run (traffic : Traffic) (transfers : List Transfer) : Traffic :=
  transfers.foldl perform traffic

/-- Parcels that come back: their payloads are small enough for a frame. -/
def Small (parcels : List Parcel) : Prop :=
  ∀ parcel ∈ parcels, parcel.payload.length < frameLimit

/-- **Nothing is lost, doubled or overtaken**: what was written is what was taken and then what the
cursor still carries. -/
def Conserves (traffic : Traffic) (unread : List Parcel) : Prop :=
  traffic.written = traffic.taken ++ unread ∧ traffic.cursor.Carries unread ∧ Small unread

/-- **One transfer** conserves the parcels. -/
theorem Conserves.perform {traffic : Traffic} {unread : List Parcel}
    (h : traffic.Conserves unread) (transfer : Transfer)
    (hsmall : ∀ parcel, transfer = .write parcel → parcel.payload.length < frameLimit) :
    ∃ unread', (traffic.perform transfer).Conserves unread' := by
  obtain ⟨hwritten, hcarries, hunread⟩ := h
  cases transfer with
  | write parcel =>
    refine ⟨unread ++ [parcel], ?_, hcarries.write parcel, ?_⟩
    · change traffic.written ++ [parcel] = traffic.taken ++ (unread ++ [parcel])
      rw [hwritten, List.append_assoc]
    · exact List.forall_mem_append.2 ⟨hunread, by simpa using hsmall parcel rfl⟩
  | read =>
    cases unread with
    | nil =>
      obtain ⟨error, hread⟩ := hcarries.read_none
      refine ⟨[], ?_⟩
      simp only [Traffic.perform, hread]
      exact ⟨hwritten, hcarries, hunread⟩
    | cons parcel unread =>
      obtain ⟨hparcel, hrest⟩ := List.forall_mem_cons.1 hunread
      obtain ⟨cursor, hread, hcarries'⟩ := hcarries.read hparcel
      refine ⟨unread, ?_⟩
      simp only [Traffic.perform, hread]
      refine ⟨?_, hcarries', hrest⟩
      rw [hwritten, List.append_assoc, List.singleton_append]

/-- **A whole run** conserves the parcels. -/
theorem Conserves.run {traffic : Traffic} {unread : List Parcel} (h : traffic.Conserves unread)
    {transfers : List Transfer}
    (hsmall : ∀ parcel, .write parcel ∈ transfers → parcel.payload.length < frameLimit) :
    ∃ unread', (traffic.run transfers).Conserves unread' := by
  induction transfers generalizing traffic unread with
  | nil => exact ⟨unread, h⟩
  | cons transfer transfers ih =>
    obtain ⟨next, hnext⟩ := h.perform transfer fun parcel htransfer =>
      hsmall parcel (by simp [htransfer])
    exact ih hnext fun parcel hparcel => hsmall parcel (List.mem_cons_of_mem _ hparcel)

/-- **Parcels leave a cursor in the order in which they came.**  However writing and reading take
turns on a new cursor, the parcels that were taken are the first of those that were written; reading
next gives the earliest one that is left, and if none is left it fails and leaves the cursor alone.

The cursor itself is safe from whatever is done to it.  In every state that it gets to, it is
written at its end and read within the octets it holds, and whatever is done then leaves those
octets as they are. -/
theorem parcels_leave_in_order (transfers : List Transfer)
    (hsmall : ∀ parcel, .write parcel ∈ transfers → parcel.payload.length < frameLimit)
    (octets : Octets) (operations later : List Cursor.Operation) :
    (let traffic := run {} transfers
      ∃ unread, traffic.written = traffic.taken ++ unread ∧
        (Parcel.read traffic.cursor).1.toOption = unread.head? ∧
        (unread = [] → (Parcel.read traffic.cursor).2 = traffic.cursor)) ∧
      let c := (Cursor.ofOctets octets).runAll operations
      c.writeIndex = c.octets.length ∧ c.readIndex ≤ c.octets.length ∧
        octets <+: c.octets ∧ c.octets <+: (c.runAll later).octets := by
  refine ⟨?_, ?_⟩
  · intro traffic
    have hnew : Conserves {} [] := ⟨rfl, Cursor.carries_empty, fun _ h => absurd h List.not_mem_nil⟩
    obtain ⟨unread, hwritten, hcarries, hunread⟩ := hnew.run hsmall
    refine ⟨unread, hwritten, ?_⟩
    cases unread with
    | nil =>
      obtain ⟨error, hread⟩ := hcarries.read_none
      exact ⟨by rw [hread]; rfl, fun _ => by rw [hread]⟩
    | cons parcel unread =>
      obtain ⟨cursor, hread, -⟩ := hcarries.read (List.forall_mem_cons.1 hunread).1
      exact ⟨by rw [hread]; rfl, fun h => absurd h (List.cons_ne_nil _ _)⟩
  · intro c
    obtain ⟨more, hoctets, hc⟩ :=
      Cursor.runAll_holds ⟨rfl, Cursor.inOrder_ofOctets octets⟩ operations
    obtain ⟨added, hadded, -⟩ := Cursor.runAll_holds ⟨rfl, hc⟩ later
    exact ⟨hc.writeIndex_eq, hc.readIndex_le, ⟨more, hoctets.symm⟩, ⟨added, hadded.symm⟩⟩

/-- Three parcels, one of them without a payload.  The second read comes too early. -/
def interleaved : List Transfer :=
  [.write { requestType := 68, token := 1, payload := [0xFF, 0x01] }, .read, .read,
    .write { requestType := 69, token := 2, payload := [] },
    .write { requestType := 70, token := 3, payload := [0x00] }, .read]

theorem parcels_leave_in_order_interleaved :
    (∀ parcel, .write parcel ∈ interleaved → parcel.payload.length < frameLimit) ∧
      (run {} interleaved).taken.map (·.token) = [1, 2] ∧
      ∃ unread, (run {} interleaved).written = (run {} interleaved).taken ++ unread ∧
        (Parcel.read (run {} interleaved).cursor).1.toOption = unread.head? ∧
        [0x0A] <+: (((Cursor.ofOctets [0x0A]).runAll [.readOctet, .write [0x0B]]).runAll
          [.seek (-1), .write [0x0C]]).octets := by
  have hsmall : ∀ parcel, .write parcel ∈ interleaved → parcel.payload.length < frameLimit := by
    simp [interleaved, frameLimit]
  obtain ⟨⟨unread, hwritten, hnext, -⟩, -, -, hfirst, hlater⟩ :=
    parcels_leave_in_order interleaved hsmall [0x0A] [.readOctet, .write [0x0B]]
      [.seek (-1), .write [0x0C]]
  exact ⟨hsmall, by decide +kernel, unread, hwritten, hnext, hfirst.trans hlater⟩

end Traffic

end SimCard
