import SimCard.Proofs.RecordWalks

/-!
# Files whose records are all there

A walk goes through the records of a file by way of a request and a buffer, and may be stopped at
any moment by whoever carries the request out.  If nobody stops it, nothing of this shows.

* `FileAccess.Provides` says of an access that it has the records of a file: whichever of them is
  asked for is delivered, in a frame, and so is the one after it; and the file is told in its true
  shape.  An access that counts up needs the first of these only (`FileAccess.Loads.goesOn`).
* `Records.visitAll` is the walk without request and buffer: the records are visited in turn.
* **A walk through a file that is provided is a visit to all its records**
  (`FileAccess.Provides.walk_eq`), whether the visit goes through, has enough or complains.
-/

set_option autoImplicit false

namespace SimCard

variable {σ α : Type}

namespace Records

/-- **Visit records in turn**, from a number on, until the visit has enough or complains. -/
def visitAll (visit : Visit α) (shape : RecordShape) : Nat → α → List Octets → Except CardError α
  | _, acc, [] => .ok acc
  | number, acc, octets :: records =>
    match visit acc shape (UInt8.ofNat number) octets with
    | .error error => .error error
    | .ok (acc, false) => .ok acc
    | .ok (acc, true) => visitAll visit shape (number + 1) acc records

/-- Records that the visit accepts are visited to the last. -/
theorem Accepts.visitAll_eq {visit : Visit α} {shape : RecordShape} {number : Nat} {acc acc' : α}
    {records : List Octets} (h : Accepts visit shape number acc records acc') :
    visitAll visit shape number acc records = .ok acc' := by
  induction h with
  | nil number acc => rfl
  | cons hvisit hrest ih =>
    rw [visitAll, hvisit]
    exact ih

end Records

namespace FileAccess

/-- As long as `Holds` says so of the card, each of the records can be asked for, by a request that
knows nothing of the file or its true shape. -/
def Loads (access : FileAccess σ) (file : UInt16) (shape : RecordShape) (records : List Octets)
    (Holds : σ → Prop) : Prop :=
  ∀ ⦃card⦄, Holds card → ∀ ⦃k octets⦄, records[k]? = some octets →
    ∀ ⦃known : Option RecordShape⦄, known = none ∨ known = some shape → ∀ buffer, ∃ card',
    access.loadRecord
        { request := { file, record := UInt8.ofNat (k + 1), shape := known }, buffer, card } =
      (.ok shape, { request := Records.requestFor file shape (k + 1)
                    buffer := buffer.write (framed octets), card := card' }) ∧
    Holds card'

/-- From each of the records the request can go on to the next one, if there is one. -/
def GoesOn (access : FileAccess σ) (file : UInt16) (shape : RecordShape) (records : List Octets)
    (Holds : σ → Prop) : Prop :=
  ∀ ⦃s : Loading σ⦄ ⦃number octets⦄, s.request = Records.requestFor file shape number →
    Holds s.card → records[number]? = some octets → ∃ card',
    access.loadNext s =
      (.ok shape, { request := Records.requestFor file shape (number + 1)
                    buffer := s.buffer.write (framed octets), card := card' }) ∧
    Holds card'

/-- An access that counts up goes on to a record by asking for it. -/
theorem Loads.goesOn {access : FileAccess σ} {file : UInt16} {shape : RecordShape}
    {records : List Octets} {Holds : σ → Prop} (h : access.Loads file shape records Holds)
    (hcount : records.length ≤ 254) (hnext : access.loadNext = Loading.next access.loadRecord) :
    access.GoesOn file shape records Holds := by
  intro s number octets hrequest hholds hoctets
  have hlt := (List.getElem?_eq_some_iff.1 hoctets).1
  have hnumber : s.request.record.toNat = number := by
    rw [hrequest]
    exact UInt8.toNat_ofNat_of_lt' (by change _ < 256; omega)
  rw [hnext, Loading.next_of_lt (by omega), hnumber, hrequest]
  exact (h hholds hoctets (.inr rfl) s.buffer :)

/-- **An access that has the records of a file.** -/
structure Provides (access : FileAccess σ) (file : UInt16) (shape : RecordShape)
    (records : List Octets) (Holds : σ → Prop) : Prop where
  count_eq : shape.count = records.length
  count_pos : 1 ≤ records.length
  count_le : records.length ≤ 254
  length_lt : ∀ octets ∈ records, octets.length < frameLimit
  loads : access.Loads file shape records Holds
  goesOn : access.GoesOn file shape records Holds

namespace Provides

variable {access : FileAccess σ} {file : UInt16} {shape : RecordShape} {records : List Octets}
  {Holds : σ → Prop} {visit : Records.Visit α}

/-- **A walk goes on** from a record that is loaded as a visit to the records from there on. -/
theorem walkFrom_eq (h : access.Provides file shape records Holds) {fuel k : Nat} {acc : α}
    {s : Loading σ} {c : Cursor} {octets : Octets} (hfuel : records.length ≤ k + fuel)
    (hoctets : records[k]? = some octets)
    (hrequest : s.request = Records.requestFor file shape (k + 1)) (hdrained : c.Drained)
    (hbuffer : s.buffer = c.write (framed octets)) (hholds : Holds s.card) :
    ∃ s', Records.walkFrom access visit fuel shape acc s =
        (Records.visitAll visit shape (k + 1) acc (records.drop k), s') ∧ Holds s'.card := by
  induction fuel generalizing k acc s c octets with
  | zero =>
    have hlt := (List.getElem?_eq_some_iff.1 hoctets).1
    omega
  | succ fuel ih =>
    obtain ⟨hlt, hget⟩ := List.getElem?_eq_some_iff.1 hoctets
    have hcount := h.count_eq
    have hbound := h.count_le
    have hrecord : s.request.record = UInt8.ofNat (k + 1) := by
      rw [hrequest]
      rfl
    have hnumber : (UInt8.ofNat (k + 1)).toNat = k + 1 :=
      UInt8.toNat_ofNat_of_lt' (by change _ < 256; omega)
    obtain ⟨c', hread, hdrained'⟩ :=
      hdrained.readFrame_eq (h.length_lt octets (List.mem_of_getElem? hoctets)) hbuffer
    rw [List.drop_eq_getElem_cons hlt, hget, Records.visitAll,
      Records.walkFrom_of_readFrame hread, hrecord, hnumber]
    rcases visit acc shape (UInt8.ofNat (k + 1)) octets with error | ⟨acc', _ | _⟩
    · exact ⟨_, rfl, hholds⟩
    · exact ⟨_, rfl, hholds⟩
    · by_cases hlast : min shape.count 254 ≤ k + 1
      · rw [List.drop_eq_nil_of_le (by omega)]
        exact ⟨_, if_pos hlast, hholds⟩
      · have hnext : records[k + 1]? = some (records.get ⟨k + 1, by omega⟩) :=
          List.getElem?_eq_getElem _
        obtain ⟨card', hload, hholds'⟩ :=
          h.goesOn (s := { s with buffer := c' }) hrequest hholds hnext
        simp only [if_neg hlast, hload]
        exact ih (by omega) hnext rfl hdrained' rfl hholds'

/-- **A walk through a file that is provided is a visit to all its records.** -/
theorem walk_eq (h : access.Provides file shape records Holds) {card : σ} (hholds : Holds card)
    (init : α) :
    ∃ card', Records.walk access file visit init card =
        (Records.visitAll visit shape 1 init records, card') ∧ Holds card' := by
  have hpos := h.count_pos
  have hbound := h.count_le
  have hfirst : records[0]? = some (records.get ⟨0, by omega⟩) := List.getElem?_eq_getElem _
  obtain ⟨card₁, hload, hholds₁⟩ := h.loads hholds hfirst (.inl rfl) .empty
  have hfuel : records.length ≤ 0 + (greatestRecord + access.repeats) := by
    rw [greatestRecord]
    omega
  obtain ⟨s, hwalk, hholds'⟩ : ∃ s, Records.walkFrom access visit
      (greatestRecord + access.repeats) shape init
      { request := Records.requestFor file shape 1
        buffer := Cursor.empty.write (framed _), card := card₁ } =
      (Records.visitAll visit shape 1 init records, s) ∧ Holds s.card :=
    h.walkFrom_eq hfuel hfirst rfl Cursor.drained_empty rfl hholds₁
  refine ⟨s.card, ?_, hholds'⟩
  have hload' : access.loadRecord { request := { file }, buffer := .empty, card } = _ := hload
  rw [Records.walk_apply, hload']
  change ((Records.walkFrom _ visit (greatestRecord + access.repeats) shape init _).1, _) = _
  rw [hwalk]

end Provides

end FileAccess

end SimCard
