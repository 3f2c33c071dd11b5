import SimCard.Card.Files
import SimCard.Proofs.Parcels

/-!
# Loading and replacing one record

Between a reader of files and a channel stands `Channel.access`: it finds out where a file lies and
what its records are like, sends one command, and hands what comes back to a cursor in a frame.
This file says what each of these steps does, once, so that nothing later has to open them.

* A framed string that is written to a cursor from which everything has been read is what is read
  next, and then everything has been read again (`Cursor.Drained.readFrame_eq`).
* The octets by which a card describes a file (`FileDescription.yields_read`), and for a file of
  records how they are written and that there are no others
  (`FileDescription.ofOctets_recordReport`, `FileDescription.shape_eq_announced`).
* Loading and replacing a record as equations in the command that is sent
  (`Channel.loadRecord_of_locate`, `Channel.updateRecord_of_transmit`).
* `Channel.recorded` — a channel that writes down every command with its answer, for statements
  about what is asked of a card.
-/

set_option autoImplicit false

namespace SimCard

/-! ## Framed strings -/

namespace Cursor

variable {c c' : Cursor} {octets : Octets}

/-- Everything has been read, and what is written comes next. -/
structure Drained (c : Cursor) : Prop where
  readIndex_eq : c.readIndex = c.octets.length
  writeIndex_eq : c.writeIndex = c.octets.length

theorem drained_empty : empty.Drained := ⟨rfl, rfl⟩

theorem Drained.inOrder (h : c.Drained) : c.InOrder :=
  ⟨h.writeIndex_eq, Nat.le_of_eq h.readIndex_eq⟩

/-- What is written to a drained cursor can be taken off it, and drains it again. -/
theorem Drained.takes_write (h : c.Drained) (octets : Octets) :
    ∃ c', (c.write octets).Takes octets c' ∧ c'.Drained := by
  have hoctets := octets_write h.writeIndex_eq octets
  have hrest : (c.write octets).rest = octets ++ [] := by
    rw [h.inOrder.rest_write, rest, List.drop_eq_nil_iff.2 (Nat.le_of_eq h.readIndex_eq.symm),
      List.nil_append, List.append_nil]
  refine ⟨_, takes_of_rest_eq hrest, ?_, ?_⟩
  · rw [advance_octets, hoctets, advance_readIndex, List.length_append]
    exact congrArg (· + _) h.readIndex_eq
  · rw [advance_octets, hoctets, List.length_append]
    exact congrArg (· + _) h.writeIndex_eq

end Cursor

@[simp] theorem yields_liftM_card {α : Type} {x : Reader CursorError α} {c c' : Cursor} {a : α} :
    (liftM x : Reader CardError α).Yields c a c' ↔ x.Yields c a c' :=
  Step.yields_mapError

theorem readFrom_eq_ok_iff {α : Type} {octets : Octets} {x : Reader CardError α} {a : α} :
    readFrom octets x = .ok a ↔ ∃ c', x.Yields (.ofOctets octets) a c' := by
  constructor
  · intro h
    exact ⟨_, Prod.ext h rfl⟩
  · rintro ⟨c', h⟩
    exact congrArg Prod.fst h

/-- **A framed string is read back.** -/
theorem yields_readFrame {c c' : Cursor} {octets : Octets} (hlen : octets.length < frameLimit)
    (hc : c.readIndex ≤ c.octets.length) (h : c.Takes (framed octets) c') :
    readFrame.Yields c octets c' := by
  obtain ⟨c₁, c₂, hsize, hoctets, hdelimiter⟩ := h.framed_parts hlen hc
  simp only [readFrame, Step.yields_bind, yields_liftM_card, Step.yields_pure]
  exact ⟨_, c₁, hsize, octets, c₂, hoctets, (), c', hdelimiter, rfl, rfl⟩

/-- **A string that was framed and written to a drained cursor** is what is read next, and then the
cursor is drained again. -/
theorem Cursor.Drained.readFrame_eq {c buffer : Cursor} (h : c.Drained) {octets : Octets}
    (hlen : octets.length < frameLimit) (hbuffer : buffer = c.write (framed octets)) :
    ∃ c', readFrame buffer = (.ok octets, c') ∧ c'.Drained := by
  obtain ⟨c', htakes, hdrained⟩ := h.takes_write (framed octets)
  rw [hbuffer]
  exact ⟨c', yields_readFrame hlen (h.inOrder.write _).readIndex_le htakes, hdrained⟩

/-! ## Descriptions of files of records -/

namespace FileDescription

@[simp] theorem yields_liftM {α : Type} {x : Reader CursorError α} {c c' : Cursor} {a : α} :
    (liftM x : Reader FileError α).Yields c a c' ↔ x.Yields c a c' :=
  Step.yields_mapError

/-- **How a card describes a file**: two octets that say nothing, the size of the file, its
identifier, the mark of a file with data of its own, six octets about access and status, and the
layout. -/
def report (lead : Octets) (size file : UInt16) (access : Octets) (layout : UInt8) : Octets :=
  lead ++ word16Octets size ++ word16Octets file ++ elementaryMark :: access ++ [layout]

/-- **How a card describes a file of records**: the size of a record comes last. -/
def recordReport (lead : Octets) (size file : UInt16) (access : Octets) (recordSize : UInt8) :
    Octets :=
  report lead size file access Layout.linearFixed.code ++ [recordSize]

/-- The records that a description announces, read off its octets. -/
def announced (octets : Octets) : RecordShape :=
  let size := 256 * (octets.getD 2 0).toNat + (octets.getD 3 0).toNat
  let recordSize := (octets.getD 14 0).toNat
  { size := recordSize, count := min (size / recordSize) 254 }

theorem announced_size_le (octets : Octets) : (announced octets).size ≤ 255 :=
  Nat.le_of_lt_succ (UInt8.toNat_lt _)

theorem announced_count_le (octets : Octets) : (announced octets).count ≤ 254 :=
  Nat.min_le_right _ _

/-- A file that announces records announces records of at least one octet: one whose records have
none is taken to have no records. -/
theorem announced_size_pos {octets : Octets} (h : 1 ≤ (announced octets).count) :
    1 ≤ (announced octets).size := by
  change 1 ≤ (octets.getD 14 0).toNat
  change 1 ≤ min (_ / (octets.getD 14 0).toNat) 254 at h
  refine Nat.pos_of_ne_zero fun hzero => ?_
  rw [hzero, Nat.div_zero] at h
  omega

variable {c c' : Cursor} {description : FileDescription}

/-- **A description** is read exactly when it is a report, with the size of a record behind it
unless the file has no records. -/
theorem yields_read (hc : c.readIndex ≤ c.octets.length) :
    read.Yields c description c' ↔
      ∃ lead size file access layout c₁, lead.length = 2 ∧ access.length = 6 ∧
        c.Takes (report lead size file access layout) c₁ ∧
        (layout = Layout.transparent.code ∧ c₁ = c' ∧
            description = { file, size := size.toNat, layout, recordSize := 0 } ∨
          layout ≠ Layout.transparent.code ∧ ∃ recordSize : UInt8, c₁.Takes [recordSize] c' ∧
            description =
              { file, size := size.toNat, layout, recordSize := recordSize.toNat }) := by
  constructor
  · intro h
    simp only [read, Step.yields_bind, yields_liftM, Cursor.yields_skip 2 (by decide) hc,
      Cursor.yields_readWord16, Cursor.yields_readOctet] at h
    obtain ⟨-, c₁, ⟨lead, hlead, h₁⟩, size, c₂, h₂, file, c₃, h₃, kind, c₄, h₄, h⟩ := h
    split at h
    · exact absurd h Step.not_yields_fail
    · rename_i hkind
      have hc₄ := h₄.within (h₃.within (h₂.within (h₁.within hc)))
      simp only [Step.yields_bind, yields_liftM, Cursor.yields_skip 6 (by decide) hc₄,
        Cursor.yields_readOctet] at h
      obtain ⟨-, c₅, ⟨access, haccess, h₅⟩, layout, c₆, h₆, h⟩ := h
      obtain rfl := Decidable.not_not.1 hkind
      have hreport : c.Takes (report lead size file access layout) c₆ := by
        rw [report, List.append_assoc (_ ++ _ ++ _)]
        exact ((h₁.append h₂).append h₃).append (h₄.append (h₅.append h₆))
      refine ⟨lead, size, file, access, layout, c₆, hlead, haccess, hreport, ?_⟩
      split at h
      · obtain ⟨rfl, rfl⟩ := Step.yields_pure.1 h
        exact .inl ⟨‹_›, rfl, rfl⟩
      · simp only [Step.yields_bind, yields_liftM, Cursor.yields_readOctet,
          Step.yields_pure] at h
        obtain ⟨recordSize, c₇, h₇, rfl, rfl⟩ := h
        exact .inr ⟨‹_›, recordSize, h₇, rfl⟩
  · rintro ⟨lead, size, file, access, layout, c₆, hlead, haccess, h, htail⟩
    rw [report, List.append_assoc (_ ++ _ ++ _), Cursor.takes_append, List.cons_append] at h
    obtain ⟨c₃, h, haccessed⟩ := h
    obtain ⟨c₂, h, h₃⟩ := Cursor.takes_append.1 h
    obtain ⟨c₁, h₁, h₂⟩ := Cursor.takes_append.1 h
    obtain ⟨c₄, h₄, haccessed⟩ := Cursor.takes_cons.1 haccessed
    obtain ⟨c₅, h₅, h₆⟩ := Cursor.takes_append.1 haccessed
    have hc₄ := h₄.within (h₃.within (h₂.within (h₁.within hc)))
    simp only [read, Step.yields_bind, yields_liftM, Cursor.yields_skip 2 (by decide) hc,
      Cursor.yields_readWord16, Cursor.yields_readOctet]
    refine ⟨(), c₁, ⟨lead, hlead, h₁⟩, size, c₂, h₂, file, c₃, h₃, _, c₄, h₄, ?_⟩
    rw [if_neg (by simp)]
    simp only [Step.yields_bind, yields_liftM, Cursor.yields_skip 6 (by decide) hc₄,
      Cursor.yields_readOctet]
    refine ⟨(), c₅, ⟨access, haccess, h₅⟩, layout, c₆, h₆, ?_⟩
    rcases htail with ⟨hlayout, rfl, rfl⟩ | ⟨hlayout, recordSize, h₇, rfl⟩
    · rw [if_pos hlayout]
      exact Step.yields_pure.2 ⟨rfl, rfl⟩
    · rw [if_neg hlayout]
      simp only [Step.yields_bind, yields_liftM, Cursor.yields_readOctet, Step.yields_pure]
      exact ⟨recordSize, c', h₇, rfl, rfl⟩

/-- A description is read as one of a file of records exactly when it is one. -/
theorem yields_read_linearFixed (hc : c.readIndex ≤ c.octets.length) :
    read.Yields c description c' ∧ description.layout = Layout.linearFixed.code ↔
      ∃ lead size file access recordSize, lead.length = 2 ∧ access.length = 6 ∧
        c.Takes (recordReport lead size file access recordSize) c' ∧
        description = { file, size := size.toNat, layout := Layout.linearFixed.code
                        recordSize := recordSize.toNat } := by
  simp only [yields_read hc, recordReport, Cursor.takes_append]
  constructor
  · rintro ⟨⟨lead, size, file, access, layout, c₁, hlead, haccess, hreport, htail⟩, hlayout⟩
    rcases htail with ⟨htransparent, -, rfl⟩ | ⟨-, recordSize, hrecordSize, rfl⟩
    · exact absurd (htransparent.symm.trans hlayout) (by decide)
    · obtain rfl : layout = Layout.linearFixed.code := hlayout
      exact ⟨lead, size, file, access, recordSize, hlead, haccess, ⟨c₁, hreport, hrecordSize⟩, rfl⟩
  · rintro ⟨lead, size, file, access, recordSize, hlead, haccess, ⟨c₁, hreport, hrecordSize⟩, rfl⟩
    exact ⟨⟨lead, size, file, access, _, c₁, hlead, haccess, hreport,
      .inr ⟨by decide, recordSize, hrecordSize, rfl⟩⟩, rfl⟩

/-- **A card's description of a file of records is understood.** -/
theorem ofOctets_recordReport {lead access : Octets} (hlead : lead.length = 2)
    (haccess : access.length = 6) (size file : UInt16) (recordSize : UInt8) (tail : Octets) :
    ofOctets (recordReport lead size file access recordSize ++ tail) =
      .ok { file, size := size.toNat, layout := Layout.linearFixed.code
            recordSize := recordSize.toNat } := by
  have htakes := Cursor.takes_of_rest_eq
    (c := Cursor.ofOctets (recordReport lead size file access recordSize ++ tail)) rfl
  have hread := (yields_read_linearFixed (Nat.zero_le _)).2
    ⟨lead, size, file, access, recordSize, hlead, haccess, htakes, rfl⟩
  exact congrArg Prod.fst hread.1

theorem announced_recordReport {lead access : Octets} (hlead : lead.length = 2)
    (haccess : access.length = 6) (size file : UInt16) (recordSize : UInt8) (tail : Octets) :
    announced (recordReport lead size file access recordSize ++ tail) =
      { size := recordSize.toNat, count := min (size.toNat / recordSize.toNat) 254 } := by
  have hsize : 256 * (UInt8.ofNat (size.toNat / 256)).toNat + (UInt8.ofNat size.toNat).toNat =
      size.toNat := by
    have hlt := size.toNat_lt
    rw [UInt8.toNat_ofNat', UInt8.toNat_ofNat']
    omega
  match lead, hlead, access, haccess with
  | [_, _], _, [_, _, _, _, _, _], _ =>
    change ({ size := recordSize.toNat
              count := min ((256 * (UInt8.ofNat (size.toNat / 256)).toNat +
                (UInt8.ofNat size.toNat).toNat) / recordSize.toNat) 254 } : RecordShape) = _
    rw [hsize]

/-- What is understood as the description of a file of records announces just those records. -/
theorem shape_eq_announced {octets : Octets} (h : ofOctets octets = .ok description)
    (hlayout : description.layout = Layout.linearFixed.code) :
    description.shape = announced octets := by
  have hread : read.Yields (Cursor.ofOctets octets) description
      (read (Cursor.ofOctets octets)).2 := Prod.ext h rfl
  obtain ⟨lead, size, file, access, recordSize, hlead, haccess, htakes, rfl⟩ :=
    (yields_read_linearFixed (Nat.zero_le _)).1 ⟨hread, hlayout⟩
  have hoctets : octets = recordReport lead size file access recordSize ++ _ := htakes.rest_eq
  rw [hoctets, announced_recordReport hlead haccess]
  rfl

end FileDescription

/-- The records of a file can be asked for: their numbers and their sizes fit into an octet each,
and if there are any then they have octets. -/
structure RecordShape.Bounded (shape : RecordShape) : Prop where
  size_le : shape.size ≤ 255
  count_le : shape.count ≤ 254
  size_pos : 1 ≤ shape.count → 1 ≤ shape.size

/-! ## Through a channel -/

namespace Channel

variable {σ : Type} {channel : Channel σ} {application : Application} {s s' : Loading σ}
  {path : String} {shape : RecordShape}

/-- The data of an answer, if it came and ends normally. -/
def dataOf : Except FileError CardAnswer → Option Octets
  | .ok answer => if Status.isSuccess answer.status then some answer.data else none
  | .error _ => none

/-- What an answer tells of a file that is laid out as expected. -/
def descriptionOf (expected : Layout) (answer : Except FileError CardAnswer) :
    Option FileDescription := do
  let data ← dataOf answer
  match FileDescription.ofOctets data with
  | .ok description => if description.layout = expected.code then some description else none
  | .error _ => none

theorem descriptionOf_eq_some_iff {expected : Layout} {answer : Except FileError CardAnswer}
    {description : FileDescription} :
    descriptionOf expected answer = some description ↔
      ∃ data, dataOf answer = some data ∧ FileDescription.ofOctets data = .ok description ∧
        description.layout = expected.code := by
  rw [descriptionOf, Option.bind_eq_bind, Option.bind_eq_some_iff]
  refine exists_congr fun data => and_congr_right fun _ => ?_
  cases FileDescription.ofOctets data with
  | error error => simp
  | ok found =>
    by_cases hlayout : found.layout = expected.code
    · simp only [if_pos hlayout, Option.some.injEq, Except.ok.injEq]
      constructor
      · rintro rfl
        exact ⟨rfl, hlayout⟩
      · exact And.left
    · simp only [if_neg hlayout, reduceCtorEq, Except.ok.injEq, false_iff, not_and]
      rintro rfl
      exact hlayout

/-- The records that an answer tells of, if it is the description of a file of records. -/
def shapeOf (answer : Except FileError CardAnswer) : Option RecordShape :=
  (descriptionOf .linearFixed answer).map (·.shape)

/-- The records that an answer tells of can be asked for. -/
theorem bounded_of_shapeOf {answer : Except FileError CardAnswer}
    (h : shapeOf answer = some shape) : shape.Bounded := by
  rw [shapeOf] at h
  obtain ⟨description, htold, rfl⟩ := Option.map_eq_some_iff.1 h
  obtain ⟨data, -, hoctets, hlayout⟩ := descriptionOf_eq_some_iff.1 htold
  rw [FileDescription.shape_eq_announced hoctets hlayout]
  exact ⟨FileDescription.announced_size_le data, FileDescription.announced_count_le data,
    FileDescription.announced_size_pos⟩

/-- **A command succeeds with the data of its answer**, and otherwise it fails; the card is what the
channel has left. -/
theorem transmit_cases (channel : Channel σ) (command : FileCommand) (card : σ) :
    (∃ data, dataOf (channel command card).1 = some data ∧
        transmit channel command card = (.ok data, (channel command card).2)) ∨
      dataOf (channel command card).1 = none ∧
        ∃ error, transmit channel command card = (.error error, (channel command card).2) := by
  rw [transmit, Step.bind_apply]
  match channel command card with
  | (.error error, card') => exact .inr ⟨rfl, error, rfl⟩
  | (.ok answer, card') =>
    by_cases hstatus : Status.isSuccess answer.status = true
    · refine .inl ⟨answer.data, if_pos hstatus, ?_⟩
      simp only [if_pos hstatus]
      rfl
    · refine .inr ⟨if_neg hstatus, .status command.instruction command.file answer.status, ?_⟩
      simp only [if_neg hstatus]
      rfl

theorem transmit_of_success {command : FileCommand} {card card' : σ} {data : Octets}
    (h : channel command card = (.ok { data, status := 0x9000 }, card')) :
    transmit channel command card = (.ok data, card') := by
  have hstatus : Status.isSuccess 0x9000 = true := by decide
  simp only [transmit, Step.bind_apply, h, if_pos hstatus]
  rfl

/-- **The card describes a file that is laid out as expected**, or the description fails. -/
theorem describe_layout_cases (channel : Channel σ) (file : UInt16) (path : String)
    (expected : Layout) (card : σ) :
    (∃ description,
        descriptionOf expected (channel (.describe file path) card).1 = some description ∧
        describe channel file path expected card =
          (.ok description, (channel (.describe file path) card).2)) ∨
      descriptionOf expected (channel (.describe file path) card).1 = none ∧
        ∃ error, describe channel file path expected card =
          (.error error, (channel (.describe file path) card).2) := by
  rw [describe, Step.bind_apply]
  rcases transmit_cases channel (.describe file path) card with
    ⟨data, hdata, htransmit⟩ | ⟨hdata, error, htransmit⟩
  · simp only [htransmit, Step.bind_apply, Step.ofExcept, descriptionOf, hdata,
      Option.bind_eq_bind, Option.bind_some]
    cases FileDescription.ofOctets data with
    | error error => exact .inr ⟨rfl, error, rfl⟩
    | ok description =>
      by_cases hlayout : description.layout = expected.code
      · refine .inl ⟨description, if_pos hlayout, ?_⟩
        simp only [if_pos hlayout, Step.pure_apply]
      · refine .inr ⟨if_neg hlayout, .unexpectedLayout file expected.code description.layout, ?_⟩
        simp only [if_neg hlayout, Step.fail_apply]
  · refine .inr ⟨?_, error, by simp only [htransmit]⟩
    simp only [descriptionOf, hdata, Option.bind_eq_bind, Option.bind_none]

/-- The card describes a file of records, or the description fails. -/
theorem describe_cases (channel : Channel σ) (file : UInt16) (path : String) (card : σ) :
    (∃ data description, dataOf (channel (.describe file path) card).1 = some data ∧
        shapeOf (channel (.describe file path) card).1 = some description.shape ∧
        description.shape = FileDescription.announced data ∧
        describe channel file path .linearFixed card =
          (.ok description, (channel (.describe file path) card).2)) ∨
      shapeOf (channel (.describe file path) card).1 = none ∧
        ∃ error, describe channel file path .linearFixed card =
          (.error error, (channel (.describe file path) card).2) := by
  rw [shapeOf]
  rcases describe_layout_cases channel file path .linearFixed card with
    ⟨description, htold, hdescribe⟩ | ⟨htold, error, hdescribe⟩
  · obtain ⟨data, hdata, hoctets, hlayout⟩ := descriptionOf_eq_some_iff.1 htold
    exact .inl ⟨data, description, hdata, congrArg (Option.map _) htold,
      FileDescription.shape_eq_announced hoctets hlayout, hdescribe⟩
  · exact .inr ⟨congrArg (Option.map _) htold, error, hdescribe⟩

/-- Whether the file has the record that is asked for, by the shape that the request knows. -/
theorem locate_of_known (hpath : pathOf application s.request = .ok path)
    (hshape : s.request.shape = some shape) :
    locate channel application s =
      (if s.request.record = 0 ∨ shape.count < s.request.record.toNat then
          .error (.recordOutOfRange s.request.file s.request.record shape.count)
        else .ok (path, shape), s) := by
  simp only [locate, recordShape, Step.bind_apply, Step.get, Step.ofExcept, hpath, hshape,
    Step.pure_apply]
  split <;> rfl

/-- The file has the record that is asked for, by the shape that the request knows. -/
theorem locate_of_shape (hpath : pathOf application s.request = .ok path)
    (hshape : s.request.shape = some shape) (hpos : s.request.record ≠ 0)
    (hle : s.request.record.toNat ≤ shape.count) :
    locate channel application s = (.ok (path, shape), s) := by
  have hrange : ¬ (s.request.record = 0 ∨ shape.count < s.request.record.toNat) := by
    rintro (hzero | hlt)
    · exact hpos hzero
    · omega
  rw [locate_of_known hpath hshape, if_neg hrange]

/-- A request that does not know the shape of the file learns it from the card. -/
theorem locate_of_describe (hpath : pathOf application s.request = .ok path)
    (hshape : s.request.shape = none) {description : FileDescription} {card : σ}
    (hdescribe : describe channel s.request.file path .linearFixed s.card =
      (.ok description, card)) :
    locate channel application s =
      (if s.request.record = 0 ∨ description.shape.count < s.request.record.toNat then
          .error (.recordOutOfRange s.request.file s.request.record description.shape.count)
        else .ok (path, description.shape),
        { s with card, request := { s.request with shape := some description.shape } }) := by
  simp only [locate, recordShape, Step.bind_apply, Step.get, Step.ofExcept, hpath, hshape,
    Loading.onCard, hdescribe, Step.modify, Step.pure_apply]
  split <;> rfl

theorem locate_of_describe_error (hpath : pathOf application s.request = .ok path)
    (hshape : s.request.shape = none) {error : FileError} {card : σ}
    (hdescribe : describe channel s.request.file path .linearFixed s.card =
      (.error error, card)) :
    locate channel application s = (.error error, { s with card }) := by
  simp only [locate, recordShape, Step.bind_apply, Step.get, Step.ofExcept, hpath, hshape,
    Loading.onCard, hdescribe]

theorem access_loadRecord (channel : Channel σ) (application : Application) :
    (channel.access application).loadRecord = loadRecord channel application := rfl

theorem access_loadNext (channel : Channel σ) (application : Application) :
    (channel.access application).loadNext = Loading.next (loadRecord channel application) := rfl

theorem access_repeats (channel : Channel σ) (application : Application) :
    (channel.access application).repeats = 0 := rfl

theorem loadRecord_of_locate_error {error : FileError}
    (hlocate : locate channel application s = (.error error, s')) :
    loadRecord channel application s = (.error error, s') := by
  simp only [loadRecord, Step.bind_apply, hlocate]

/-- **Loading a record that is there** is one command, whose data are delivered in a frame. -/
theorem loadRecord_of_locate (hlocate : locate channel application s = (.ok (path, shape), s')) :
    loadRecord channel application s =
      match transmit channel { FileCommand.readRecord s'.request.file path s'.request.record
          (UInt8.ofNat (min shape.size 0xFF)) with pin2 := s'.request.pin2 } s'.card with
      | (.ok octets, card) =>
        (.ok shape, { s' with card, buffer := s'.buffer.write (framed octets) })
      | (.error error, card) => (.error error, { s' with card }) := by
  simp only [loadRecord, Step.bind_apply, hlocate, Step.get, Loading.onCard]
  generalize transmit channel _ s'.card = result
  obtain ⟨outcome, card⟩ := result
  cases outcome with
  | ok octets => rfl
  | error error => rfl

theorem updateRecord_of_locate_error (make : Nat → Octets) {error : FileError}
    (hlocate : locate channel application s = (.error error, s')) :
    updateRecord channel application make s = (.error error, s') := by
  simp only [updateRecord, Step.bind_apply, hlocate]

/-- **Replacing a record that is there** is one command, with as many octets as the record has. -/
theorem updateRecord_of_locate (make : Nat → Octets)
    (hlocate : locate channel application s = (.ok (path, shape), s')) :
    updateRecord channel application make s =
      match transmit channel { FileCommand.updateRecord s'.request.file path s'.request.record
          (resize shape.size (make shape.size)) with pin2 := s'.request.pin2 } s'.card with
      | (.ok _, card) => (.ok shape.size, { s' with card })
      | (.error error, card) => (.error error, { s' with card }) := by
  simp only [updateRecord, Step.bind_apply, hlocate, Step.get, Loading.onCard]
  generalize transmit channel _ s'.card = result
  obtain ⟨outcome, card⟩ := result
  cases outcome with
  | ok octets => rfl
  | error error => rfl

theorem updateRecord_of_transmit (make : Nat → Octets) {reply : Octets} {card : σ}
    (hlocate : locate channel application s = (.ok (path, shape), s'))
    (htransmit : transmit channel { FileCommand.updateRecord s'.request.file path s'.request.record
      (resize shape.size (make shape.size)) with pin2 := s'.request.pin2 } s'.card =
      (.ok reply, card)) :
    updateRecord channel application make s = (.ok shape.size, { s' with card }) := by
  rw [updateRecord_of_locate make hlocate, htransmit]

/-- A record is replaced by as many octets as it has. -/
theorem length_resize (size : Nat) (octets : Octets) : (resize size octets).length = size := by
  rw [resize, List.length_append, List.length_take, List.length_replicate]
  omega

theorem resize_eq_self {size : Nat} {octets : Octets} (h : octets.length = size) :
    resize size octets = octets := by
  rw [resize, h, Nat.sub_self, List.replicate_zero, List.append_nil, ← h, List.take_length]

end Channel

/-! ## What is asked of a card -/

/-- A command, and what became of it. -/
structure Exchange where
  command : FileCommand
  answer : Except FileError CardAnswer

/-- The data that came back, if the command succeeded. -/
def Exchange.data? (exchange : Exchange) : Option Octets := Channel.dataOf exchange.answer

/-- **The channel that writes down what is asked of it**, the earliest first. -/
def Channel.recorded {σ : Type} (channel : Channel σ) : Channel (σ × List Exchange) :=
  fun command (card, log) =>
    let (answer, card) := channel command card
    (answer, card, log ++ [{ command, answer }])

theorem Channel.recorded_apply {σ : Type} {channel : Channel σ} {command : FileCommand}
    {card card' : σ} {answer : Except FileError CardAnswer}
    (h : channel command card = (answer, card')) (log : List Exchange) :
    channel.recorded command (card, log) = (answer, card', log ++ [⟨command, answer⟩]) := by
  rw [recorded, h]

end SimCard
