import SimCard.Card.Simulated
import SimCard.Proofs.ProvidedRecords

/-!
# Cards that keep a file of records

Most of what is said about reading holds of any card whatever.  That what is written is read back
takes a card that keeps it, and this file says what that means: `Channel.Serves` is what a channel
shows of a card that describes a directory file, brings its records and replaces them.

* A file that is served is located and its records are loaded (`Channel.Serves.locate_eq`,
  `Channel.Serves.loadRecord_eq`), so it is provided to every reader (`Channel.Serves.provides`) and
  a walk through it comes to its end (`Channel.Serves.walk_eq`).
* Writing down what is asked changes none of this (`Channel.Serves.recorded`).
* The simulated card is such a card (`SimulatedCard.serves`).

What a card is like inside does not matter: `Holds` relates its states to the records they hold.
-/

set_option autoImplicit false

namespace SimCard

/-! ## Directory files -/

/-- **A directory file**: where it lies, and the shape of its records.  Its records can hold a
number, can be asked for, and can be described in two octets. -/
structure DirectoryFile (application : Application) where
  file : UInt16
  path : String
  shape : RecordShape
  path_eq : Path.of? file application = some path
  footer_le : 14 ≤ shape.size
  size_le : shape.size ≤ 255
  count_pos : 1 ≤ shape.count
  count_le : shape.count ≤ 254
  total_le : shape.count * shape.size ≤ 65535

namespace DirectoryFile

variable {application : Application} (directory : DirectoryFile application)

/-- The shape of the file can be told from its size and that of a record. -/
theorem shape_description (identifier : UInt16) :
    FileDescription.shape
      { file := identifier
        size := (UInt16.ofNat (directory.shape.count * directory.shape.size)).toNat
        layout := Layout.linearFixed.code
        recordSize := (UInt8.ofNat directory.shape.size).toNat } = directory.shape := by
  have hsize : (UInt8.ofNat directory.shape.size).toNat = directory.shape.size :=
    UInt8.toNat_ofNat_of_lt' (Nat.lt_succ_of_le directory.size_le)
  have htotal : (UInt16.ofNat (directory.shape.count * directory.shape.size)).toNat =
      directory.shape.count * directory.shape.size :=
    UInt16.toNat_ofNat_of_lt' (Nat.lt_succ_of_le directory.total_le)
  have hpos : 0 < directory.shape.size := Nat.lt_of_lt_of_le (by decide) directory.footer_le
  rw [FileDescription.shape, hsize, htotal, Nat.mul_div_cancel _ hpos, greatestRecord,
    Nat.min_eq_left directory.count_le]

/-- The number of a record takes an octet. -/
theorem toNat_number {k : Nat} (hk : k < directory.shape.count) :
    (UInt8.ofNat (k + 1)).toNat = k + 1 := by
  have hcount := directory.count_le
  exact UInt8.toNat_ofNat_of_lt' (by change _ < 256; omega)

theorem number_ne_zero {k : Nat} (hk : k < directory.shape.count) : UInt8.ofNat (k + 1) ≠ 0 := by
  intro hzero
  have hnat := directory.toNat_number hk
  rw [hzero] at hnat
  exact absurd hnat (by simp)

end DirectoryFile

/-- The command that replaces a record. -/
def Records.updateCommand (file : UInt16) (path : String) (number : Nat) (octets : Octets)
    (pin2 : Option String) : FileCommand :=
  { FileCommand.updateRecord file path (UInt8.ofNat number) octets with pin2 }

/-! ## Cards that serve a directory file -/

/-- **A card that keeps a directory file**, as far as a channel shows: it describes the file, brings
its records and replaces them, each time with a plain normal ending.  `Holds card records` says what
the records of the file are. -/
structure Channel.Serves {σ : Type} (channel : Channel σ) {application : Application}
    (directory : DirectoryFile application) (Holds : σ → List Octets → Prop) : Prop where
  length_eq : ∀ {card records}, Holds card records → records.length = directory.shape.count
  record_length : ∀ {card records}, Holds card records →
    ∀ octets ∈ records, octets.length = directory.shape.size
  describes : ∀ {card records}, Holds card records → ∃ lead identifier access tail card',
    lead.length = 2 ∧ access.length = 6 ∧
    channel (.describe directory.file directory.path) card =
      (.ok { data := FileDescription.recordReport lead
              (UInt16.ofNat (directory.shape.count * directory.shape.size)) identifier access
              (UInt8.ofNat directory.shape.size) ++ tail
             status := 0x9000 }, card') ∧
    Holds card' records
  reads : ∀ {card records}, Holds card records → ∀ k octets, records[k]? = some octets → ∃ card',
    channel (Records.readCommand directory.file directory.path directory.shape.size (k + 1)) card =
      (.ok { data := octets, status := 0x9000 }, card') ∧
    Holds card' records
  replaces : ∀ {card records}, Holds card records → ∀ k < records.length, ∀ octets pin2,
    octets.length = directory.shape.size → ∃ reply card',
    channel (Records.updateCommand directory.file directory.path (k + 1) octets pin2) card =
      (.ok { data := reply, status := 0x9000 }, card') ∧
    Holds card' (records.set k octets)

namespace Channel

namespace Serves

variable {σ : Type} {channel : Channel σ} {application : Application}
  {directory : DirectoryFile application} {Holds : σ → List Octets → Prop} {card : σ}
  {records : List Octets}

/-- The description of the file tells its true shape. -/
theorem describe_eq (h : channel.Serves directory Holds) (hholds : Holds card records) :
    ∃ description, Channel.describe channel directory.file directory.path .linearFixed card =
        (.ok description, (channel (.describe directory.file directory.path) card).2) ∧
      description.shape = directory.shape ∧
      Holds (channel (.describe directory.file directory.path) card).2 records := by
  obtain ⟨lead, identifier, access, tail, card', hlead, haccess, hanswer, hholds'⟩ :=
    h.describes hholds
  have hoctets := FileDescription.ofOctets_recordReport hlead haccess
    (UInt16.ofNat (directory.shape.count * directory.shape.size)) identifier
    (UInt8.ofNat directory.shape.size) tail
  rw [hanswer]
  refine ⟨_, ?_, directory.shape_description identifier, hholds'⟩
  simp only [Channel.describe, Step.bind_apply, transmit_of_success hanswer, Step.ofExcept, hoctets,
    if_pos, Step.pure_apply]

/-- A request for a record of the file learns the shape of the file. -/
theorem locate_eq (h : channel.Serves directory Holds) (hholds : Holds card records)
    (pin2 : Option String) (buffer : Cursor) {k : Nat} (hk : k < records.length) :
    Channel.locate channel application
        { request := { file := directory.file, record := UInt8.ofNat (k + 1), pin2 }
          buffer, card } =
        (.ok (directory.path, directory.shape),
          { request := { file := directory.file, record := UInt8.ofNat (k + 1), pin2
                         shape := some directory.shape }
            buffer, card := (channel (.describe directory.file directory.path) card).2 }) ∧
      Holds (channel (.describe directory.file directory.path) card).2 records := by
  obtain ⟨description, hdescribe, hdescription, hholds'⟩ := h.describe_eq hholds
  rw [h.length_eq hholds] at hk
  have hrange : ¬ (UInt8.ofNat (k + 1) = 0 ∨
      directory.shape.count < (UInt8.ofNat (k + 1)).toNat) := by
    rw [directory.toNat_number hk]
    rintro (hzero | hlt)
    · exact directory.number_ne_zero hk hzero
    · omega
  have hlocate := Channel.locate_of_describe
    (s := { request := { file := directory.file, record := UInt8.ofNat (k + 1), pin2 }
            buffer, card })
    (Records.pathOf_of? rfl directory.path_eq) rfl hdescribe
  simp only [hdescription, if_neg hrange] at hlocate
  exact ⟨hlocate, hholds'⟩

/-- A record that has been located is loaded. -/
theorem loadRecord_eq (h : channel.Serves directory Holds) {s s' : Loading σ} {k : Nat}
    {octets : Octets}
    (hlocate : Channel.locate channel application s = (.ok (directory.path, directory.shape), s'))
    (hrequest : s'.request = Records.requestFor directory.file directory.shape (k + 1))
    (hholds : Holds s'.card records) (hoctets : records[k]? = some octets) :
    ∃ card', Channel.loadRecord channel application s =
        (.ok directory.shape,
          { request := Records.requestFor directory.file directory.shape (k + 1)
            buffer := s'.buffer.write (framed octets), card := card' }) ∧
      Holds card' records := by
  obtain ⟨card', hanswer, hholds'⟩ := h.reads hholds k octets hoctets
  refine ⟨card', ?_, hholds'⟩
  rw [Channel.loadRecord_of_locate hlocate,
    Records.readCommand_of_request directory.path directory.size_le hrequest,
    transmit_of_success hanswer, hrequest]

/-- **A file that is served is provided**, to whoever reads files through the channel. -/
theorem provides (h : channel.Serves directory Holds) (hholds : Holds card records) :
    (channel.access application).Provides directory.file directory.shape records
      (Holds · records) := by
  have hcount := h.length_eq hholds
  have hle : records.length ≤ 254 := hcount ▸ directory.count_le
  have hloads : (channel.access application).Loads directory.file directory.shape records
      (Holds · records) := by
    intro card hholds k octets hoctets known hknown buffer
    have hlt := (List.getElem?_eq_some_iff.1 hoctets).1
    rcases hknown with rfl | rfl
    · obtain ⟨hlocate, hholds'⟩ := h.locate_eq hholds none buffer hlt
      exact h.loadRecord_eq hlocate rfl hholds' hoctets
    · rw [hcount] at hlt
      have hnumber := Nat.le_trans (Nat.le_of_eq (directory.toNat_number hlt)) hlt
      have hlocate : Channel.locate channel application
          { request := Records.requestFor directory.file directory.shape (k + 1), buffer, card } =
          (.ok (directory.path, directory.shape),
            { request := Records.requestFor directory.file directory.shape (k + 1)
              buffer, card }) :=
        Channel.locate_of_shape (Records.pathOf_of? rfl directory.path_eq) rfl
          (directory.number_ne_zero hlt) hnumber
      exact h.loadRecord_eq hlocate rfl hholds hoctets
  refine ⟨hcount.symm, hcount ▸ directory.count_pos, hle, ?_, hloads, hloads.goesOn hle rfl⟩
  intro octets hoctets
  rw [h.record_length hholds octets hoctets]
  exact Nat.lt_of_le_of_lt directory.size_le (by decide)

/-- **A walk through a file that is served** comes to its end, if the visit accepts the records. -/
theorem walk_eq {α : Type} {visit : Records.Visit α} (h : channel.Serves directory Holds)
    (hholds : Holds card records) {init acc : α}
    (haccepts : Records.Accepts visit directory.shape 1 init records acc) :
    ∃ card', Records.walk (channel.access application) directory.file visit init card =
        (.ok acc, card') ∧ Holds card' records := by
  rw [← haccepts.visitAll_eq]
  exact (h.provides hholds).walk_eq hholds init

/-- Writing down what is asked does not change what is served. -/
theorem recorded (h : channel.Serves directory Holds) :
    channel.recorded.Serves directory fun card records => Holds card.1 records := by
  refine ⟨h.length_eq, h.record_length, ?_, ?_, ?_⟩
  · intro card records hholds
    obtain ⟨lead, identifier, access, tail, card', hlead, haccess, hanswer, hholds'⟩ :=
      h.describes hholds
    exact ⟨lead, identifier, access, tail, (card', _), hlead, haccess,
      recorded_apply hanswer card.2, hholds'⟩
  · intro card records hholds k octets hoctets
    obtain ⟨card', hanswer, hholds'⟩ := h.reads hholds k octets hoctets
    exact ⟨(card', _), recorded_apply hanswer card.2, hholds'⟩
  · intro card records hholds k hk octets pin2 hlength
    obtain ⟨reply, card', hanswer, hholds'⟩ := h.replaces hholds k hk octets pin2 hlength
    exact ⟨reply, (card', _), recorded_apply hanswer card.2, hholds'⟩

end Serves

end Channel

/-! ## The simulated card -/

namespace SimulatedCard

variable {application : Application} {directory : DirectoryFile application}
  {card : SimulatedCard} {records : List Octets}

/-- A file of records and nothing else. -/
def plainFile (file : UInt16) (records : List Octets) : SimulatedFile :=
  { file, records := some records }

/-- The card has a file with these records, in the shape of a directory. -/
structure Keeps (directory : DirectoryFile application) (card : SimulatedCard)
    (records : List Octets) : Prop where
  find?_eq : card.find? directory.file = some (plainFile directory.file records)
  length_eq : records.length = directory.shape.count
  record_length : ∀ octets ∈ records, octets.length = directory.shape.size

theorem find?_put (card : SimulatedCard) (file : SimulatedFile) :
    (card.put file).find? file.file = some file := by
  have hrest : (card.files.filter (·.file != file.file)).find? (·.file == file.file) = none := by
    rw [List.find?_eq_none]
    intro other hother
    simpa using (List.mem_filter.1 hother).2
  rw [find?, put, List.find?_append, hrest]
  simp

/-- A plain file carries out what it is asked. -/
theorem channel_eq (h : Keeps directory card records) {command : FileCommand}
    (hcommand : command.file = directory.file) {answer : CardAnswer} {file : SimulatedFile}
    (hexecute : execute (plainFile directory.file records) command = (answer, file)) :
    channel command card = (.ok answer, (card.note (.command command)).put file) := by
  have hfind : (card.note (.command command)).find? command.file =
      some (plainFile directory.file records) := by
    rw [hcommand]
    exact h.find?_eq
  simp only [channel, Step.bind_apply, Step.modify, Step.get, hfind]
  change (Except.ok (execute (plainFile directory.file records) command).1,
    (card.note (.command command)).put (execute (plainFile directory.file records) command).2) = _
  rw [hexecute]

theorem Keeps.sizeOfRecords_eq (h : Keeps directory card records) :
    (plainFile directory.file records).sizeOfRecords = directory.shape.size := by
  have hpos := directory.count_pos
  have hlength := h.length_eq
  cases records with
  | nil => exact absurd hlength (by rw [List.length_nil]; omega)
  | cons octets records => exact h.record_length octets List.mem_cons_self

/-- A file that is put back is there, whatever else the card holds. -/
theorem keeps_put (card : SimulatedCard) (hlength : records.length = directory.shape.count)
    (hrecord : ∀ octets ∈ records, octets.length = directory.shape.size) :
    Keeps directory (card.put (plainFile directory.file records)) records :=
  ⟨find?_put card (plainFile directory.file records), hlength, hrecord⟩

/-- The card has the record of a number. -/
theorem Keeps.record?_eq (h : Keeps directory card records) {k : Nat} (hk : k < records.length) :
    (plainFile directory.file records).record? (UInt8.ofNat (k + 1)) = records[k]? := by
  rw [h.length_eq] at hk
  rw [SimulatedFile.record?, if_neg (directory.number_ne_zero hk), directory.toNat_number hk]
  rfl

theorem Keeps.setRecord_eq (h : Keeps directory card records) {k : Nat} (hk : k < records.length)
    (octets : Octets) :
    (plainFile directory.file records).setRecord (UInt8.ofNat (k + 1)) octets =
      plainFile directory.file (records.set k octets) := by
  rw [h.length_eq] at hk
  rw [SimulatedFile.setRecord, directory.toNat_number hk]
  rfl

/-- The file describes itself as a directory file. -/
theorem Keeps.describe_eq (h : Keeps directory card records) :
    (plainFile directory.file records).describe =
      FileDescription.recordReport [0x00, 0x00]
        (UInt16.ofNat (directory.shape.count * directory.shape.size)) directory.file
        [0x00, 0x11, 0x22, 0x33, 0x01, 0x02] (UInt8.ofNat directory.shape.size) ++ [] := by
  have htotal : (plainFile directory.file records).totalSize =
      directory.shape.count * directory.shape.size := by
    change (plainFile directory.file records).sizeOfRecords * records.length = _
    rw [h.sizeOfRecords_eq, h.length_eq, Nat.mul_comm]
  rw [← htotal, ← h.sizeOfRecords_eq]
  rfl

/-- **The simulated card serves a plain file.** -/
theorem serves (directory : DirectoryFile application) :
    channel.Serves directory (Keeps directory) := by
  refine ⟨Keeps.length_eq, Keeps.record_length, ?_, ?_, ?_⟩
  · intro card records h
    have hexecute : execute (plainFile directory.file records)
        (.describe directory.file directory.path) =
        ({ data := _, status := 0x9000 }, plainFile directory.file records) :=
      if_pos rfl
    rw [h.describe_eq] at hexecute
    exact ⟨[0x00, 0x00], directory.file, [0x00, 0x11, 0x22, 0x33, 0x01, 0x02], [], _, rfl, rfl,
      channel_eq h rfl hexecute, keeps_put _ h.length_eq h.record_length⟩
  · intro card records h k octets hoctets
    have hlt := (List.getElem?_eq_some_iff.1 hoctets).1
    have hexecute : execute (plainFile directory.file records)
        (Records.readCommand directory.file directory.path directory.shape.size (k + 1)) =
        ({ data := octets, status := 0x9000 }, plainFile directory.file records) := by
      have hrecord := h.record?_eq hlt
      rw [hoctets] at hrecord
      simp only [execute, Records.readCommand, FileCommand.readRecord, hrecord]
      rfl
    exact ⟨_, channel_eq h rfl hexecute, keeps_put _ h.length_eq h.record_length⟩
  · intro card records h k hk octets pin2 hlength
    have hexecute : execute (plainFile directory.file records)
        (Records.updateCommand directory.file directory.path (k + 1) octets pin2) =
        ({ data := [], status := 0x9000 }, plainFile directory.file (records.set k octets)) := by
      have hrecord := h.record?_eq hk
      rw [List.getElem?_eq_getElem hk] at hrecord
      simp only [execute, Records.updateCommand, FileCommand.updateRecord, hrecord,
        Option.getD_some, h.setRecord_eq hk]
      rfl
    refine ⟨[], _, channel_eq h rfl hexecute, keeps_put _ ?_ ?_⟩
    · rw [List.length_set, h.length_eq]
    · intro other hother
      rcases List.mem_or_eq_of_mem_set hother with hmem | rfl
      · exact h.record_length other hmem
      · exact hlength

end SimulatedCard

end SimCard
