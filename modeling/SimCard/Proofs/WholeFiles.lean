import SimCard.Proofs.FileLoading

/-!
# Loading a whole file

A file without records is asked for its size and then for its octets, in stretches.  The terminal
says where a stretch starts and how long it may be; how much of it comes back is up to the card.  It
may be less than was asked for, nothing at all, or too much.

* `Channel.Transfer` is the exchange itself, from the octets that are there already to its end: one
  command after the other, each for what comes next, until the octets are all there, a stretch is
  empty, or a command fails.  The loop of the library is one (`Channel.transfer_readStretches`), and
  the count of turns that it is given never cuts it short.
* **Whatever the card does**, a transfer asks for stretches of the file only, and makes progress
  with each (`Channel.Transfer.length_le`, `Channel.Transfer.readsOn`).
* **A card that keeps the file** and brings some of each stretch that it is asked for
  (`Channel.Brings`) is read to the end, and the octets are those of the file
  (`Channel.Transfer.eq_content`).
-/

set_option autoImplicit false

namespace SimCard

/-! ## Descriptions of files without records -/

namespace FileDescription

/-- The size of a file, read off the octets of its description. -/
def announcedSize (octets : Octets) : Nat :=
  256 * (octets.getD 2 0).toNat + (octets.getD 3 0).toNat

theorem announcedSize_le (octets : Octets) : announcedSize octets ≤ 65535 := by
  have hhigh := (octets.getD 2 0).toNat_lt
  have hlow := (octets.getD 3 0).toNat_lt
  rw [announcedSize]
  omega

theorem announcedSize_report {lead : Octets} (hlead : lead.length = 2) (size file : UInt16)
    (access : Octets) (layout : UInt8) (tail : Octets) :
    announcedSize (report lead size file access layout ++ tail) = size.toNat := by
  match lead, hlead with
  | [_, _], _ =>
    have hlt := size.toNat_lt
    change 256 * (UInt8.ofNat (size.toNat / 256)).toNat + (UInt8.ofNat size.toNat).toNat = _
    rw [UInt8.toNat_ofNat', UInt8.toNat_ofNat']
    omega

/-- What is understood as a description tells the size that it announces. -/
theorem size_eq_announcedSize {octets : Octets} {description : FileDescription}
    (h : ofOctets octets = .ok description) : description.size = announcedSize octets := by
  have hread : read.Yields (Cursor.ofOctets octets) description
      (read (Cursor.ofOctets octets)).2 := Prod.ext h rfl
  obtain ⟨lead, size, file, access, layout, c₁, hlead, -, htakes, hdescription⟩ :=
    (yields_read (Nat.zero_le _)).1 hread
  have hoctets : octets = report lead size file access layout ++ c₁.rest := htakes.rest_eq
  rw [hoctets, announcedSize_report hlead]
  rcases hdescription with ⟨-, -, rfl⟩ | ⟨-, recordSize, -, rfl⟩
  · rfl
  · rfl

/-- **A card's description of a file without records is understood.** -/
theorem ofOctets_report {lead access : Octets} (hlead : lead.length = 2)
    (haccess : access.length = 6) (size file : UInt16) (tail : Octets) :
    ofOctets (report lead size file access Layout.transparent.code ++ tail) =
      .ok { file, size := size.toNat, layout := Layout.transparent.code, recordSize := 0 } := by
  have htakes := Cursor.takes_of_rest_eq
    (c := Cursor.ofOctets (report lead size file access Layout.transparent.code ++ tail)) rfl
  have hread := (yields_read (Nat.zero_le _)).2
    ⟨lead, size, file, access, _, _, hlead, haccess, htakes, .inl ⟨rfl, rfl, rfl⟩⟩
  exact congrArg Prod.fst hread

end FileDescription

/-! ## Commands for stretches -/

/-- The octets that came back, none if the command failed. -/
def Exchange.octets (exchange : Exchange) : Octets := exchange.data?.getD []

/-- The octets that came back for commands, one after the other. -/
def received (exchanges : List Exchange) : Octets := exchanges.flatMap Exchange.octets

namespace FileCommand

/-- **The command reads on** in a file of `size` octets, `count` of which are there already: it asks
for at least one octet and for no more than a command can bring, starting right behind those that
are there, and none of them beyond the end of the file. -/
structure ReadsOn (file : UInt16) (path : String) (size count : Nat) (command : FileCommand) :
    Prop where
  instruction_eq : command.instruction = readBinaryCode
  file_eq : command.file = file
  path_eq : command.path = path
  offset_eq : 256 * command.p1.toNat + command.p2.toNat = count
  length_pos : 1 ≤ command.p3.toNat
  length_le : command.p3.toNat ≤ 255
  within : 256 * command.p1.toNat + command.p2.toNat + command.p3.toNat ≤ size

/-- The command for the next stretch. -/
def nextStretch (file : UInt16) (path : String) (size count : Nat) : FileCommand :=
  readBinary file path (UInt16.ofNat count) (UInt8.ofNat (min (size - count) greatestChunk))

variable {size count : Nat}

/-- The two parameters for the place hold the offset. -/
theorem offset_readBinary (file : UInt16) (path : String) (offset : UInt16) (length : UInt8) :
    256 * (readBinary file path offset length).p1.toNat +
      (readBinary file path offset length).p2.toNat = offset.toNat := by
  have hlt := offset.toNat_lt
  change 256 * (UInt8.ofNat (offset.toNat / 256)).toNat + (UInt8.ofNat offset.toNat).toNat = _
  rw [UInt8.toNat_ofNat', UInt8.toNat_ofNat']
  omega

theorem toNat_offset (hsize : size ≤ 65535) (hcount : count < size) :
    (UInt16.ofNat count).toNat = count :=
  UInt16.toNat_ofNat_of_lt' (Nat.lt_of_lt_of_le hcount (Nat.le_succ_of_le hsize))

theorem toNat_stretch (size count : Nat) :
    (UInt8.ofNat (min (size - count) greatestChunk)).toNat = min (size - count) 255 :=
  UInt8.toNat_ofNat_of_lt' (Nat.lt_succ_of_le (Nat.min_le_right _ _))

theorem readsOn_nextStretch (file : UInt16) (path : String) (hsize : size ≤ 65535)
    (hcount : count < size) : (nextStretch file path size count).ReadsOn file path size count := by
  have hoffset : 256 * (nextStretch file path size count).p1.toNat +
      (nextStretch file path size count).p2.toNat = count := by
    rw [nextStretch, offset_readBinary, toNat_offset hsize hcount]
  have hlength : (nextStretch file path size count).p3.toNat = min (size - count) 255 :=
    toNat_stretch size count
  refine ⟨rfl, rfl, rfl, hoffset, ?_, ?_, ?_⟩
  · rw [hlength]
    omega
  · rw [hlength]
    omega
  · rw [hoffset, hlength]
    omega

end FileCommand

namespace Channel

variable {σ : Type} {channel : Channel σ} {file : UInt16} {path : String} {size : Nat}
  {data content : Octets} {card card' : σ} {reads : List Exchange}
  {outcome : Except FileError Octets}

/-! ## Transfers -/

/-- **The transfer of a file** of `size` octets, of which `data` are there already: the commands
with their answers, what comes of it, and the card before and after. -/
inductive Transfer (channel : Channel σ) (file : UInt16) (path : String) (size : Nat) :
    Octets → σ → List Exchange → Except FileError Octets → σ → Prop
  /-- All the octets are there. -/
  | complete {data : Octets} {card : σ} (hsize : size ≤ data.length) :
      Transfer channel file path size data card [] (.ok data) card
  /-- The next stretch is empty, and the file is taken to end here. -/
  | dry {data : Octets} {card card' : σ} {answer : Except FileError CardAnswer}
      (hsize : data.length < size)
      (hanswer : channel (.nextStretch file path size data.length) card = (answer, card'))
      (hdata : dataOf answer = some []) :
      Transfer channel file path size data card [⟨.nextStretch file path size data.length, answer⟩]
        (.ok data) card'
  /-- The next stretch does not come. -/
  | failed {data : Octets} {card card' : σ} {answer : Except FileError CardAnswer}
      (error : FileError) (hsize : data.length < size)
      (hanswer : channel (.nextStretch file path size data.length) card = (answer, card'))
      (hdata : dataOf answer = none) :
      Transfer channel file path size data card [⟨.nextStretch file path size data.length, answer⟩]
        (.error error) card'
  /-- The next stretch comes, and the transfer goes on behind it. -/
  | more {data stretch : Octets} {card card' card'' : σ} {answer : Except FileError CardAnswer}
      {reads : List Exchange} {outcome : Except FileError Octets} (hsize : data.length < size)
      (hanswer : channel (.nextStretch file path size data.length) card = (answer, card'))
      (hdata : dataOf answer = some stretch) (hne : stretch ≠ [])
      (hrest : Transfer channel file path size (data ++ stretch) card' reads outcome card'') :
      Transfer channel file path size data card
        (⟨.nextStretch file path size data.length, answer⟩ :: reads) outcome card''

/-- A command through the channel that writes it down. -/
theorem transmit_recorded (channel : Channel σ) (command : FileCommand) (card : σ)
    (log : List Exchange) :
    transmit channel.recorded command (card, log) =
      ((transmit channel command card).1, (transmit channel command card).2,
        log ++ [⟨command, (channel command card).1⟩]) := by
  rw [transmit, Step.bind_apply, transmit, Step.bind_apply, recorded]
  generalize channel command card = result
  obtain ⟨outcome, card'⟩ := result
  cases outcome with
  | error error => rfl
  | ok answer =>
    by_cases hstatus : Status.isSuccess answer.status = true
    · simp only [if_pos hstatus, Step.pure_apply]
    · simp only [if_neg hstatus, Step.fail_apply]

/-- A description through the channel that writes it down. -/
theorem describe_recorded (channel : Channel σ) (file : UInt16) (path : String) (expected : Layout)
    (card : σ) (log : List Exchange) :
    describe channel.recorded file path expected (card, log) =
      ((describe channel file path expected card).1, (describe channel file path expected card).2,
        log ++ [⟨.describe file path, (channel (.describe file path) card).1⟩]) := by
  rw [describe, Step.bind_apply, describe, Step.bind_apply, transmit_recorded]
  generalize transmit channel (.describe file path) card = result
  obtain ⟨outcome, card'⟩ := result
  cases outcome with
  | error error => rfl
  | ok octets =>
    simp only [Step.bind_apply, Step.ofExcept]
    cases FileDescription.ofOctets octets with
    | error error => rfl
    | ok description =>
      by_cases hlayout : description.layout = expected.code
      · simp only [if_pos hlayout, Step.pure_apply]
      · simp only [if_neg hlayout, Step.fail_apply]

/-- One turn of the loop, as long as there are octets to come. -/
theorem readStretches_of_lt (channel : Channel σ) (file : UInt16) (path : String)
    (hsize : data.length < size) (fuel : Nat) (card : σ) :
    readStretches channel file path size (fuel + 1) data card =
      match transmit channel (.nextStretch file path size data.length) card with
      | (.ok stretch, card') =>
        if stretch = [] then (.ok data, card')
        else readStretches channel file path size fuel (data ++ stretch) card'
      | (.error error, card') => (.error error, card') := by
  rw [readStretches, if_neg (Nat.not_le.2 hsize), Step.bind_apply, ← FileCommand.nextStretch]
  generalize transmit channel _ card = result
  obtain ⟨outcome, card'⟩ := result
  cases outcome with
  | error error => rfl
  | ok stretch =>
    cases stretch with
    | nil => rfl
    | cons octet stretch => rfl

/-- **The loop is a transfer.**  As each turn brings an octet or ends the loop, turns for the octets
that are missing are enough.  The channel that writes down what is asked shows its commands. -/
theorem transfer_readStretches (channel : Channel σ) (file : UInt16) (path : String) {fuel : Nat}
    (hfuel : size ≤ data.length + fuel) (card : σ) (log : List Exchange) :
    ∃ reads outcome card', Transfer channel file path size data card reads outcome card' ∧
      readStretches channel file path size fuel data card = (outcome, card') ∧
      readStretches channel.recorded file path size fuel data (card, log) =
        (outcome, card', log ++ reads) := by
  induction fuel generalizing data card log with
  | zero =>
    refine ⟨[], .ok data, card, .complete hfuel, rfl, ?_⟩
    rw [List.append_nil]
    rfl
  | succ fuel ih =>
    by_cases hsize : data.length < size
    · let command := FileCommand.nextStretch file path size data.length
      have hanswer : channel command card = ((channel command card).1, (channel command card).2) :=
        rfl
      rw [readStretches_of_lt channel file path hsize,
        readStretches_of_lt channel.recorded file path hsize, transmit_recorded]
      rcases transmit_cases channel command card with
        ⟨stretch, hdata, htransmit⟩ | ⟨hdata, error, htransmit⟩
      · rw [htransmit]
        by_cases hstretch : stretch = []
        · subst hstretch
          exact ⟨_, _, _, .dry hsize hanswer hdata, rfl, rfl⟩
        · have hpos := List.length_pos_iff.2 hstretch
          have hmore : size ≤ (data ++ stretch).length + fuel := by
            rw [List.length_append]
            omega
          obtain ⟨reads, outcome, card', htransfer, hplain, hrecorded⟩ :=
            ih hmore (channel command card).2 (log ++ [⟨command, (channel command card).1⟩])
          refine ⟨_, outcome, card', .more hsize hanswer hdata hstretch htransfer, ?_, ?_⟩
          · simp only [if_neg hstretch, hplain]
          · simp only [if_neg hstretch]
            rw [hrecorded, List.append_assoc, List.singleton_append]
      · rw [htransmit]
        exact ⟨_, _, _, .failed error hsize hanswer hdata, rfl, rfl⟩
    · refine ⟨[], .ok data, card, .complete (Nat.not_lt.1 hsize), ?_, ?_⟩
      · rw [readStretches, if_pos (Nat.not_lt.1 hsize), Step.pure_apply]
      · rw [readStretches, if_pos (Nat.not_lt.1 hsize), Step.pure_apply, List.append_nil]

/-! ### Whatever the card does -/

/-- A transfer takes no more commands than there are octets missing. -/
theorem Transfer.length_le (h : Transfer channel file path size data card reads outcome card') :
    reads.length ≤ size - data.length := by
  induction h with
  | complete hsize => exact Nat.zero_le _
  | dry hsize hanswer hdata =>
    rw [List.length_singleton]
    omega
  | failed error hsize hanswer hdata =>
    rw [List.length_singleton]
    omega
  | @more data stretch card card' card'' answer reads outcome hsize hanswer hdata hne hrest ih =>
    have hpos := List.length_pos_iff.2 hne
    rw [List.length_append] at ih
    rw [List.length_cons]
    omega

/-- Behind a command that reads on, the others read on behind what it brought. -/
theorem readsOn_cons {count : Nat} (hsize : size ≤ 65535) (hlt : count < size)
    (answer : Except FileError CardAnswer) {rest : List Exchange}
    (hrest : ∀ before exchange after, rest = before ++ exchange :: after →
      exchange.command.ReadsOn file path size (count +
        (Exchange.octets ⟨.nextStretch file path size count, answer⟩).length +
        (received before).length)) :
    ∀ before exchange after,
      ⟨.nextStretch file path size count, answer⟩ :: rest = before ++ exchange :: after →
        exchange.command.ReadsOn file path size (count + (received before).length) := by
  intro before exchange after heq
  cases before with
  | nil =>
    obtain ⟨rfl, -⟩ := List.cons.inj heq
    exact FileCommand.readsOn_nextStretch file path hsize hlt
  | cons first front =>
    obtain ⟨rfl, hfront⟩ := List.cons.inj heq
    have hon := hrest front exchange after hfront
    rwa [Nat.add_assoc, ← List.length_append] at hon

/-- **Every command of a transfer reads on**, right behind the octets that have come so far. -/
theorem Transfer.readsOn (h : Transfer channel file path size data card reads outcome card')
    (hsize : size ≤ 65535) :
    ∀ before exchange after, reads = before ++ exchange :: after →
      exchange.command.ReadsOn file path size (data.length + (received before).length) := by
  have hnil : ∀ {count before after} {exchange : Exchange}, [] = before ++ exchange :: after →
      exchange.command.ReadsOn file path size count := by
    intro count before after exchange heq
    exact absurd heq.symm (List.append_ne_nil_of_right_ne_nil _ (List.cons_ne_nil _ _))
  induction h with
  | complete hdone => exact fun _ _ _ => hnil
  | dry hlt hanswer hdata => exact readsOn_cons hsize hlt _ fun _ _ _ => hnil
  | failed error hlt hanswer hdata => exact readsOn_cons hsize hlt _ fun _ _ _ => hnil
  | more hlt hanswer hdata hne hrest ih =>
    refine readsOn_cons hsize hlt _ fun before exchange after heq => ?_
    rw [Exchange.octets, Exchange.data?, hdata, Option.getD_some, ← List.length_append]
    exact ih before exchange after heq

/-- **A transfer that succeeds** gives the octets that came, and it has not stopped before the last
of them or an empty stretch. -/
theorem Transfer.ends (h : Transfer channel file path size data card reads outcome card')
    {octets : Octets} (hoctets : outcome = .ok octets) :
    octets = data ++ received reads ∧
      (size ≤ octets.length ∨ ∃ init last, reads = init ++ [last] ∧ last.data? = some []) := by
  induction h with
  | complete hsize =>
    obtain rfl := Except.ok.inj hoctets
    exact ⟨(List.append_nil _).symm, .inl hsize⟩
  | dry hsize hanswer hdata =>
    obtain rfl := Except.ok.inj hoctets
    refine ⟨?_, .inr ⟨[], _, rfl, hdata⟩⟩
    rw [received, List.flatMap_singleton, Exchange.octets, Exchange.data?, hdata, Option.getD_some,
      List.append_nil]
  | failed error hsize hanswer hdata => cases hoctets
  | more hsize hanswer hdata hne hrest ih =>
    obtain ⟨heq, hend⟩ := ih hoctets
    refine ⟨?_, ?_⟩
    · rw [heq, received, received, List.flatMap_cons, Exchange.octets, Exchange.data?, hdata,
        Option.getD_some, List.append_assoc]
    · rcases hend with hsize | ⟨init, last, rfl, hlast⟩
      · exact .inl hsize
      · exact .inr ⟨_ :: init, last, rfl, hlast⟩

/-! ### A card that keeps the file -/

/-- **A card that keeps a file without records**, as far as a channel shows: it describes the file
with its size, and of every stretch of the file that it is asked for it brings some octets from the
front, as many as it likes.  `Holds` says in which states the card does so. -/
structure Brings (channel : Channel σ) (file : UInt16) (path : String) (content : Octets)
    (Holds : σ → Prop) : Prop where
  describes : ∀ {card}, Holds card → ∃ lead identifier access tail status card',
    lead.length = 2 ∧ access.length = 6 ∧ Status.isSuccess status = true ∧
    channel (.describe file path) card =
      (.ok { data := FileDescription.report lead (UInt16.ofNat content.length) identifier access
              Layout.transparent.code ++ tail
             status }, card') ∧
    Holds card'
  reads : ∀ {card}, Holds card → ∀ (offset : UInt16) (length : UInt8), 1 ≤ length.toNat →
    offset.toNat + length.toNat ≤ content.length → ∃ stretch status card',
    stretch ≠ [] ∧ stretch <+: (content.drop offset.toNat).take length.toNat ∧
    Status.isSuccess status = true ∧
    channel (.readBinary file path offset length) card = (.ok { data := stretch, status }, card') ∧
    Holds card'

variable {Holds : σ → Prop}

theorem dataOf_success {answer : CardAnswer} (h : Status.isSuccess answer.status = true) :
    dataOf (.ok answer) = some answer.data := if_pos h

/-- The next stretch of a file that is kept: some octets that continue those that are there. -/
theorem Brings.nextStretch_eq (h : channel.Brings file path content Holds)
    (hlength : content.length ≤ 65535) (hdata : data <+: content)
    (hlt : data.length < content.length) (hholds : Holds card) :
    ∃ stretch answer card', stretch ≠ [] ∧ data ++ stretch <+: content ∧
      dataOf answer = some stretch ∧
      channel (.nextStretch file path content.length data.length) card = (answer, card') ∧
      Holds card' := by
  have hoffset := FileCommand.toNat_offset hlength hlt
  have hstretch := FileCommand.toNat_stretch content.length data.length
  obtain ⟨stretch, status, card', hne, hfront, hstatus, hanswer, hholds'⟩ := h.reads hholds
    (UInt16.ofNat data.length)
    (UInt8.ofNat (min (content.length - data.length) FileCommand.greatestChunk))
    (by rw [hstretch]; omega) (by rw [hoffset, hstretch]; omega)
  refine ⟨stretch, _, card', hne, ?_, dataOf_success hstatus, hanswer, hholds'⟩
  obtain ⟨rest, rfl⟩ := hdata
  rw [hoffset, List.drop_left] at hfront
  exact (List.prefix_append_right_inj data).2 (hfront.trans <| List.take_prefix _ _)

/-- **From a card that keeps the file**, a transfer that has started with the octets of the file
ends with all of them. -/
theorem Transfer.eq_content (h : Transfer channel file path size data card reads outcome card')
    (hbrings : channel.Brings file path content Holds) (hsize : size = content.length)
    (hlength : content.length ≤ 65535) (hdata : data <+: content) (hholds : Holds card) :
    outcome = .ok content ∧ Holds card' := by
  subst hsize
  induction h with
  | complete hdone => exact ⟨congrArg Except.ok (hdata.eq_of_length_le hdone), hholds⟩
  | dry hlt hanswer hempty =>
    obtain ⟨stretch, answer, card', hne, -, hstretch, hchannel, -⟩ :=
      hbrings.nextStretch_eq hlength hdata hlt hholds
    obtain ⟨rfl, -⟩ := Prod.mk.inj (hanswer.symm.trans hchannel)
    exact absurd (Option.some.inj (hstretch.symm.trans hempty)) hne
  | failed error hlt hanswer hnone =>
    obtain ⟨stretch, answer, card', -, -, hstretch, hchannel, -⟩ :=
      hbrings.nextStretch_eq hlength hdata hlt hholds
    obtain ⟨rfl, -⟩ := Prod.mk.inj (hanswer.symm.trans hchannel)
    cases hstretch.symm.trans hnone
  | more hlt hanswer hsome hne hrest ih =>
    obtain ⟨stretch, answer, card', -, hfront, hstretch, hchannel, hholds'⟩ :=
      hbrings.nextStretch_eq hlength hdata hlt hholds
    obtain ⟨rfl, rfl⟩ := Prod.mk.inj (hanswer.symm.trans hchannel)
    obtain rfl := Option.some.inj (hstretch.symm.trans hsome)
    exact ih hfront hholds'

/-! ## Whole files -/

variable {application : Application} {s : Loading σ}

theorem loadFile_of_path_error {error : FileError}
    (hpath : pathOf application s.request = .error error) :
    loadFile channel application s = (.error error, s) := by
  simp only [loadFile, Step.bind_apply, Step.get, Step.ofExcept, hpath]

theorem loadFile_of_describe_error {error : FileError} {card : σ}
    (hpath : pathOf application s.request = .ok path)
    (hdescribe : describe channel s.request.file path .transparent s.card = (.error error, card)) :
    loadFile channel application s = (.error error, { s with card }) := by
  simp only [loadFile, Step.bind_apply, Step.get, Step.ofExcept, hpath, Loading.onCard, hdescribe]

section Described

variable {description : FileDescription} {card card' : σ}
  (hpath : pathOf application s.request = .ok path)
  (hdescribe : describe channel s.request.file path .transparent s.card = (.ok description, card))

include hpath hdescribe

theorem loadFile_of_readStretches_error {error : FileError}
    (hread : readStretches channel s.request.file path description.size description.size [] card =
      (.error error, card')) :
    loadFile channel application s = (.error error, { s with card := card' }) := by
  simp only [loadFile, Step.bind_apply, Step.get, Step.ofExcept, hpath, Loading.onCard, hdescribe,
    hread]

/-- **Loading a file that is described** is reading its octets, which are delivered in a frame. -/
theorem loadFile_of_readStretches {octets : Octets}
    (hread : readStretches channel s.request.file path description.size description.size [] card =
      (.ok octets, card')) :
    loadFile channel application s =
      (.ok (), { s with card := card', buffer := s.buffer.write (framed octets) }) := by
  simp only [loadFile, Step.bind_apply, Step.get, Step.ofExcept, hpath, Loading.onCard, hdescribe,
    hread]
  rfl

end Described

theorem Brings.describe_eq (h : channel.Brings file path content Holds)
    (hlength : content.length ≤ 65535) (hholds : Holds card) :
    ∃ description card', describe channel file path .transparent card = (.ok description, card') ∧
      description.size = content.length ∧ Holds card' := by
  obtain ⟨lead, identifier, access, tail, status, card', hlead, haccess, hstatus, hanswer,
    hholds'⟩ := h.describes hholds
  have hoctets := FileDescription.ofOctets_report hlead haccess (UInt16.ofNat content.length)
    identifier tail
  have hsize : (UInt16.ofNat content.length).toNat = content.length :=
    UInt16.toNat_ofNat_of_lt' (Nat.lt_succ_of_le hlength)
  refine ⟨{ file := identifier, size := (UInt16.ofNat content.length).toNat
            layout := Layout.transparent.code, recordSize := 0 }, card', ?_, hsize, hholds'⟩
  simp only [describe, transmit, Step.bind_apply, hanswer, if_pos hstatus, Step.pure_apply,
    Step.ofExcept, hoctets, if_pos]

/-- **A file that the card keeps is loaded**, however its octets are cut into stretches. -/
theorem Brings.loadFile_eq (h : channel.Brings s.request.file path content Holds)
    (hpath : pathOf application s.request = .ok path) (hlength : content.length ≤ 65535)
    (hholds : Holds s.card) :
    ∃ card, loadFile channel application s =
        (.ok (), { s with card, buffer := s.buffer.write (framed content) }) ∧ Holds card := by
  obtain ⟨description, card₁, hdescribe, hsize, hholds₁⟩ := h.describe_eq hlength hholds
  have hfuel : description.size ≤ ([] : Octets).length + description.size := Nat.le_add_left _ _
  obtain ⟨reads, outcome, card₂, htransfer, hread, -⟩ :=
    transfer_readStretches channel s.request.file path hfuel card₁ []
  obtain ⟨rfl, hholds₂⟩ := htransfer.eq_content h hsize hlength List.nil_prefix hholds₁
  exact ⟨card₂, loadFile_of_readStretches hpath hdescribe hread, hholds₂⟩

/-- What a reader of files gets of a file that the card keeps is its octets. -/
theorem Brings.loadWhole_eq {file : UInt16} {card : σ} (h : channel.Brings file path content Holds)
    (hpath : Path.of? file application = some path) (hlength : content.length ≤ 65535)
    (hholds : Holds card) :
    ∃ card', loadWhole (channel.access application) file card = (.ok content, card') ∧
      Holds card' := by
  have hpath' : pathOf application { file } = .ok path := by simp only [pathOf, hpath]
  obtain ⟨card', hload, hholds'⟩ := Brings.loadFile_eq
    (s := { request := { file }, buffer := .empty, card }) h hpath' hlength hholds
  have hlimit : content.length < frameLimit := Nat.lt_of_le_of_lt hlength (by decide)
  obtain ⟨c, hframe, -⟩ := Cursor.drained_empty.readFrame_eq hlimit rfl
  refine ⟨card', ?_, hholds'⟩
  change Loading.run { file } ((loadFile channel application).mapError CardError.file >>= fun _ =>
    Loading.onBuffer readFrame) card = _
  simp only [Loading.run, Step.bind_apply, Step.mapError, hload, Loading.onBuffer, hframe]

/-- **Commands that take a file of `size` octets in turn**: each reads on behind what has come
before it, and there are no more of them than the file has octets. -/
structure InTurn (file : UInt16) (path : String) (size : Nat) (reads : List Exchange) : Prop where
  length_le : reads.length ≤ size
  readsOn : ∀ before exchange after, reads = before ++ exchange :: after →
    exchange.command.ReadsOn file path size (received before).length

/-- **What is asked of a card for a whole file**, and what comes of it: a description of the file,
and if that tells the size of a file without records, its octets in turn.  What came is delivered in
a frame, or nothing at all. -/
inductive Asked (application : Application) (request : LoadRequest) (buffer : Cursor) :
    List Exchange → Except FileError Unit → Cursor → Prop
  /-- Nobody knows where the file lies. -/
  | nowhere {error : FileError} (hpath : pathOf application request = .error error) :
      Asked application request buffer [] (.error error) buffer
  /-- The file is not described as one without records. -/
  | undescribed {path : String} {answer : Except FileError CardAnswer} (error : FileError)
      (hpath : pathOf application request = .ok path)
      (hdescription : descriptionOf .transparent answer = none) :
      Asked application request buffer [⟨.describe request.file path, answer⟩] (.error error) buffer
  /-- A command for its octets fails. -/
  | interrupted {path : String} {answer : Except FileError CardAnswer} {told : Octets}
      {reads : List Exchange} (error : FileError) (hpath : pathOf application request = .ok path)
      (htold : dataOf answer = some told)
      (hreads : InTurn request.file path (FileDescription.announcedSize told) reads) :
      Asked application request buffer (⟨.describe request.file path, answer⟩ :: reads)
        (.error error) buffer
  /-- Its octets have all come, or they have stopped coming. -/
  | delivered {path : String} {answer : Except FileError CardAnswer} {told : Octets}
      {reads : List Exchange} (hpath : pathOf application request = .ok path)
      (htold : dataOf answer = some told)
      (hreads : InTurn request.file path (FileDescription.announcedSize told) reads)
      (hend : FileDescription.announcedSize told ≤ (received reads).length ∨
        ∃ init last, reads = init ++ [last] ∧ last.data? = some []) :
      Asked application request buffer (⟨.describe request.file path, answer⟩ :: reads) (.ok ())
        (buffer.write (framed (received reads)))

/-- **Loading a file asks what it should**, whatever the card answers. -/
theorem asked_loadFile (channel : Channel σ) (application : Application) (s : Loading σ) :
    ∃ log outcome buffer card, Asked application s.request s.buffer log outcome buffer ∧
      loadFile channel application s = (outcome, { request := s.request, buffer, card }) ∧
      loadFile channel.recorded application
          { request := s.request, buffer := s.buffer, card := (s.card, []) } =
        (outcome, { request := s.request, buffer, card := (card, log) }) := by
  let start : Loading (σ × List Exchange) :=
    { request := s.request, buffer := s.buffer, card := (s.card, []) }
  cases hpath : pathOf application s.request with
  | error error =>
    exact ⟨[], _, _, s.card, .nowhere hpath, loadFile_of_path_error hpath,
      loadFile_of_path_error (s := start) hpath⟩
  | ok path =>
    have hstart : pathOf application start.request = .ok path := hpath
    have hrecorded := describe_recorded channel s.request.file path .transparent s.card []
    rcases describe_layout_cases channel s.request.file path .transparent s.card with
      ⟨description, hdescription, hdescribe⟩ | ⟨hdescription, error, hdescribe⟩
    · rw [hdescribe] at hrecorded
      obtain ⟨told, htold, hoctets, -⟩ := descriptionOf_eq_some_iff.1 hdescription
      have hsize := FileDescription.size_eq_announcedSize hoctets
      have hfuel : description.size ≤ ([] : Octets).length + description.size :=
        Nat.le_add_left _ _
      obtain ⟨reads, outcome, card, htransfer, hplain, hread⟩ := transfer_readStretches channel
        s.request.file path hfuel (channel (.describe s.request.file path) s.card).2
        [⟨.describe s.request.file path, (channel (.describe s.request.file path) s.card).1⟩]
      have hreads : InTurn s.request.file path (FileDescription.announcedSize told) reads := by
        rw [← hsize]
        refine ⟨htransfer.length_le, fun before exchange after heq => ?_⟩
        have hle := FileDescription.announcedSize_le told
        have hon := htransfer.readsOn (hsize ▸ hle) before exchange after heq
        rwa [List.length_nil, Nat.zero_add] at hon
      cases outcome with
      | error error =>
        exact ⟨_, _, _, card, .interrupted error hpath htold hreads,
          loadFile_of_readStretches_error hpath hdescribe hplain,
          loadFile_of_readStretches_error hstart hrecorded hread⟩
      | ok octets =>
        obtain ⟨heq, hend⟩ := htransfer.ends rfl
        rw [List.nil_append] at heq
        subst heq
        exact ⟨_, _, _, card, .delivered hpath htold hreads (hsize ▸ hend),
          loadFile_of_readStretches hpath hdescribe hplain,
          loadFile_of_readStretches hstart hrecorded hread⟩
    · rw [hdescribe] at hrecorded
      exact ⟨_, _, _, _, .undescribed error hpath hdescription,
        loadFile_of_describe_error hpath hdescribe, loadFile_of_describe_error hstart hrecorded⟩

/-- **A whole file is put together exactly.**  From a card that keeps a file of any size that can be
described, and brings some octets of every stretch that it is asked for, the file is loaded, and one
frame with just its octets is delivered.  And whatever the card does, there is an end to it: the
octets are asked for in turn, with no more commands than the file is said to have octets. -/
theorem whole_file_is_reassembled (channel : Channel σ) (application : Application)
    (s : Loading σ) :
    (∀ (path : String) (content : Octets) (Holds : σ → Prop),
      pathOf application s.request = .ok path → content.length ≤ 65535 →
      channel.Brings s.request.file path content Holds → Holds s.card →
      ∃ card, loadFile channel application s =
        (.ok (), { s with card, buffer := s.buffer.write (framed content) })) ∧
    ∃ log outcome buffer card,
      loadFile channel application s = (outcome, { request := s.request, buffer, card }) ∧
      loadFile channel.recorded application
          { request := s.request, buffer := s.buffer, card := (s.card, []) } =
        (outcome, { request := s.request, buffer, card := (card, log) }) ∧
      Asked application s.request s.buffer log outcome buffer := by
  constructor
  · intro path content Holds hpath hlength hbrings hholds
    obtain ⟨card, hload, -⟩ := hbrings.loadFile_eq hpath hlength hholds
    exact ⟨card, hload⟩
  · obtain ⟨log, outcome, buffer, card, hasked, hplain, hrecorded⟩ :=
      asked_loadFile channel application s
    exact ⟨log, outcome, buffer, card, hplain, hrecorded, hasked⟩

/-- A card with one file, of whose octets it brings one, two or three at a time, by turns. -/
def halting (file : UInt16) (content : Octets) : Channel Nat := fun command turn =>
  let data :=
    if command.instruction = FileCommand.describeCode then
      FileDescription.report [0x00, 0x00] (UInt16.ofNat content.length) file
        [0x00, 0x11, 0x22, 0x33, 0x01, 0x02] Layout.transparent.code
    else
      (content.drop (256 * command.p1.toNat + command.p2.toNat)).take
        (min command.p3.toNat (1 + turn % 3))
  (.ok { data, status := 0x9000 }, turn + 1)

theorem brings_halting (file : UInt16) (path : String) (content : Octets) :
    (halting file content).Brings file path content fun _ => True := by
  have hstatus : Status.isSuccess 0x9000 = true := by decide
  constructor
  · intro turn _
    refine ⟨[0x00, 0x00], file, [0x00, 0x11, 0x22, 0x33, 0x01, 0x02], [], 0x9000, turn + 1, rfl,
      rfl, hstatus, ?_, trivial⟩
    rw [List.append_nil]
    rfl
  · intro turn _ offset length hpos hle
    refine ⟨(content.drop offset.toNat).take (min length.toNat (1 + turn % 3)), 0x9000, turn + 1,
      ?_, ?_, hstatus, ?_, trivial⟩
    · rw [← List.length_pos_iff, List.length_take, List.length_drop]
      omega
    · exact List.take_prefix_take_left (Nat.min_le_left _ _)
    · have hoffset := FileCommand.offset_readBinary file path offset length
      change ((Except.ok { data := (content.drop (256 * _ + _)).take _, status := 0x9000 },
        turn + 1) : Except FileError CardAnswer × Nat) = _
      rw [hoffset]
      rfl

/-- A file of three hundred octets, which takes more than a hundred commands. -/
theorem whole_file_is_reassembled_halting :
    let content := List.replicate 300 0xA5
    ∃ card, loadFile (halting 0x6F07 content) .sim
        { request := { file := 0x6F07 }, buffer := .empty, card := 0 } =
      (.ok (), { request := { file := 0x6F07 }, buffer := Cursor.empty.write (framed content)
                 card }) := by
  intro content
  exact (whole_file_is_reassembled (halting 0x6F07 content) .sim
    { request := { file := 0x6F07 }, buffer := .empty, card := 0 }).1 Path.sim content _ rfl
    (by rw [List.length_replicate]; decide) (brings_halting 0x6F07 Path.sim content) trivial

end Channel

end SimCard
