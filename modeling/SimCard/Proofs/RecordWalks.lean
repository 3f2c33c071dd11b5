import SimCard.Proofs.FileLoading
import SimCard.Proofs.SessionReaders

/-!
# Walking through the records of a file

`Records.walk` loads the records of a file into one growing buffer and reads them back off it, while
the number of the next record, the shape of the file and the buffer travel along in the request.
This file shows that none of this goes astray.

* `Records.Ends` says how a walk can end, as a relation between the records that were handed to the
  visit and the outcome; `Records.Answered` says that those records are what the card answered.
* `Records.walks_step` is the one step of a walk and `Records.walks_walkFrom` the walk from a record
  on.  Both speak of a channel that writes down what it is asked, and of nothing the card promises:
  it may answer anything and fail anywhere.
* `CardSession.records_are_read_in_turn` is what follows for the four readers that walk through a
  file.  What they ask is the beginning of a list that the description of the file determines.

The step lemma is stated for the records that remain, so the induction is on the fuel of the walk,
of which there is one unit for each number a record can have.
-/

set_option autoImplicit false

namespace SimCard

/-! ## One step of a walk -/

namespace Loading

variable {σ : Type} {loadRecord : Step (Loading σ) FileError RecordShape} {s : Loading σ}

/-- The next record is the one with the next number, as long as there can be one. -/
theorem next_of_lt (h : s.request.record.toNat < 254) :
    next loadRecord s = loadRecord { s with
      request := { s.request with record := UInt8.ofNat (s.request.record.toNat + 1) } } := by
  have hnext : ¬ greatestRecord < s.request.record.toNat + 1 := Nat.not_lt.2 h
  simp only [next, Step.bind_apply, Step.get, if_neg hnext, Step.modify]

/-- After the last number that a record can have there is no next record. -/
theorem next_of_le (h : 254 ≤ s.request.record.toNat) :
    next loadRecord s = (.error (.recordOutOfRange s.request.file s.request.record
      ((s.request.shape.map (·.count)).getD 0)), s) := by
  have hnext : greatestRecord < s.request.record.toNat + 1 := Nat.lt_succ_of_le h
  simp only [next, Step.bind_apply, Step.get, if_pos hnext, Step.fail_apply]

end Loading

namespace Records

variable {σ α β : Type} {access : FileAccess σ} {visit : Visit α} {shape : RecordShape}
  {s : Loading σ} {fuel : Nat} {acc : α}

theorem walkFrom_of_readFrame_error {error : CardError} {buffer : Cursor}
    (hframe : readFrame s.buffer = (.error error, buffer)) :
    walkFrom access visit (fuel + 1) shape acc s = (.error error, { s with buffer }) := by
  simp only [walkFrom, Step.bind_apply, Loading.onBuffer, hframe]

/-- **One step of a walk**, at a record that has been loaded. -/
theorem walkFrom_of_readFrame {octets : Octets} {buffer : Cursor}
    (hframe : readFrame s.buffer = (.ok octets, buffer)) :
    walkFrom access visit (fuel + 1) shape acc s =
      match visit acc shape s.request.record octets with
      | .error error => (.error error, { s with buffer })
      | .ok (acc, false) => (.ok acc, { s with buffer })
      | .ok (acc, true) =>
        if min shape.count 254 ≤ s.request.record.toNat then (.ok acc, { s with buffer })
        else
          match access.loadNext { s with buffer } with
          | (.ok shape, s') => walkFrom access visit fuel shape acc s'
          | (.error error, s') => (.error (.file error), s') := by
  simp only [walkFrom, Step.bind_apply, Loading.onBuffer, hframe, Step.get]
  generalize visit acc shape s.request.record octets = result
  rcases result with error | ⟨acc, _ | _⟩
  · rfl
  · rfl
  · change (if min shape.count 254 ≤ s.request.record.toNat then _ else _ : Step _ _ _) _ = _
    split
    · rfl
    · change (access.loadNext.mapError CardError.file >>= fun shape =>
        walkFrom access visit fuel shape acc) _ = _
      rw [Step.bind_apply, Step.mapError]
      generalize access.loadNext { s with buffer } = loaded
      obtain ⟨outcome, s'⟩ := loaded
      cases outcome with
      | ok shape => rfl
      | error error => rfl

/-- **A walk that is not given up does not depend on its fuel.** -/
theorem walkFrom_add (more : Nat)
    (h : (walkFrom access visit fuel shape acc s).1 ≠ .error unending) :
    walkFrom access visit (fuel + more) shape acc s =
      walkFrom access visit fuel shape acc s := by
  induction fuel generalizing shape acc s with
  | zero => exact absurd rfl h
  | succ fuel ih =>
    rw [Nat.add_right_comm]
    generalize hframe : readFrame s.buffer = frame
    obtain ⟨outcome, buffer⟩ := frame
    cases outcome with
    | error error => rw [walkFrom_of_readFrame_error hframe, walkFrom_of_readFrame_error hframe]
    | ok octets =>
      rw [walkFrom_of_readFrame hframe] at h ⊢
      rw [walkFrom_of_readFrame hframe]
      generalize visit acc shape s.request.record octets = result at h ⊢
      rcases result with error | ⟨acc, _ | _⟩
      · rfl
      · rfl
      · by_cases hlast : min shape.count 254 ≤ s.request.record.toNat
        · simp only [if_pos hlast]
        · simp only [if_neg hlast] at h ⊢
          generalize access.loadNext { s with buffer } = loaded at h ⊢
          obtain ⟨outcome, s'⟩ := loaded
          cases outcome with
          | ok shape => exact ih h
          | error error => rfl

/-! ## What a walk does with records

A walk hands records to its visit in their order, until the visit has enough, until it complains, or
until the file has no more records. -/

/-- Records that are visited one after the other, from a number on, and after each of which the walk
goes on. -/
inductive Accepts (visit : Visit α) (shape : RecordShape) : Nat → α → List Octets → α → Prop
  | nil (number : Nat) (acc : α) : Accepts visit shape number acc [] acc
  | cons {number : Nat} {acc acc' acc'' : α} {octets : Octets} {records : List Octets}
      (hvisit : visit acc shape (UInt8.ofNat number) octets = .ok (acc', true))
      (hrest : Accepts visit shape (number + 1) acc' records acc'') :
      Accepts visit shape number acc (octets :: records) acc''

/-- **How a walk ends** that hands these records to its visit, from a number on. -/
inductive Ends (visit : Visit α) (shape : RecordShape) (number : Nat) (acc : α) :
    List Octets → Except CardError α → Prop
  /-- The last one was the last record of the file. -/
  | finished {records : List Octets} {acc' : α} (h : Accepts visit shape number acc records acc')
      (hne : records ≠ []) (hcount : number + records.length = shape.count + 1) :
      Ends visit shape number acc records (.ok acc')
  /-- The visit has enough. -/
  | ended {records : List Octets} {acc' acc'' : α} {octets : Octets}
      (h : Accepts visit shape number acc records acc')
      (hvisit : visit acc' shape (UInt8.ofNat (number + records.length)) octets =
        .ok (acc'', false)) :
      Ends visit shape number acc (records ++ [octets]) (.ok acc'')
  /-- The visit complains. -/
  | rejected {records : List Octets} {acc' : α} {octets : Octets} {error : CardError}
      (h : Accepts visit shape number acc records acc')
      (hvisit : visit acc' shape (UInt8.ofNat (number + records.length)) octets = .error error) :
      Ends visit shape number acc (records ++ [octets]) (.error error)
  /-- The next record does not come. -/
  | interrupted {records : List Octets} {acc' : α}
      (h : Accepts visit shape number acc records acc') (error : CardError) :
      Ends visit shape number acc records (.error error)

theorem Ends.cons {number : Nat} {acc' : α} {octets : Octets} {records : List Octets}
    {outcome : Except CardError α}
    (hvisit : visit acc shape (UInt8.ofNat number) octets = .ok (acc', true))
    (h : Ends visit shape (number + 1) acc' records outcome) :
    Ends visit shape number acc (octets :: records) outcome := by
  cases h with
  | finished haccepts hne hcount =>
    refine .finished (.cons hvisit haccepts) (List.cons_ne_nil _ _) ?_
    rw [List.length_cons]
    omega
  | ended haccepts hlast =>
    rw [Nat.add_right_comm] at hlast
    exact .ended (.cons hvisit haccepts) hlast
  | rejected haccepts hlast =>
    rw [Nat.add_right_comm] at hlast
    exact .rejected (.cons hvisit haccepts) hlast
  | interrupted haccepts error => exact .interrupted (.cons hvisit haccepts) error

/-- The records are the data of the answers, one by one; the last answer may have brought none. -/
def Answered (records : List Octets) (answers : List (Option Octets)) : Prop :=
  answers = records.map some ∨ answers = records.map some ++ [none]

theorem Answered.cons {records : List Octets} {answers : List (Option Octets)}
    (h : Answered records answers) (octets : Octets) :
    Answered (octets :: records) (some octets :: answers) := by
  rcases h with rfl | rfl
  · exact .inl rfl
  · exact .inr rfl

/-- The command that reads a record. -/
def readCommand (file : UInt16) (path : String) (size number : Nat) : FileCommand :=
  .readRecord file path (UInt8.ofNat number) (UInt8.ofNat size)

/-- The commands that read `count` records, from a number on. -/
def readCommands (file : UInt16) (path : String) (size number count : Nat) : List FileCommand :=
  (List.range' number count).map (readCommand file path size)

theorem readCommands_of_lt {file : UInt16} {path : String} {size number count : Nat}
    (h : number < count) :
    readCommands file path size (number + 1) (count - number) =
      readCommand file path size (number + 1) ::
        readCommands file path size (number + 2) (count - (number + 1)) := by
  rw [readCommands, show count - number = count - (number + 1) + 1 by omega, List.range'_succ,
    List.map_cons]
  rfl

section Recorded

variable {channel : Channel σ} {application : Application} {file : UInt16} {path : String}
  {number : Nat}

/-- A request for a record of a file whose shape is known. -/
def requestFor (file : UInt16) (shape : RecordShape) (number : Nat) : LoadRequest :=
  { file, record := UInt8.ofNat number, shape := some shape }

theorem pathOf_of? {request : LoadRequest} (hrequest : request.path = none)
    (hpath : Path.of? request.file application = some path) :
    Channel.pathOf application request = .ok path := by
  simp only [Channel.pathOf, hrequest, hpath]

/-- The command that loads the record of a request. -/
theorem readCommand_of_request {request : LoadRequest} (path : String) (hsize : shape.size ≤ 255)
    (hrequest : request = requestFor file shape number) :
    { FileCommand.readRecord request.file path request.record (UInt8.ofNat (min shape.size 0xFF))
        with pin2 := request.pin2 } = readCommand file path shape.size number := by
  rw [hrequest, Nat.min_eq_left hsize]
  rfl

/-- Loading a record that is there, through a channel that writes down what it is asked: one command
is asked, and it brings the record or fails. -/
theorem loadRecord_recorded_cases {s s' : Loading (σ × List Exchange)} (hsize : shape.size ≤ 255)
    (hlocate : Channel.locate channel.recorded application s = (.ok (path, shape), s'))
    (hrequest : s'.request = requestFor file shape number) :
    ∃ exchange card, exchange.command = readCommand file path shape.size number ∧
      ((∃ data, exchange.data? = some data ∧
          Channel.loadRecord channel.recorded application s =
            (.ok shape, { request := requestFor file shape number
                          buffer := s'.buffer.write (framed data)
                          card := (card, s'.card.2 ++ [exchange]) })) ∨
        exchange.data? = none ∧
          ∃ error, Channel.loadRecord channel.recorded application s =
            (.error error, { request := requestFor file shape number, buffer := s'.buffer
                             card := (card, s'.card.2 ++ [exchange]) })) := by
  have hcommand := readCommand_of_request path hsize hrequest
  obtain ⟨request, buffer, card, log⟩ := s'
  obtain rfl : request = requestFor file shape number := hrequest
  rw [Channel.loadRecord_of_locate hlocate, hcommand]
  refine ⟨{ command := readCommand file path shape.size number
            answer := (channel (readCommand file path shape.size number) card).1 },
    (channel (readCommand file path shape.size number) card).2, rfl, ?_⟩
  rcases Channel.transmit_cases channel.recorded (readCommand file path shape.size number)
    (card, log) with ⟨data, hdata, htransmit⟩ | ⟨hdata, error, htransmit⟩
  · refine .inl ⟨data, hdata, ?_⟩
    rw [htransmit]
    rfl
  · refine .inr ⟨hdata, error, ?_⟩
    rw [htransmit]
    rfl

/-- Going on to the next record asks for it, once. -/
theorem loadNext_recorded_cases (channel : Channel σ) {s : Loading (σ × List Exchange)}
    (hsize : shape.size ≤ 255) (hcount : shape.count ≤ 254)
    (hpath : Path.of? file application = some path) (hlt : number < shape.count)
    (hrequest : s.request = requestFor file shape number) :
    ∃ exchange card, exchange.command = readCommand file path shape.size (number + 1) ∧
      ((∃ data, exchange.data? = some data ∧
          (channel.recorded.access application).loadNext s =
            (.ok shape, { request := requestFor file shape (number + 1)
                          buffer := s.buffer.write (framed data)
                          card := (card, s.card.2 ++ [exchange]) })) ∨
        exchange.data? = none ∧
          ∃ error, (channel.recorded.access application).loadNext s =
            (.error error, { request := requestFor file shape (number + 1), buffer := s.buffer
                             card := (card, s.card.2 ++ [exchange]) })) := by
  have hnumber : s.request.record.toNat = number := by
    rw [hrequest]
    exact UInt8.toNat_ofNat_of_lt' (by change _ < 256; omega)
  have hnext : (UInt8.ofNat (number + 1)).toNat = number + 1 :=
    UInt8.toNat_ofNat_of_lt' (by change _ < 256; omega)
  have hlocate : Channel.locate channel.recorded application
      { s with request := requestFor file shape (number + 1) } =
      (.ok (path, shape), { s with request := requestFor file shape (number + 1) }) := by
    refine Channel.locate_of_shape (pathOf_of? rfl hpath) rfl ?_ ?_
    · intro hzero
      rw [show UInt8.ofNat (number + 1) = 0 from hzero] at hnext
      exact absurd hnext (by simp)
    · change (UInt8.ofNat (number + 1)).toNat ≤ shape.count
      omega
  rw [Channel.access_loadNext, Loading.next_of_lt (by omega), hnumber, hrequest]
  exact (loadRecord_recorded_cases hsize hlocate rfl :)

/-- Every answer in a log is one that a frame can hold. -/
def AnswersFit (log : List Exchange) : Prop :=
  ∀ exchange ∈ log, ∀ data, exchange.data? = some data → data.length < frameLimit

instance : DecidablePred AnswersFit := fun log =>
  decidable_of_iff
    (∀ exchange ∈ log, (exchange.data?.all fun data => data.length < frameLimit) = true)
    (by simp only [AnswersFit, Option.all_eq_true, decide_eq_true_eq])

/-- **What a walk does from a record on** that has been loaded: it hands over records and exchanges
commands, beginning with the one after the record. -/
structure Walks (visit : Visit α) (file : UInt16) (path : String) (shape : RecordShape)
    (number : Nat) (acc : α) (s : Loading (σ × List Exchange))
    (result : Except CardError α × Loading (σ × List Exchange)) (handed : List Octets)
    (log : List Exchange) : Prop where
  log_eq : result.2.card.2 = s.card.2 ++ log
  /-- Each record is asked for once, in order. -/
  commands : log.map (·.command) <+:
    readCommands file path shape.size (number + 1) (shape.count - number)
  ends : Ends visit shape number acc handed result.1
  length_le : handed.length ≤ log.length + 1
  /-- A walk that succeeds has been given everything it asked for. -/
  succeeds : ∀ a, result.1 = .ok a → ∀ exchange ∈ log, exchange.data?.isSome
  /-- If the buffer holds the record and nothing else, what is handed over is what the card
  answers. -/
  answered : ∀ c data, Cursor.Drained c → s.buffer = c.write (framed data) →
    data.length < frameLimit → AnswersFit log →
    Answered handed (some data :: log.map (·.data?))

/-- A walk that ends at a record without asking for another. -/
theorem walks_of_ends {s s' : Loading (σ × List Exchange)} {octets : Octets} {buffer : Cursor}
    {outcome : Except CardError α} (hframe : readFrame s.buffer = (.ok octets, buffer))
    (hcard : s'.card = s.card) (hends : Ends visit shape number acc [octets] outcome) :
    Walks visit file path shape number acc s (outcome, s') [octets] [] := by
  refine ⟨by simp [hcard], List.nil_prefix, hends, Nat.le_refl 1, by simp, ?_⟩
  intro c data hc hbuffer hdata _
  obtain ⟨c', hread, -⟩ := hc.readFrame_eq hdata hbuffer
  obtain ⟨rfl, -⟩ : octets = data ∧ buffer = c' := by simpa using hframe.symm.trans hread
  exact .inl rfl

/-- **One step of a walk**: it does what it should at a record, if it does so at the next one. -/
theorem walks_step {s : Loading (σ × List Exchange)} (hsize : shape.size ≤ 255)
    (hcount : shape.count ≤ 254) (hpath : Path.of? file application = some path)
    (hle : number ≤ shape.count) (hrequest : s.request = requestFor file shape number)
    (hnext : number < shape.count → ∀ (acc' : α) (s' : Loading (σ × List Exchange)),
      s'.request = requestFor file shape (number + 1) → ∃ handed log,
      Walks visit file path shape (number + 1) acc' s'
        (walkFrom (channel.recorded.access application) visit fuel shape acc' s') handed log) :
    ∃ handed log, Walks visit file path shape number acc s
      (walkFrom (channel.recorded.access application) visit (fuel + 1) shape acc s) handed log := by
  have hrecord : s.request.record = UInt8.ofNat number := by rw [hrequest]; rfl
  have hnumber : s.request.record.toNat = number := by
    rw [hrecord]
    exact UInt8.toNat_ofNat_of_lt' (by change _ < 256; omega)
  match hframe : readFrame s.buffer with
  | (.error error, buffer) =>
    rw [walkFrom_of_readFrame_error hframe]
    refine ⟨[], [], by simp, List.nil_prefix, .interrupted (.nil number acc) error,
      Nat.zero_le _, by simp, ?_⟩
    intro c data hc hbuffer hdata _
    obtain ⟨c', hread, -⟩ := hc.readFrame_eq hdata hbuffer
    cases hframe.symm.trans hread
  | (.ok octets, buffer) =>
    rw [walkFrom_of_readFrame hframe, hnumber, hrecord]
    match hvisit : visit acc shape (UInt8.ofNat number) octets with
    | .error error =>
      exact ⟨_, _, walks_of_ends hframe rfl (.rejected (.nil number acc) hvisit)⟩
    | .ok (acc', false) =>
      exact ⟨_, _, walks_of_ends hframe rfl (.ended (.nil number acc) hvisit)⟩
    | .ok (acc', true) =>
      by_cases hlast : min shape.count 254 ≤ number
      · simp only [if_pos hlast]
        refine ⟨_, _, walks_of_ends hframe rfl
          (.finished (.cons hvisit (.nil _ _)) (List.cons_ne_nil _ _) ?_)⟩
        rw [List.length_singleton]
        omega
      · have hlt : number < shape.count := by omega
        simp only [if_neg hlast]
        obtain ⟨exchange, card, hcommand, ⟨data, hdata, hload⟩ | ⟨hdata, error, hload⟩⟩ :=
          loadNext_recorded_cases channel (s := { s with buffer }) hsize hcount hpath hlt hrequest
        · rw [hload]
          obtain ⟨handed, log, h⟩ := hnext hlt acc'
            { request := requestFor file shape (number + 1), buffer := buffer.write (framed data),
              card := (card, s.card.2 ++ [exchange]) } rfl
          refine ⟨octets :: handed, exchange :: log, ?_, ?_, h.ends.cons hvisit, ?_, ?_, ?_⟩
          · rw [h.log_eq, List.append_assoc, List.singleton_append]
          · rw [readCommands_of_lt hlt, List.map_cons, hcommand]
            exact List.cons_prefix_cons.2 ⟨rfl, h.commands⟩
          · simpa using h.length_le
          · intro a ha
            exact List.forall_mem_cons.2 ⟨by simp [hdata], h.succeeds a ha⟩
          · intro c first hc hbuffer hfirst hsmall
            obtain ⟨c', hread, hdrained⟩ := hc.readFrame_eq hfirst hbuffer
            obtain ⟨rfl, rfl⟩ : octets = first ∧ buffer = c' := by
              simpa using hframe.symm.trans hread
            obtain ⟨hexchange, hlog⟩ := List.forall_mem_cons.1 hsmall
            rw [List.map_cons, hdata]
            exact (h.answered buffer data hdrained rfl (hexchange data hdata) hlog).cons octets
        · rw [hload]
          refine ⟨[octets], [exchange], rfl, ?_, .interrupted (.cons hvisit (.nil _ _)) _, by simp,
            by simp, ?_⟩
          · rw [readCommands_of_lt hlt, List.map_cons, hcommand]
            exact List.cons_prefix_cons.2 ⟨rfl, List.nil_prefix⟩
          · intro c first hc hbuffer hfirst _
            obtain ⟨c', hread, -⟩ := hc.readFrame_eq hfirst hbuffer
            obtain ⟨rfl, -⟩ : octets = first ∧ buffer = c' := by
              simpa using hframe.symm.trans hread
            exact .inr (by simp [hdata])

/-- **A walk from a record on** does what it should, up to the last record that there can be. -/
theorem walks_walkFrom (channel : Channel σ) (visit : Visit α) (hsize : shape.size ≤ 255)
    (hcount : shape.count ≤ 254) (hpath : Path.of? file application = some path)
    (hfuel : number + fuel = 254) (hle : number ≤ shape.count) (acc : α)
    (s : Loading (σ × List Exchange)) (hrequest : s.request = requestFor file shape number) :
    ∃ handed log, Walks visit file path shape number acc s
      (walkFrom (channel.recorded.access application) visit (fuel + 1) shape acc s) handed log := by
  induction fuel generalizing number acc s with
  | zero =>
    refine walks_step hsize hcount hpath hle hrequest fun hlt => ?_
    omega
  | succ fuel ih =>
    refine walks_step hsize hcount hpath hle hrequest fun hlt acc' s' hrequest' => ?_
    exact ih (by omega) hlt acc' s' hrequest'

/-! ## A whole walk -/

/-- The records that the first answer of a log announces. -/
def announcedBy (log : List Exchange) : RecordShape :=
  FileDescription.announced ((log.head?.bind (·.data?)).getD [])

theorem announcedBy_size_le (log : List Exchange) : (announcedBy log).size ≤ 255 :=
  FileDescription.announced_size_le _

theorem announcedBy_count_le (log : List Exchange) : (announcedBy log).count ≤ 254 :=
  FileDescription.announced_count_le _

/-- **What is asked when a file is walked through to its end**: for its description, and then for
each of its records. -/
def wholeWalk (file : UInt16) (path : String) (shape : RecordShape) : List FileCommand :=
  .describe file path :: readCommands file path shape.size 1 shape.count

theorem wholeWalk_of_pos (h : 1 ≤ shape.count) :
    wholeWalk file path shape = .describe file path :: readCommand file path shape.size 1 ::
      readCommands file path shape.size 2 (shape.count - 1) :=
  congrArg (_ :: ·) (readCommands_of_lt h)

theorem length_wholeWalk : (wholeWalk file path shape).length = shape.count + 1 := by
  simp [wholeWalk, readCommands]

/-- **Each record is visited at most once, and in its turn.**  What a walk through a file did, in a
log of what it asked. -/
structure VisitsInTurn (application : Application) (file : UInt16) (visit : Visit α) (init : α)
    (outcome : Except CardError α) (log : List Exchange) : Prop where
  /-- Nothing is asked but what belongs to the walk, in its order. -/
  commands : ∃ path, (log ≠ [] → Path.of? file application = some path) ∧
    log.map (·.command) <+: wholeWalk file path (announcedBy log)
  /-- The visit is handed the records, beginning with the first. -/
  handed : ∃ handed, Ends visit (announcedBy log) 1 init handed outcome ∧
    handed.length ≤ log.tail.length ∧
    (AnswersFit log → Answered handed (log.tail.map (·.data?)))
  /-- A walk that succeeds has been given everything it asked for. -/
  succeeds : ∀ a, outcome = .ok a → ∀ exchange ∈ log, exchange.data?.isSome

/-- What a walk has asked that does not come to its first record. -/
structure Unbegun (application : Application) (file : UInt16) (log : List Exchange) : Prop where
  commands : ∃ path, (log ≠ [] → Path.of? file application = some path) ∧
    log.map (·.command) <+: wholeWalk file path (announcedBy log)
  answered : Answered [] (log.tail.map (·.data?))

theorem Unbegun.visitsInTurn {log : List Exchange} (h : Unbegun application file log)
    (error : CardError) : VisitsInTurn application file visit acc (.error error) log :=
  ⟨h.commands, ⟨[], .interrupted (.nil 1 acc) error, Nat.zero_le _, fun _ => h.answered⟩, by simp⟩

/-- A file that has been described, and whose first record has come. -/
structure Begun (application : Application) (file : UInt16) (path : String)
    (description exchange : Exchange) (data : Octets) : Prop where
  path_eq : Path.of? file application = some path
  description_eq : description.command = .describe file path
  isSome : description.data?.isSome
  pos : 1 ≤ (announcedBy [description]).count
  command_eq : exchange.command = readCommand file path (announcedBy [description]).size 1
  data_eq : exchange.data? = some data

/-- **How a walk begins**, at a card of which nothing has been asked yet: it asks for the
description and then for the first record, and either may fail. -/
theorem loadRecord_first_cases (channel : Channel σ) (application : Application) (file : UInt16)
    (card : σ) :
    (∃ path description exchange data card', Begun application file path description exchange data ∧
        Channel.loadRecord channel.recorded application
            { request := { file }, buffer := .empty, card := (card, []) } =
          (.ok (announcedBy [description]),
            { request := requestFor file (announcedBy [description]) 1
              buffer := Cursor.empty.write (framed data)
              card := (card', [description, exchange]) })) ∨
      ∃ error s, Unbegun application file s.card.2 ∧
        Channel.loadRecord channel.recorded application
            { request := { file }, buffer := .empty, card := (card, []) } = (.error error, s) := by
  cases hpath : Path.of? file application with
  | none =>
    refine .inr ⟨.unknownPath file, { request := { file }, buffer := .empty, card := (card, []) },
      ⟨⟨"", by simp, List.nil_prefix⟩, .inl rfl⟩, Channel.loadRecord_of_locate_error ?_⟩
    simp only [Channel.locate, Channel.pathOf, Step.bind_apply, Step.get, Step.ofExcept, hpath]
  | some path =>
    have hpathOf : Channel.pathOf application { file } = .ok path := pathOf_of? rfl hpath
    rcases Channel.describe_cases channel.recorded file path (card, []) with
      ⟨data, description, hdata, -, hshape, hdescribe⟩ | ⟨-, error, hdescribe⟩
    · have hlocate := Channel.locate_of_describe
        (s := { request := { file }, buffer := .empty, card := (card, []) }) hpathOf rfl hdescribe
      -- the exchange that stands for the description in the log
      let first : Exchange := ⟨.describe file path, (channel (.describe file path) card).1⟩
      have hfirst : first.data? = some data := hdata
      have hannounced : description.shape = announcedBy [first] := by
        rw [hshape, announcedBy, List.head?_cons, Option.bind_some, hfirst, Option.getD_some]
      rw [hannounced] at hlocate
      by_cases hpos : 1 ≤ (announcedBy [first]).count
      · have hcount : ¬ ((1 : UInt8) = 0 ∨ (announcedBy [first]).count < (1 : UInt8).toNat) := by
          rintro (hzero | hlt)
          · exact absurd hzero (by decide)
          · exact absurd hpos (Nat.not_le.2 hlt)
        simp only [if_neg hcount] at hlocate
        obtain ⟨exchange, card', hcommand, ⟨octets, hoctets, hload⟩ | ⟨hnone, error, hload⟩⟩ :=
          loadRecord_recorded_cases (announcedBy_size_le [first]) hlocate
            (show _ = requestFor file (announcedBy [first]) 1 from rfl)
        · exact .inl ⟨path, first, exchange, octets, card',
            ⟨hpath, rfl, by simp [hfirst], hpos, hcommand, hoctets⟩, hload⟩
        · refine .inr ⟨error, _, ⟨⟨path, fun _ => hpath, ?_⟩, ?_⟩, hload⟩
          · change [first.command, exchange.command] <+: wholeWalk file path (announcedBy [first])
            rw [wholeWalk_of_pos hpos, hcommand]
            exact List.prefix_append [FileCommand.describe file path, _] _
          · exact .inr (congrArg (fun data => [data]) hnone)
      · have hunbegun : Unbegun application file [first] :=
          ⟨⟨path, fun _ => hpath, List.cons_prefix_cons.2 ⟨rfl, List.nil_prefix⟩⟩, .inl rfl⟩
        have hcount : (1 : UInt8) = 0 ∨ (announcedBy [first]).count < (1 : UInt8).toNat :=
          .inr (Nat.not_le.1 hpos)
        simp only [if_pos hcount] at hlocate
        exact .inr ⟨_, _, hunbegun, Channel.loadRecord_of_locate_error hlocate⟩
    · have hlocate := Channel.locate_of_describe_error
        (s := { request := { file }, buffer := .empty, card := (card, []) }) hpathOf rfl hdescribe
      refine .inr ⟨error, _, ⟨⟨path, fun _ => hpath, ?_⟩, .inl rfl⟩,
        Channel.loadRecord_of_locate_error hlocate⟩
      exact List.cons_prefix_cons.2 ⟨rfl, List.nil_prefix⟩

/-- A walk loads the first record, and goes on from there. -/
theorem walk_apply (access : FileAccess σ) (file : UInt16) (visit : Visit α) (init : α) (card : σ) :
    walk access file visit init card =
      match access.loadRecord { request := { file }, buffer := .empty, card } with
      | (.ok shape, s) =>
        ((walkFrom access visit (greatestRecord + access.repeats) shape init s).1,
          (walkFrom access visit (greatestRecord + access.repeats) shape init s).2.card)
      | (.error error, s) => (.error (.file error), s.card) := by
  change Loading.run { file } (access.loadRecord.mapError CardError.file >>= fun shape =>
    walkFrom access visit (greatestRecord + access.repeats) shape init) card = _
  rw [Loading.run, Step.bind_apply, Step.mapError]
  generalize access.loadRecord { request := { file }, buffer := .empty, card } = loaded
  obtain ⟨outcome, s⟩ := loaded
  cases outcome with
  | ok shape => rfl
  | error error => rfl

/-- **A walk through a file visits its records in turn**, whatever the card answers. -/
theorem visitsInTurn_walk (channel : Channel σ) (application : Application) (file : UInt16)
    (visit : Visit α) (init : α) (card : σ) :
    VisitsInTurn application file visit init
      (walk (channel.recorded.access application) file visit init (card, [])).1
      (walk (channel.recorded.access application) file visit init (card, [])).2.2 := by
  rcases loadRecord_first_cases channel application file card with
    ⟨path, description, exchange, data, card', hbegun, hload⟩ | ⟨error, s, hunbegun, hload⟩
  · rw [walk_apply, Channel.access_loadRecord, hload]
    obtain ⟨handed, log, h⟩ := walks_walkFrom channel visit
      (announcedBy_size_le [description]) (announcedBy_count_le [description]) hbegun.path_eq
      (show 1 + 253 = 254 from rfl) hbegun.pos init
      { request := requestFor file (announcedBy [description]) 1
        buffer := Cursor.empty.write (framed data), card := (card', [description, exchange]) } rfl
    rw [greatestRecord, Channel.access_repeats, h.log_eq]
    refine ⟨⟨path, fun _ => hbegun.path_eq, ?_⟩, ⟨handed, h.ends, h.length_le, ?_⟩, ?_⟩
    · change description.command :: exchange.command :: log.map (·.command) <+:
        wholeWalk file path (announcedBy [description])
      rw [wholeWalk_of_pos hbegun.pos, hbegun.description_eq, hbegun.command_eq]
      exact List.cons_prefix_cons.2 ⟨rfl, List.cons_prefix_cons.2 ⟨rfl, h.commands⟩⟩
    · intro hsmall
      obtain ⟨hexchange, hlog⟩ := List.forall_mem_cons.1 (List.forall_mem_cons.1 hsmall).2
      have hanswered := h.answered .empty data Cursor.drained_empty rfl
        (hexchange data hbegun.data_eq) hlog
      rwa [← hbegun.data_eq] at hanswered
    · intro a ha
      have hexchange : exchange.data?.isSome := by simp [hbegun.data_eq]
      exact List.forall_mem_cons.2 ⟨hbegun.isSome,
        List.forall_mem_cons.2 ⟨hexchange, h.succeeds a ha⟩⟩
  · rw [walk_apply, Channel.access_loadRecord, hload]
    exact hunbegun.visitsInTurn _

/-- **A walk that succeeds and is not ended by its visit** has gone through the whole file. -/
theorem VisitsInTurn.complete {init a : α} {log : List Exchange}
    (h : VisitsInTurn application file visit init (.ok a) log)
    (hvisit : ∀ acc shape number octets acc', visit acc shape number octets ≠ .ok (acc', false)) :
    1 ≤ (announcedBy log).count ∧ ∃ path, Path.of? file application = some path ∧
      log.map (·.command) = wholeWalk file path (announcedBy log) := by
  obtain ⟨path, hpath, hinitial⟩ := h.commands
  obtain ⟨handed, hends, hle, -⟩ := h.handed
  cases hends with
  | ended _ hended => exact absurd hended (hvisit _ _ _ _ _)
  | finished _ hne hcount =>
    have hpos : 0 < handed.length := List.length_pos_iff.2 hne
    rw [List.length_tail] at hle
    have hlog : log ≠ [] := by
      rintro rfl
      simp only [List.length_nil] at hle
      omega
    have hlength : (wholeWalk file path (announcedBy log)).length ≤
        (log.map (·.command)).length := by
      rw [length_wholeWalk, List.length_map]
      omega
    exact ⟨by omega, path, hpath hlog, hinitial.eq_of_length_le hlength⟩

theorem VisitsInTurn.length_le {init : α} {outcome : Except CardError α} {log : List Exchange}
    (h : VisitsInTurn application file visit init outcome log) : log.length ≤ 255 := by
  obtain ⟨path, -, hinitial⟩ := h.commands
  have hle := hinitial.length_le
  have hcount := announcedBy_count_le log
  rw [List.length_map, length_wholeWalk] at hle
  omega

end Recorded

/-! ## Gathering what the records hold -/

/-- Gather what the records hold.  A record that is not used is passed over, or ends the walk. -/
def gather (endsUnused : Bool)
    (parse : RecordShape → UInt8 → Octets → Except CardError (Option β)) : Visit (List β) :=
  fun found shape number octets =>
    match parse shape number octets with
    | .error error => .error error
    | .ok (some b) => .ok (found ++ [b], true)
    | .ok none => .ok (found, !endsUnused)

theorem gather_false (parse : RecordShape → UInt8 → Octets → Except CardError (Option β)) :
    gather false parse = fun found shape number octets => do
      let b ← parse shape number octets
      return (found ++ b.toList, true) := by
  funext found shape number octets
  rw [gather]
  cases parse shape number octets with
  | error error => rfl
  | ok b =>
    cases b with
    | none => exact congrArg (fun found => Except.ok (found, true)) (List.append_nil found).symm
    | some b => rfl

/-- **What gathering does with a record** that can be made out. -/
theorem gather_eq_ok_iff {endsUnused goesOn : Bool}
    {parse : RecordShape → UInt8 → Octets → Except CardError (Option β)} {found found' : List β}
    {shape : RecordShape} {number : UInt8} {octets : Octets} :
    gather endsUnused parse found shape number octets = .ok (found', goesOn) ↔
      ∃ entry, parse shape number octets = .ok entry ∧ found ++ entry.toList = found' ∧
        (entry.isSome || !endsUnused) = goesOn := by
  rw [gather]
  cases parse shape number octets with
  | error error => simp
  | ok entry => cases entry <;> simp

theorem gather_ne_ended {parse : RecordShape → UInt8 → Octets → Except CardError (Option β)}
    (found : List β) (shape : RecordShape) (number : UInt8) (octets : Octets) (found' : List β) :
    gather false parse found shape number octets ≠ .ok (found', false) := by
  intro h
  obtain ⟨entry, -, -, hgoesOn⟩ := gather_eq_ok_iff.1 h
  rw [Bool.not_false, Bool.or_true] at hgoesOn
  cases hgoesOn

end Records

/-- The contact in a record, if the record is used. -/
def Contact.ofRecord (shape : RecordShape) (record : UInt8) (octets : Octets) :
    Except CardError (Option Contact) := do
  let entry ← readFrom octets (liftM (DirectoryEntry.read shape.size))
  return entry.map (ofEntry record)

namespace CardFile

variable {σ : Type} (access : FileAccess σ)

theorem names_eq_walk : names access = Records.walk access FileId.networkNames
    (Records.gather true fun _ _ => OperatorName.ofRecord) [] := by
  unfold names
  congr 1
  funext found shape record octets
  rw [Records.gather]
  cases OperatorName.ofRecord octets with
  | error error => rfl
  | ok name => cases name <;> rfl

theorem rules_eq_walk : rules access = Records.walk access FileId.nameRules
    (Records.gather false fun _ _ => NameRule.ofRecord) [] := by
  rw [Records.gather_false]
  rfl

theorem phonebooks_eq_walk : phonebooks access = Records.walk access FileId.phonebookReference
    (Records.gather false fun _ _ => Phonebook.ofRecord) [] := by
  rw [Records.gather_false]
  rfl

theorem contacts_eq_walk (file : UInt16) : contacts access file =
    Records.walk access file (Records.gather false Contact.ofRecord) [] := by
  rw [Records.gather_false]
  unfold contacts
  congr 1
  funext found shape record octets
  rw [Contact.ofRecord]
  cases readFrom octets (liftM (DirectoryEntry.read shape.size)) with
  | error error => rfl
  | ok entry => rfl

end CardFile

/-! ## The readers of a session -/

namespace CardSession

variable {σ α : Type}

/-- **What a reader of records has done** when it ends: it has gone through the records of a file in
turn, at most once, and one that does not stop at an unused record has gone through all of them if
it succeeds. -/
structure GoesThrough (application : Application) (file : UInt16) (endsUnused : Bool)
    (parse : RecordShape → UInt8 → Octets → Except CardError (Option α))
    (result : Except CardError (List α) × CardSession × σ × List Exchange) : Prop where
  inTurn : Records.VisitsInTurn application file (Records.gather endsUnused parse) [] result.1
    result.2.2.2
  length_le : result.2.2.2.length ≤ 1 + 254
  complete : endsUnused = false → ∀ found, result.1 = .ok found →
    1 ≤ (Records.announcedBy result.2.2.2).count ∧ ∃ path, Path.of? file application = some path ∧
      result.2.2.2.map (·.command) = Records.wholeWalk file path (Records.announcedBy result.2.2.2)

theorem goesThrough_learn (channel : Channel σ) (application : Application) (session : CardSession)
    (card : σ) (file : UInt16) (endsUnused : Bool)
    (parse : RecordShape → UInt8 → Octets → Except CardError (Option α))
    (keep : List α → CardSession → CardSession) :
    GoesThrough application file endsUnused parse
      (learn (Records.walk (channel.recorded.access application) file
        (Records.gather endsUnused parse) []) keep (session, card, [])) := by
  have h := Records.visitsInTurn_walk channel application file (Records.gather endsUnused parse) []
    card
  rw [← learn_fst _ keep session, ← learn_card _ keep session] at h
  refine ⟨h, h.length_le, ?_⟩
  rintro rfl found hfound
  rw [hfound] at h
  exact h.complete Records.gather_ne_ended

/-- **Each record is read exactly once.**  Whatever the card answers, the names, the rules, the
phonebooks and the contacts of a card are read by asking for the description of their file and then
for its records, one after the other, as many as the description announces.  The names end with the
first record that is not used; the others, if they can be read at all, with the last record. -/
theorem records_are_read_in_turn (channel : Channel σ) (application : Application)
    (session : CardSession) (card : σ) (file : UInt16) :
    GoesThrough application FileId.networkNames true (fun _ _ => OperatorName.ofRecord)
        (readNames (channel.recorded.access application) (session, card, [])) ∧
      GoesThrough application FileId.nameRules false (fun _ _ => NameRule.ofRecord)
        (readRules (channel.recorded.access application) (session, card, [])) ∧
      GoesThrough application FileId.phonebookReference false (fun _ _ => Phonebook.ofRecord)
        (readPhonebooks (channel.recorded.access application) (session, card, [])) ∧
      GoesThrough application file false Contact.ofRecord
        (readContacts (channel.recorded.access application) file (session, card, [])) := by
  refine ⟨?_, ?_, ?_, ?_⟩
  · rw [readNames_eq, CardFile.names_eq_walk]
    exact goesThrough_learn channel application session card _ _ _ _
  · rw [readRules_eq, CardFile.rules_eq_walk]
    exact goesThrough_learn channel application session card _ _ _ _
  · rw [readPhonebooks_eq, CardFile.phonebooks_eq_walk]
    exact goesThrough_learn channel application session card _ _ _ _
  · rw [readContacts_eq, CardFile.contacts_eq_walk]
    exact goesThrough_learn channel application session card _ _ _ _

end CardSession

end SimCard
