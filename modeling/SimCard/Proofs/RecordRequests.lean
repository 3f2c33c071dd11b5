import SimCard.Proofs.RecordWalks

/-!
# Requests stay within their file

A request for a record goes through many hands.  Its number is set by whoever made it and moved on
by `FileAccess.loadNext`; the shape of the file, against which the number is checked, comes from the
card, once, and stays with the request; and a call that fails leaves the request wherever it had got
to.  So that no command for a record that is not there reaches the card is a matter of all the calls
together, in whatever order.

`Turn` is what can be done with a request, including what its owner does to it between two calls,
and `Conduct` is what is true of the commands that have been sent.  One turn keeps it
(`Turn.proper_step`), hence so does a whole run (`Turn.runAll_orderly`), and the rest is read off.
The card may answer anything, and fail anywhere.
-/

set_option autoImplicit false

namespace SimCard

/-! ## Commands and their file -/

/-- The records that an exchange tells of, if it is the description of a file of records. -/
def Exchange.describes? (exchange : Exchange) : Option RecordShape :=
  if exchange.command.instruction = FileCommand.describeCode then Channel.shapeOf exchange.answer
  else none

namespace FileCommand

variable {shape : RecordShape} {record : UInt8}

/-- Does the command read or replace a record? -/
def OnRecord (command : FileCommand) : Prop :=
  command.instruction = readRecordCode ∨ command.instruction = updateRecordCode

/-- **The command is about a record that is there.**  Its number is one of the file's and can be
asked for, it counts from the beginning of the file, and the size is that of a record; a record is
replaced by just as many octets. -/
structure Within (shape : RecordShape) (command : FileCommand) : Prop where
  record_pos : 1 ≤ command.p1.toNat
  record_le : command.p1.toNat ≤ shape.count
  count_le : shape.count ≤ 254
  mode_eq : command.p2 = 0x04
  size_pos : 1 ≤ command.p3.toNat
  size_eq : command.p3.toNat = shape.size
  data_length : command.instruction = updateRecordCode →
    ∃ data, command.data = some data ∧ data.length = shape.size

theorem toNat_size (h : shape.Bounded) :
    (UInt8.ofNat (min shape.size 0xFF)).toNat = shape.size := by
  have hsize := h.size_le
  rw [Nat.min_eq_left hsize]
  exact UInt8.toNat_ofNat_of_lt' (Nat.lt_succ_of_le hsize)

theorem within_readRecord (h : shape.Bounded) (hpos : 1 ≤ record.toNat)
    (hle : record.toNat ≤ shape.count) (file : UInt16) (path : String) (pin2 : Option String) :
    Within shape { readRecord file path record (UInt8.ofNat (min shape.size 0xFF)) with pin2 } := by
  have hsize := h.size_pos (Nat.le_trans hpos hle)
  refine ⟨hpos, hle, h.count_le, rfl, ?_, toNat_size h, ?_⟩
  · rwa [← toNat_size h] at hsize
  · intro hupdate
    exact absurd (show readRecordCode = updateRecordCode from hupdate) (by decide)

theorem within_updateRecord (h : shape.Bounded) (hpos : 1 ≤ record.toNat)
    (hle : record.toNat ≤ shape.count) (file : UInt16) (path : String) (pin2 : Option String)
    (octets : Octets) :
    Within shape
      { updateRecord file path record (Channel.resize shape.size octets) with pin2 } := by
  have hsize := h.size_pos (Nat.le_trans hpos hle)
  have hlength := Channel.length_resize shape.size octets
  have hnat : (UInt8.ofNat (min (Channel.resize shape.size octets).length 0xFF)).toNat =
      shape.size := by
    rw [hlength, toNat_size h]
  refine ⟨hpos, hle, h.count_le, rfl, ?_, hnat, fun _ => ⟨_, rfl, hlength⟩⟩
  rwa [← hnat] at hsize

end FileCommand

/-! ## The conduct of a request -/

/-- **What has been asked for a request** that knows this much of its file. -/
structure Conduct (known : Option RecordShape) (log : List Exchange) : Prop where
  /-- What the request knows is what the card has told. -/
  known_eq : known = log.findSome? Exchange.describes?
  /-- The card has told it once at most. -/
  once : log.countP (·.describes?.isSome) ≤ 1
  /-- A command on a record was about a record that is there. -/
  within : ∀ exchange ∈ log, exchange.command.OnRecord →
    ∃ shape, known = some shape ∧ exchange.command.Within shape

namespace Conduct

variable {known : Option RecordShape} {shape : RecordShape} {log : List Exchange}
  {exchange : Exchange}

theorem nil : Conduct none [] := ⟨rfl, Nat.zero_le _, fun _ h => absurd h List.not_mem_nil⟩

theorem bounded (h : Conduct (some shape) log) : shape.Bounded := by
  obtain ⟨exchange, -, hdescribes⟩ := List.exists_of_findSome?_eq_some h.known_eq.symm
  rw [Exchange.describes?] at hdescribes
  split at hdescribes
  · exact Channel.bounded_of_shapeOf hdescribes
  · cases hdescribes

/-- As long as the shape is not known, the card may be asked for it. -/
theorem describe (h : Conduct none log) (exchange : Exchange)
    (hcommand : exchange.command.instruction = FileCommand.describeCode) :
    Conduct (Channel.shapeOf exchange.answer) (log ++ [exchange]) := by
  have hdescribes : exchange.describes? = Channel.shapeOf exchange.answer := if_pos hcommand
  have hnone : ∀ earlier ∈ log, earlier.describes? = none :=
    List.findSome?_eq_none_iff.1 h.known_eq.symm
  refine ⟨?_, ?_, ?_⟩
  · rw [List.findSome?_append, ← h.known_eq, Option.none_or, List.findSome?_singleton, hdescribes]
  · have hzero : log.countP (·.describes?.isSome) = 0 :=
      List.countP_eq_zero.2 fun earlier hearlier => by simp [hnone earlier hearlier]
    rw [List.countP_append, hzero, Nat.zero_add]
    exact List.countP_le_length
  · intro earlier hearlier honRecord
    rcases List.mem_append.1 hearlier with hlog | hlast
    · obtain ⟨shape, hknown, -⟩ := h.within earlier hlog honRecord
      cases hknown
    · obtain rfl := List.mem_singleton.1 hlast
      rw [FileCommand.OnRecord, hcommand] at honRecord
      exact absurd honRecord (by decide)

/-- Once the shape is known, commands within it may be sent. -/
theorem command (h : Conduct (some shape) log) (honRecord : exchange.command.OnRecord)
    (hwithin : exchange.command.Within shape) : Conduct (some shape) (log ++ [exchange]) := by
  have hnone : exchange.describes? = none := by
    refine if_neg fun hdescribe => ?_
    rw [FileCommand.OnRecord, hdescribe] at honRecord
    exact absurd honRecord (by decide)
  refine ⟨?_, ?_, ?_⟩
  · rw [List.findSome?_append, ← h.known_eq, Option.some_or]
  · rw [List.countP_append, List.countP_singleton, hnone]
    exact h.once
  · intro earlier hearlier hearlierOn
    rcases List.mem_append.1 hearlier with hlog | hlast
    · exact h.within earlier hlog hearlierOn
    · obtain rfl := List.mem_singleton.1 hlast
      exact ⟨shape, rfl, hwithin⟩

end Conduct

/-! ## One call -/

section Calls

variable {σ α : Type} {channel : Channel σ} {application : Application}
  {s : Loading (σ × List Exchange)} {shape : RecordShape}

/-- **A request in order**: its commands have been as they should, and if it knows the shape of its
file then it knows where the file lies. -/
structure Orderly (application : Application) (s : Loading (σ × List Exchange)) : Prop where
  conduct : Conduct s.request.shape s.card.2
  path : ∀ shape, s.request.shape = some shape →
    ∃ path, Channel.pathOf application s.request = .ok path

theorem Orderly.bounded (h : Orderly application s) (hshape : s.request.shape = some shape) :
    shape.Bounded :=
  Conduct.bounded (hshape ▸ h.conduct)

/-- The number of the record and the buffer have no part in this. -/
theorem Orderly.reset (h : Orderly application s) (record : UInt8) (buffer : Cursor) :
    Orderly application { s with request := { s.request with record }, buffer } :=
  ⟨h.conduct, h.path⟩

/-- A command within the file leaves the request in order, whatever comes of it. -/
theorem Orderly.command (h : Orderly application s) (channel : Channel σ) {command : FileCommand}
    (hshape : s.request.shape = some shape) (honRecord : command.OnRecord)
    (hwithin : command.Within shape) (buffer : Cursor) :
    Orderly application
      { request := s.request, buffer, card := (channel.recorded command s.card).2 } := by
  refine ⟨?_, h.path⟩
  have hconduct := h.conduct
  rw [hshape] at hconduct
  change Conduct s.request.shape (s.card.2 ++ [{ command, answer := (channel command s.card.1).1 }])
  rw [hshape]
  exact hconduct.command honRecord hwithin

/-- What comes of finding the record of a request: it is refused, or it is there. -/
inductive Found (request : LoadRequest) : Except FileError (String × RecordShape) → Prop
  | refused (error : FileError) : Found request (.error error)
  | there (path : String) {shape : RecordShape} (hshape : request.shape = some shape)
      (hpos : 1 ≤ request.record.toNat) (hle : request.record.toNat ≤ shape.count) :
      Found request (.ok (path, shape))

/-- The number is checked against the shape, however that has come to be known. -/
theorem found_of_check {request : LoadRequest} (path : String) (error : FileError)
    (hshape : request.shape = some shape) :
    Found request (if request.record = 0 ∨ shape.count < request.record.toNat then .error error
      else .ok (path, shape)) := by
  by_cases hrange : request.record = 0 ∨ shape.count < request.record.toNat
  · rw [if_pos hrange]
    exact .refused error
  · rw [if_neg hrange]
    obtain ⟨hzero, hle⟩ := not_or.1 hrange
    exact .there path hshape (Nat.pos_of_ne_zero fun h => hzero (UInt8.toNat_inj.1 h))
      (Nat.not_lt.1 hle)

/-- **Finding a record** leaves the request in order, and hands nothing over. -/
theorem Orderly.locate_cases (h : Orderly application s) (channel : Channel σ) :
    ∃ outcome s', Channel.locate channel.recorded application s = (outcome, s') ∧
      Orderly application s' ∧ s'.buffer = s.buffer ∧ Found s'.request outcome := by
  cases hpath : Channel.pathOf application s.request with
  | error error =>
    refine ⟨.error error, s, ?_, h, rfl, .refused error⟩
    simp only [Channel.locate, Step.bind_apply, Step.get, Step.ofExcept, hpath]
  | ok path =>
    cases hshape : s.request.shape with
    | some shape =>
      exact ⟨_, s, Channel.locate_of_known hpath hshape, h, rfl, found_of_check path _ hshape⟩
    | none =>
      have hconduct := h.conduct
      rw [hshape] at hconduct
      have hdescribed := hconduct.describe
        ⟨.describe s.request.file path, (channel (.describe s.request.file path) s.card.1).1⟩ rfl
      rcases Channel.describe_cases channel.recorded s.request.file path s.card with
        ⟨data, description, -, hknown, -, hdescribe⟩ | ⟨hknown, error, hdescribe⟩
      · refine ⟨_, _, Channel.locate_of_describe hpath hshape hdescribe,
          ⟨?_, fun _ _ => ⟨path, hpath⟩⟩, rfl, found_of_check path _ rfl⟩
        rw [← hknown]
        exact hdescribed
      · refine ⟨_, _, Channel.locate_of_describe_error hpath hshape hdescribe,
          ⟨?_, fun _ _ => ⟨path, hpath⟩⟩, rfl, .refused error⟩
        rw [hshape, ← hknown]
        exact hdescribed

/-- A record that is there is asked for, whatever comes of it. -/
theorem log_loadRecord_ne {s' : Loading (σ × List Exchange)} {path : String}
    (hlocate : Channel.locate channel.recorded application s = (.ok (path, shape), s')) :
    (Channel.loadRecord channel.recorded application s).2.card.2 ≠ s'.card.2 := by
  rw [Channel.loadRecord_of_locate hlocate]
  rcases Channel.transmit_cases channel.recorded _ s'.card with
    ⟨data, -, htransmit⟩ | ⟨-, error, htransmit⟩
  · rw [htransmit]
    exact fun h => absurd (List.append_right_eq_self.1 h) (List.cons_ne_nil _ _)
  · rw [htransmit]
    exact fun h => absurd (List.append_right_eq_self.1 h) (List.cons_ne_nil _ _)

/-- **What every call does for a request in order**: it leaves it in order, and if it fails then
nothing has been handed over. -/
def Proper (application : Application) (x : Step (Loading (σ × List Exchange)) FileError α) :
    Prop :=
  ∀ s, Orderly application s →
    Orderly application (x s).2 ∧ ∀ error, (x s).1 = .error error → (x s).2.buffer = s.buffer

theorem proper_loadRecord (channel : Channel σ) (application : Application) :
    Proper application (Channel.loadRecord channel.recorded application) := by
  intro s h
  obtain ⟨outcome, s', hlocate, h', hbuffer, hfound⟩ := h.locate_cases channel
  cases hfound with
  | refused error =>
    rw [Channel.loadRecord_of_locate_error hlocate]
    exact ⟨h', fun _ _ => hbuffer⟩
  | there path hshape hpos hle =>
    have hwithin := FileCommand.within_readRecord (h'.bounded hshape) hpos hle s'.request.file path
      s'.request.pin2
    rw [Channel.loadRecord_of_locate hlocate]
    rcases Channel.transmit_cases channel.recorded _ s'.card with
      ⟨data, -, htransmit⟩ | ⟨-, error, htransmit⟩
    · rw [htransmit]
      exact ⟨h'.command channel hshape (.inl rfl) hwithin _, fun _ hok => by cases hok⟩
    · rw [htransmit]
      exact ⟨h'.command channel hshape (.inl rfl) hwithin _, fun _ _ => hbuffer⟩

theorem proper_updateRecord (channel : Channel σ) (application : Application)
    (make : Nat → Octets) :
    Proper application (Channel.updateRecord channel.recorded application make) := by
  intro s h
  obtain ⟨outcome, s', hlocate, h', hbuffer, hfound⟩ := h.locate_cases channel
  cases hfound with
  | refused error =>
    rw [Channel.updateRecord_of_locate_error make hlocate]
    exact ⟨h', fun _ _ => hbuffer⟩
  | @there path shape hshape hpos hle =>
    have hwithin := FileCommand.within_updateRecord (h'.bounded hshape) hpos hle s'.request.file
      path s'.request.pin2 (make shape.size)
    rw [Channel.updateRecord_of_locate make hlocate]
    rcases Channel.transmit_cases channel.recorded _ s'.card with
      ⟨data, -, htransmit⟩ | ⟨-, error, htransmit⟩
    · rw [htransmit]
      exact ⟨h'.command channel hshape (.inr rfl) hwithin _, fun _ _ => hbuffer⟩
    · rw [htransmit]
      exact ⟨h'.command channel hshape (.inr rfl) hwithin _, fun _ _ => hbuffer⟩

/-- Going on to the next record moves the number and loads, or does nothing at all. -/
theorem proper_loadNext (channel : Channel σ) (application : Application) :
    Proper application (channel.recorded.access application).loadNext := by
  intro s h
  by_cases hlt : s.request.record.toNat < 254
  · rw [Channel.access_loadNext, Loading.next_of_lt hlt]
    exact proper_loadRecord channel application _ (h.reset _ s.buffer)
  · rw [Channel.access_loadNext, Loading.next_of_le (Nat.not_lt.1 hlt)]
    exact ⟨h, fun _ _ => rfl⟩

/-- **When there is no next record**, by what the request knows, going on to it is refused and the
card is not asked; and it is asked in any other case. -/
theorem Orderly.loadNext_refused_iff (h : Orderly application s) (channel : Channel σ)
    (hshape : s.request.shape = some shape) :
    (∃ file record count s', (channel.recorded.access application).loadNext s =
        (.error (.recordOutOfRange file record count), s') ∧ s'.card.2 = s.card.2) ↔
      s.request.hasNext = false := by
  obtain ⟨path, hpath⟩ := h.path shape hshape
  have hcount := (h.bounded hshape).count_le
  have hnext : s.request.hasNext = false ↔ shape.count ≤ s.request.record.toNat := by
    simp [LoadRequest.hasNext, hshape]
  rw [hnext]
  by_cases hlt : s.request.record.toNat < 254
  · let next : Loading (σ × List Exchange) :=
      { s with request := { s.request with record := UInt8.ofNat (s.request.record.toNat + 1) } }
    have hrecord : next.request.record.toNat = s.request.record.toNat + 1 :=
      UInt8.toNat_ofNat_of_lt' (Nat.lt_of_le_of_lt hlt (by decide))
    rw [Channel.access_loadNext, Loading.next_of_lt hlt]
    change (∃ file record count s', Channel.loadRecord channel.recorded application next =
      (.error (.recordOutOfRange file record count), s') ∧ s'.card.2 = s.card.2) ↔ _
    by_cases hle : shape.count ≤ s.request.record.toNat
    · have hlocate : Channel.locate channel.recorded application next = _ :=
        Channel.locate_of_known hpath hshape
      rw [if_pos (.inr (by omega))] at hlocate
      rw [Channel.loadRecord_of_locate_error hlocate]
      exact iff_of_true ⟨_, _, _, _, rfl, rfl⟩ hle
    · have hlocate : Channel.locate channel.recorded application next =
          (.ok (path, shape), next) := by
        refine Channel.locate_of_shape hpath hshape (fun hzero => ?_) (by omega)
        rw [hzero] at hrecord
        exact absurd hrecord (by simp)
      refine iff_of_false ?_ hle
      rintro ⟨file, record, count, s', hload, hlog⟩
      refine log_loadRecord_ne hlocate ?_
      rw [hload]
      exact hlog
  · rw [Channel.access_loadNext, Loading.next_of_le (Nat.not_lt.1 hlt)]
    exact iff_of_true ⟨_, _, _, _, rfl, rfl⟩ (by omega)

end Calls

/-! ## Many calls -/

/-- **What can be done with a request**, by whoever has made it. -/
inductive Turn where
  /-- Ask for another record. -/
  | choose (record : UInt8)
  /-- Have the next record delivered elsewhere. -/
  | receive (buffer : Cursor)
  | load
  | loadNext
  | update (make : Nat → Octets)

namespace Turn

variable {σ : Type}

/-- What a turn does. -/
def step (access : FileAccess σ) : Turn → Step (Loading σ) FileError Unit
  | choose record => Step.modify fun s => { s with request := { s.request with record } }
  | receive buffer => Step.modify fun s => { s with buffer }
  | load => Functor.discard access.loadRecord
  | loadNext => Functor.discard access.loadNext
  | update make => Functor.discard (access.updateRecord make)

/-- Take one turn after the other; one that fails does not keep the next from being taken. -/
def runAll (access : FileAccess σ) (turns : List Turn) (s : Loading σ) : Loading σ :=
  turns.foldl (fun s turn => (turn.step access s).2) s

end Turn

section Runs

variable {σ α : Type} {application : Application}

theorem Proper.discard {x : Step (Loading (σ × List Exchange)) FileError α}
    (h : Proper application x) : Proper application (Functor.discard x) := by
  intro s hs
  rw [Step.discard_apply]
  obtain ⟨horderly, hbuffer⟩ := h s hs
  refine ⟨horderly, fun error herror => ?_⟩
  cases hx : (x s).1 with
  | ok a =>
    rw [hx] at herror
    cases herror
  | error error' => exact hbuffer error' hx

/-- **One turn** leaves a request in order. -/
theorem Turn.proper_step (channel : Channel σ) (application : Application) (turn : Turn) :
    Proper application (turn.step (channel.recorded.access application)) := by
  cases turn with
  | choose record => exact fun s h => ⟨h.reset record s.buffer, fun _ herror => by cases herror⟩
  | receive buffer =>
    exact fun s h => ⟨h.reset s.request.record buffer, fun _ herror => by cases herror⟩
  | load => exact (proper_loadRecord channel application).discard
  | loadNext => exact (proper_loadNext channel application).discard
  | update make => exact (proper_updateRecord channel application make).discard

/-- **Any number of turns** leave a request in order. -/
theorem Turn.runAll_orderly (channel : Channel σ) (turns : List Turn)
    {s : Loading (σ × List Exchange)} (h : Orderly application s) :
    Orderly application (runAll (channel.recorded.access application) turns s) := by
  induction turns generalizing s with
  | nil => exact h
  | cons turn turns ih => exact ih (Turn.proper_step channel application turn s h).1

end Runs

/-- **No command for a record that is not there reaches the card.**  Whatever the card answers, and
whatever is done with a request that knows nothing of its file yet: every record that is read or
replaced is one of those that the card has told of, at its size; the card tells of them once, and
that is what the request knows; and the next turn, if it fails, hands nothing over.  Once the shape
is known, going on to the next record is refused without asking the card exactly when there is
none. -/
theorem Turn.commands_stay_within_the_file {σ : Type} (channel : Channel σ)
    (application : Application) (file : UInt16) (path : Option String) (record : UInt8)
    (pin2 : Option String) (buffer : Cursor) (card : σ) (turns : List Turn) :
    let access := channel.recorded.access application
    let s := runAll access turns
      { request := { file, path, record, pin2 }, buffer, card := (card, []) }
    (∀ exchange ∈ s.card.2, exchange.command.OnRecord →
        ∃ shape, s.request.shape = some shape ∧ exchange.command.Within shape) ∧
      s.card.2.countP (·.describes?.isSome) ≤ 1 ∧
      s.request.shape = s.card.2.findSome? Exchange.describes? ∧
      (∀ turn error s', step access turn s = (.error error, s') → s'.buffer = s.buffer) ∧
      (s.request.shape.isSome →
        ((∃ file record count s', access.loadNext s =
            (.error (.recordOutOfRange file record count), s') ∧ s'.card.2 = s.card.2) ↔
          s.request.hasNext = false)) := by
  intro access s
  have hinitial : Orderly application
      ({ request := { file, path, record, pin2 }, buffer, card := (card, []) } :
        Loading (σ × List Exchange)) := ⟨.nil, fun _ hshape => by cases hshape⟩
  have h : Orderly application s := runAll_orderly channel turns hinitial
  refine ⟨h.conduct.within, h.conduct.once, h.conduct.known_eq, ?_, ?_⟩
  · intro turn error s' hstep
    have hbuffer := (proper_step channel application turn s h).2 error (congrArg Prod.fst hstep)
    rwa [show (step access turn s).2 = s' from congrArg Prod.snd hstep] at hbuffer
  · intro hknown
    obtain ⟨shape, hshape⟩ := Option.isSome_iff_exists.1 hknown
    exact h.loadNext_refused_iff channel hshape

end SimCard
