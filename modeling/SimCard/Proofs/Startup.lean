import SimCard.Proofs.CardSessions
import SimCard.Proofs.FileUses

/-!
# What is read at the start

A terminal that starts reads a handful of files, and which ones depends on what it reads:
`CardSession.start` asks the session, before each file, whether the card offers the service that the
file belongs to.  Here the whole of it is one list of tasks, made once, from the service table that
has just been read (`CardSession.startTasks`).  Carrying out that list, task by task, each one that
fails leaving the session alone, is the same (`CardSession.start_apply`).

Two things make this more than unfolding a definition.

* The session is asked again before each file, and other files have been read in between.  None of
  them touches the service table or the application (`CardSession.Knows.attempt`).
* Whether a service is offered is asked with masks that the application determines.
  `Service.isListed` counts the bits of the table instead (`Service.isOffered_eq_isListed`).

Each task opens the file that it is about and no other (`CardSession.Task.readsFile`), so the files
of a start are opened in the order of the list.
-/

set_option autoImplicit false

namespace SimCard

/-! ## The table of services -/

namespace Service

/-- A bit of a table, counted from the lowest one of the first octet; beyond the table none is
set. -/
def tableBit (table : Octets) (place : Nat) : Bool :=
  (table.getD (place / 8) 0).toNat.testBit (place % 8)

/-- **Is the service in the table?**  A SIM has two bits for each service, the second of which says
that it is active; a USIM has one. -/
def isListed (service : Service) (application : Application) (table : Octets) : Bool :=
  match application with
  | .sim => service.simNumber?.any fun number => tableBit table (2 * number - 1)
  | .usim => service.usimNumber?.any fun number => tableBit table (number - 1)
  | _ => false

/-- Testing an octet with a mask of one bit is testing that bit. -/
theorem and_mask_ne_zero (octet : UInt8) {j : Nat} (hj : j < 8) :
    (octet &&& UInt8.ofNat (1 <<< j) != 0) = octet.toNat.testBit j :=
  forall_octet (p := fun o => ∀ j : Fin 8,
    (o &&& UInt8.ofNat (1 <<< j.val) != 0) = o.toNat.testBit j.val) (by decide +kernel) octet
    ⟨j, hj⟩

theorem simNumber?_pos {service : Service} {number : Nat} (h : service.simNumber? = some number) :
    1 ≤ number := by
  cases service <;> simp only [simNumber?, Option.some.injEq, reduceCtorEq] at h <;> omega

/-- A masked octet of a table, wherever the table may end, is a bit of it. -/
theorem any_masked_eq_tableBit (table : Octets) (index : Nat) {j : Nat} (hj : j < 8) :
    (table[index]?.any fun octet => octet &&& UInt8.ofNat (1 <<< j) != 0) =
      tableBit table (8 * index + j) := by
  have hindex : (8 * index + j) / 8 = index := by omega
  have hplace : (8 * index + j) % 8 = j := by omega
  rw [tableBit, hindex, hplace, List.getD_eq_getElem?_getD]
  cases table[index]? with
  | none => exact (Nat.zero_testBit j).symm
  | some octet => exact and_mask_ne_zero octet hj

theorem isOffered_eq_any (service : Service) (application : Application) (table : Octets) :
    service.isOffered application table = (service.bit? application).any fun (index, mask) =>
      table[index]?.any fun octet => octet &&& mask != 0 := by
  rw [isOffered]
  cases service.bit? application with
  | none => rfl
  | some bit =>
    obtain ⟨index, mask⟩ := bit
    simp only [Option.any_some]
    cases table[index]? <;> rfl

/-- **The masks find the bits.** -/
theorem isOffered_eq_isListed (service : Service) (application : Application) (table : Octets) :
    service.isOffered application table = service.isListed application table := by
  rw [isOffered_eq_any]
  cases application with
  | sim =>
    rw [bit?, number?, isListed]
    cases hnumber : service.simNumber? with
    | none => rfl
    | some number =>
      have hpos := simNumber?_pos hnumber
      have hmask : 2 <<< (2 * ((number - 1) % 4)) = 1 <<< (2 * ((number - 1) % 4) + 1) :=
        (Nat.shiftLeft_succ_inside 1 _).symm
      have hplace : 2 * number - 1 =
          8 * ((number - 1) / 4) + (2 * ((number - 1) % 4) + 1) := by omega
      simp only [Option.map_some, Option.any_some, if_pos]
      rw [hmask, hplace, any_masked_eq_tableBit table _ (by omega)]
  | usim =>
    rw [bit?, number?, isListed]
    cases service.usimNumber? with
    | none => rfl
    | some number =>
      have hplace : 8 * ((number - 1) / 8) + (number - 1) % 8 = number - 1 := by omega
      simp only [Option.map_some, Option.any_some, reduceCtorEq, if_false]
      rw [any_masked_eq_tableBit table _ (Nat.mod_lt _ (by decide)), hplace]
  | unknown | ruim | csim | isim => rfl

end Service

/-! ## The tasks of a start -/

namespace CardSession

variable {σ : Type}

/-- **Try a task.**  If it fails, the session stays as it is; the card has been asked all the
same. -/
def attempt (access : FileAccess σ) (state : CardSession × σ) (task : Task) : CardSession × σ :=
  match task.run access state with
  | (.ok (), state') => state'
  | (.error _, (_, card)) => (state.1, card)

/-- The tasks that depend on a service, in the order in which they are carried out. -/
def serviceTasks : List (Service × Task) :=
  [(.ownNumber, .readOwnNumber), (.providerName, .readProvider),
   (.providerDisplay, .readProviderNetworks), (.networkNames, .readNames), (.nameRules, .readRules)]

/-- Those of the tasks whose service is in the table. -/
def listedTasks (application : Application) (table : Octets) (tasks : List (Service × Task)) :
    List Task :=
  (tasks.filter fun (service, _) => service.isListed application table).map Prod.snd

/-- The tasks that come before the service table. -/
def firstTasks (subscriber : Option String) : List Task := [.readIdentity, .readHome subscriber]

/-- **The tasks of a start**: the number of the card, the home network and the service table, and,
if the table can be read, what it lists. -/
def startTasks (access : FileAccess σ) (subscriber : Option String) (state : CardSession × σ) :
    List Task :=
  let before := (firstTasks subscriber).foldl (attempt access) state
  firstTasks subscriber ++ .readServices ::
    match (readServices access before).1 with
    | .ok table => listedTasks state.1.application table serviceTasks
    | .error _ => []

section Start

variable {access : FileAccess σ} {application : Application} {table : Octets} {task : Task}
  {state : CardSession × σ}

/-- A task that fails does not touch the session, so trying it is carrying it out. -/
theorem attempt_eq_run (access : FileAccess σ) (state : CardSession × σ) (task : Task) :
    attempt access state task = (task.run access state).2 := by
  obtain ⟨s, card⟩ := state
  rw [attempt]
  rcases task.run_cases access s card with ⟨error, card', hrun⟩ | ⟨s', card', hrun, -⟩
  · simp only [hrun]
  · simp only [hrun]

theorem attempt_of_discard {α : Type} (task : Task) {read : Step (CardSession × σ) CardError α}
    (hrun : task.run access = Functor.discard read) (state : CardSession × σ) :
    attempt access state task = (read state).2 := by
  rw [attempt_eq_run, hrun, Step.discard_apply]

/-- A part that a task is not about stays as it is. -/
theorem attempt_same {part : Part} (hpart : part ∉ task.parts) (access : FileAccess σ)
    (state : CardSession × σ) : part.Same state.1 (attempt access state task).1 := by
  obtain ⟨s, card⟩ := state
  rw [attempt_eq_run]
  rcases task.run_cases access s card with ⟨error, card', hrun⟩ | ⟨s', card', hrun, hlearned⟩
  · rw [hrun]
    cases part <;> rfl
  · rw [hrun]
    exact hlearned.same hpart

/-- No task is about the application. -/
theorem attempt_application (access : FileAccess σ) (state : CardSession × σ) (task : Task) :
    (attempt access state task).1.application = state.1.application := by
  have hpart : Part.application ∉ task.parts := by cases task <;> simp [Task.parts]
  exact (attempt_same hpart access state).symm

/-- What decides which files are read. -/
structure Knows (application : Application) (table : Octets) (s : CardSession) : Prop where
  application_eq : s.application = application
  services_eq : s.records.services = some table

theorem Knows.offers_eq {s : CardSession} (h : Knows application table s) (service : Service) :
    s.offers service = service.isListed application table := by
  rw [offers, h.services_eq, h.application_eq]
  exact service.isOffered_eq_isListed application table

theorem Knows.attempt (h : Knows application table state.1) (hservices : Part.services ∉ task.parts)
    (access : FileAccess σ) : Knows application table (attempt access state task).1 :=
  ⟨(attempt_application access state task).trans h.application_eq,
    (attempt_same hservices access state).symm.trans h.services_eq⟩

/-- Whenever it is known what decides, the step is the tasks that are listed, and it does not
fail. -/
def Performs (access : FileAccess σ) (application : Application) (table : Octets)
    (x : Step (CardSession × σ) CardError Unit) (tasks : List (Service × Task)) : Prop :=
  ∀ state : CardSession × σ, Knows application table state.1 →
    x state = (.ok (), (listedTasks application table tasks).foldl (attempt access) state) ∧
      Knows application table
        ((listedTasks application table tasks).foldl (attempt access) state).1

/-- Reading what is offered is one task, if it is listed. -/
theorem performs_readOffered {α : Type} {read : Step (CardSession × σ) CardError α}
    (service : Service) (task : Task) (hrun : task.run access = Functor.discard read)
    (hservices : Part.services ∉ task.parts) :
    Performs access application table (readOffered service read) [(service, task)] := by
  intro state hknows
  have hoffers := hknows.offers_eq service
  change (if state.1.offers service = true then read.ignoring else pure () :
    Step (CardSession × σ) CardError Unit) state = _ ∧ _
  cases hlisted : service.isListed application table with
  | true =>
    have htasks : listedTasks application table [(service, task)] = [task] := by
      simp [listedTasks, hlisted]
    rw [hlisted] at hoffers
    rw [if_pos hoffers, htasks, List.foldl_cons, List.foldl_nil]
    refine ⟨?_, hknows.attempt hservices access⟩
    rw [attempt_of_discard task hrun]
    rfl
  | false =>
    have htasks : listedTasks application table [(service, task)] = [] := by
      simp [listedTasks, hlisted]
    rw [hlisted] at hoffers
    rw [hoffers, if_neg Bool.false_ne_true, htasks]
    exact ⟨rfl, hknows⟩

theorem Performs.bind {x y : Step (CardSession × σ) CardError Unit}
    {front back : List (Service × Task)} (hx : Performs access application table x front)
    (hy : Performs access application table y back) :
    Performs access application table (x >>= fun _ => y) (front ++ back) := by
  intro state hknows
  obtain ⟨hrun, hknows'⟩ := hx state hknows
  have htasks : listedTasks application table (front ++ back) =
      listedTasks application table front ++ listedTasks application table back := by
    rw [listedTasks, List.filter_append, List.map_append]
    rfl
  rw [Step.bind_apply, hrun, htasks, List.foldl_append]
  exact hy _ hknows'

/-- Everything after the service table, once the table is known. -/
theorem performs_offered (access : FileAccess σ) (application : Application) (table : Octets) :
    Performs access application table
      (do
        readOffered .ownNumber (readOwnNumber access)
        readOffered .providerName (readProvider access)
        readOffered .providerDisplay (readProviderNetworks access)
        readOffered .networkNames (readNames access)
        readOffered .nameRules (readRules access)) serviceTasks :=
  (performs_readOffered .ownNumber .readOwnNumber rfl (by decide)).bind <|
  (performs_readOffered .providerName .readProvider rfl (by decide)).bind <|
  (performs_readOffered .providerDisplay .readProviderNetworks rfl (by decide)).bind <|
  (performs_readOffered .networkNames .readNames rfl (by decide)).bind <|
  performs_readOffered .nameRules .readRules rfl (by decide)

/-- **A start is its tasks, one after the other**, and fails only if the service table does. -/
theorem start_apply (access : FileAccess σ) (subscriber : Option String)
    (state : CardSession × σ) :
    start access subscriber state =
      ((readServices access ((firstTasks subscriber).foldl (attempt access) state)).1.map
          fun _ => (),
        (startTasks access subscriber state).foldl (attempt access) state) := by
  have hfirst : (firstTasks subscriber).foldl (attempt access) state =
      (readHome access subscriber (readIdentity access state).2).2 := by
    simp only [firstTasks, List.foldl_cons, List.foldl_nil]
    rw [attempt_of_discard .readIdentity rfl, attempt_of_discard (.readHome subscriber) rfl]
  have happlication : ((firstTasks subscriber).foldl (attempt access) state).1.application =
      state.1.application := by
    simp only [firstTasks, List.foldl_cons, List.foldl_nil, attempt_application]
  have hstart : start access subscriber state =
      (readServices access >>= fun _ => do
        readOffered .ownNumber (readOwnNumber access)
        readOffered .providerName (readProvider access)
        readOffered .providerDisplay (readProviderNetworks access)
        readOffered .networkNames (readNames access)
        readOffered .nameRules (readRules access))
      ((firstTasks subscriber).foldl (attempt access) state) := by
    rw [hfirst]
    rfl
  rw [hstart, startTasks, List.foldl_append, List.foldl_cons,
    attempt_of_discard .readServices rfl, Step.bind_apply]
  generalize (firstTasks subscriber).foldl (attempt access) state = before at happlication ⊢
  obtain ⟨s, card⟩ := before
  rw [readServices_eq, learn]
  generalize CardFile.services access card = result
  obtain ⟨outcome, card'⟩ := result
  cases outcome with
  | error error => rfl
  | ok table =>
    exact (performs_offered access state.1.application table
      (keepServices table s, card') ⟨happlication, rfl⟩).1

end Start

end CardSession

/-! ## The files of tasks -/

namespace CardSession

variable {σ : Type}

/-- The session and the card, without the log. -/
def withoutLog (state : CardSession × σ × List Use) : CardSession × σ := (state.1, state.2.1)

theorem follows_learn {α : Type} {x : Step (σ × List Use) CardError α} {y : Step σ CardError α}
    (keep : α → CardSession → CardSession) (h : Step.Follows Prod.fst x y) :
    Step.Follows withoutLog (learn x keep) (learn y keep) := by
  rintro ⟨session, card, log⟩
  have hread : y card = _ := h (card, log)
  rw [withoutLog, learn, learn, hread]
  generalize x (card, log) = result
  obtain ⟨outcome, card'⟩ := result
  cases outcome with
  | ok a => rfl
  | error error => rfl

/-- The file that a task reads.  Storing a contact reads none. -/
def Task.file? : Task → Option UInt16
  | .readIdentity => some FileId.cardIdentity
  | .readHome _ => some FileId.administrativeData
  | .readServices => some FileId.serviceTable
  | .readOwnNumber => some FileId.ownNumber
  | .readProvider => some FileId.providerName
  | .readProviderNetworks => some FileId.providerDisplay
  | .readNames => some FileId.networkNames
  | .readRules => some FileId.nameRules
  | .readPhonebooks => some FileId.phonebookReference
  | .readEmail file _ _ => some file
  | .readContacts file => some file
  | .storeContact .. => none

/-- A file is read, with the log and without. -/
structure ReadsFile (file : UInt16) (x : Step (CardSession × σ × List Use) CardError Unit)
    (y : Step (CardSession × σ) CardError Unit) : Prop where
  opens : ∀ state, ∃ uses left, (x state).2.2.2 = state.2.2 ++ uses ∧ Opens file uses left
  follows : Step.Follows withoutLog x y

theorem readsFile_of_learn {α : Type} {file : UInt16} {x : Step (σ × List Use) CardError α}
    {y : Step σ CardError α} {reader : Step (CardSession × σ × List Use) CardError α}
    {reader' : Step (CardSession × σ) CardError α} {keep : α → CardSession → CardSession}
    (h : Reads file x y) (hx : reader = learn x keep) (hy : reader' = learn y keep) :
    ReadsFile file (Functor.discard reader) (Functor.discard reader') := by
  refine ⟨?_, ?_⟩
  · rintro ⟨session, card, earlier⟩
    rw [hx, Step.discard_apply, learn_card]
    exact h.opens card earlier
  · rw [hx, hy]
    exact (follows_learn keep h.follows).discard

/-- **A task that reads a file opens that file and no other.** -/
theorem Task.readsFile (access : FileAccess σ) {task : Task} {file : UInt16}
    (h : task.file? = some file) :
    ReadsFile file (task.run access.recorded) (task.run access) := by
  cases task with
  | storeContact file contact pin2 => cases h
  | readIdentity =>
    obtain rfl := Option.some.inj h
    exact readsFile_of_learn ((reads_loadWhole access _).bind (fun _ _ _ h => h) fun _ _ => rfl)
      (readIdentity_eq access.recorded) (readIdentity_eq access)
  | readHome subscriber =>
    obtain rfl := Option.some.inj h
    exact readsFile_of_learn ((reads_loadWhole access _).bind (fun _ _ _ h => h) fun _ _ => rfl)
      (readHome_eq access.recorded subscriber) (readHome_eq access subscriber)
  | readServices =>
    obtain rfl := Option.some.inj h
    exact readsFile_of_learn (reads_loadWhole access _) (readServices_eq access.recorded)
      (readServices_eq access)
  | readOwnNumber =>
    obtain rfl := Option.some.inj h
    refine readsFile_of_learn ((reads_load access _ 1).bind (fun _ _ => ?_) fun _ => ?_)
      (readOwnNumber_eq access.recorded) (readOwnNumber_eq access)
    · exact Step.Keeps.bind (fun _ h => h) fun _ => Step.keeps_pure _
    · exact (Step.follows_ofExcept _).bind fun _ => Step.follows_pure _
  | readProvider =>
    obtain rfl := Option.some.inj h
    exact readsFile_of_learn ((reads_loadWhole access _).bind (fun _ _ _ h => h) fun _ _ => rfl)
      (readProvider_eq access.recorded) (readProvider_eq access)
  | readProviderNetworks =>
    obtain rfl := Option.some.inj h
    exact readsFile_of_learn ((reads_loadWhole access _).bind (fun _ _ _ h => h) fun _ _ => rfl)
      (readProviderNetworks_eq access.recorded) (readProviderNetworks_eq access)
  | readNames =>
    obtain rfl := Option.some.inj h
    exact readsFile_of_learn (reads_walk access _ _ _) (readNames_eq access.recorded)
      (readNames_eq access)
  | readRules =>
    obtain rfl := Option.some.inj h
    exact readsFile_of_learn (reads_walk access _ _ _) (readRules_eq access.recorded)
      (readRules_eq access)
  | readPhonebooks =>
    obtain rfl := Option.some.inj h
    exact readsFile_of_learn (reads_walk access _ _ _) (readPhonebooks_eq access.recorded)
      (readPhonebooks_eq access)
  | readEmail file fileType record =>
    obtain rfl := Option.some.inj h
    exact readsFile_of_learn ((reads_load access _ record).bind (fun _ _ _ h => h) fun _ _ => rfl)
      (readEmail_eq access.recorded _ fileType record) (readEmail_eq access _ fileType record)
  | readContacts file =>
    obtain rfl := Option.some.inj h
    exact readsFile_of_learn (reads_walk access _ _ _) (readContacts_eq access.recorded _)
      (readContacts_eq access _)

/-! ## Tasks in turn -/

/-- **Files are opened in turn**, one for each task, and nothing else is accessed. -/
inductive OpensInTurn : List Task → List Use → Prop
  | nil : OpensInTurn [] []
  | cons {task : Task} {file left : UInt16} {tasks : List Task} {uses log : List Use}
      (hfile : task.file? = some file) (huses : Opens file uses left)
      (hrest : OpensInTurn tasks log) : OpensInTurn (task :: tasks) (uses ++ log)

/-- If nobody changes what a request names, only the files of the tasks are accessed. -/
theorem OpensInTurn.mem_files {tasks : List Task} {log : List Use} (h : OpensInTurn tasks log)
    (hleft : ∀ use ∈ log, use.left = use.file) :
    ∀ use ∈ log, use.file ∈ tasks.filterMap Task.file? := by
  induction h with
  | nil => exact fun use huse => absurd huse List.not_mem_nil
  | cons hfile huses hrest ih =>
    intro use huse
    rw [List.filterMap_cons_some hfile]
    rcases List.mem_append.1 huse with huse | huse
    · have hsame := (huses.eq_file fun use huse => hleft use (List.mem_append_left _ huse)).1
      rw [hsame use huse]
      exact List.mem_cons_self
    · exact List.mem_cons_of_mem _
        (ih (fun use huse => hleft use (List.mem_append_right _ huse)) use huse)

/-- **Trying tasks** opens their files in turn, and comes to the same without the log. -/
theorem attempts_recorded (access : FileAccess σ) (tasks : List Task)
    (hfiles : ∀ task ∈ tasks, task.file?.isSome) (state : CardSession × σ × List Use) :
    (∃ log, (tasks.foldl (attempt access.recorded) state).2.2 = state.2.2 ++ log ∧
        OpensInTurn tasks log) ∧
      withoutLog (tasks.foldl (attempt access.recorded) state) =
        tasks.foldl (attempt access) (withoutLog state) := by
  induction tasks generalizing state with
  | nil => exact ⟨⟨[], (List.append_nil _).symm, .nil⟩, rfl⟩
  | cons task tasks ih =>
    obtain ⟨htask, htasks⟩ := List.forall_mem_cons.1 hfiles
    obtain ⟨file, hfile⟩ := Option.isSome_iff_exists.1 htask
    have hreads := task.readsFile access hfile
    obtain ⟨uses, left, huses, hopens⟩ := hreads.opens state
    obtain ⟨⟨log, hlog, hinTurn⟩, hrest⟩ := ih htasks (attempt access.recorded state task)
    refine ⟨⟨uses ++ log, ?_, .cons hfile hopens hinTurn⟩, ?_⟩
    · rw [List.foldl_cons, hlog, attempt_eq_run, huses, List.append_assoc]
    · have hattempt : withoutLog (attempt access.recorded state task) =
          attempt access (withoutLog state) task := by
        rw [attempt_eq_run, attempt_eq_run, hreads.follows state]
      rw [List.foldl_cons, List.foldl_cons, hrest, hattempt]

/-- Every task of a start reads a file. -/
theorem isSome_file?_of_mem_startTasks {access : FileAccess σ} {subscriber : Option String}
    {state : CardSession × σ} : ∀ task ∈ startTasks access subscriber state, task.file?.isSome := by
  have hservice : ∀ entry ∈ serviceTasks, entry.2.file?.isSome := by
    simp [serviceTasks, Task.file?]
  intro task htask
  rcases List.mem_append.1 htask with hfirst | hrest
  · obtain rfl | rfl : task = .readIdentity ∨ task = .readHome subscriber := by
      simpa [firstTasks] using hfirst
    · rfl
    · rfl
  · rcases List.mem_cons.1 hrest with rfl | hlast
    · rfl
    · split at hlast
      · obtain ⟨entry, hentry, rfl⟩ := List.mem_map.1 hlast
        exact hservice entry (List.mem_filter.1 hentry).1
      · exact absurd hlast List.not_mem_nil

/-- The log has no part in what is found in the service table. -/
theorem readServices_recorded (access : FileAccess σ) (subscriber : Option String)
    (state : CardSession × σ × List Use) :
    (readServices access.recorded
        ((firstTasks subscriber).foldl (attempt access.recorded) state)).1 =
      (readServices access
        ((firstTasks subscriber).foldl (attempt access) (withoutLog state))).1 := by
  have hfirst := (attempts_recorded access (firstTasks subscriber)
    (by simp [firstTasks, Task.file?]) state).2
  have hservices := follows_learn keepServices (reads_loadWhole access FileId.serviceTable).follows
    ((firstTasks subscriber).foldl (attempt access.recorded) state)
  rw [hfirst] at hservices
  rw [readServices_eq, readServices_eq]
  exact (congrArg Prod.fst hservices).symm

/-- Nor in what the tasks of a start are. -/
theorem startTasks_recorded (access : FileAccess σ) (subscriber : Option String)
    (state : CardSession × σ × List Use) :
    startTasks access.recorded subscriber state =
      startTasks access subscriber (withoutLog state) := by
  rw [startTasks, startTasks, readServices_recorded]
  rfl

/-- **A start is its parts.**  Whatever the card does, starting is trying the tasks of the start one
after the other: the number of the card, the home network, the service table, and then those whose
service is in the table.  It fails just if the table cannot be read, and then nothing else is tried.
Each task opens its own file, in turn, and no other file is accessed, as long as whoever carries a
request out does not make it name another. -/
theorem start_is_its_parts (access : FileAccess σ) (subscriber : Option String)
    (session : CardSession) (card : σ) :
    let before := (firstTasks subscriber).foldl (attempt access) (session, card)
    let tasks := startTasks access subscriber (session, card)
    let recorded := start access.recorded subscriber (session, card, [])
    start access subscriber (session, card) =
        ((readServices access before).1.map fun _ => (),
          tasks.foldl (attempt access) (session, card)) ∧
      start access subscriber (session, card) = (recorded.1, withoutLog recorded.2) ∧
      OpensInTurn tasks recorded.2.2.2 ∧
      ((∀ use ∈ recorded.2.2.2, use.left = use.file) →
        ∀ use ∈ recorded.2.2.2, use.file ∈ tasks.filterMap Task.file?) := by
  intro before tasks recorded
  have hstart := start_apply access subscriber (session, card)
  have hrecorded : recorded = _ := start_apply access.recorded subscriber (session, card, [])
  rw [startTasks_recorded, readServices_recorded] at hrecorded
  obtain ⟨⟨log, hlog, hopens⟩, hstate⟩ :=
    attempts_recorded access tasks isSome_file?_of_mem_startTasks (session, card, [])
  have hinTurn : OpensInTurn tasks recorded.2.2.2 := by
    rw [show recorded.2.2.2 = log by rw [hrecorded]; exact hlog]
    exact hopens
  refine ⟨hstart, ?_, hinTurn, hinTurn.mem_files⟩
  rw [hstart, hrecorded]
  exact Prod.ext rfl hstate.symm

end CardSession

end SimCard
