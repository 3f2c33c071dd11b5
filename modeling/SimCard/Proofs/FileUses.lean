import SimCard.Proofs.FileViews

/-!
# Which file is accessed

`FileAccess.recorded` is an access that writes down every use that is made of it: the file that the
request named, and the file that it names afterwards.  The two can differ, because whoever carries a
request out may change it, and a file of records is loaded through one request, record by record.
So a reader can promise no more than this: it begins with its own file, and goes on with whatever
the request names by then (`Opens`).  If nobody changes a request, that is one file
(`Opens.eq_file`).

A reader with the log must be the reader without it, seen through the view that forgets the log.  An
access that writes its uses down mirrors the access that does not (`FileAccess.mirrors_recorded`), a
request that is being carried out stays `Engaged`, and `Reads` is what comes of both for whole
readers: `reads_loadWhole`, `reads_load`, `reads_walk`.
-/

set_option autoImplicit false

namespace SimCard

/-! ## Uses of a request -/

/-- One use of a request: the file that it named, and the file that it names afterwards. -/
structure Use where
  file : UInt16
  left : UInt16
deriving DecidableEq

section Recorded

variable {σ α β : Type}

/-- The step, with its use of the request written down behind the earlier ones. -/
def recordedStep (x : Step (Loading σ) FileError α) :
    Step (Loading (σ × List Use)) FileError α := fun s =>
  let (outcome, s') := x (s.map Prod.fst)
  (outcome, { request := s'.request, buffer := s'.buffer
              card := (s'.card, s.card.2 ++ [⟨s.request.file, s'.request.file⟩]) })

/-- **The access that writes down how it is used**, the earliest first. -/
def FileAccess.recorded (access : FileAccess σ) : FileAccess (σ × List Use) where
  loadRecord := recordedStep access.loadRecord
  loadNext := recordedStep access.loadNext
  loadFile := recordedStep access.loadFile
  updateRecord make := recordedStep (access.updateRecord make)
  repeats := access.repeats

/-- **A file is opened**: the first use is for that file, and every further use is for what the
request names by then.  The last argument is what it names in the end. -/
inductive Opens (file : UInt16) : List Use → UInt16 → Prop
  | first (left : UInt16) : Opens file [⟨file, left⟩] left
  | next {uses : List Use} {current : UInt16} (h : Opens file uses current) (left : UInt16) :
      Opens file (uses ++ [⟨current, left⟩]) left

/-- As long as nobody changes what the request names, every use is for the same file. -/
theorem Opens.eq_file {file current : UInt16} {uses : List Use} (h : Opens file uses current)
    (hleft : ∀ use ∈ uses, use.left = use.file) :
    (∀ use ∈ uses, use.file = file) ∧ current = file := by
  induction h with
  | first left =>
    refine ⟨fun use huse => ?_, hleft _ (List.mem_singleton_self _)⟩
    rw [List.mem_singleton.1 huse]
  | @next uses current h left ih =>
    obtain ⟨hfile, rfl⟩ := ih fun use huse => hleft use (List.mem_append_left _ huse)
    refine ⟨fun use huse => ?_, hleft _ (List.mem_append_right _ (List.mem_singleton_self _))⟩
    rcases List.mem_append.1 huse with huse | huse
    · exact hfile use huse
    · rw [List.mem_singleton.1 huse]

/-- A request that is being carried out: what it has been used for, behind what was written down
before. -/
def Engaged (earlier : List Use) (file : UInt16) (s : Loading (σ × List Use)) : Prop :=
  ∃ uses, s.card.2 = earlier ++ uses ∧ Opens file uses s.request.file

/-- **One use of a request** keeps to the request, and does what it does without the log. -/
theorem mirrors_recordedStep (earlier : List Use) (file : UInt16)
    (x : Step (Loading σ) FileError α) :
    Step.Mirrors (Loading.map Prod.fst) (Engaged earlier file) (recordedStep x) x := by
  refine ⟨?_, fun _ => rfl⟩
  rintro s ⟨uses, hlog, hopens⟩
  refine ⟨uses ++ [_], ?_, hopens.next _⟩
  rw [← List.append_assoc, ← hlog]
  rfl

theorem FileAccess.mirrors_recorded (access : FileAccess σ) (earlier : List Use) (file : UInt16) :
    access.recorded.Mirrors Prod.fst (Engaged earlier file) access :=
  ⟨mirrors_recordedStep _ _ _, mirrors_recordedStep _ _ _, mirrors_recordedStep _ _ _,
    fun _ => mirrors_recordedStep _ _ _, rfl, fun _ _ h => h⟩

/-! ## Readers of files -/

/-- **Reading a file**: that file is opened, no other is, and what is read is what is read without
the log. -/
structure Reads (file : UInt16) (x : Step (σ × List Use) CardError α) (y : Step σ CardError α) :
    Prop where
  opens : ∀ card earlier, ∃ uses left, (x (card, earlier)).2.2 = earlier ++ uses ∧
    Opens file uses left
  follows : Step.Follows Prod.fst x y

/-- A request for a file is used, and then only in ways that keep to it. -/
theorem reads_run (request : LoadRequest) (x : Step (Loading σ) FileError β)
    {rest : β → Step (Loading (σ × List Use)) CardError α}
    {rest' : β → Step (Loading σ) CardError α}
    (hrest : ∀ earlier b, Step.Mirrors (Loading.map Prod.fst) (Engaged earlier request.file)
      (rest b) (rest' b)) :
    Reads request.file
      (Loading.run request ((recordedStep x).mapError CardError.file >>= rest))
      (Loading.run request (x.mapError CardError.file >>= rest')) := by
  have hfollows : Step.Follows (Loading.map Prod.fst)
      ((recordedStep x).mapError CardError.file >>= rest) (x.mapError CardError.file >>= rest') :=
    ((mirrors_recordedStep [] request.file x).follows.mapError _).bind fun b =>
      (hrest [] b).follows
  refine ⟨fun card earlier => ?_, (Loading.mirrors_run (p := fun _ => True) request
    ⟨fun _ _ => trivial, hfollows⟩).follows⟩
  let s : Loading (σ × List Use) := { request, buffer := .empty, card := (card, earlier) }
  have hfirst : Engaged earlier request.file ((recordedStep x).mapError CardError.file s).2 := by
    rw [Step.mapError_snd]
    exact ⟨[_], rfl, .first _⟩
  have hengaged : Engaged earlier request.file
      (((recordedStep x).mapError CardError.file >>= rest) s).2 := by
    rw [Step.bind_apply]
    match hrun : (recordedStep x).mapError CardError.file s with
    | (.ok b, s') =>
      rw [hrun] at hfirst
      exact (hrest earlier b).keeps s' hfirst
    | (.error error, s') =>
      rw [hrun] at hfirst
      exact hfirst
  obtain ⟨uses, hlog, hopens⟩ := hengaged
  exact ⟨uses, _, hlog, hopens⟩

/-- What is made of it afterwards does not concern the card. -/
theorem Reads.bind {file : UInt16} {x : Step (σ × List Use) CardError α} {y : Step σ CardError α}
    {f : α → Step (σ × List Use) CardError β} {g : α → Step σ CardError β} (hx : Reads file x y)
    (hkeeps : ∀ a card, (f a).Keeps (· = card))
    (hfollows : ∀ a, Step.Follows Prod.fst (f a) (g a)) :
    Reads file (x >>= f) (y >>= g) := by
  refine ⟨fun card earlier => ?_, hx.follows.bind hfollows⟩
  obtain ⟨uses, left, hlog, hopens⟩ := hx.opens card earlier
  refine ⟨uses, left, ?_, hopens⟩
  rw [← hlog, Step.bind_apply]
  match x (card, earlier) with
  | (.ok a, card') => exact congrArg Prod.snd (hkeeps a card' card' rfl)
  | (.error error, card') => rfl

variable (access : FileAccess σ)

theorem reads_loadWhole (file : UInt16) :
    Reads file (loadWhole access.recorded file) (loadWhole access file) :=
  reads_run { file } access.loadFile fun earlier _ =>
    (access.mirrors_recorded earlier file).onBuffer readFrame

theorem reads_load (file : UInt16) (record : UInt8) :
    Reads file (Records.load access.recorded file record) (Records.load access file record) :=
  reads_run { file, record } access.loadRecord fun earlier _ =>
    ((access.mirrors_recorded earlier file).onBuffer readFrame).bind fun _ => Step.mirrors_pure _

theorem reads_walk (file : UInt16) (visit : Records.Visit α) (init : α) :
    Reads file (Records.walk access.recorded file visit init)
      (Records.walk access file visit init) :=
  reads_run { file } access.loadRecord fun earlier shape =>
    (access.mirrors_recorded earlier file).walkFrom visit _ shape init

end Recorded

end SimCard
