import SimCard.Card.Files
import SimCard.Proofs.Reading

/-!
# Readers of files, seen through a view

The readers of files work with any card, and so with one that has something beside it: a log of what
is asked of it, or the session that wants to know.  Then two questions arise.  Does a reader still
do with the card what it does without the rest?  And what becomes of the rest?

* `Step.Follows` answers the first for a step: it does what another step does, as far as a view of
  its state shows.  `Step.Mirrors` adds an answer to the second, something that the step keeps.
* `FileAccess.Mirrors` says the same of all that an access can do.  **What an access keeps, its
  readers keep**: this goes through the parts of a reader one by one, a walk by induction on its
  fuel (`FileAccess.Mirrors.walkFrom`), up to the readers in `CardFile`.
-/

set_option autoImplicit false

namespace SimCard

/-! ## Steps seen through a view -/

namespace Step

variable {σ τ ε ε' α β : Type} {view : σ → τ} {p : σ → Prop}

/-- The step does what another one does, as far as the view shows. -/
def Follows (view : σ → τ) (x : Step σ ε α) (y : Step τ ε α) : Prop :=
  ∀ s, y (view s) = ((x s).1, view (x s).2)

theorem follows_pure (a : α) : Follows view (pure a : Step σ ε α) (pure a) := fun _ => rfl

theorem follows_fail (e : ε) : Follows view (fail e : Step σ ε α) (fail e) := fun _ => rfl

theorem follows_ofExcept (x : Except ε α) : Follows view (ofExcept x) (ofExcept x) := fun _ => rfl

theorem Follows.bind {x : Step σ ε α} {y : Step τ ε α} {f : α → Step σ ε β} {g : α → Step τ ε β}
    (hx : Follows view x y) (hf : ∀ a, Follows view (f a) (g a)) :
    Follows view (x >>= f) (y >>= g) := by
  intro s
  rw [bind_apply, bind_apply, hx s]
  match x s with
  | (.ok a, s') => exact hf a s'
  | (.error e, s') => rfl

theorem Follows.mapError {x : Step σ ε α} {y : Step τ ε α} (hx : Follows view x y) (f : ε → ε') :
    Follows view (x.mapError f) (y.mapError f) := by
  intro s
  rw [Step.mapError, Step.mapError, hx s]
  generalize x s = result
  obtain ⟨outcome, s'⟩ := result
  cases outcome with
  | ok a => rfl
  | error e => rfl

theorem Follows.discard {x : Step σ ε α} {y : Step τ ε α} (hx : Follows view x y) :
    Follows view (Functor.discard x) (Functor.discard y) :=
  hx.bind fun _ => follows_pure ()

/-- **The step mirrors another one**: it does what the other one does, as far as the view shows, and
it keeps what is to be kept. -/
structure Mirrors (view : σ → τ) (p : σ → Prop) (x : Step σ ε α) (y : Step τ ε α) : Prop where
  keeps : x.Keeps p
  follows : x.Follows view y

theorem mirrors_pure (a : α) : Mirrors view p (pure a : Step σ ε α) (pure a) :=
  ⟨keeps_pure a, follows_pure a⟩

theorem mirrors_fail (e : ε) : Mirrors view p (fail e : Step σ ε α) (fail e) :=
  ⟨keeps_fail e, follows_fail e⟩

theorem mirrors_ofExcept (x : Except ε α) : Mirrors view p (ofExcept x) (ofExcept x) :=
  ⟨fun _ hs => hs, follows_ofExcept x⟩

theorem Mirrors.bind {x : Step σ ε α} {y : Step τ ε α} {f : α → Step σ ε β} {g : α → Step τ ε β}
    (hx : Mirrors view p x y) (hf : ∀ a, Mirrors view p (f a) (g a)) :
    Mirrors view p (x >>= f) (y >>= g) :=
  ⟨hx.keeps.bind fun a => (hf a).keeps, hx.follows.bind fun a => (hf a).follows⟩

theorem Mirrors.mapError {x : Step σ ε α} {y : Step τ ε α} (hx : Mirrors view p x y)
    (f : ε → ε') : Mirrors view p (x.mapError f) (y.mapError f) :=
  ⟨hx.keeps.mapError f, hx.follows.mapError f⟩

end Step

/-! ## Requests seen through a view -/

namespace Loading

variable {σ τ ε α : Type} {view : σ → τ}

/-- A request in progress, with what a view shows of the card. -/
def map (view : σ → τ) (s : Loading σ) : Loading τ :=
  { request := s.request, buffer := s.buffer, card := view s.card }

/-- A step that looks at the request must do the same with what the view shows of it. -/
theorem mirrors_get_bind {p : Loading σ → Prop} {f : Loading σ → Step (Loading σ) ε α}
    {g : Loading τ → Step (Loading τ) ε α}
    (h : ∀ request buffer card,
      Step.Mirrors (map view) p (f ⟨request, buffer, card⟩) (g ⟨request, buffer, view card⟩)) :
    Step.Mirrors (map view) p (Step.get >>= f) (Step.get >>= g) :=
  ⟨Step.keeps_get.bind fun s => (h s.request s.buffer s.card).keeps,
    fun s => (h s.request s.buffer s.card).follows s⟩

/-- A request that is carried out from its beginning shows nothing but the card. -/
theorem mirrors_run {p : σ → Prop} (request : LoadRequest) {x : Step (Loading σ) ε α}
    {y : Step (Loading τ) ε α} (h : Step.Mirrors (map view) (fun s => p s.card) x y) :
    Step.Mirrors view p (run request x) (run request y) := by
  refine ⟨fun card hcard => h.keeps { request, buffer := .empty, card } hcard, fun card => ?_⟩
  have hrun := h.follows { request, buffer := .empty, card }
  change y { request, buffer := .empty, card := view card } = _ at hrun
  rw [run, run, hrun]
  rfl

end Loading

/-! ## What an access keeps -/

namespace FileAccess

variable {σ τ α : Type} {view : σ → τ}

/-- **An access mirrors another one**, in all that it can do. -/
structure Mirrors (view : σ → τ) (p : Loading σ → Prop) (access : FileAccess σ)
    (other : FileAccess τ) : Prop where
  loadRecord : Step.Mirrors (Loading.map view) p access.loadRecord other.loadRecord
  loadNext : Step.Mirrors (Loading.map view) p access.loadNext other.loadNext
  loadFile : Step.Mirrors (Loading.map view) p access.loadFile other.loadFile
  updateRecord : ∀ make,
    Step.Mirrors (Loading.map view) p (access.updateRecord make) (other.updateRecord make)
  repeats_eq : access.repeats = other.repeats
  /-- What is kept has nothing to do with what has been delivered. -/
  buffer : ∀ s buffer, p s → p { s with buffer }

namespace Mirrors

variable {p : Loading σ → Prop} {access : FileAccess σ} {other : FileAccess τ}

theorem onBuffer {ε : Type} (h : access.Mirrors view p other) (x : Reader ε α) :
    Step.Mirrors (Loading.map view) p (Loading.onBuffer x) (Loading.onBuffer x) :=
  ⟨fun s hs => h.buffer s _ hs, fun _ => rfl⟩

/-- **A walk keeps what the access keeps**, however far it goes. -/
theorem walkFrom (h : access.Mirrors view p other) (visit : Records.Visit α) (fuel : Nat)
    (shape : RecordShape) (acc : α) :
    Step.Mirrors (Loading.map view) p (Records.walkFrom access visit fuel shape acc)
      (Records.walkFrom other visit fuel shape acc) := by
  induction fuel generalizing shape acc with
  | zero => exact Step.mirrors_fail Records.unending
  | succ fuel ih =>
    refine (h.onBuffer readFrame).bind fun octets =>
      Loading.mirrors_get_bind fun request buffer card => ?_
    dsimp only
    generalize visit acc shape request.record octets = result
    rcases result with e | ⟨acc, _ | _⟩
    · exact Step.mirrors_fail e
    · exact Step.mirrors_pure acc
    · by_cases hlast : min shape.count greatestRecord ≤ request.record.toNat
      · simp only [if_pos hlast]
        exact Step.mirrors_pure acc
      · simp only [if_neg hlast]
        exact (h.loadNext.mapError CardError.file).bind fun shape => ih shape acc

end Mirrors

end FileAccess

/-! ## What the readers keep -/

section Readers

variable {σ τ α : Type} {view : σ → τ} {p : σ → Prop} {access : FileAccess σ}
  {other : FileAccess τ} (h : access.Mirrors view (fun s => p s.card) other)

include h

theorem mirrors_loadWhole (file : UInt16) :
    Step.Mirrors view p (loadWhole access file) (loadWhole other file) :=
  Loading.mirrors_run _ ((h.loadFile.mapError CardError.file).bind fun _ => h.onBuffer readFrame)

theorem Records.mirrors_load (file : UInt16) (record : UInt8) :
    Step.Mirrors view p (Records.load access file record) (Records.load other file record) :=
  Loading.mirrors_run _ ((h.loadRecord.mapError CardError.file).bind fun _ =>
    (h.onBuffer readFrame).bind fun _ => Step.mirrors_pure _)

theorem Records.mirrors_walk (file : UInt16) (visit : Records.Visit α) (init : α) :
    Step.Mirrors view p (Records.walk access file visit init)
      (Records.walk other file visit init) := by
  refine Loading.mirrors_run _ ((h.loadRecord.mapError CardError.file).bind fun shape => ?_)
  rw [h.repeats_eq]
  exact h.walkFrom visit _ shape init

namespace CardFile

theorem mirrors_identity : Step.Mirrors view p (identity access) (identity other) :=
  (mirrors_loadWhole h _).bind fun _ => Step.mirrors_pure _

theorem mirrors_home (subscriber : Option String) :
    Step.Mirrors view p (home access subscriber) (home other subscriber) :=
  (mirrors_loadWhole h _).bind fun _ => Step.mirrors_pure _

theorem mirrors_services : Step.Mirrors view p (services access) (services other) :=
  mirrors_loadWhole h _

theorem mirrors_ownNumber : Step.Mirrors view p (ownNumber access) (ownNumber other) :=
  (Records.mirrors_load h _ _).bind fun _ =>
    (Step.mirrors_ofExcept _).bind fun _ => Step.mirrors_pure _

theorem mirrors_provider : Step.Mirrors view p (provider access) (provider other) :=
  (mirrors_loadWhole h _).bind fun _ => Step.mirrors_ofExcept _

theorem mirrors_providerNetworks :
    Step.Mirrors view p (providerNetworks access) (providerNetworks other) :=
  (mirrors_loadWhole h _).bind fun _ => Step.mirrors_ofExcept _

theorem mirrors_names : Step.Mirrors view p (names access) (names other) :=
  Records.mirrors_walk h _ _ _

theorem mirrors_rules : Step.Mirrors view p (rules access) (rules other) :=
  Records.mirrors_walk h _ _ _

theorem mirrors_phonebooks : Step.Mirrors view p (phonebooks access) (phonebooks other) :=
  Records.mirrors_walk h _ _ _

theorem mirrors_email (file : UInt16) (fileType record : UInt8) :
    Step.Mirrors view p (email access file fileType record) (email other file fileType record) :=
  (Records.mirrors_load h _ _).bind fun _ => Step.mirrors_pure _

theorem mirrors_contacts (file : UInt16) :
    Step.Mirrors view p (contacts access file) (contacts other file) :=
  Records.mirrors_walk h _ _ _

theorem mirrors_storeContact (file : UInt16) (contact : Contact) (pin2 : Option String) :
    Step.Mirrors view p (storeContact access file contact pin2)
      (storeContact other file contact pin2) := by
  rw [storeContact, storeContact]
  cases contact.record with
  | none => exact Step.mirrors_fail CardError.noRecord
  | some record =>
    exact Loading.mirrors_run _ (((h.updateRecord _).mapError CardError.file).bind fun _ =>
      Step.mirrors_pure _)

end CardFile

end Readers

end SimCard
