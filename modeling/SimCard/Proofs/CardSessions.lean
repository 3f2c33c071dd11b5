import SimCard.Proofs.SessionReaders

/-!
# What a card session keeps

A session learns from a card that may say anything, or nothing, at any moment.  Two things can be
relied on all the same.

* **A task touches its own parts only.**  The session is cut into parts (`CardSession.Part`), and
  every task that has to do with one file names the parts it is about
  (`CardSession.Task.parts`).  If the task fails, the session is what it was; if it succeeds, every
  other part is what it was (`CardSession.run_touches_own_parts`).
* **The display is never stale.**  Which names are to be shown depends on four things that are
  learned at different times.  `CardSession.Decides` says what they come to, without any of the
  functions that compute it, and in every state that a session can get to the two flags agree with
  it, or nothing that they depend on is known (`CardSession.display_never_stale`).

Both rest on one account of what a task can do to a session, `CardSession.Learned`, which for the
readers of files comes from their equations in `SessionReaders`.
-/

set_option autoImplicit false

namespace SimCard

namespace CardSession

variable {σ : Type} {s s' : CardSession}

/-! ## Parts of a session -/

/-- The parts of a session, by what changes together. -/
inductive Part where
  | application
  | identity
  /-- The home network: its country and its own code. -/
  | home
  | services
  | ownNumber
  /-- The service provider: its name, and its record. -/
  | provider
  | providerNetworks
  | names
  | rules
  | phonebooks
  | operator
  /-- The two flags that say what is to be shown. -/
  | display
deriving DecidableEq

/-- Do two sessions agree in a part? -/
def Part.Same (s s' : CardSession) : Part → Prop
  | .application => s.application = s'.application
  | .identity => s.info.identity = s'.info.identity
  | .home => (s.info.country, s.info.network) = (s'.info.country, s'.info.network)
  | .services => s.records.services = s'.records.services
  | .ownNumber => s.info.ownNumber = s'.info.ownNumber
  | .provider => (s.info.provider, s.records.provider) = (s'.info.provider, s'.records.provider)
  | .providerNetworks => s.records.providerNetworks = s'.records.providerNetworks
  | .names => s.records.names = s'.records.names
  | .rules => s.records.rules = s'.records.rules
  | .phonebooks => s.records.phonebooks = s'.records.phonebooks
  | .operator => s.operator = s'.operator
  | .display => (s.info.showsNetwork, s.info.showsProvider) =
      (s'.info.showsNetwork, s'.info.showsProvider)

/-- **The parts are all there is**: sessions that agree in each of them are the same. -/
theorem eq_of_same (h : ∀ part : Part, part.Same s s') : s' = s := by
  obtain ⟨application, ⟨identity, country, network, provider, ownNumber, showsNetwork,
    showsProvider⟩, ⟨names, rules, record, networks, services, phonebooks⟩, operator⟩ := s
  obtain ⟨application', ⟨identity', country', network', provider', ownNumber', showsNetwork',
    showsProvider'⟩, ⟨names', rules', record', networks', services', phonebooks'⟩, operator'⟩ := s'
  obtain ⟨rfl, rfl⟩ := Prod.mk.inj (h .home)
  obtain ⟨rfl, rfl⟩ := Prod.mk.inj (h .provider)
  obtain ⟨rfl, rfl⟩ := Prod.mk.inj (h .display)
  obtain rfl : application = application' := h .application
  obtain rfl : identity = identity' := h .identity
  obtain rfl : services = services' := h .services
  obtain rfl : ownNumber = ownNumber' := h .ownNumber
  obtain rfl : networks = networks' := h .providerNetworks
  obtain rfl : names = names' := h .names
  obtain rfl : rules = rules' := h .rules
  obtain rfl : phonebooks = phonebooks' := h .phonebooks
  obtain rfl : operator = operator' := h .operator
  rfl

/-! ## Tasks -/

/-- What a session can be asked to do with one file of the card. -/
inductive Task where
  | readIdentity
  | readHome (subscriber : Option String)
  | readServices
  | readOwnNumber
  | readProvider
  | readProviderNetworks
  | readNames
  | readRules
  | readPhonebooks
  | readEmail (file : UInt16) (fileType record : UInt8)
  | readContacts (file : UInt16)
  | storeContact (file : UInt16) (contact : Contact) (pin2 : Option String)

namespace Task

/-- The parts of a session that a task is about.  What the display depends on takes the display with
it; mail addresses and contacts are no part of the session. -/
def parts : Task → List Part
  | .readIdentity => [.identity]
  | .readHome _ => [.home, .display]
  | .readServices => [.services]
  | .readOwnNumber => [.ownNumber]
  | .readProvider => [.provider, .display]
  | .readProviderNetworks => [.providerNetworks, .display]
  | .readNames => [.names]
  | .readRules => [.rules]
  | .readPhonebooks => [.phonebooks]
  | .readEmail .. | .readContacts _ | .storeContact .. => []

/-- Carry out a task, for what it does to the session. -/
def run (access : FileAccess σ) : Task → Step (CardSession × σ) CardError Unit
  | .readIdentity => Functor.discard (CardSession.readIdentity access)
  | .readHome subscriber => Functor.discard (CardSession.readHome access subscriber)
  | .readServices => Functor.discard (CardSession.readServices access)
  | .readOwnNumber => Functor.discard (CardSession.readOwnNumber access)
  | .readProvider => Functor.discard (CardSession.readProvider access)
  | .readProviderNetworks => Functor.discard (CardSession.readProviderNetworks access)
  | .readNames => Functor.discard (CardSession.readNames access)
  | .readRules => Functor.discard (CardSession.readRules access)
  | .readPhonebooks => Functor.discard (CardSession.readPhonebooks access)
  | .readEmail file fileType record =>
    Functor.discard (CardSession.readEmail access file fileType record)
  | .readContacts file => Functor.discard (CardSession.readContacts access file)
  | .storeContact file contact pin2 =>
    Functor.discard (CardSession.storeContact access file contact pin2)

end Task

/-- **What a task that succeeds makes of a session.** -/
inductive Learned (s : CardSession) : Task → CardSession → Prop
  | identity (identity : String) : Learned s .readIdentity (keepIdentity identity s)
  | home (subscriber : Option String) (code : Option NetworkCode) :
      Learned s (.readHome subscriber) (keepHome code s)
  | services (table : Octets) : Learned s .readServices (keepServices table s)
  | ownNumber (number : Option String) : Learned s .readOwnNumber (keepOwnNumber number s)
  | provider (provider : Provider) : Learned s .readProvider (keepProvider provider s)
  | providerNetworks (networks : Option (List NetworkCode)) :
      Learned s .readProviderNetworks (keepProviderNetworks networks s)
  | names (names : List OperatorName) : Learned s .readNames (keepNames names s)
  | rules (rules : List NameRule) : Learned s .readRules (keepRules rules s)
  | phonebooks (books : List Phonebook) : Learned s .readPhonebooks (keepPhonebooks books s)
  | email (file : UInt16) (fileType record : UInt8) : Learned s (.readEmail file fileType record) s
  | contacts (file : UInt16) : Learned s (.readContacts file) s
  | stored (file : UInt16) (contact : Contact) (pin2 : Option String) :
      Learned s (.storeContact file contact pin2) s

/-- Learning something fails and leaves the session alone, or succeeds and keeps what was read. -/
theorem discard_learn_cases {α : Type} (read : Step σ CardError α)
    (keep : α → CardSession → CardSession) (s : CardSession) (card : σ) :
    (∃ error card', Functor.discard (learn read keep) (s, card) = (.error error, s, card')) ∨
      ∃ a card', Functor.discard (learn read keep) (s, card) = (.ok (), keep a s, card') := by
  rw [Step.discard_apply, learn]
  rcases read card with ⟨error | a, card'⟩
  · exact .inl ⟨error, card', rfl⟩
  · exact .inr ⟨a, card', rfl⟩

/-- **A task fails and changes nothing, or it succeeds and the session has learned something.** -/
theorem Task.run_cases (access : FileAccess σ) (task : Task) (s : CardSession) (card : σ) :
    (∃ error card', task.run access (s, card) = (.error error, s, card')) ∨
      ∃ s' card', task.run access (s, card) = (.ok (), s', card') ∧ Learned s task s' := by
  have hlearned : ∀ {α : Type} {reader : Step (CardSession × σ) CardError α}
      {read : Step σ CardError α} {keep : α → CardSession → CardSession},
      reader = learn read keep → (∀ a, Learned s task (keep a s)) →
      (∃ error card', Functor.discard reader (s, card) = (.error error, s, card')) ∨
        ∃ s' card', Functor.discard reader (s, card) = (.ok (), s', card') ∧
          Learned s task s' := by
    rintro α reader read keep rfl hkeep
    rcases discard_learn_cases read keep s card with herror | ⟨a, card', hok⟩
    · exact .inl herror
    · exact .inr ⟨keep a s, card', hok, hkeep a⟩
  cases task with
  | readIdentity => exact hlearned (readIdentity_eq access) .identity
  | readHome subscriber => exact hlearned (readHome_eq access subscriber) (.home subscriber)
  | readServices => exact hlearned (readServices_eq access) .services
  | readOwnNumber => exact hlearned (readOwnNumber_eq access) .ownNumber
  | readProvider => exact hlearned (readProvider_eq access) .provider
  | readProviderNetworks => exact hlearned (readProviderNetworks_eq access) .providerNetworks
  | readNames => exact hlearned (readNames_eq access) .names
  | readRules => exact hlearned (readRules_eq access) .rules
  | readPhonebooks => exact hlearned (readPhonebooks_eq access) .phonebooks
  | readEmail file fileType record =>
    exact hlearned (readEmail_eq access file fileType record) fun _ => .email file fileType record
  | readContacts file => exact hlearned (readContacts_eq access file) fun _ => .contacts file
  | storeContact file contact pin2 =>
    exact hlearned (storeContact_eq access file contact pin2) fun _ => .stored file contact pin2

/-- **What was learned is in the parts that the task is about.** -/
theorem Learned.same {task : Task} (h : Learned s task s') {part : Part}
    (hpart : part ∉ task.parts) : part.Same s s' := by
  cases h with
  | identity =>
    cases part with
    | identity => simp [Task.parts] at hpart
    | _ => rfl
  | home subscriber code =>
    cases code with
    | none => cases part <;> rfl
    | some code =>
      cases part with
      | home | display => simp [Task.parts] at hpart
      | _ => rfl
  | services =>
    cases part with
    | services => simp [Task.parts] at hpart
    | _ => rfl
  | ownNumber =>
    cases part with
    | ownNumber => simp [Task.parts] at hpart
    | _ => rfl
  | provider =>
    cases part with
    | provider | display => simp [Task.parts] at hpart
    | _ => rfl
  | providerNetworks =>
    cases part with
    | providerNetworks | display => simp [Task.parts] at hpart
    | _ => rfl
  | names =>
    cases part with
    | names => simp [Task.parts] at hpart
    | _ => rfl
  | rules =>
    cases part with
    | rules => simp [Task.parts] at hpart
    | _ => rfl
  | phonebooks =>
    cases part with
    | phonebooks => simp [Task.parts] at hpart
    | _ => rfl
  | email | contacts | stored => cases part <;> rfl

/-- **A task touches its own parts only.**  If it fails, the session is what it was, and if it
succeeds, every part that it is not about is what it was.  So a task that is about no part never
changes the session. -/
theorem run_touches_own_parts (access : FileAccess σ) (task : Task) (s : CardSession) (card : σ) :
    ((∃ error card', task.run access (s, card) = (.error error, s, card')) ∨
      ∃ s' card', task.run access (s, card) = (.ok (), s', card') ∧
        ∀ part ∉ task.parts, part.Same s s') ∧
      (task.parts = [] → (task.run access (s, card)).2.1 = s) := by
  rcases task.run_cases access s card with ⟨error, card', hrun⟩ | ⟨s', card', hrun, hlearned⟩
  · exact ⟨.inl ⟨error, card', hrun⟩, fun _ => by rw [hrun]⟩
  · refine ⟨.inr ⟨s', card', hrun, fun part hpart => hlearned.same hpart⟩, fun hparts => ?_⟩
    rw [hrun]
    exact eq_of_same fun part => hlearned.same (by simp [hparts])

/-! ## The decision

What the display shows is settled by the provider's record, the networks of the provider, the
registered network and the home network.  The two relations here say how, on the fields themselves
and bit by bit, so that they owe nothing to the functions that decide. -/

/-- The registered network is the home network, or one of the provider's. -/
def AtHome (s : CardSession) : Prop :=
  ∃ operator, s.operator = some operator ∧
    (s.info.country = some operator.country ∧ s.info.network = some operator.network ∨
      ∃ networks, s.records.providerNetworks = some networks ∧ operator ∈ networks)

/-- **What is to be shown**: the name of the network, and the name of the provider. -/
inductive Decides (s : CardSession) : Bool → Bool → Prop
  /-- Without a provider, only the network. -/
  | noProvider (hprovider : s.records.provider = none) : Decides s true false
  /-- At home the provider, and the network if bit 0 says so. -/
  | atHome {provider : Provider} (hprovider : s.records.provider = some provider)
      (hhome : AtHome s) : Decides s (provider.condition.toNat.testBit 0) true
  /-- Abroad never the network, and the provider unless bit 1 is set. -/
  | abroad {provider : Provider} (hprovider : s.records.provider = some provider)
      (habroad : ¬ AtHome s) : Decides s false (!provider.condition.toNat.testBit 1)

theorem isAtHome_iff : s.isAtHome = true ↔ AtHome s := by
  rw [isAtHome, AtHome]
  cases s.operator with
  | none => simp
  | some operator =>
    have hhome : s.home? = some operator ↔
        s.info.country = some operator.country ∧ s.info.network = some operator.network := by
      obtain ⟨country, network⟩ := operator
      rw [home?]
      cases s.info.country <;> cases s.info.network <;> simp
    cases s.records.providerNetworks <;> simp [hhome]

theorem bit_zero (octet : UInt8) : (octet &&& 0x01 != 0) = octet.toNat.testBit 0 :=
  forall_octet (p := fun o => (o &&& 0x01 != 0) = o.toNat.testBit 0) (by decide +kernel) octet

theorem bit_one (octet : UInt8) : (octet &&& 0x02 == 0) = !octet.toNat.testBit 1 :=
  forall_octet (p := fun o => (o &&& 0x02 == 0) = !o.toNat.testBit 1) (by decide +kernel) octet

/-- **The decision is the one that is made.** -/
theorem decides_iff {network provider : Bool} :
    Decides s network provider ↔ s.displayed = (network, provider) := by
  constructor
  · intro h
    cases h with
    | noProvider hprovider => rw [displayed, hprovider]
    | atHome hprovider hhome =>
      rw [displayed, hprovider, ← bit_zero]
      exact if_pos (isAtHome_iff.2 hhome)
    | abroad hprovider habroad =>
      rw [displayed, hprovider, ← bit_one]
      exact if_neg (mt isAtHome_iff.1 habroad)
  · intro h
    rw [displayed] at h
    cases hprovider : s.records.provider with
    | none =>
      rw [hprovider] at h
      obtain ⟨rfl, rfl⟩ := Prod.mk.inj h
      exact .noProvider hprovider
    | some record =>
      simp only [hprovider] at h
      by_cases hhome : AtHome s
      · rw [if_pos (isAtHome_iff.2 hhome), bit_zero] at h
        obtain ⟨rfl, rfl⟩ := Prod.mk.inj h
        exact .atHome hprovider hhome
      · rw [if_neg (mt isAtHome_iff.1 hhome), bit_one] at h
        obtain ⟨rfl, rfl⟩ := Prod.mk.inj h
        exact .abroad hprovider hhome

/-! ## The display of a session -/

/-- Nothing that the display depends on is known, and nothing is decided. -/
structure Undecided (s : CardSession) : Prop where
  showsNetwork : s.info.showsNetwork = none
  showsProvider : s.info.showsProvider = none
  providerName : s.info.provider = none
  provider : s.records.provider = none
  providerNetworks : s.records.providerNetworks = none
  operator : s.operator = none
  country : s.info.country = none
  network : s.info.network = none

/-- Both flags are set, and they are the decision. -/
def Decided (s : CardSession) : Prop :=
  ∃ network provider, s.info.showsNetwork = some network ∧ s.info.showsProvider = some provider ∧
    Decides s network provider

/-- **The display is not stale.** -/
def DisplayCurrent (s : CardSession) : Prop := Undecided s ∨ Decided s

theorem displayCurrent_new (application : Application) : DisplayCurrent { application } :=
  .inl ⟨rfl, rfl, rfl, rfl, rfl, rfl, rfl, rfl⟩

/-- A display that has just been decided is current, whatever it was before.  The decision does not
depend on the flags, so it is the same before they are set and afterwards. -/
theorem decided_decideDisplay (s : CardSession) : Decided s.decideDisplay :=
  ⟨s.displayed.1, s.displayed.2, rfl, rfl, decides_iff.2 rfl⟩

/-- Deciding a current display again changes nothing. -/
theorem Decided.updateDisplay_eq_false (h : Decided s) : s.updateDisplay.1 = false := by
  obtain ⟨network, provider, hnetwork, hprovider, hdecides⟩ := h
  rw [decides_iff] at hdecides
  simp [updateDisplay, decideDisplay, displayDiffers, hdecides, hnetwork, hprovider]

/-- Whether the display is current depends on what it is decided from, and on the flags. -/
theorem DisplayCurrent.of_same (hs : DisplayCurrent s) (hhome : Part.home.Same s s')
    (hprovider : Part.provider.Same s s') (hnetworks : Part.providerNetworks.Same s s')
    (hoperator : Part.operator.Same s s') (hdisplay : Part.display.Same s s') :
    DisplayCurrent s' := by
  obtain ⟨hcountry, hnetwork⟩ := Prod.mk.inj hhome
  obtain ⟨hname, hrecord⟩ := Prod.mk.inj hprovider
  obtain ⟨hshowsNetwork, hshowsProvider⟩ := Prod.mk.inj hdisplay
  change s.records.providerNetworks = s'.records.providerNetworks at hnetworks
  change s.operator = s'.operator at hoperator
  rcases hs with hs | ⟨network, provider, hset, hset', hdecides⟩
  · left
    exact ⟨hshowsNetwork ▸ hs.showsNetwork, hshowsProvider ▸ hs.showsProvider,
      hname ▸ hs.providerName, hrecord ▸ hs.provider, hnetworks ▸ hs.providerNetworks,
      hoperator ▸ hs.operator, hcountry ▸ hs.country, hnetwork ▸ hs.network⟩
  · have hhome? : s'.home? = s.home? := by rw [home?, home?, hcountry, hnetwork]
    have hisAtHome : s'.isAtHome = s.isAtHome := by
      rw [isAtHome, isAtHome, hhome?, hnetworks, hoperator]
    have hdisplayed : s'.displayed = s.displayed := by
      rw [displayed, displayed, hisAtHome, hrecord]
    right
    refine ⟨network, provider, hshowsNetwork ▸ hset, hshowsProvider ▸ hset', ?_⟩
    rw [decides_iff, hdisplayed]
    exact decides_iff.1 hdecides

/-- **What a task learns leaves the display current**: it has nothing to do with the display, or the
display is decided last. -/
theorem Learned.displayCurrent {task : Task} (h : Learned s task s') (hs : DisplayCurrent s) :
    DisplayCurrent s' := by
  cases h with
  | home subscriber code =>
    cases code with
    | none => exact hs
    | some code => exact .inr (decided_decideDisplay _)
  | provider | providerNetworks => exact .inr (decided_decideDisplay _)
  | identity | services | ownNumber | names | rules | phonebooks =>
    exact hs.of_same rfl rfl rfl rfl rfl
  | email | contacts | stored => exact hs

/-! ## Runs -/

section Runs

variable (access : FileAccess σ)

theorem Task.keeps_display (task : Task) :
    (task.run access).Keeps fun state => DisplayCurrent state.1 := by
  rintro ⟨s, card⟩ hs
  rcases task.run_cases access s card with ⟨error, card', hrun⟩ | ⟨s', card', hrun, hlearned⟩
  · rw [hrun]
    exact hs
  · rw [hrun]
    exact hlearned.displayCurrent hs

theorem readOffered_keeps_display {α : Type} (service : Service)
    {read : Step (CardSession × σ) CardError α}
    (hread : read.Keeps fun state => DisplayCurrent state.1) :
    (readOffered service read).Keeps fun state => DisplayCurrent state.1 := by
  refine Step.keeps_get.bind fun state => ?_
  change Step.Keeps _ (if state.1.offers service = true then _ else _)
  split
  · exact hread.ignoring
  · exact Step.keeps_pure _

/-- Starting is nothing but tasks, some of them only if the card offers the service. -/
theorem start_keeps_display (subscriber : Option String) :
    (start access subscriber).Keeps fun state => DisplayCurrent state.1 := by
  have hread : ∀ {α : Type} {read : Step (CardSession × σ) CardError α} (task : Task),
      task.run access = Functor.discard read → read.Keeps fun state => DisplayCurrent state.1 :=
    fun task hrun => Step.keeps_discard_iff.1 (hrun ▸ task.keeps_display access)
  refine (hread .readIdentity rfl).ignoring.bind fun _ => ?_
  refine (hread (.readHome subscriber) rfl).ignoring.bind fun _ => ?_
  refine (hread .readServices rfl).bind fun _ => ?_
  refine (readOffered_keeps_display _ (hread .readOwnNumber rfl)).bind fun _ => ?_
  refine (readOffered_keeps_display _ (hread .readProvider rfl)).bind fun _ => ?_
  refine (readOffered_keeps_display _ (hread .readProviderNetworks rfl)).bind fun _ => ?_
  refine (readOffered_keeps_display _ (hread .readNames rfl)).bind fun _ => ?_
  exact readOffered_keeps_display _ (hread .readRules rfl)

/-- What can happen to a session. -/
inductive Operation where
  | task (task : Task)
  | start (subscriber : Option String)
  | setOperator (operator : Option NetworkCode)
  | updateDisplay
  | reset

/-- The session and the card after one operation, whatever came of it. -/
def perform (state : CardSession × σ) : Operation → CardSession × σ
  | .task task => (task.run access state).2
  | .start subscriber => (start access subscriber state).2
  | .setOperator operator => ((setOperator operator state.1).2, state.2)
  | .updateDisplay => (state.1.updateDisplay.2, state.2)
  | .reset => (state.1.reset, state.2)

/-- The session and the card after operations, one after the other. -/
def runAll (state : CardSession × σ) (operations : List Operation) : CardSession × σ :=
  operations.foldl (perform access) state

/-- **One operation** leaves the display current. -/
theorem perform_keeps_display (state : CardSession × σ) (h : DisplayCurrent state.1)
    (operation : Operation) : DisplayCurrent (perform access state operation).1 := by
  cases operation with
  | task task => exact task.keeps_display access state h
  | start subscriber => exact start_keeps_display access subscriber state h
  | setOperator operator => exact .inr (decided_decideDisplay _)
  | updateDisplay => exact .inr (decided_decideDisplay _)
  | reset => exact displayCurrent_new _

/-- **A whole run** leaves the display current. -/
theorem runAll_keeps_display (state : CardSession × σ) (h : DisplayCurrent state.1)
    (operations : List Operation) : DisplayCurrent (runAll access state operations).1 := by
  induction operations generalizing state with
  | nil => exact h
  | cons operation operations ih => exact ih _ (perform_keeps_display access state h operation)

/-- **The display is never stale.**  Whatever has happened to a new session, and whatever the card
did meanwhile, either nothing is decided and nothing is known that the display depends on, or both
flags are set and are the decision.  Deciding again then changes nothing. -/
theorem display_never_stale (application : Application) (card : σ) (operations : List Operation) :
    let s := (runAll access ({ application }, card) operations).1
    Undecided s ∨
      ∃ network provider, s.info.showsNetwork = some network ∧
        s.info.showsProvider = some provider ∧ Decides s network provider ∧
        s.updateDisplay.1 = false := by
  intro s
  have hcurrent : DisplayCurrent s :=
    runAll_keeps_display access ({ application }, card) (displayCurrent_new application) operations
  rcases hcurrent with hs | hs
  · exact .inl hs
  · obtain ⟨network, provider, hnetwork, hprovider, hdecides⟩ := id hs
    exact .inr ⟨network, provider, hnetwork, hprovider, hdecides, hs.updateDisplay_eq_false⟩

end Runs

end CardSession

end SimCard
