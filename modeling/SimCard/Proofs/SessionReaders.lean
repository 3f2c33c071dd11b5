import SimCard.Card.Session
import SimCard.Proofs.FileViews

/-!
# What the readers of a session do

A reader of a session goes through a file of the card and writes what it finds into the session, by
one assignment or several, wherever it has come to.  The account of it is shorter: **it reads the
file as if there were no session, and then the session keeps what was read, or, if reading failed,
stays as it is** (`CardSession.learn`).

That the session stays as it is while the file is read is not a matter of course, because the two
are one state.  It comes from `FileAccess.mirrors_beside`: an access leaves alone what stands beside
its card, and so do the readers of files (`CardSession.reader_leaves_session`).  The equations
`readIdentity_eq` and so on then say what each reader comes to.
-/

set_option autoImplicit false

namespace SimCard

variable {σ : Type}

/-- **An access leaves alone what stands beside its card**, and does with the card what it does
alone. -/
theorem FileAccess.mirrors_beside {ρ : Type} (access : FileAccess σ) (left : ρ) :
    access.beside.Mirrors Prod.snd (fun s => s.card.1 = left) access :=
  ⟨⟨fun _ hs => hs, fun _ => rfl⟩, ⟨fun _ hs => hs, fun _ => rfl⟩, ⟨fun _ hs => hs, fun _ => rfl⟩,
    fun _ => ⟨fun _ hs => hs, fun _ => rfl⟩, rfl, fun _ _ hs => hs⟩

namespace CardSession

variable {α : Type}

/-! ## Learning -/

/-- **Learn something from the card.**  If reading fails, the session stays as it is. -/
def learn (read : Step σ CardError α) (keep : α → CardSession → CardSession) :
    Step (CardSession × σ) CardError α := fun (session, card) =>
  match read card with
  | (.ok a, card) => (.ok a, (keep a session, card))
  | (.error e, card) => (.error e, (session, card))

theorem learn_fst (read : Step σ CardError α) (keep : α → CardSession → CardSession)
    (session : CardSession) (card : σ) :
    (learn read keep (session, card)).1 = (read card).1 := by
  rw [learn]
  split <;> simp_all

theorem learn_card (read : Step σ CardError α) (keep : α → CardSession → CardSession)
    (session : CardSession) (card : σ) :
    (learn read keep (session, card)).2.2 = (read card).2 := by
  rw [learn]
  split <;> simp_all

section Readers

variable {read : Step (CardSession × σ) CardError α} {alone : Step σ CardError α}

/-- **A reader of files leaves the session alone**, whether it succeeds or fails. -/
theorem reader_leaves_session
    (h : ∀ session, Step.Mirrors Prod.snd (fun state => state.1 = session) read alone)
    (session : CardSession) (card : σ) :
    read (session, card) = ((alone card).1, session, (alone card).2) := by
  have hsession : (read (session, card)).2.1 = session := (h session).keeps (session, card) rfl
  have hcard : alone card = ((read (session, card)).1, (read (session, card)).2.2) :=
    (h session).follows (session, card)
  rw [hcard]
  exact Prod.ext rfl (Prod.ext hsession rfl)

/-- Reading a file and writing into the session what was read. -/
theorem bind_eq_learn
    (h : ∀ session, Step.Mirrors Prod.snd (fun state => state.1 = session) read alone)
    {write : α → Step (CardSession × σ) CardError α} {keep : α → CardSession → CardSession}
    (hwrite : ∀ a session card, write a (session, card) = (.ok a, keep a session, card)) :
    read >>= write = learn alone keep := by
  funext ⟨session, card⟩
  rw [Step.bind_apply, reader_leaves_session h, learn]
  generalize alone card = result
  obtain ⟨outcome, card'⟩ := result
  cases outcome with
  | ok a => exact hwrite a session card'
  | error e => rfl

/-- Reading a file that is no part of the session. -/
theorem eq_learn
    (h : ∀ session, Step.Mirrors Prod.snd (fun state => state.1 = session) read alone) :
    read = learn alone fun _ session => session := by
  have hpure : read >>= pure = read := by
    funext state
    rw [Step.bind_apply]
    rcases read state with ⟨e | a, state'⟩ <;> rfl
  rw [← hpure]
  exact bind_eq_learn h fun _ _ _ => rfl

end Readers

/-! ## Keeping what was read -/

/-- The number of the card. -/
def keepIdentity (identity : String) (session : CardSession) : CardSession :=
  { session with info := { session.info with identity := some identity } }

/-- The home network; if it could not be made out, what was known stays. -/
def keepHome (home : Option NetworkCode) (session : CardSession) : CardSession :=
  match home with
  | none => session
  | some code =>
    decideDisplay { session with
      info := { session.info with country := some code.country, network := some code.network } }

/-- The service table. -/
def keepServices (table : Octets) (session : CardSession) : CardSession :=
  { session with records := { session.records with services := some table } }

/-- The subscriber's own number. -/
def keepOwnNumber (number : Option String) (session : CardSession) : CardSession :=
  { session with info := { session.info with ownNumber := number } }

/-- The service provider. -/
def keepProvider (provider : Provider) (session : CardSession) : CardSession :=
  decideDisplay { session with
    info := { session.info with provider := some provider.name }
    records := { session.records with provider := some provider } }

/-- The networks where the provider is at home. -/
def keepProviderNetworks (networks : Option (List NetworkCode)) (session : CardSession) :
    CardSession :=
  decideDisplay { session with records := { session.records with providerNetworks := networks } }

/-- The names of networks. -/
def keepNames (names : List OperatorName) (session : CardSession) : CardSession :=
  { session with records := { session.records with names := some names } }

/-- The rules that names go by. -/
def keepRules (rules : List NameRule) (session : CardSession) : CardSession :=
  { session with records := { session.records with rules := some rules } }

/-- The phonebooks. -/
def keepPhonebooks (books : List Phonebook) (session : CardSession) : CardSession :=
  { session with records := { session.records with phonebooks := books } }

/-! ## The readers -/

variable (access : FileAccess σ)

theorem readIdentity_eq : readIdentity access = learn (CardFile.identity access) keepIdentity :=
  bind_eq_learn (fun session => CardFile.mirrors_identity (access.mirrors_beside session))
    fun _ _ _ => rfl

theorem readHome_eq (subscriber : Option String) :
    readHome access subscriber = learn (CardFile.home access subscriber) keepHome := by
  refine bind_eq_learn
    (fun session => CardFile.mirrors_home (access.mirrors_beside session) subscriber) ?_
  intro home session card
  cases home with
  | none => rfl
  | some code => rfl

theorem readServices_eq : readServices access = learn (CardFile.services access) keepServices :=
  bind_eq_learn (fun session => CardFile.mirrors_services (access.mirrors_beside session))
    fun _ _ _ => rfl

theorem readOwnNumber_eq :
    readOwnNumber access = learn (CardFile.ownNumber access) keepOwnNumber :=
  bind_eq_learn (fun session => CardFile.mirrors_ownNumber (access.mirrors_beside session))
    fun _ _ _ => rfl

theorem readProvider_eq : readProvider access = learn (CardFile.provider access) keepProvider :=
  bind_eq_learn (fun session => CardFile.mirrors_provider (access.mirrors_beside session))
    fun _ _ _ => rfl

theorem readProviderNetworks_eq : readProviderNetworks access =
    learn (CardFile.providerNetworks access) keepProviderNetworks :=
  bind_eq_learn (fun session => CardFile.mirrors_providerNetworks (access.mirrors_beside session))
    fun _ _ _ => rfl

theorem readNames_eq : readNames access = learn (CardFile.names access) keepNames :=
  bind_eq_learn (fun session => CardFile.mirrors_names (access.mirrors_beside session))
    fun _ _ _ => rfl

theorem readRules_eq : readRules access = learn (CardFile.rules access) keepRules :=
  bind_eq_learn (fun session => CardFile.mirrors_rules (access.mirrors_beside session))
    fun _ _ _ => rfl

theorem readPhonebooks_eq :
    readPhonebooks access = learn (CardFile.phonebooks access) keepPhonebooks :=
  bind_eq_learn (fun session => CardFile.mirrors_phonebooks (access.mirrors_beside session))
    fun _ _ _ => rfl

theorem readEmail_eq (file : UInt16) (fileType record : UInt8) :
    readEmail access file fileType record =
      learn (CardFile.email access file fileType record) fun _ session => session :=
  eq_learn fun session =>
    CardFile.mirrors_email (access.mirrors_beside session) file fileType record

theorem readContacts_eq (file : UInt16) :
    readContacts access file =
      learn (CardFile.contacts access file) fun _ session => session :=
  eq_learn fun session => CardFile.mirrors_contacts (access.mirrors_beside session) file

theorem storeContact_eq (file : UInt16) (contact : Contact) (pin2 : Option String) :
    storeContact access file contact pin2 =
      learn (CardFile.storeContact access file contact pin2) fun _ session => session :=
  eq_learn fun session =>
    CardFile.mirrors_storeContact (access.mirrors_beside session) file contact pin2

end CardSession

end SimCard
