import SimCard.Proofs.Messages
import SimCard.Toolkit.Session

/-!
# What a toolkit session sends

A card that gets no answer to a command waits, and one that gets two is confused.  So a session that
hears a command does one of two things.  Either it hands the command on, and sends nothing, or it
refuses the command, and sends one answer that says why (`ToolkitSession.hear_cases`).  Which of the
two it does, and what it says, depends on the octets only (`Heard`, `Refused`).

Whatever a session is asked to do, all it can do to its own state is to send parcels
(`ToolkitSession.perform_cases`).  For whole runs it follows that no parcel is ever taken back, and
that the tokens number the parcels (`ToolkitSession.sends_run`).
-/

set_option autoImplicit false

namespace SimCard

/-! ## Why parameters are refused -/

namespace Parameters

variable {α β : Type} {x : Except CommandError α}

/-- The only complaint is that something is missing. -/
def OnlyMissing (x : Except CommandError α) : Prop :=
  ∀ e, x = .error e → ∃ requirement, e = .missing requirement

theorem onlyMissing_ok (a : α) : OnlyMissing (.ok a : Except CommandError α) := by
  intro e h
  cases h

theorem onlyMissing_require (requirement : Requirement) (value : Option α) :
    OnlyMissing (require requirement value) := by
  intro e h
  cases value with
  | none => exact ⟨requirement, (Except.error.inj h).symm⟩
  | some a => cases h

theorem OnlyMissing.bind (hx : OnlyMissing x) {f : α → Except CommandError β}
    (hf : ∀ a, OnlyMissing (f a)) : OnlyMissing (x >>= f) := by
  intro e h
  cases x with
  | error e' => exact hx e (congrArg Except.error (Except.error.inj h))
  | ok a => exact hf a e h

theorem OnlyMissing.map (hx : OnlyMissing x) (f : α → β) : OnlyMissing (f <$> x) := by
  intro e h
  cases x with
  | error e' => exact hx e (congrArg Except.error (Except.error.inj h))
  | ok a => cases h

variable (qualifier : UInt8) (elements : List Element)

theorem onlyMissing_menu? : OnlyMissing (menu? qualifier elements) := by
  intro e h
  rw [menu?] at h
  split at h
  · exact ⟨_, (Except.error.inj h).symm⟩
  · cases h

theorem onlyMissing_input? : OnlyMissing (input? qualifier elements) :=
  (onlyMissing_require _ _).bind fun _ =>
    (onlyMissing_require _ _).bind fun _ => onlyMissing_ok _

/-- Commands of a known type are refused for want of something only.  Most of them look for one
thing. -/
theorem onlyMissing_ofType (type : CommandType) : OnlyMissing (ofType type qualifier elements) := by
  cases type with
  | selectItem | setUpMenu => exact (onlyMissing_menu? qualifier elements).map _
  | getInput => exact (onlyMissing_input? qualifier elements).map _
  | pollInterval | setUpEventList => exact (onlyMissing_require _ _).map _
  | setUpCall | sendSupplementaryService | sendServiceData | sendShortMessage | sendTones
  | launchBrowser | displayText | setUpIdleModeText | getInkey | timerManagement =>
    exact ((onlyMissing_require _ _).bind fun _ => onlyMissing_ok _).map _
  | _ => exact onlyMissing_ok _

/-- **Parameters are refused for want of something only.** -/
theorem onlyMissing_ofElements (details : CommandDetails) :
    OnlyMissing (ofElements details elements) := by
  rw [ofElements]
  split
  · exact onlyMissing_ok _
  · exact onlyMissing_ofType _ elements _

end Parameters

namespace ToolkitSession

/-! ## One command -/

variable {size : Nat} {c : Cursor}

/-- The octets are a command with all that it requires. -/
inductive Heard (size : Nat) (c : Cursor) : Command → Prop
  | intro {template : Template} {command : Command}
      (hread : (Template.read size c).1 = .ok template)
      (hdetails : Command.details? template.elements = some command.details)
      (hparameters :
        Parameters.ofElements command.details template.elements = .ok command.parameters) :
      Heard size c command

/-- The octets are no command that can be carried out: the reason, and the command and the result
that the card is to be told. -/
inductive Refused (size : Nat) (c : Cursor) : CommandError → CommandDetails → UInt8 → Prop
  /-- They are not made of elements. -/
  | unreadable {error : ElementError} (hread : (Template.read size c).1 = .error error) :
      Refused size c (.element error) { number := 0, commandType := 0, qualifier := 0 } 0x32
  /-- They do not say which command it is. -/
  | nameless {template : Template} (hread : (Template.read size c).1 = .ok template)
      (hdetails : Command.details? template.elements = none) :
      Refused size c .noDetails { number := 0, commandType := 0, qualifier := 0 } 0x32
  /-- They lack something that the command requires. -/
  | incomplete {template : Template} {details : CommandDetails} {requirement : Requirement}
      (hread : (Template.read size c).1 = .ok template)
      (hdetails : Command.details? template.elements = some details)
      (hparameters :
        Parameters.ofElements details template.elements = .error (.missing requirement)) :
      Refused size c (.missing requirement) details 0x36

/-- Octets that are no template are answered with an answer to no command. -/
theorem hear_of_error {error : ElementError}
    (hread : (Template.read size c).1 = .error error) (session : ToolkitSession) :
    hear size c session =
      (.error (.element error), session.respond
        { command := { number := 0, commandType := 0, qualifier := 0 }, result := 0x32 }) := by
  simp only [hear, command, hread]
  rfl

/-- **A command is handed on or refused**, and a refusal is sent. -/
theorem hear_cases (size : Nat) (c : Cursor) (session : ToolkitSession) :
    (∃ command, Heard size c command ∧ hear size c session = (.ok command, session)) ∨
      ∃ error details result, Refused size c error details result ∧
        hear size c session =
          (.error error, session.respond { command := details, result := result }) := by
  cases hread : (Template.read size c).1 with
  | error error => exact .inr ⟨_, _, _, .unreadable hread, hear_of_error hread session⟩
  | ok template =>
    cases hdetails : Command.details? template.elements with
    | none =>
      refine .inr ⟨_, _, _, .nameless hread hdetails, ?_⟩
      simp only [hear, command, hread, hdetails]
      rfl
    | some details =>
      cases hparameters : Parameters.ofElements details template.elements with
      | ok parameters =>
        refine .inl ⟨{ details, parameters }, .intro hread hdetails hparameters, ?_⟩
        simp only [hear, command, hread, hdetails, hparameters]
      | error error =>
        obtain ⟨requirement, rfl⟩ :=
          Parameters.onlyMissing_ofElements template.elements details error hparameters
        refine .inr ⟨_, _, _, .incomplete hread hdetails hparameters, ?_⟩
        simp only [hear, command, hread, hdetails, hparameters]
        rfl

/-! ## Runs -/

/-- What a session can be asked to do. -/
inductive Operation where
  | hear (size : Nat) (c : Cursor)
  | respond (response : Response)
  | reportEvent (event : Event)
  | reportSelection (item : UInt8) (helpRequested : Bool)
  | reportExpiration (timer : UInt8) (seconds : Nat)
  | report (envelope : Envelope)
  | showProfile (profile : Option Octets)

/-- The session after one operation. -/
def perform (session : ToolkitSession) : Operation → ToolkitSession
  | .hear size c => (hear size c session).2
  | .respond response => session.respond response
  | .reportEvent event => session.report (.ofEvent event)
  | .reportSelection item helpRequested => session.report (.menuSelection item helpRequested)
  | .reportExpiration timer seconds => session.report (.timerExpiration timer seconds)
  | .report envelope => session.report envelope
  | .showProfile profile => session.showProfile profile

/-- The session after operations, one after the other. -/
def run (session : ToolkitSession) (operations : List Operation) : ToolkitSession :=
  operations.foldl perform session

/-- **One operation** leaves the session alone or sends one parcel. -/
theorem perform_cases (session : ToolkitSession) (operation : Operation) :
    session.perform operation = session ∨
      ∃ request payload, session.perform operation = session.send request payload := by
  cases operation with
  | hear size c =>
    rcases hear_cases size c session with ⟨_, -, h⟩ | ⟨_, _, _, -, h⟩
    · exact .inl (congrArg Prod.snd h)
    · exact .inr ⟨_, _, congrArg Prod.snd h⟩
  | _ => exact .inr ⟨_, _, rfl⟩

/-- **From one state to a later one** a session has added `parcels`.  They are numbered on from its
token, and the token is the number of the last one, both as far as a word can tell. -/
structure Sends (session : ToolkitSession) (parcels : List Parcel) (later : ToolkitSession) :
    Prop where
  sent_eq : later.sent = session.sent ++ parcels
  token_eq : later.token.toNat = (session.token.toNat + parcels.length) % UInt32.size
  tokens_eq : parcels.map (·.token.toNat) =
    (List.range' (session.token.toNat + 1) parcels.length).map (· % UInt32.size)

theorem sends_nothing (session : ToolkitSession) : session.Sends [] session :=
  ⟨(List.append_nil _).symm, (Nat.mod_eq_of_lt session.token.toNat_lt).symm, rfl⟩

/-- One parcel more. -/
theorem Sends.send {session later : ToolkitSession} {parcels : List Parcel}
    (h : session.Sends parcels later) (request : Parcel.Request) (payload : Octets) :
    session.Sends (parcels ++ [{ requestType := request.code, token := later.token + 1, payload }])
      (later.send request payload) := by
  have htoken : (later.token + 1).toNat =
      (session.token.toNat + (parcels.length + 1)) % UInt32.size := by
    rw [UInt32.toNat_add, h.token_eq]
    change (_ % 4294967296 + 1) % 4294967296 = _ % 4294967296
    omega
  refine ⟨?_, ?_, ?_⟩
  · rw [ToolkitSession.send, h.sent_eq, List.append_assoc]
  · rw [List.length_append, List.length_singleton]
    exact htoken
  · have hnumber : session.token.toNat + 1 + parcels.length =
        session.token.toNat + (parcels.length + 1) := by omega
    rw [List.map_append, h.tokens_eq, List.map_singleton, htoken, List.length_append,
      List.length_singleton, List.range'_1_concat, List.map_append, List.map_singleton, hnumber]

/-- **A whole run** adds parcels that are numbered on. -/
theorem sends_run (session : ToolkitSession) (operations : List Operation) :
    ∃ parcels, session.Sends parcels (session.run operations) := by
  -- The operations are taken from the front, so what is kept is about a later state of the session.
  suffices hlater : ∀ later parcels, session.Sends parcels later →
      ∃ more, session.Sends more (later.run operations) from
    hlater session [] (sends_nothing session)
  induction operations with
  | nil => exact fun later parcels h => ⟨parcels, h⟩
  | cons operation operations ih =>
    intro later parcels h
    rw [run, List.foldl_cons]
    rcases perform_cases later operation with hsame | ⟨request, payload, hsent⟩
    · rw [hsame]
      exact ih later parcels h
    · rw [hsent]
      exact ih _ _ (h.send request payload)

/-! ## Both together -/

/-- **Every command is answered as it should be, and every parcel is numbered.**  In any state, a
command is handed on and nothing changes, or it is refused and one parcel more is sent: an answer
that reads as the refusal and nothing else.  In any run parcels are only added.  Those of a new
session, whatever was held before it, carry the tokens one, two, three and so on, modulo the size of
a word. -/
theorem answers_once_and_numbers_parcels (session : ToolkitSession) (size : Nat) (c : Cursor)
    (operations : List Operation) (settings : Settings) (held : List Parcel) :
    ((∃ command, Heard size c command ∧ hear size c session = (.ok command, session)) ∨
      ∃ error details result parcel, Refused size c error details result ∧
        hear size c session =
          (.error error,
            { session with token := session.token + 1, sent := session.sent ++ [parcel] }) ∧
        parcel.requestType = Parcel.Request.sendTerminalResponse.code ∧
        parcel.token = session.token + 1 ∧
        Element.readList parcel.payload.length (Cursor.ofOctets parcel.payload) =
          (.ok (Response.bareElements details result),
            (Cursor.ofOctets parcel.payload).advance parcel.payload.length)) ∧
      session.sent <+: (session.run operations).sent ∧
      ∃ parcels, (run { settings, sent := held } operations).sent = held ++ parcels ∧
        parcels.map (·.token.toNat) = (List.range' 1 parcels.length).map (· % UInt32.size) := by
  refine ⟨?_, ?_, ?_⟩
  · rcases hear_cases size c session with hheard | ⟨error, details, result, hrefused, hhear⟩
    · exact .inl hheard
    · refine .inr ⟨error, details, result, _, hrefused, hhear, rfl, rfl, ?_⟩
      exact Response.readList_bare details result _ _ (List.append_nil _).symm
  · obtain ⟨parcels, hsends⟩ := sends_run session operations
    exact ⟨parcels, hsends.sent_eq.symm⟩
  · obtain ⟨parcels, hsends⟩ := sends_run { settings, sent := held } operations
    exact ⟨parcels, hsends.sent_eq, hsends.tokens_eq⟩

end ToolkitSession

end SimCard
