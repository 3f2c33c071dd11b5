import SimCard.Parcel
import SimCard.Settings.Basic
import SimCard.Toolkit.Command
import SimCard.Toolkit.Response

/-!
# Toolkit sessions

A session hears the commands of a card and sends the terminal's parcels.  Each parcel carries the
next token, so the tokens count the parcels that were ever sent.

A command that cannot be carried out is answered by the session itself, before the error is passed
on: one that cannot be made out is refused as such, with no details of its own, and one without
something it requires is told so.
-/

set_option autoImplicit false

namespace SimCard

/-- The terminal's side of a toolkit session. -/
structure ToolkitSession where
  settings : Settings := {}
  /-- The token of the last parcel. -/
  token : UInt32 := 0
  /-- The parcels on their way, the earliest first. -/
  sent : List Parcel := []
deriving Repr, DecidableEq

namespace ToolkitSession

/-- Send a payload under the next token. -/
def send (request : Parcel.Request) (payload : Octets) (session : ToolkitSession) :
    ToolkitSession :=
  let token := session.token + 1
  { session with
    token
    sent := session.sent ++ [{ requestType := request.code, token, payload }] }

/-- Answer a command. -/
def respond (response : Response) (session : ToolkitSession) : ToolkitSession :=
  session.send .sendTerminalResponse
    (response.toOctets session.settings.language session.settings.shift)

/-- Report something. -/
def report (envelope : Envelope) (session : ToolkitSession) : ToolkitSession :=
  session.send .sendEnvelope envelope.toOctets

/-- Show the card a profile, or the one of the settings. -/
def showProfile (profile : Option Octets) (session : ToolkitSession) : ToolkitSession :=
  session.send .setProfile (profile.getD session.settings.profile)

/-- Read a command from a cursor that has `size` octets for it. -/
def command (size : Nat) (c : Cursor) : Except CommandError (CommandDetails × List Element) :=
  match (Template.read size c).1 with
  | .error e => .error (.element e)
  | .ok template =>
    match Command.details? template.elements with
    | none => .error .noDetails
    | some details => .ok (details, template.elements)

/-- **Hear a command.**  If it cannot be carried out, the card has been told why when the error
arrives. -/
def hear (size : Nat) (c : Cursor) : Step ToolkitSession CommandError Command := fun session =>
  match command size c with
  | .error e =>
    (.error e, session.respond { command := default, result := dataNotUnderstood })
  | .ok (details, elements) =>
    match Parameters.ofElements details elements with
    | .ok parameters => (.ok { details, parameters }, session)
    | .error e =>
      (.error e, session.respond { command := details, result := requiredValuesMissing })

end ToolkitSession

end SimCard
