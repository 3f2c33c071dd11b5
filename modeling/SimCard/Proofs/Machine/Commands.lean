import SimCard.Proofs.Machine.Values
import SimCard.Proofs.ToolkitSessions

/-!
# Commands on a machine

A command of the card is the one message whose octets nobody has looked at before.  This file hears
one on a machine, from the first octet to the answer that refuses it:

* `Machine.readElement` and `Machine.readTemplate` read it, the latter in a loop that goes on as
  long as its index is below the length that was declared;
* `Machine.respond` writes the answer to a command that cannot be carried out;
* `Machine.hear` does both.

Each of them agrees with the library, so the card cannot make a machine fault
(`Machine.no_command_faults`).  The values of elements have less than `2^24` octets because a length
field has no room for more, and that is what their arithmetic rests on; the octets as a whole must
be fewer than half of what a size can count.
-/

set_option autoImplicit false

namespace SimCard

namespace Machine

variable (m : Machine) {c : Cursor}

/-! ## Elements -/

/-- The tag, its flag, and whether it is in the long form. -/
def readTag : Step Cursor (Stop ElementError) (UInt16 × Bool × Bool) := do
  let first ← m.readOctet
  if first = 0x00 ∨ first = 0x80 ∨ first = 0xFF then
    Step.fail (.error (.invalidTag first))
  else if first = Tag.longMarker then
    let tag ← m.readWord16
    return (tag &&& 0x7FFF, tag &&& 0x8000 != 0, true)
  else
    return ((first &&& 0x7F).toUInt16, first &&& Tag.requiredFlag != 0, false)

/-- The value of an element; that of a tag in the long form has no interpretation. -/
def valueOf (tag : UInt16) (isLong : Bool) (octets : Octets) : Checked Value :=
  if isLong then return .raw octets else m.interpret tag.toUInt8 octets

/-- The next element. -/
def readElement : Step Cursor (Stop ElementError) Element := do
  let (tag, required, isLong) ← m.readTag
  let (length, _) ← m.readLength
  let octets ← m.readOctets length
  let value ← m.valueOf tag isLong octets
  return { tag, required, isLong, length, value }

/-- Elements as long as the index is below `length`.  A loop that is not over after as many turns as
it was given goes on for ever. -/
def readWithin (length : Nat) : Nat → Nat → Step Cursor (Stop ElementError) (List Element)
  | 0, _ => Step.fail (.fault .endless)
  | turns + 1, index => do
    if length ≤ index then
      return []
    let before ← Step.get
    let element ← m.readElement
    let behind ← Step.get
    let read ← Word.sub behind.readIndex before.readIndex
    let index ← Word.add m.sizeBits index read
    let rest ← readWithin length turns index
    return element :: rest

/-- The elements in the next `length` octets.  A turn takes an octet at least, so there are no more
of them than octets left, and a last one that reads nothing. -/
def readList (length : Nat) : Step Cursor (Stop ElementError) (List Element) := fun c =>
  m.readWithin length (c.remaining + 1) 0 c

/-- The command of the card in the next octets, `size` of which are there for it.  What is there for
its elements is nothing if the header takes more than that. -/
def readTemplate (size : Nat) : Step Cursor (Stop ElementError) Template := do
  let tag ← m.readOctet
  if tag ≠ Template.Tag.proactiveCommand.code then
    Step.fail (.error (.unknownTemplate tag))
  else
    let (length, lengthSize) ← m.readLength
    let header ← Word.add m.sizeBits 1 lengthSize
    let available := size - header
    if available < length then
      Step.fail (.error (.tooLong length available))
    else
      let elements ← m.readList length
      return { tag, length, elements }

theorem agrees_readTag (hc : c.Bounded) : m.readTag.Agrees Element.readTag c := by
  refine m.agrees_liftM_readOctet_bind hc fun first c₁ hc₁ => ?_
  refine .ite (fun _ => Step.agrees_fail _) fun _ => ?_
  refine .ite (fun _ => ?_) fun _ => Step.agrees_pure _
  exact ((m.agrees_readWord16 hc₁).mapError ElementError.cursor).bind fun _ _ _ =>
    Step.agrees_pure _

theorem valueOf_eq (tag : UInt16) (isLong : Bool) {octets : Octets}
    (hlength : octets.length < 0x1000000) :
    m.valueOf tag isLong octets =
      .ok (if isLong then .raw octets else Value.interpret tag.toUInt8 octets) := by
  cases isLong with
  | true => rfl
  | false => exact m.interpret_eq hlength tag.toUInt8

theorem agrees_readElement (hc : c.Bounded) : m.readElement.Agrees Element.read c := by
  refine (m.agrees_readTag hc).bind fun form c₁ htag => ?_
  obtain ⟨tag, required, isLong⟩ := form
  let element : Element := { tag, required, isLong, length := 0, value := .raw [] }
  have hfits : element.TagFits ∧ c.Takes element.tagOctets c₁ := Element.yields_readTag.1 htag
  have hc₁ := hfits.2.bounded hc
  refine (m.agrees_readLength hc₁).bind fun form c₂ hlength => ?_
  obtain ⟨length, size⟩ := form
  obtain ⟨hlt, -, htakes⟩ := Length.yields_read.1 hlength
  have hc₂ := htakes.bounded hc₁
  refine ((m.agrees_readOctets hc₂ (by omega)).mapError ElementError.cursor).bind
    fun octets c₃ hoctets => ?_
  have hsize := ((Cursor.yields_readOctets hc₂.readIndex_le).1 (yields_liftM.1 hoctets)).1
  exact Step.agrees_check (m.valueOf_eq tag isLong (by omega)) (Step.agrees_pure _)

/-- **The loop over the elements** ends before it has used up its turns, and its index stays below
what a size can count. -/
theorem agrees_readWithin {length turns index : Nat} (hlength : length < 0x1000000)
    (hturns : c.remaining < turns) (hc : c.Bounded) :
    (m.readWithin length turns index).Agrees (Element.readWithin turns (length - index)) c := by
  induction turns generalizing index c with
  | zero => omega
  | succ turns ih =>
    rw [readWithin, Element.readWithin]
    by_cases hdone : length ≤ index
    · rw [if_pos hdone, if_pos (Nat.sub_eq_zero_of_le hdone)]
      exact Step.agrees_pure _
    · rw [if_neg hdone, if_neg (by omega)]
      refine Step.agrees_get.bind fun before _ hbefore => ?_
      obtain ⟨rfl, rfl⟩ := Step.yields_get.1 hbefore
      refine (m.agrees_readElement hc).bind fun element c₁ helement => ?_
      obtain ⟨front, hframe, htakes⟩ := Element.yields_read_iff_isFrame.1 helement
      have hpos := List.length_pos_iff.2 hframe.ne_nil
      have hremaining := htakes.remaining_eq
      have hindex := htakes.readIndex_eq
      have hc₁ := htakes.bounded hc
      refine Step.agrees_get.bind fun behind _ hbehind => ?_
      obtain ⟨rfl, rfl⟩ := Step.yields_get.1 hbehind
      have hwithin := hc₁.readIndex_le
      have hshort := hc₁.length_lt
      refine Step.agrees_check (Word.sub_of_le (by omega)) ?_
      refine Step.agrees_check (m.add_size (by omega)) ?_
      rw [Nat.sub_sub]
      exact (ih (by omega) hc₁).bind fun _ _ _ => Step.agrees_pure _

/-- **Reading a command does not fault.** -/
theorem agrees_readTemplate (hc : c.Bounded) (size : Nat) :
    (m.readTemplate size).Agrees (Template.read size) c := by
  refine m.agrees_liftM_readOctet_bind hc fun tag c₁ hc₁ => ?_
  refine .ite (fun _ => Step.agrees_fail _) fun _ => ?_
  refine (m.agrees_readLength hc₁).bind fun form c₂ hlength => ?_
  obtain ⟨length, lengthSize⟩ := form
  obtain ⟨hlt, rfl, htakes⟩ := Length.yields_read.1 hlength
  have hc₂ := htakes.bounded hc₁
  have hsize := Length.size_le length
  refine Step.agrees_check (m.add_size (by omega)) ?_
  refine .ite (fun _ => Step.agrees_fail _) fun _ => ?_
  have hlist : (m.readList length).Agrees (Element.readList length) c₂ :=
    m.agrees_readWithin hlt (Nat.lt_succ_self _) hc₂
  exact hlist.bind fun _ _ _ => Step.agrees_pure _

/-! ## Answers -/

/-- The field of a length. -/
def lengthOctets (length : Nat) : Checked Octets := do
  if length < 0x80 then
    return [UInt8.ofNat length]
  else if length < 0x100 then
    return [0x81, UInt8.ofNat length]
  else if length < 0x10000 then
    let high ← Word.shiftRight m.sizeBits length 8
    return [0x82, UInt8.ofNat high, UInt8.ofNat (length &&& 0xFF)]
  else
    let high ← Word.shiftRight m.sizeBits length 16
    let middle ← Word.shiftRight m.sizeBits length 8
    return [0x83, UInt8.ofNat (high &&& 0xFF), UInt8.ofNat (middle &&& 0xFF),
      UInt8.ofNat (length &&& 0xFF)]

/-- A tag with the octets of a value.  Room is made for all of them. -/
def field (entry : Field) : Checked Octets := do
  let header ← Word.add m.sizeBits 1 (Length.size entry.2.length)
  let _room ← Word.add m.sizeBits header entry.2.length
  let length ← m.lengthOctets entry.2.length
  return entry.1 :: length ++ entry.2

/-- Fields one after the other. -/
def fieldsOctets : List Field → Checked Octets
  | [] => return []
  | entry :: rest => do
    let front ← m.field entry
    let back ← fieldsOctets rest
    return front ++ back

/-- The fields of an answer that has nothing to say but how it went. -/
def resultFields (command : CommandDetails) (result : UInt8) : List Field :=
  [(Tag.commandDetails.required, [command.number, command.commandType, command.qualifier]),
   (Tag.deviceIdentities.code, [Device.terminal.code, Device.card.code]),
   (Tag.result.required, [result])]

/-- Answer a command with a result. -/
def respond (command : CommandDetails) (result : UInt8) :
    Step ToolkitSession (Stop CommandError) Unit := do
  let payload ← m.fieldsOctets (resultFields command result)
  Step.modify (·.send .sendTerminalResponse payload)

/-- **Hear a command.** -/
def hear (size : Nat) (c : Cursor) : Step ToolkitSession (Stop CommandError) Command := do
  match (m.readTemplate size c).1 with
  | .error (.fault cause) => Step.fail (.fault cause)
  | .error (.error e) =>
    m.respond default dataNotUnderstood
    Step.fail (.error (.element e))
  | .ok template =>
    match Command.details? template.elements with
    | none =>
      m.respond default dataNotUnderstood
      Step.fail (.error .noDetails)
    | some details =>
      match Parameters.ofElements details template.elements with
      | .ok parameters => return { details, parameters }
      | .error (.missing requirement) =>
        m.respond details requiredValuesMissing
        Step.fail (.error (.missing requirement))
      | .error e => Step.fail (.error e)

/-- The octet of a number is that of its low eight bits. -/
theorem ofNat_and_lowOctet (n : Nat) : UInt8.ofNat (n &&& 0xFF) = UInt8.ofNat n := by
  have hmod : n &&& 0xFF = n % 256 := Nat.and_two_pow_sub_one_eq_mod n 8
  apply UInt8.toNat_inj.1
  rw [hmod, UInt8.toNat_ofNat', UInt8.toNat_ofNat', Nat.mod_mod]

theorem lengthOctets_eq (length : Nat) : m.lengthOctets length = .ok (Length.toOctets length) := by
  have hbits := m.le_sizeBits
  have hhigh : Word.shiftRight m.sizeBits length 16 = .ok (length / 65536) := by
    rw [Word.shiftRight_of_lt (by omega), Nat.shiftRight_eq_div_pow]
  have hmiddle : Word.shiftRight m.sizeBits length 8 = .ok (length / 256) := by
    rw [Word.shiftRight_of_lt (by omega), Nat.shiftRight_eq_div_pow]
  rw [lengthOctets, Length.toOctets, hhigh, hmiddle]
  simp only [Checked.ok_bind, ofNat_and_lowOctet]
  split
  · rfl
  · split
    · rfl
    · split <;> rfl

theorem field_eq {entry : Field} (h : entry.2.length < 0x80000000) :
    m.field entry = .ok (Element.field entry.1 entry.2) := by
  have hsize := Length.size_le entry.2.length
  rw [field, m.add_size (by omega), Checked.ok_bind, m.add_size (by omega), Checked.ok_bind,
    lengthOctets_eq]
  rfl

theorem fieldsOctets_eq {fields : List Field} (h : ∀ entry ∈ fields, entry.2.length < 0x80000000) :
    m.fieldsOctets fields = .ok (SimCard.fieldsOctets fields) := by
  induction fields with
  | nil => rfl
  | cons entry rest ih =>
    have hrest := ih fun other hother => h other (List.mem_cons_of_mem entry hother)
    rw [fieldsOctets, m.field_eq (h entry List.mem_cons_self), hrest]
    rfl

theorem fields_eq_resultFields (command : CommandDetails) (result : UInt8) (lang shift : Language) :
    ({ command, result } : Response).fields lang shift = resultFields command result := by
  have htext : ({ command, result } : Response).textFields lang shift = [] := by
    rw [Response.textFields]
    split
    · rfl
    · exact if_pos (show "".isEmpty = true by decide)
  rw [Response.fields, htext]
  rfl

theorem respond_eq (command : CommandDetails) (result : UInt8) (session : ToolkitSession) :
    m.respond command result session = (.ok (), session.respond { command, result }) := by
  have hfields : m.fieldsOctets (resultFields command result) =
      .ok (SimCard.fieldsOctets (resultFields command result)) :=
    m.fieldsOctets_eq (by simp [resultFields])
  rw [respond, Step.check_bind hfields, ToolkitSession.respond, Response.toOctets,
    fields_eq_resultFields]
  rfl

/-- A command that is refused is answered first. -/
theorem respond_fail {α : Type} (command : CommandDetails) (result : UInt8) (e : CommandError)
    (session : ToolkitSession) :
    (m.respond command result >>= fun _ =>
      (Step.fail (.error e) : Step ToolkitSession (Stop CommandError) α)) session =
      (.error (.error e), session.respond { command, result }) := by
  rw [Step.bind_apply, respond_eq]
  rfl

/-- **Hearing a command does not fault.** -/
theorem agrees_hear (hc : c.Bounded) (size : Nat) (session : ToolkitSession) :
    (m.hear size c).Agrees (ToolkitSession.hear size c) session := by
  have htemplate := m.agrees_readTemplate hc size
  rw [Step.Agrees, Step.mapError] at htemplate
  rw [hear, htemplate, Step.Agrees, Step.mapError, ToolkitSession.hear, ToolkitSession.command]
  cases Template.read size c with
  | mk outcome c' =>
    cases outcome with
    | error e => exact m.respond_fail default dataNotUnderstood (.element e) session
    | ok template =>
      dsimp only
      cases Command.details? template.elements with
      | none => exact m.respond_fail default dataNotUnderstood .noDetails session
      | some details =>
        dsimp only
        cases hparameters : Parameters.ofElements details template.elements with
        | ok parameters => rfl
        | error e =>
          -- only missing parameters are a reason to refuse a command that could be made out
          obtain ⟨requirement, rfl⟩ :=
            Parameters.onlyMissing_ofElements template.elements details e hparameters
          exact m.respond_fail details requiredValuesMissing (.missing requirement) session

/-- **The card cannot make a machine fault**, whatever the octets of a command are and however many
of them are said to be there: hearing it is what it is in the library, with the errors that are
declared there and no others. -/
theorem no_command_faults (hc : c.Bounded) (size : Nat) (session : ToolkitSession) :
    (m.readTemplate size).Agrees (Template.read size) c ∧
      (m.hear size c).Agrees (ToolkitSession.hear size c) session ∧
      ∀ cause, (m.hear size c session).1 ≠ .error (.fault cause) :=
  have hhear := m.agrees_hear hc size session
  ⟨m.agrees_readTemplate hc size, hhear, hhear.ne_fault⟩

/-- A text to show, behind a result without octets and a name that ends within its base. -/
theorem no_command_faults_cut_short :
    let c := Cursor.ofOctets
      [0xD0, 0x13, 0x81, 0x03, 0x01, 0x21, 0x80, 0x03, 0x00, 0x05, 0x02, 0x82, 0x01, 0x8D, 0x06,
       0x00, 0xC8, 0x32, 0x9B, 0xFD, 0x06]
    let m : Machine := ⟨32, Nat.le_refl 32⟩
    c.Bounded ∧
      ((m.readTemplate 21).Agrees (Template.read 21) c ∧
        (m.hear 21 c).Agrees (ToolkitSession.hear 21 c) {} ∧
        ∀ cause, (m.hear 21 c {}).1 ≠ .error (.fault cause)) ∧
      (m.hear 21 c {}).1 = .ok
        { details := { number := 1, commandType := 0x21, qualifier := 0x80 }
          parameters := .message { text := some "Hello", clearedByUser := true } } := by
  have hc : (Cursor.ofOctets
      [0xD0, 0x13, 0x81, 0x03, 0x01, 0x21, 0x80, 0x03, 0x00, 0x05, 0x02, 0x82, 0x01, 0x8D, 0x06,
       0x00, 0xC8, 0x32, 0x9B, 0xFD, 0x06]).Bounded := ⟨by decide, by decide⟩
  exact ⟨hc, no_command_faults _ hc 21 {}, rfl⟩

end Machine

end SimCard
