import SimCard.Element.Value
import SimCard.Proofs.Machine.Numbers
import SimCard.Proofs.Machine.Texts

/-!
# Values on a machine

The value of an element is read from a buffer of its own, field by field and with the number of
octets that are left in hand.  Whatever the octets are, the machine ends with a value or with an
error that it declares, and in that case the octets are kept as they are: interpreting does not
fault, and its result is that of the library (`Machine.interpret_eq`).

`Decodes x octets value` says this of a reader in front of given octets.  It is built up along the
reader, an octet at a time (`Machine.decodes_octet`) or with all the octets that are left
(`Machine.decodes_rest`).
-/

set_option autoImplicit false

namespace SimCard

namespace Machine

variable (m : Machine) {c : Cursor} {octets : Octets}

/-! ## Reading values -/

/-- A value of one octet. -/
def readOne (value : UInt8 → Value) : Step Cursor (Stop FieldError) (Option Value) := do
  let octet ← m.readOctet
  return some (value octet)

/-- A value of two octets. -/
def readTwo (value : UInt8 → UInt8 → Value) : Step Cursor (Stop FieldError) (Option Value) := do
  let first ← m.readOctet
  let second ← m.readOctet
  return some (value first second)

/-- A value of an octet and all the others. -/
def readHeaded (value : UInt8 → Octets → Value) (length : Nat) :
    Step Cursor (Stop FieldError) (Option Value) := do
  let first ← m.readOctet
  let count ← Word.sub length 1
  let others ← m.readOctets count
  return some (value first others)

/-- The text of the next `size` octets in an alphabet. -/
def readText (size : Nat) : TextCoding → Step Cursor (Stop CursorError) String
  | .packed => do
    let bits ← Word.mul m.sizeBits size 8
    m.readPacked .standard .standard (bits / 7) 0
  | .eightBit => m.readEightBit size
  | .wide => m.readWide size

/-- A text and its coding. -/
def readCodedText (length : Nat) : Step Cursor (Stop FieldError) (Option Value) := do
  if length = 0 then
    return some (.textString none)
  let coding ← m.readOctet
  let remaining ← Word.sub length 1
  match TextCoding.ofCode? coding with
  | none => return none
  | some alphabet =>
    let text ← m.readText remaining alphabet
    return some (.textString (some { coding, text }))

/-- The value of a tag in the next `length` octets. -/
def readValue (length : Nat) : Tag → Step Cursor (Stop FieldError) (Option Value)
  | .commandDetails => do
    let number ← m.readOctet
    let commandType ← m.readOctet
    let qualifier ← m.readOctet
    return some (.commandDetails { number, commandType, qualifier })
  | .deviceIdentities => m.readTwo fun source destination =>
    .deviceIdentities { source, destination }
  | .result => m.readHeaded (fun general additional => .result { general, additional }) length
  | .duration => m.readTwo fun unit interval => .duration { unit, interval }
  | .alphaIdentifier => do
    let text ← m.readAlpha length
    return some (.alphaIdentifier text)
  | .address => do
    if length = 0 then
      return none
    let numberType ← m.peekOctet
    let number ← m.readDialling length
    return some (.address { numberType, number })
  | .textString | .defaultText => m.readCodedText length
  | .tone => m.readOne .tone
  | .item => do
    if length = 0 then
      return some (.item none)
    let identifier ← m.readOctet
    let count ← Word.sub length 1
    let text ← m.readAlpha count
    return some (.item (some { identifier, text }))
  | .itemIdentifier => m.readOne .itemIdentifier
  | .responseLength => m.readTwo fun least greatest => .responseLength { least, greatest }
  | .fileList => m.readHeaded (fun count paths => .fileList { count, paths }) length
  | .locationStatus => m.readOne .locationStatus
  | .helpRequest => return some .helpRequest
  | .nextActions => do
    let actions ← m.readOctets length
    return some (.nextActions actions)
  | .eventList => do
    if length = 0 then
      return some (.eventList none)
    let events ← m.readOctets length
    return some (.eventList (some events))
  | .iconIdentifier => m.readTwo fun qualifier identifier =>
    .iconIdentifier { qualifier, identifier }
  | .itemIconIdentifiers =>
    m.readHeaded (fun qualifier identifiers => .itemIconIdentifiers { qualifier, identifiers })
      length
  | .timerIdentifier => m.readOne .timerIdentifier
  | .timerValue => do
    let hours ← m.readNumber 1
    let minutes ← m.readNumber 1
    let second ← m.readNumber 1
    let time ← seconds hours minutes second
    return some (.timerValue time)
  | .dateTimeZone => do
    let date ← m.readTimestamp
    return some (.dateTimeZone date)
  | .immediateResponse => return some .immediateResponse
  | .language => do
    let text ← m.readEightBit length
    return some (.language text)
  | .url => do
    let text ← m.readEightBit length
    return some (.url text)
  | _ => return none

/-- What a reader ends with.  An error that it declares is as good as no value. -/
def settle {ε α : Type} : Except (Stop ε) (Option α) → Checked (Option α)
  | .ok value => .ok value
  | .error (.error _) => .ok none
  | .error (.fault cause) => .error cause

/-- **The value of an element** with a tag of one octet. -/
def interpret (tag : UInt8) (octets : Octets) : Checked Value := do
  match Tag.ofCode? tag with
  | none => return .raw octets
  | some known =>
    let value ← settle (m.readValue octets.length known (Cursor.ofOctets octets)).1
    return value.getD (.raw octets)

/-! ## Readers in front of octets -/

/-- **The reader makes this value of the octets**: that is what it ends with wherever exactly these
octets are left. -/
def Decodes {α : Type} (x : Step Cursor (Stop FieldError) (Option α)) (octets : Octets)
    (value : Option α) : Prop :=
  ∀ c : Cursor, c.Bounded → c.rest = octets → settle (x c).1 = .ok value

section Decodes

variable {α β : Type} {value : Option α}

theorem decodes_pure (value : Option α) : Decodes (pure value) octets value := fun _ _ _ => rfl

theorem decodes_check {a : β} {v : Checked β} {f : β → Step Cursor (Stop FieldError) (Option α)}
    (hv : v = .ok a) (h : Decodes (f a) octets value) :
    Decodes ((liftM v : Step Cursor (Stop FieldError) β) >>= f) octets value := by
  intro c hc hrest
  rw [Step.check_bind hv]
  exact h c hc hrest

theorem decodes_assoc {γ : Type} {x : Step Cursor (Stop FieldError) β}
    {f : β → Step Cursor (Stop FieldError) γ} {g : γ → Step Cursor (Stop FieldError) (Option α)}
    (h : Decodes (x >>= fun b => f b >>= g) octets value) :
    Decodes ((x >>= f) >>= g) octets value := by
  rw [Step.bind_assoc]
  exact h

theorem settle_bind_ok {x : Step Cursor (Stop FieldError) β} {b : β} {c' : Cursor}
    (h : x c = (.ok b, c')) (f : β → Step Cursor (Stop FieldError) (Option α)) :
    settle ((x >>= f) c).1 = settle (f b c').1 := by
  rw [Step.bind_apply, h]

theorem settle_bind_error {x : Step Cursor (Stop FieldError) β} {e : FieldError} {c' : Cursor}
    (h : x c = (.error (.error e), c')) (f : β → Step Cursor (Stop FieldError) (Option α)) :
    settle ((x >>= f) c).1 = .ok none := by
  rw [Step.bind_apply, h]
  rfl

/-- Reading one octet and making something of it. -/
theorem decodes_one {x : Step Cursor (Stop CursorError) β} {y : Reader CursorError β}
    {make : UInt8 → β} {f : β → Step Cursor (Stop FieldError) (Option α)}
    (hx : ∀ c : Cursor, c.Bounded → x.Agrees y c)
    (hyields : ∀ {c octet c'}, Cursor.readOctet.Yields c octet c' → y.Yields c (make octet) c')
    (hfails : ∀ {c e c'}, Cursor.readOctet.Fails c e c' → y.Fails c e c')
    (hnil : octets = [] → value = none)
    (hcons : ∀ octet rest, octets = octet :: rest → Decodes (f (make octet)) rest value) :
    Decodes ((liftM x : Step Cursor (Stop FieldError) β) >>= f) octets value := by
  intro c hc hrest
  have hagrees := (hx c hc).mapError FieldError.cursor
  cases octets with
  | nil =>
    have hnone : c.octets[c.readIndex]? = none := by
      rw [← List.head?_drop]
      exact congrArg List.head? hrest
    have hoctet : Cursor.readOctet.Fails c (.overrun c.readIndex 1 c.octets.length) c := by
      rw [Step.Fails, Cursor.readOctet, hnone]
    rw [hnil rfl]
    exact settle_bind_error (hagrees.eq_of_fails ((hfails hoctet).mapError _)) f
  | cons octet rest =>
    have htakes : c.Takes [octet] (c.advance 1) := Cursor.takes_of_rest_eq hrest
    have hoctet := hagrees.eq_of_yields
      (Step.yields_mapError.2 (hyields (Cursor.yields_readOctet.2 htakes)))
    have hbehind : (c.advance 1).rest = rest := by
      rw [Cursor.rest_advance, hrest]
      rfl
    exact (settle_bind_ok hoctet f).trans (hcons octet rest rfl _ (htakes.bounded hc) hbehind)

theorem decodes_octet {f : UInt8 → Step Cursor (Stop FieldError) (Option α)}
    (hnil : octets = [] → value = none)
    (hcons : ∀ octet rest, octets = octet :: rest → Decodes (f octet) rest value) :
    Decodes ((liftM m.readOctet : Step Cursor (Stop FieldError) UInt8) >>= f) octets value :=
  decodes_one (fun _ hc => m.agrees_readOctet hc) id id hnil hcons

theorem decodes_number {f : Nat → Step Cursor (Stop FieldError) (Option α)}
    (hnil : octets = [] → value = none)
    (hcons : ∀ octet rest, octets = octet :: rest →
      Decodes (f (Timestamp.octetField octet)) rest value) :
    Decodes ((liftM (m.readNumber 1) : Step Cursor (Stop FieldError) Nat) >>= f) octets value :=
  decodes_one (fun _ hc => m.agrees_readNumber hc)
    (fun hoctet => Step.yields_bind.2 ⟨_, _, hoctet, Step.yields_pure.2 ⟨rfl, rfl⟩⟩)
    (fun hoctet => hoctet.bind _) hnil hcons

/-- Reading all the octets that are left. -/
theorem decodes_rest {x : Step Cursor (Stop CursorError) β} {y : Reader CursorError β} {b : β}
    {f : β → Step Cursor (Stop FieldError) (Option α)}
    (hx : ∀ c : Cursor, c.Bounded → octets.length < 0x80000000 → x.Agrees y c)
    (hy : ∀ c : Cursor, c.Bounded → c.Takes octets (c.advance octets.length) →
      y.Yields c b (c.advance octets.length))
    (h : Decodes (f b) [] value) :
    Decodes ((liftM x : Step Cursor (Stop FieldError) β) >>= f) octets value := by
  intro c hc hrest
  have hlength : octets.length < 0x80000000 := by
    rw [← hrest, Cursor.rest, List.length_drop]
    exact Nat.lt_of_le_of_lt (Nat.sub_le _ _) hc.length_lt
  have hend : c.rest = octets ++ [] := by rw [hrest, List.append_nil]
  have htakes := Cursor.takes_of_rest_eq hend
  have hagrees := (hx c hc hlength).mapError FieldError.cursor
  have hyields := hagrees.eq_of_yields (Step.yields_mapError.2 (hy c hc htakes))
  refine (settle_bind_ok hyields f).trans ?_
  exact h _ (htakes.bounded hc) (Cursor.rest_advance_of_rest_eq hend)

theorem decodes_octets {f : Octets → Step Cursor (Stop FieldError) (Option α)}
    (h : Decodes (f octets) [] value) :
    Decodes ((liftM (m.readOctets octets.length) : Step Cursor (Stop FieldError) Octets) >>= f)
      octets value :=
  decodes_rest (fun _ hc hlength => m.agrees_readOctets hc hlength)
    (fun _ hc htakes => (Cursor.yields_readOctets hc.readIndex_le).2 ⟨rfl, htakes⟩) h

/-- Reading all the octets that are left and making something of them. -/
theorem decodes_decoded {x : Step Cursor (Stop CursorError) β} {decode : Octets → β}
    {f : β → Step Cursor (Stop FieldError) (Option α)}
    (hx : ∀ c : Cursor, c.Bounded → octets.length < 0x80000000 →
      x.Agrees (Cursor.readOctets octets.length >>= fun taken => pure (decode taken)) c)
    (h : Decodes (f (decode octets)) [] value) :
    Decodes ((liftM x : Step Cursor (Stop FieldError) β) >>= f) octets value :=
  decodes_rest hx
    (fun _ hc htakes => Cursor.yields_decoded decode hc.readIndex_le rfl htakes) h

theorem decodes_alpha {f : String → Step Cursor (Stop FieldError) (Option α)}
    (h : Decodes (f (String.ofList (Text.decodeAlpha octets))) [] value) :
    Decodes ((liftM (m.readAlpha octets.length) : Step Cursor (Stop FieldError) String) >>= f)
      octets value :=
  decodes_decoded (fun _ hc hlength => m.agrees_readAlpha hc hlength) h

theorem decodes_text (hlength : octets.length < 0x1000000) (alphabet : TextCoding)
    {f : String → Step Cursor (Stop FieldError) (Option α)}
    (h : Decodes (f (String.ofList (alphabet.decode octets))) [] value) :
    Decodes ((liftM (m.readText octets.length alphabet) : Step Cursor (Stop FieldError) String) >>=
      f) octets value := by
  cases alphabet with
  | packed =>
    have hx : ∀ c : Cursor, c.Bounded → octets.length < 0x80000000 →
        (m.readText octets.length .packed).Agrees
          (Text.readPackedText .standard .standard (octets.length * 8 / 7) 0) c :=
      fun c hc _ => Step.agrees_check (m.mul_size (by omega)) (m.agrees_readPacked hc hlength)
    refine decodes_rest hx (fun c hc htakes => ?_) h
    rw [Text.readPackedText, packedLength_room]
    exact Cursor.yields_decoded (fun taken => String.ofList (Text.decodeUnits .standard .standard
      (Text.unpackSeptets (octets.length * 8 / 7) 0 taken))) hc.readIndex_le rfl htakes
  | eightBit => exact decodes_decoded (fun _ hc hlength => m.agrees_readEightBit hc hlength) h
  | wide => exact decodes_decoded (fun _ hc hlength => m.agrees_readWide hc hlength) h

/-- Looking at an octet leaves it there. -/
theorem decodes_peek {octet : UInt8} {rest : Octets}
    {f : UInt8 → Step Cursor (Stop FieldError) (Option α)}
    (h : Decodes (f octet) (octet :: rest) value) :
    Decodes ((liftM m.peekOctet : Step Cursor (Stop FieldError) UInt8) >>= f) (octet :: rest)
      value := by
  intro c hc hrest
  have hget : c.octets[c.readIndex]? = some octet := by
    rw [← List.head?_drop]
    exact congrArg List.head? hrest
  have hpeek : Cursor.peekOctet.Yields c octet c := by rw [Step.Yields, Cursor.peekOctet, hget]
  have hagrees := (m.agrees_peekOctet hc).mapError FieldError.cursor
  refine (settle_bind_ok (hagrees.eq_of_yields (Step.yields_mapError.2 hpeek)) f).trans ?_
  exact h c hc hrest

theorem decodes_dialling {type : UInt8} {digits : Octets}
    {f : String → Step Cursor (Stop FieldError) (Option α)}
    (h : Decodes (f (String.ofList (Number.decodeDialling (type :: digits)))) [] value) :
    Decodes ((liftM (m.readDialling (type :: digits).length) :
      Step Cursor (Stop FieldError) String) >>= f) (type :: digits) value :=
  decodes_rest (fun _ hc hlength => m.agrees_readDialling hc hlength)
    (fun _ hc htakes => Number.yields_readDialling hc.readIndex_le htakes) h

end Decodes

/-! ## The values of all tags -/

theorem sub_length_cons (octet : UInt8) (rest : Octets) :
    Word.sub (octet :: rest).length 1 = .ok rest.length := Word.sub_of_le (Nat.le_add_left _ _)

theorem decodes_readCodedText (hlength : octets.length < 0x1000000) :
    Decodes (m.readCodedText octets.length) octets (Value.ofOctets?.codedText octets) := by
  cases octets with
  | nil => exact decodes_pure _
  | cons coding body =>
    have hbody : body.length < 0x1000000 := Nat.lt_of_succ_lt hlength
    rw [Value.ofOctets?.codedText]
    refine m.decodes_octet (by rintro ⟨⟩) ?_
    rintro _ _ ⟨⟩
    refine decodes_check (sub_length_cons coding body) ?_
    cases TextCoding.ofCode? coding with
    | none => exact decodes_pure _
    | some alphabet => exact m.decodes_text hbody alphabet (decodes_pure _)

theorem decodes_validated (t : Timestamp) :
    Decodes (validated t >>= fun date => pure (some (Value.dateTimeZone date))) octets
      ((if t.isValid then some t else none).map .dateTimeZone) := by
  rw [validated]
  split
  · exact decodes_pure _
  · exact fun _ _ _ => rfl

theorem decodes_readTimestamp :
    Decodes (m.readTimestamp >>= fun date => pure (some (Value.dateTimeZone date))) octets
      ((Timestamp.ofOctets? octets).map .dateTimeZone) := by
  refine decodes_assoc (m.decodes_number (by rintro rfl; rfl) ?_)
  rintro year rest rfl
  have hyear := Timestamp.octetField_lt year
  refine decodes_assoc (decodes_check (Word.fitSigned_of_lt (by omega) (by omega)) ?_)
  refine decodes_assoc (m.decodes_number (by rintro rfl; rfl) ?_)
  rintro month rest rfl
  refine decodes_assoc (m.decodes_number (by rintro rfl; rfl) ?_)
  rintro day rest rfl
  refine decodes_assoc (m.decodes_number (by rintro rfl; rfl) ?_)
  rintro hour rest rfl
  refine decodes_assoc (m.decodes_number (by rintro rfl; rfl) ?_)
  rintro minute rest rfl
  refine decodes_assoc (m.decodes_number (by rintro rfl; rfl) ?_)
  rintro second rest rfl
  refine decodes_assoc (m.decodes_octet (by rintro rfl; rfl) ?_)
  rintro zone rest rfl
  refine decodes_assoc (decodes_check (offset_eq zone) ?_)
  exact decodes_validated (Timestamp.ofFields year month day hour minute second zone)

theorem decodes_readValue (hlength : octets.length < 0x1000000) (tag : Tag) :
    Decodes (m.readValue octets.length tag) octets (Value.ofOctets? tag octets) := by
  cases tag with
  | commandDetails =>
    refine m.decodes_octet (by rintro rfl; rfl) ?_
    rintro number rest rfl
    refine m.decodes_octet (by rintro rfl; rfl) ?_
    rintro commandType rest rfl
    refine m.decodes_octet (by rintro rfl; rfl) ?_
    rintro qualifier rest rfl
    exact decodes_pure _
  | deviceIdentities | duration | responseLength | iconIdentifier =>
    refine m.decodes_octet (by rintro rfl; rfl) ?_
    rintro first rest rfl
    refine m.decodes_octet (by rintro rfl; rfl) ?_
    rintro second rest rfl
    exact decodes_pure _
  | tone | itemIdentifier | locationStatus | timerIdentifier =>
    refine m.decodes_octet (by rintro rfl; rfl) ?_
    rintro octet rest rfl
    exact decodes_pure _
  | result | fileList | itemIconIdentifiers =>
    refine m.decodes_octet (by rintro rfl; rfl) ?_
    rintro first others rfl
    exact decodes_check (sub_length_cons first others) (m.decodes_octets (decodes_pure _))
  | alphaIdentifier => exact m.decodes_alpha (decodes_pure _)
  | nextActions => exact m.decodes_octets (decodes_pure _)
  | language | url => exact m.decodes_text hlength .eightBit (decodes_pure _)
  | helpRequest | immediateResponse => exact decodes_pure _
  | timerValue =>
    refine m.decodes_number (by rintro rfl; rfl) ?_
    rintro hours rest rfl
    refine m.decodes_number (by rintro rfl; rfl) ?_
    rintro minutes rest rfl
    refine m.decodes_number (by rintro rfl; rfl) ?_
    rintro second rest rfl
    exact decodes_check (seconds_eq (Timestamp.octetField_lt hours)
      (Timestamp.octetField_lt minutes) (Timestamp.octetField_lt second)) (decodes_pure _)
  | item =>
    cases octets with
    | nil => exact decodes_pure _
    | cons identifier text =>
      refine m.decodes_octet (by rintro ⟨⟩) ?_
      rintro _ _ ⟨⟩
      exact decodes_check (sub_length_cons identifier text) (m.decodes_alpha (decodes_pure _))
  | eventList =>
    cases octets with
    | nil => exact decodes_pure _
    | cons event events => exact m.decodes_octets (decodes_pure _)
  | textString | defaultText => exact m.decodes_readCodedText hlength
  | address =>
    cases octets with
    | nil => exact decodes_pure _
    | cons type digits => exact m.decodes_peek (m.decodes_dialling (decodes_pure _))
  | dateTimeZone => exact m.decodes_readTimestamp
  | _ => exact decodes_pure _

/-- **Interpreting a value does not fault.** -/
theorem interpret_eq (hlength : octets.length < 0x1000000) (tag : UInt8) :
    m.interpret tag octets = .ok (Value.interpret tag octets) := by
  have hbounded : (Cursor.ofOctets octets).Bounded :=
    ⟨Nat.zero_le _, Nat.lt_trans hlength (by decide)⟩
  rw [interpret, Value.interpret]
  cases Tag.ofCode? tag with
  | none => rfl
  | some known =>
    have hvalue := m.decodes_readValue hlength known _ hbounded rfl
    exact congrArg (· >>= _) hvalue

end Machine

end SimCard
