import SimCard.Proofs.DirectoryEntries
import SimCard.Text.NetworkName

/-!
# Readers that keep to their budget

The fields of a record follow each other without anything between them, so whoever reads one must
come out just at its end, whatever is in it.  The texts and numbers themselves end earlier: at
filler, at a count of their own, or because nothing can be made of them.

Three things are said of a reader, each of which passes from parts to a sequence of them.

* `Cursor.Moves size x` — wherever `x` succeeds, it has taken `size` octets.
* `Cursor.Spans size x` — and it does succeed wherever there are that many.
* `Step.Keeps (Cursor.Held octets index) x` — whatever comes of it, the octets and the place to
  write are as they were.

The readers of a single field span its size (`Text.spans_readEightBit` and the like).  A number
field moves by twelve octets if it is read at all, and it is, unless it announces more octets than
it has (`Number.succeeds_readNumberField_iff`).  What this means at one cursor is
`Cursor.SpendsExactly` for the former, and for the latter `Cursor.Spends`.
-/

set_option autoImplicit false

namespace SimCard

namespace Cursor

variable {ε ε' α β : Type} {c c' : Cursor} {size m n : Nat}

/-! ## Octets that are there -/

/-- The next octets can be taken if there are so many. -/
theorem exists_takes (h : size ≤ c.remaining) :
    ∃ octets c', octets.length = size ∧ c.Takes octets c' := by
  have hlength : (c.rest.take size).length = size := by
    rw [List.length_take, length_rest]
    omega
  exact ⟨c.rest.take size, _, hlength, List.take_prefix _ _, rfl⟩

/-! ## Moves -/

/-- **The reader moves by `size` octets** wherever it succeeds. -/
def Moves (size : Nat) (x : Reader ε α) : Prop :=
  ∀ c a c', c.readIndex ≤ c.octets.length → x.Yields c a c' →
    ∃ octets : Octets, octets.length = size ∧ c.Takes octets c'

theorem moves_pure (a : α) : Moves 0 (pure a : Reader ε α) := by
  intro c b c' _ h
  exact ⟨[], rfl, takes_nil.2 (Step.yields_pure.1 h).2.symm⟩

theorem moves_fail (e : ε) : Moves size (Step.fail e : Reader ε α) :=
  fun _ _ _ _ h => absurd h Step.not_yields_fail

theorem Moves.bind {x : Reader ε α} {f : α → Reader ε β} (hx : Moves m x)
    (hf : ∀ a, Moves n (f a)) : Moves (m + n) (x >>= f) := by
  intro c b c'' hc h
  obtain ⟨a, c', hfirst, hsecond⟩ := Step.yields_bind.1 h
  obtain ⟨front, hfront, htakes⟩ := hx c a c' hc hfirst
  obtain ⟨back, hback, htakes'⟩ := hf a c' b c'' (htakes.within hc) hsecond
  exact ⟨front ++ back, by rw [List.length_append, hfront, hback], htakes.append htakes'⟩

theorem Moves.mapError {x : Reader ε α} (hx : Moves size x) (f : ε → ε') :
    Moves size (x.mapError f) :=
  fun c a c' hc h => hx c a c' hc (Step.yields_mapError.1 h)

/-! ## Spans -/

/-- **The reader spans `size` octets**: it moves by so many, and it succeeds wherever they are
there. -/
structure Spans (size : Nat) (x : Reader ε α) : Prop where
  moves : Moves size x
  succeeds : ∀ c : Cursor, c.readIndex ≤ c.octets.length → size ≤ c.remaining → x.Succeeds c

theorem spans_pure (a : α) : Spans 0 (pure a : Reader ε α) :=
  ⟨moves_pure a, fun c _ _ => ⟨a, c, Step.yields_pure.2 ⟨rfl, rfl⟩⟩⟩

theorem spans_readOctet : Spans 1 readOctet := by
  constructor
  · intro c octet c' _ h
    exact ⟨[octet], rfl, yields_readOctet.1 h⟩
  · intro c _ hremaining
    obtain ⟨octets, c', hlength, htakes⟩ := exists_takes hremaining
    obtain ⟨octet, rfl⟩ := List.length_eq_one_iff.1 hlength
    exact ⟨octet, c', yields_readOctet.2 htakes⟩

theorem spans_readOctets (count : Nat) : Spans count (readOctets count) := by
  constructor
  · intro c octets c' hc h
    exact ⟨octets, (yields_readOctets hc).1 h⟩
  · intro c hc hremaining
    obtain ⟨octets, c', hlength, htakes⟩ := exists_takes hremaining
    exact ⟨octets, c', (yields_readOctets hc).2 ⟨hlength, htakes⟩⟩

theorem spans_skip {count : Nat} (hcount : count < 0x8000000000000000) :
    Spans count (skip count) := by
  constructor
  · intro c _ c' hc h
    exact (yields_skip count hcount hc).1 h
  · intro c hc hremaining
    obtain ⟨octets, c', hlength, htakes⟩ := exists_takes hremaining
    exact ⟨(), c', (yields_skip count hcount hc).2 ⟨octets, hlength, htakes⟩⟩

/-- Of a sequence, the first part leaves as many octets as the second one needs. -/
theorem Spans.bind {x : Reader ε α} {f : α → Reader ε β} (hx : Spans m x)
    (hf : ∀ a, Spans n (f a)) : Spans (m + n) (x >>= f) := by
  refine ⟨hx.moves.bind fun a => (hf a).moves, fun c hc hremaining => ?_⟩
  obtain ⟨a, c', hfirst⟩ := hx.succeeds c hc (by omega)
  obtain ⟨front, hfront, htakes⟩ := hx.moves c a c' hc hfirst
  have hleft := htakes.remaining_eq
  obtain ⟨b, c'', hsecond⟩ := (hf a).succeeds c' (htakes.within hc) (by omega)
  exact ⟨b, c'', Step.yields_bind.2 ⟨a, c', hfirst, hsecond⟩⟩

theorem Spans.mapError {x : Reader ε α} (hx : Spans size x) (f : ε → ε') :
    Spans size (x.mapError f) := by
  refine ⟨hx.moves.mapError f, fun c hc hremaining => ?_⟩
  obtain ⟨a, c', h⟩ := hx.succeeds c hc hremaining
  exact ⟨a, c', Step.yields_mapError.2 h⟩

/-- Where a reader that spans octets succeeds. -/
theorem Spans.succeeds_iff {x : Reader ε α} (hx : Spans size x)
    (hc : c.readIndex ≤ c.octets.length) : x.Succeeds c ↔ size ≤ c.remaining := by
  constructor
  · rintro ⟨a, c', h⟩
    obtain ⟨octets, hlength, htakes⟩ := hx.moves c a c' hc h
    have hleft := htakes.remaining_eq
    omega
  · exact hx.succeeds c hc

/-- **A field of a fixed size** is spanned, whatever is made of its octets. -/
theorem spans_decoded (size : Nat) (decode : Octets → α) :
    Spans size (readOctets size >>= fun octets => pure (decode octets)) :=
  (spans_readOctets size).bind fun octets => spans_pure (decode octets)

/-! ## What is held -/

theorem keeps_decoded {octets : Octets} {index : Nat} (size : Nat) (decode : Octets → α) :
    (readOctets size >>= fun octets => pure (decode octets)).Keeps (Held octets index) :=
  (keeps_readOctets size).bind fun _ => Step.keeps_pure _

/-! ## Budgets -/

/-- **The reader spends `size` octets** if it succeeds, and leaves all else in place if it succeeds
or not. -/
structure Spends (size : Nat) (x : Reader ε α) (c : Cursor) : Prop where
  readIndex_eq : ∀ a c', x.Yields c a c' → c'.readIndex = c.readIndex + size
  octets_eq : (x c).2.octets = c.octets
  writeIndex_eq : (x c).2.writeIndex = c.writeIndex

/-- **The reader spends exactly its budget**: nothing but the number of octets left decides whether
it succeeds. -/
structure SpendsExactly (size : Nat) (x : Reader ε α) (c : Cursor) : Prop
    extends Spends size x c where
  succeeds_iff : x.Succeeds c ↔ size ≤ c.remaining

theorem Moves.spends {x : Reader ε α} (hx : Moves size x)
    (hheld : x.Keeps (Held c.octets c.writeIndex)) (hc : c.readIndex ≤ c.octets.length) :
    Spends size x c := by
  obtain ⟨hoctets, hindex, -⟩ := hheld c ⟨rfl, rfl, hc⟩
  refine ⟨fun a c' h => ?_, hoctets, hindex⟩
  obtain ⟨octets, hlength, htakes⟩ := hx c a c' hc h
  rw [htakes.readIndex_eq, hlength]

theorem Spans.spendsExactly {x : Reader ε α} (hx : Spans size x)
    (hheld : x.Keeps (Held c.octets c.writeIndex)) (hc : c.readIndex ≤ c.octets.length) :
    SpendsExactly size x c :=
  ⟨hx.moves.spends hheld hc, hx.succeeds_iff hc⟩

end Cursor

/-! ## Texts -/

namespace Text

open Cursor

variable {octets : Octets} {index : Nat}

theorem readScheme_eq (marker : UInt8) (size : Nat) :
    readScheme marker size = (readOctets size >>= fun octets => pure
      (match WideScheme.ofMarker? marker with
        | some scheme => String.ofList (decodeScheme scheme octets)
        | none => "")) := by
  rw [readScheme]
  cases WideScheme.ofMarker? marker with
  | none => rfl
  | some scheme => rfl

theorem spans_readEightBit (size : Nat) : Spans size (readEightBit size) :=
  spans_decoded size fun octets => String.ofList (decodeEightBit octets)

theorem spans_readWide (size : Nat) : Spans size (readWide size) :=
  spans_decoded size fun octets => String.ofList (decodeWide octets)

theorem spans_readScheme (marker : UInt8) (size : Nat) : Spans size (readScheme marker size) := by
  rw [readScheme_eq]
  exact spans_decoded size _

theorem keeps_readScheme (marker : UInt8) (size : Nat) :
    (readScheme marker size).Keeps (Held octets index) := by
  rw [readScheme_eq]
  exact keeps_decoded size _

theorem spans_readAlpha (size : Nat) : Spans size (readAlpha size) :=
  spans_decoded size fun octets => String.ofList (decodeAlpha octets)

theorem spans_readNetworkName (size : Nat) : Spans size (readNetworkName size) :=
  spans_decoded size fun octets => (decodeNetworkName octets).map String.ofList

end Text

/-! ## Numbers -/

section Lifted

variable {α : Type} {x : Reader CursorError α}

/- Stated for any reader, so that none is unfolded where these are used. -/

theorem Cursor.Spans.liftM_field {size : Nat} (hx : Cursor.Spans size x) :
    Cursor.Spans size (liftM x : Reader FieldError α) := hx.mapError _

theorem Step.Keeps.liftM_field {p : Cursor → Prop} (hx : x.Keeps p) :
    (liftM x : Reader FieldError α).Keeps p := hx.mapError _

theorem Cursor.Spans.before_pure {passed : Reader CursorError Unit} {size : Nat}
    (hpassed : Cursor.Spans size passed) (a : α) :
    Cursor.Spans size (do passed; return a : Reader FieldError α) :=
  hpassed.liftM_field.bind fun _ => Cursor.spans_pure a

theorem Step.Keeps.before_pure {passed : Reader CursorError Unit} {p : Cursor → Prop}
    (hpassed : passed.Keeps p) (a : α) : (do passed; return a : Reader FieldError α).Keeps p :=
  hpassed.liftM_field.bind fun _ => Step.keeps_pure a

end Lifted

namespace Number

open Cursor

variable {octets : Octets} {index : Nat} {c : Cursor}

theorem spans_readDigits (size : Nat) : Spans size (readDigits size) :=
  spans_decoded size fun octets => String.ofList (decodeDigits octets)

/-- A dialling number is read in two parts, its type and its digits. -/
theorem spans_readDialling (size : Nat) : Spans size (readDialling size) := by
  cases size with
  | zero => exact spans_pure ""
  | succ size =>
    rw [readDialling, if_neg (Nat.succ_ne_zero size), Nat.add_comm size 1, Nat.add_sub_cancel_left]
    exact spans_readOctet.bind fun type =>
      spans_decoded size fun digits => String.ofList (decodeDialling (type :: digits))

theorem keeps_readDialling (size : Nat) : (readDialling size).Keeps (Held octets index) := by
  rw [readDialling]
  split
  · exact Step.keeps_pure _
  · exact keeps_readOctet.bind fun type => keeps_decoded _ _

/-- The lengths that a number field may announce: no number at all, or no more octets than the field
has. -/
def Acceptable (length : UInt8) : Prop := length = 0xFF ∨ length.toNat ≤ 11

instance (length : UInt8) : Decidable (Acceptable length) := inferInstanceAs (Decidable (_ ∨ _))

/-- What is read of a number field behind its length. -/
def readFieldBody (length : UInt8) : Reader FieldError (Option String) := do
  if length = 0xFF then
    Cursor.skip fieldSize
    return none
  else if fieldSize < length.toNat then
    Step.fail (.numberLength length)
  else
    let number ← readDialling length.toNat
    Cursor.skip (fieldSize - length.toNat)
    return some number

theorem readNumberField_eq :
    readNumberField = ((liftM Cursor.readOctet : Reader FieldError UInt8) >>= readFieldBody) := rfl

theorem readFieldBody_of_not_acceptable {length : UInt8} (h : ¬ Acceptable length) :
    readFieldBody length = Step.fail (.numberLength length) := by
  obtain ⟨hused, hlt⟩ := not_or.1 h
  have hlong : fieldSize < length.toNat := Nat.not_le.1 hlt
  rw [readFieldBody, if_neg hused, if_pos hlong]

/-- Behind an acceptable length, a number field has eleven octets, used or not. -/
theorem spans_readFieldBody {length : UInt8} (h : Acceptable length) :
    Spans 11 (readFieldBody length) := by
  have hskip : ∀ {count : Nat}, count ≤ fieldSize → Spans count (skip count) :=
    fun hcount => spans_skip (Nat.lt_of_le_of_lt hcount (by decide))
  rw [readFieldBody]
  split
  · exact (hskip (Nat.le_refl fieldSize)).before_pure none
  · rename_i hused
    have hle : length.toNat ≤ fieldSize := h.resolve_left hused
    have hsum : 11 = length.toNat + (fieldSize - length.toNat) := (Nat.add_sub_cancel' hle).symm
    rw [if_neg (Nat.not_lt.2 hle), hsum]
    exact (spans_readDialling length.toNat).liftM_field.bind fun number =>
      (hskip (Nat.sub_le fieldSize length.toNat)).before_pure (some number)

theorem keeps_readFieldBody (length : UInt8) :
    (readFieldBody length).Keeps (Held octets index) := by
  rw [readFieldBody]
  split
  · exact (keeps_skip fieldSize).before_pure none
  · split
    · exact Step.keeps_fail _
    · exact (keeps_readDialling length.toNat).liftM_field.bind fun number =>
        (keeps_skip (fieldSize - length.toNat)).before_pure (some number)

/-- **A number field has twelve octets**, if it is read at all. -/
theorem moves_readNumberField : Moves 12 readNumberField := by
  rw [readNumberField_eq]
  refine spans_readOctet.liftM_field.moves.bind (n := 11) fun length => ?_
  by_cases h : Acceptable length
  · exact (spans_readFieldBody h).moves
  · rw [readFieldBody_of_not_acceptable h]
    exact moves_fail _

/-- **A number field is read** exactly when it is there and announces an acceptable length. -/
theorem succeeds_readNumberField_iff (hc : c.readIndex ≤ c.octets.length) :
    readNumberField.Succeeds c ↔
      12 ≤ c.remaining ∧ ∃ length, c.octets[c.readIndex]? = some length ∧ Acceptable length := by
  constructor
  · rintro ⟨number, c', h⟩
    obtain ⟨octets, hlength, htakes⟩ := moves_readNumberField c number c' hc h
    have hleft := htakes.remaining_eq
    rw [readNumberField_eq, Step.yields_bind] at h
    obtain ⟨length, c₁, hfirst, hbody⟩ := h
    have htakes₁ := yields_readOctet.1 (yields_liftM_field.1 hfirst)
    refine ⟨by omega, length, (takes_singleton.1 htakes₁).1, ?_⟩
    refine Classical.not_not.1 fun hnot => ?_
    rw [readFieldBody_of_not_acceptable hnot] at hbody
    exact Step.not_yields_fail hbody
  · rintro ⟨hremaining, length, hget, hacceptable⟩
    have htakes := takes_singleton.2 ⟨hget, rfl⟩
    have hleft := htakes.remaining_eq
    rw [List.length_singleton] at hleft
    obtain ⟨number, c', hbody⟩ :=
      (spans_readFieldBody hacceptable).succeeds _ (htakes.within hc) (by omega)
    rw [readNumberField_eq]
    exact ⟨number, c', Step.yields_bind.2
      ⟨length, _, yields_liftM_field.2 (yields_readOctet.2 htakes), hbody⟩⟩

theorem keeps_readNumberField : readNumberField.Keeps (Held octets index) := by
  rw [readNumberField_eq]
  exact keeps_readOctet.liftM_field.bind keeps_readFieldBody

end Number

/-! ## Directory entries -/

namespace DirectoryEntry

open Cursor

variable {octets : Octets} {index size : Nat} {c : Cursor}

theorem spans_references : Spans 2 (liftM (skip 2) : Reader FieldError Unit) :=
  (spans_skip (show 2 < 0x8000000000000000 by decide)).liftM_field

theorem moves_read (size : Nat) : Moves (max size 14) (read size) := by
  have hsum : max size 14 = (size - footerSize) + (12 + (2 + 0)) := by
    rw [footerSize]
    omega
  rw [read, hsum]
  exact (Text.spans_readAlpha _).liftM_field.moves.bind fun _ =>
    Number.moves_readNumberField.bind fun _ =>
      spans_references.moves.bind fun _ => moves_pure _

theorem keeps_read (size : Nat) : (read size).Keeps (Held octets index) := by
  rw [read]
  exact (keeps_decoded _ _).liftM_field.bind fun _ =>
    Number.keeps_readNumberField.bind fun _ =>
      (keeps_skip 2).liftM_field.bind fun _ => Step.keeps_pure _

/-- **A record is read** exactly when it is there and its number announces an acceptable length. -/
theorem succeeds_read_iff (hc : c.readIndex ≤ c.octets.length) :
    (read size).Succeeds c ↔ max size 14 ≤ c.remaining ∧
      ∃ length, c.octets[c.readIndex + (size - 14)]? = some length ∧
        Number.Acceptable length := by
  constructor
  · rintro ⟨entry, c', h⟩
    obtain ⟨octets, hlength, htakes⟩ := moves_read size c entry c' hc h
    have hleft := htakes.remaining_eq
    rw [read, Step.yields_bind] at h
    obtain ⟨name, c₁, hname, h⟩ := h
    obtain ⟨number, c₂, hnumber, -⟩ := Step.yields_bind.1 h
    obtain ⟨front, hfront, htakes₁⟩ := (Text.spans_readAlpha _).liftM_field.moves c name c₁ hc hname
    obtain ⟨-, hacceptable⟩ := (Number.succeeds_readNumberField_iff (htakes₁.within hc)).1
      ⟨number, c₂, hnumber⟩
    rw [htakes₁.octets_eq, htakes₁.readIndex_eq, hfront] at hacceptable
    exact ⟨by omega, hacceptable⟩
  · rintro ⟨hremaining, hacceptable⟩
    have hname_le : size - footerSize ≤ c.remaining := by
      rw [footerSize]
      omega
    obtain ⟨name, c₁, hname⟩ := (Text.spans_readAlpha _).liftM_field.succeeds c hc hname_le
    obtain ⟨front, hfront, htakes₁⟩ := (Text.spans_readAlpha _).liftM_field.moves c name c₁ hc hname
    have hleft₁ := htakes₁.remaining_eq
    rw [hfront, footerSize] at hleft₁
    have hc₁ := htakes₁.within hc
    obtain ⟨number, c₂, hnumber⟩ := (Number.succeeds_readNumberField_iff hc₁).2 ⟨by omega, by
      rw [htakes₁.octets_eq, htakes₁.readIndex_eq, hfront]
      exact hacceptable⟩
    obtain ⟨middle, hmiddle, htakes₂⟩ := Number.moves_readNumberField c₁ number c₂ hc₁ hnumber
    have hleft₂ := htakes₂.remaining_eq
    obtain ⟨⟨⟩, c₃, hreferences⟩ := spans_references.succeeds c₂ (htakes₂.within hc₁) (by omega)
    rw [read]
    refine ⟨_, c₃, Step.yields_bind.2 ⟨name, c₁, hname, Step.yields_bind.2 ⟨number, c₂, hnumber,
      Step.yields_bind.2 ⟨(), c₃, hreferences, Step.yields_pure.2 ⟨rfl, rfl⟩⟩⟩⟩⟩

end DirectoryEntry

/-! ## The budgets of the fields -/

/-- **Fields keep to their budgets.**  A text or a number is read exactly when its octets are there,
and takes all of them, whatever they are; a number field takes twelve and a directory entry the size
of its record, at least that of its last fields, provided that the number announces a length it can
have.  No reader touches the octets or the place to write. -/
theorem Cursor.fields_spend_their_budget (c : Cursor) (n : Nat) (marker : UInt8) (size : Nat)
    (hc : c.readIndex ≤ c.octets.length) :
    c.SpendsExactly n (Text.readEightBit n) ∧
    c.SpendsExactly n (Text.readWide n) ∧
    c.SpendsExactly n (Text.readScheme marker n) ∧
    c.SpendsExactly n (Text.readAlpha n) ∧
    c.SpendsExactly n (Text.readNetworkName n) ∧
    c.SpendsExactly n (Number.readDigits n) ∧
    c.SpendsExactly n (Number.readDialling n) ∧
    c.Spends 12 Number.readNumberField ∧
    (Number.readNumberField.Succeeds c ↔ 12 ≤ c.remaining ∧
      ∃ length, c.octets[c.readIndex]? = some length ∧ Number.Acceptable length) ∧
    c.Spends (max size 14) (DirectoryEntry.read size) ∧
    ((DirectoryEntry.read size).Succeeds c ↔ max size 14 ≤ c.remaining ∧
      ∃ length, c.octets[c.readIndex + (size - 14)]? = some length ∧
        Number.Acceptable length) := by
  refine ⟨?_, ?_, ?_, ?_, ?_, ?_, ?_, ?_, ?_, ?_, ?_⟩
  · exact (Text.spans_readEightBit n).spendsExactly (keeps_decoded n _) hc
  · exact (Text.spans_readWide n).spendsExactly (keeps_decoded n _) hc
  · exact (Text.spans_readScheme marker n).spendsExactly (Text.keeps_readScheme marker n) hc
  · exact (Text.spans_readAlpha n).spendsExactly (keeps_decoded n _) hc
  · exact (Text.spans_readNetworkName n).spendsExactly (keeps_decoded n _) hc
  · exact (Number.spans_readDigits n).spendsExactly (keeps_decoded n _) hc
  · exact (Number.spans_readDialling n).spendsExactly (Number.keeps_readDialling n) hc
  · exact Number.moves_readNumberField.spends Number.keeps_readNumberField hc
  · exact Number.succeeds_readNumberField_iff hc
  · exact (DirectoryEntry.moves_read size).spends (DirectoryEntry.keeps_read size) hc
  · exact DirectoryEntry.succeeds_read_iff hc

/-- Fifteen octets of filler: a text takes fifteen of them and not sixteen, and the record of a
directory that has seven octets takes fourteen, none of them of a name. -/
theorem Cursor.fields_spend_their_budget_filler :
    let c := Cursor.ofOctets (List.replicate 15 0xFF)
    c.readIndex ≤ c.octets.length ∧
    (Text.readScheme 0x81 15).Succeeds c ∧
    ¬ (Text.readScheme 0x81 16).Succeeds c ∧
    (DirectoryEntry.read 7).Succeeds c ∧
    ∀ entry c', (DirectoryEntry.read 7).Yields c entry c' → c'.readIndex = 14 := by
  intro c
  have hc : c.readIndex ≤ c.octets.length := by decide
  have hremaining : c.remaining = 15 := by decide
  obtain ⟨-, -, hfits, -⟩ := fields_spend_their_budget c 15 0x81 7 hc
  obtain ⟨-, -, hexceeds, -⟩ := fields_spend_their_budget c 16 0x81 7 hc
  obtain ⟨-, -, -, -, -, -, -, -, -, hentry, hread⟩ := fields_spend_their_budget c 15 0x81 7 hc
  refine ⟨hc, ?_, ?_, ?_, ?_⟩
  · exact hfits.succeeds_iff.2 (by rw [hremaining])
  · intro h
    have := hexceeds.succeeds_iff.1 h
    omega
  · exact hread.2 ⟨by rw [hremaining]; decide, 0xFF, by decide, .inl rfl⟩
  · intro entry c' h
    exact hentry.readIndex_eq entry c' h

end SimCard
