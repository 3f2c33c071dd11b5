import SimCard.Proofs.Alphabets
import SimCard.Proofs.Reading
import SimCard.Proofs.Septets

/-!
# Texts in packed septets

A text goes through two codes on its way into packed septets: characters become units of one or two
septets, and these are packed without regard to where a character begins.  Either code alone has
been dealt with: `SimCard.Proofs.Alphabets` has the units and `SimCard.Proofs.Septets` has the bits.
Here they meet on a cursor.

Not every character has units, and one that has none is dropped.  What comes back from a text is
therefore `text.filter (InTables lang shift ·)`, and the texts that come back whole are those that
have been through a cursor before (`inTables_of_readPackedText`).
-/

set_option autoImplicit false

namespace SimCard

namespace Text

variable {lang shift : Language} {padding : Nat}

theorem length_packText (lang shift : Language) (hpadding : padding ≤ 7) (text : String) :
    (packText lang shift padding text).length =
      packedLength (septetLength lang shift text.toList) padding :=
  length_packSeptets hpadding fun _ => lt_of_mem_encodeUnits

/-- **A packed text is read back** without the characters that are not in the tables.  As many
septets must be asked for as the text has. -/
theorem yields_readPackedText (lang shift : Language) (hpadding : padding ≤ 7) {c c' : Cursor}
    (hc : c.readIndex ≤ c.octets.length) {text : String}
    (h : c.Takes (packText lang shift padding text) c') :
    (readPackedText lang shift (septetLength lang shift text.toList) padding).Yields c
      (String.ofList (text.toList.filter (InTables lang shift ·))) c' := by
  have hunpack : unpackSeptets (septetLength lang shift text.toList) padding
      (packText lang shift padding text) = encodeUnits lang shift text.toList :=
    unpackSeptets_packSeptets hpadding fun _ => lt_of_mem_encodeUnits
  have hread := Cursor.yields_decoded (fun octets => String.ofList (decodeUnits lang shift
      (unpackSeptets (septetLength lang shift text.toList) padding octets))) hc
    (length_packText lang shift hpadding text) h
  rwa [hunpack, decodeUnits_encodeUnits_eq_filter] at hread

/-- **A text that was read is a text of the tables**, whatever the octets were and however many
septets and padding bits were asked for. -/
theorem inTables_of_readPackedText {count : Nat} {c c' : Cursor} {text : String}
    (h : (readPackedText lang shift count padding).Yields c text c') :
    ∀ char ∈ text.toList, InTables lang shift char := by
  rw [readPackedText, Step.yields_bind] at h
  obtain ⟨octets, c₁, -, hpure⟩ := h
  obtain ⟨rfl, -⟩ := Step.yields_pure.1 hpure
  intro char hchar
  rw [String.toList_ofList] at hchar
  exact hasUnits_iff_inTables.1
    (hasUnits_of_mem_decodeUnits (fun _ => lt_of_mem_unpackSeptets) hchar)

/-- What comes of writing a text at the end of a cursor, in packed septets, and reading these. -/
def writeAndRead (lang shift : Language) (padding : Nat) (c : Cursor) (text : String) :
    Except CursorError String × Cursor :=
  readPackedText lang shift (septetLength lang shift text.toList) padding
    { c.write (packText lang shift padding text) with readIndex := c.octets.length }

/-- Writing and reading keeps the characters of the tables, and leaves the cursor behind them. -/
theorem writeAndRead_eq (lang shift : Language) (hpadding : padding ≤ 7) {c : Cursor}
    (hc : c.InOrder) (text : String) :
    writeAndRead lang shift padding c text =
      (.ok (String.ofList (text.toList.filter (InTables lang shift ·))),
        { c.write (packText lang shift padding text) with
          readIndex := (c.write (packText lang shift padding text)).octets.length }) := by
  refine yields_readPackedText lang shift hpadding (hc.readIndex_written_le _) ?_
  have hend : (c.write (packText lang shift padding text)).octets.length =
      c.octets.length + (packText lang shift padding text).length := by
    rw [Cursor.octets_write hc.writeIndex_eq, List.length_append]
  rw [hend]
  exact hc.takes_written rfl

/-- **Packed text goes there and back under every pair of tables.**  With up to seven padding bits,
writing a text adds just the octets that its septets need to a cursor, and reading them gives the
text without the characters that neither table has.  A text that was read once, from whatever
octets, is written and read without loss. -/
theorem packed_text_is_read_back (lang shift : Language) (hpadding : padding ≤ 7) {c : Cursor}
    (hc : c.InOrder) (text : String) :
    (c.write (packText lang shift padding text)).octets =
        c.octets ++ packText lang shift padding text ∧
      (packText lang shift padding text).length =
        packedLength (septetLength lang shift text.toList) padding ∧
      writeAndRead lang shift padding c text =
        (.ok (String.ofList (text.toList.filter (InTables lang shift ·))),
          { c.write (packText lang shift padding text) with
            readIndex := (c.write (packText lang shift padding text)).octets.length }) ∧
      ∀ (count gap : Nat) (d d' : Cursor) (produced : String),
        readPackedText lang shift count gap d = (.ok produced, d') →
          (writeAndRead lang shift padding c produced).1 = .ok produced := by
  refine ⟨Cursor.octets_write hc.writeIndex_eq _, length_packText lang shift hpadding text,
    writeAndRead_eq lang shift hpadding hc text, ?_⟩
  intro count gap d d' produced hproduced
  have htables : produced.toList.filter (InTables lang shift ·) = produced.toList :=
    List.filter_eq_self.2 fun char hchar =>
      decide_eq_true (inTables_of_readPackedText hproduced char hchar)
  rw [writeAndRead_eq lang shift hpadding hc, htables, String.ofList_toList]

/-- A character of the locking table, one that has no place, and one behind an escape that straddles
two octets. -/
theorem packed_text_is_read_back_mixed :
    5 ≤ 7 ∧ (Cursor.ofOctets [0xAA]).InOrder ∧
      (packText .turkish .spanish 5 "ğ漢áx").length = 5 ∧
      (writeAndRead .turkish .spanish 5 (.ofOctets [0xAA]) "ğ漢áx").1 = .ok "ğáx" := by
  have hpadding : 5 ≤ 7 := by decide
  have hc := Cursor.inOrder_ofOctets [0xAA]
  have hkept : "ğ漢áx".toList.filter (InTables .turkish .spanish ·) = "ğáx".toList := by
    decide +kernel
  obtain ⟨-, hlength, hread, -⟩ :=
    packed_text_is_read_back .turkish .spanish hpadding hc "ğ漢áx"
  refine ⟨hpadding, hc, ?_, ?_⟩
  · rw [hlength]
    decide +kernel
  · rw [hread, hkept, String.ofList_toList]

end Text

end SimCard
