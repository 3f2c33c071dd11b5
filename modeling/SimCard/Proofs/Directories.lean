import SimCard.Proofs.DirectoryEntries
import SimCard.Proofs.ServedFiles

/-!
# Contacts that are stored are read back

A contact goes through every layer on its way to the card and back: its record is located, its name
and number are laid out in the octets of the record, the octets travel in one command, and come back
in a walk through all records.  `CardSession.stored_contact_is_read_back` says what is left of it in
the end, and that nothing else has changed.

The layers meet in `Channel.Serves.storeContact_eq`, which says what the card holds after a contact
has been stored, and `CardSession.readContacts_eq_listing`, which says what is read from a card by
what it holds.
-/

set_option autoImplicit false

namespace SimCard

/-! ## Gathering entries -/

namespace Records

variable {β : Type} {parse : RecordShape → UInt8 → Octets → Except CardError (Option β)}

/-- Records that can all be made out are gathered, those that are not used left out. -/
theorem accepts_gather {shape : RecordShape} {records : List Octets} {number : Nat}
    (found : List β) {entry : Nat → Option β}
    (h : ∀ k octets, records[k]? = some octets →
      parse shape (UInt8.ofNat (number + k)) octets = .ok (entry (number + k))) :
    Accepts (gather false parse) shape number found records
      (found ++ (List.range' number records.length).filterMap entry) := by
  induction records generalizing number found with
  | nil =>
    rw [List.length_nil, List.range'_zero, List.filterMap_nil, List.append_nil]
    exact .nil number found
  | cons octets records ih =>
    have hfirst := h 0 octets rfl
    have hrest : ∀ k octets', records[k]? = some octets' →
        parse shape (UInt8.ofNat (number + 1 + k)) octets' = .ok (entry (number + 1 + k)) := by
      intro k octets' hk
      rw [Nat.add_right_comm]
      exact h (k + 1) octets' hk
    have hvisit : gather false parse found shape (UInt8.ofNat number) octets =
        .ok (found ++ (entry number).toList, true) :=
      gather_eq_ok_iff.2 ⟨entry number, hfirst, rfl, Bool.or_true _⟩
    have hlist : (List.range' number (records.length + 1)).filterMap entry =
        (entry number).toList ++ (List.range' (number + 1) records.length).filterMap entry := by
      rw [List.range'_succ, List.filterMap_cons]
      cases entry number <;> rfl
    rw [List.length_cons, hlist, ← List.append_assoc]
    exact .cons hvisit (ih (found ++ (entry number).toList) hrest)

end Records

/-! ## Storing and reading -/

/-- The octets that a contact is stored as. -/
def contactOctets {application : Application} (directory : DirectoryFile application)
    (contact : Contact) : Octets :=
  DirectoryEntry.recordOctets directory.shape.size (some contact.name) (some contact.number)

theorem length_contactOctets {application : Application} (directory : DirectoryFile application)
    (contact : Contact) : (contactOctets directory contact).length = directory.shape.size :=
  DirectoryEntry.length_recordOctets directory.footer_le _ _

theorem CardFile.storeContact_of_updateRecord {σ : Type} (access : FileAccess σ) {file : UInt16}
    {contact : Contact} {pin2 : Option String} {record : UInt8} {size : Nat} {card : σ}
    {s : Loading σ} (hrecord : contact.record = some record)
    (hupdate : access.updateRecord
      (fun size => DirectoryEntry.recordOctets size (some contact.name) (some contact.number))
      { request := { file, record, pin2 }, buffer := .empty, card } = (.ok size, s)) :
    CardFile.storeContact access file contact pin2 card = (.ok (), s.card) := by
  have hlift : (liftM (access.updateRecord fun size =>
      DirectoryEntry.recordOctets size (some contact.name) (some contact.number)) :
      Step (Loading σ) CardError Nat)
      { request := { file, record, pin2 }, buffer := .empty, card } = (.ok size, s) := by
    change (access.updateRecord _).mapError CardError.file _ = _
    rw [Step.mapError, hupdate]
  simp only [CardFile.storeContact, hrecord, Loading.run, Step.bind_apply, hlift]
  rfl

namespace Channel

/-- The card after a contact has been stored. -/
def stored {σ : Type} (channel : Channel σ) {application : Application}
    (directory : DirectoryFile application) (k : Nat) (contact : Contact) (pin2 : Option String)
    (card : σ) : σ :=
  (channel (Records.updateCommand directory.file directory.path (k + 1)
    (contactOctets directory contact) pin2)
    (channel (.describe directory.file directory.path) card).2).2

/-- What is asked when a contact is stored, and what becomes of it. -/
def storing {σ : Type} (channel : Channel σ) {application : Application}
    (directory : DirectoryFile application) (k : Nat) (contact : Contact) (pin2 : Option String)
    (card : σ) : List Exchange :=
  let describe := FileCommand.describe directory.file directory.path
  let update := Records.updateCommand directory.file directory.path (k + 1)
    (contactOctets directory contact) pin2
  [⟨describe, (channel describe card).1⟩,
    ⟨update, (channel update (channel describe card).2).1⟩]

theorem stored_recorded {σ : Type} (channel : Channel σ) {application : Application}
    (directory : DirectoryFile application) (k : Nat) (contact : Contact) (pin2 : Option String)
    (card : σ) (log : List Exchange) :
    channel.recorded.stored directory k contact pin2 (card, log) =
      (channel.stored directory k contact pin2 card,
        log ++ channel.storing directory k contact pin2 card) :=
  Prod.ext rfl (List.append_assoc _ _ _)

namespace Serves

variable {σ : Type} {channel : Channel σ} {application : Application}
  {directory : DirectoryFile application} {Holds : σ → List Octets → Prop} {card : σ}
  {records : List Octets}

/-- **A contact is stored** in two commands: one that describes the file, and one that replaces the
record, by octets that have its size. -/
theorem storeContact_eq (h : channel.Serves directory Holds) (hholds : Holds card records)
    (contact : Contact) (pin2 : Option String) {k : Nat} (hk : k < records.length)
    (hrecord : contact.record = some (UInt8.ofNat (k + 1))) :
    CardFile.storeContact (channel.access application) directory.file contact pin2 card =
        (.ok (), stored channel directory k contact pin2 card) ∧
      Holds (stored channel directory k contact pin2 card)
        (records.set k (contactOctets directory contact)) := by
  have hlength := length_contactOctets directory contact
  obtain ⟨hlocate, hholds₁⟩ := h.locate_eq hholds pin2 .empty hk
  obtain ⟨reply, card', hanswer, hholds'⟩ :=
    h.replaces hholds₁ k hk (contactOctets directory contact) pin2 hlength
  have htransmit : transmit channel { FileCommand.updateRecord directory.file directory.path
      (UInt8.ofNat (k + 1)) (resize directory.shape.size (contactOctets directory contact))
      with pin2 } (channel (.describe directory.file directory.path) card).2 =
      (.ok reply, card') := by
    rw [resize_eq_self hlength]
    exact transmit_of_success hanswer
  have hupdate := Channel.updateRecord_of_transmit
    (fun size => DirectoryEntry.recordOctets size (some contact.name) (some contact.number))
    hlocate htransmit
  have hstore := CardFile.storeContact_of_updateRecord (channel.access application) hrecord hupdate
  rw [stored, hanswer]
  exact ⟨hstore, hholds'⟩

/-- **The entries of a file that is served are read**, in the order of their records. -/
theorem contacts_eq (h : channel.Serves directory Holds) (hholds : Holds card records)
    (entry : Nat → Option Contact)
    (hentry : ∀ k octets, records[k]? = some octets →
      Contact.ofRecord directory.shape (UInt8.ofNat (k + 1)) octets = .ok (entry (k + 1))) :
    ∃ card', CardFile.contacts (channel.access application) directory.file card =
        (.ok ((List.range' 1 directory.shape.count).filterMap entry), card') ∧
      Holds card' records := by
  have haccepts : Records.Accepts (Records.gather false Contact.ofRecord) directory.shape 1 []
      records ([] ++ (List.range' 1 records.length).filterMap entry) := by
    refine Records.accepts_gather [] fun k octets hk => ?_
    rw [Nat.add_comm]
    exact hentry k octets hk
  rw [List.nil_append, h.length_eq hholds] at haccepts
  rw [CardFile.contacts_eq_walk]
  exact h.walk_eq hholds haccepts

end Serves

end Channel

/-! ## Contacts -/

/-- The entry that a record holds of a name and a number, unless both are empty. -/
def Contact.ofFields? (record : UInt8) (name number : List Char) : Option Contact :=
  (DirectoryEntry.ofFields? name number).map (ofEntry record)

/-- **A contact is read from the octets that it is stored as**, as far as they keep it. -/
theorem Contact.ofRecord_contactOctets {application : Application}
    (directory : DirectoryFile application) (contact : Contact) (record : UInt8) :
    Contact.ofRecord directory.shape record (contactOctets directory contact) =
      .ok (Contact.ofFields? record
        (DirectoryEntry.keptName directory.shape.size contact.name.toList)
        (Number.kept contact.number.toList)) := by
  have htakes := Cursor.takes_of_rest_eq
    (c := Cursor.ofOctets (contactOctets directory contact)) (List.append_nil _).symm
  have hread := DirectoryEntry.yields_read directory.shape.size (some contact.name)
    (some contact.number) (Nat.zero_le _) htakes
  have hlift : readFrom (contactOctets directory contact)
      (liftM (DirectoryEntry.read directory.shape.size)) =
      .ok (DirectoryEntry.ofFields?
        (DirectoryEntry.keptName directory.shape.size contact.name.toList)
        (Number.kept contact.number.toList)) :=
    congrArg Prod.fst (Step.yields_mapError.2 hread)
  rw [Contact.ofRecord, hlift]
  rfl

namespace CardSession

/-- The entries of a directory in the order of their records: one entry for the record `i`, and the
others as they are. -/
def listing (count : Nat) (others : Nat → Option Contact) (i : Nat) (entry : Option Contact) :
    List Contact :=
  (List.range' 1 count).filterMap fun k => if k = i then entry else others k

/-- The entries of a file that is served are listed as its records hold them. -/
theorem readContacts_eq_listing {σ : Type} {channel : Channel σ} {application : Application}
    {directory : DirectoryFile application} {Holds : σ → List Octets → Prop}
    (hserves : channel.Serves directory Holds) {card : σ} {records : List Octets}
    (hholds : Holds card records) {k : Nat} {others : Nat → Option Contact}
    (hothers : ∀ j octets, records[j]? = some octets → j ≠ k →
      Contact.ofRecord directory.shape (UInt8.ofNat (j + 1)) octets = .ok (others (j + 1)))
    {entry : Option Contact}
    (hentry : ∀ octets, records[k]? = some octets →
      Contact.ofRecord directory.shape (UInt8.ofNat (k + 1)) octets = .ok entry)
    (session : CardSession) :
    (readContacts (channel.access application) directory.file (session, card)).1 =
      .ok (listing directory.shape.count others (k + 1) entry) := by
  have hentries : ∀ j octets, records[j]? = some octets →
      Contact.ofRecord directory.shape (UInt8.ofNat (j + 1)) octets =
        .ok (if j + 1 = k + 1 then entry else others (j + 1)) := by
    intro j octets hj
    by_cases hjk : j = k
    · subst hjk
      rw [if_pos rfl]
      exact hentry octets hj
    · rw [if_neg (by omega)]
      exact hothers j octets hj hjk
  obtain ⟨card', hcontacts, -⟩ :=
    hserves.contacts_eq hholds (fun j => if j = k + 1 then entry else others j) hentries
  rw [readContacts_eq, learn_fst, hcontacts, listing]

/-- **A contact that has been stored is read back.**  On any card that keeps a directory file,
storing a contact in one of its records succeeds, in two commands, the second of which carries just
as many octets as the record has.  The entries that are read then are those that were read before,
with one in the place of the record: the longest part of the name that fits, and the number as far
as its field keeps it.  If nothing is left of either, the record has no entry. -/
theorem stored_contact_is_read_back {σ : Type} (channel : Channel σ) {application : Application}
    (directory : DirectoryFile application) {Holds : σ → List Octets → Prop}
    (hserves : channel.Serves directory Holds) {card : σ} {records : List Octets}
    (hholds : Holds card records) (contact : Contact) {i : UInt8}
    (hrecord : contact.record = some i) (hpos : 1 ≤ i.toNat)
    (hle : i.toNat ≤ directory.shape.count) (hescape : '\uffff' ∉ contact.name.toList)
    (hcontrol : '\ufffe' ∉ contact.name.toList) (others : Nat → Option Contact)
    (hothers : ∀ k octets, records[k]? = some octets → k + 1 ≠ i.toNat →
      Contact.ofRecord directory.shape (UInt8.ofNat (k + 1)) octets = .ok (others (k + 1)))
    (pin2 : Option String) (session : CardSession) (log : List Exchange) :
    ∃ name octets exchanges card',
      Text.LongestPrefix (Text.HasRoom (directory.shape.size - 14) contact.name.toList)
        contact.name.toList name ∧
      octets.length = directory.shape.size ∧
      exchanges.map (·.command) = [.describe directory.file directory.path,
        Records.updateCommand directory.file directory.path i.toNat octets pin2] ∧
      storeContact (channel.recorded.access application) directory.file contact pin2
        (session, card, log) = (.ok (), session, card', log ++ exchanges) ∧
      (readContacts (channel.recorded.access application) directory.file
          (session, card', log ++ exchanges)).1 =
        .ok (listing directory.shape.count others i.toNat
          (Contact.ofFields? i name (Number.kept contact.number.toList))) ∧
      ∀ old, (∀ octets, records[i.toNat - 1]? = some octets →
          Contact.ofRecord directory.shape i octets = .ok old) →
        (readContacts (channel.recorded.access application) directory.file
            (session, card, log)).1 =
          .ok (listing directory.shape.count others i.toNat old) := by
  obtain ⟨k, hk⟩ : ∃ k, i.toNat = k + 1 := ⟨i.toNat - 1, by omega⟩
  obtain rfl : i = UInt8.ofNat (k + 1) := by rw [← hk, UInt8.ofNat_toNat]
  have hlt : k < records.length := by
    rw [hserves.length_eq hholds]
    omega
  rw [hk] at hothers ⊢
  have hothers' : ∀ j octets, records[j]? = some octets → j ≠ k →
      Contact.ofRecord directory.shape (UInt8.ofNat (j + 1)) octets = .ok (others (j + 1)) :=
    fun j octets hj hjk => hothers j octets hj (by omega)
  have hrecorded := hserves.recorded
  have hholds₀ : (fun (card : σ × List Exchange) records => Holds card.1 records) (card, log)
      records := hholds
  obtain ⟨hstore, hholds'⟩ := hrecorded.storeContact_eq hholds₀ contact pin2 hlt hrecord
  rw [Channel.stored_recorded] at hstore hholds'
  refine ⟨DirectoryEntry.keptName directory.shape.size contact.name.toList,
    contactOctets directory contact, channel.storing directory k contact pin2 card,
    channel.stored directory k contact pin2 card, Text.longestPrefix_hasRoom hescape hcontrol _,
    length_contactOctets directory contact, rfl, ?_, ?_, ?_⟩
  · simp only [storeContact_eq, learn, hstore]
  · refine readContacts_eq_listing hrecorded hholds' ?_ ?_ session
    · intro j octets hj hjk
      rw [List.getElem?_set_ne (Ne.symm hjk)] at hj
      exact hothers' j octets hj hjk
    · intro octets hoctets
      rw [List.getElem?_set_self hlt] at hoctets
      obtain rfl := Option.some.inj hoctets
      exact Contact.ofRecord_contactOctets directory contact _
  · intro old hold
    exact readContacts_eq_listing hrecorded hholds₀ hothers' hold session

/-- A directory of three records on a SIM, with room for four octets of a name. -/
def smallDirectory : DirectoryFile .sim where
  file := FileId.directory
  path := "3F007F10"
  shape := { size := 18, count := 3 }
  path_eq := by decide
  footer_le := by decide
  size_le := by decide
  count_pos := by decide
  count_le := by decide
  total_le := by decide

/-- An entry, octets that are none, and an unused record. -/
def smallRecords : List Octets :=
  [DirectoryEntry.recordOctets 18 (some "A") (some "1"), List.replicate 18 0x0C,
    List.replicate 18 0xFF]

/-- A card that holds them. -/
def smallCard : SimulatedCard :=
  { files := [SimulatedCard.plainFile FileId.directory smallRecords] }

/-- A record that could not be read is replaced by what fits of a contact, and then all entries are
read. -/
theorem stored_contact_is_read_back_in_small_directory :
    ∃ card' log, storeContact (SimulatedCard.channel.recorded.access .sim) FileId.directory
        { record := some 2, name := "ab€d", number := "+12-34" } none
        ({ application := .sim }, smallCard, []) = (.ok (), { application := .sim }, card', log) ∧
      (readContacts (SimulatedCard.channel.recorded.access .sim) FileId.directory
          ({ application := .sim }, card', log)).1 =
        .ok [{ record := some 1, name := "A", number := "1" },
          { record := some 2, name := "ab€", number := "+1234" }] := by
  have hkeeps : SimulatedCard.Keeps smallDirectory smallCard smallRecords :=
    ⟨rfl, rfl, by decide +kernel⟩
  obtain ⟨name, octets, exchanges, card', hname, -, -, hstore, hread, -⟩ :=
    stored_contact_is_read_back SimulatedCard.channel smallDirectory
      (SimulatedCard.serves smallDirectory) hkeeps
      { record := some 2, name := "ab€d", number := "+12-34" } rfl (by decide) (by decide)
      (by decide) (by decide)
      (fun k => if k = 1 then some { record := some 1, name := "A", number := "1" } else none)
      (by
        intro k octets hk hne
        match k with
        | 0 =>
          obtain rfl := Option.some.inj hk
          decide +kernel
        | 1 => exact absurd rfl hne
        | 2 =>
          obtain rfl := Option.some.inj hk
          decide +kernel
        | _ + 3 => exact absurd hk (by simp [smallRecords]))
      none { application := .sim } []
  have hcut : name = ['a', 'b', '€'] := by
    rw [hname.unique (Text.longestPrefix_hasRoom (by decide) (by decide) _)]
    decide +kernel
  refine ⟨card', exchanges, hstore, hread.trans ?_⟩
  rw [hcut]
  decide +kernel

end CardSession

end SimCard
