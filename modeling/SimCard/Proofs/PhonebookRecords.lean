import SimCard.Proofs.Framing
import SimCard.Proofs.ServedFiles

/-!
# The phonebooks that a card refers to

A reference record of the phonebook nests three levels: containers follow each other in a record,
blocks in a container, and a block names a file.  Filler may end the record behind any container.

* `ReferenceRecord` is a record that is laid out as it should be, and `ReferenceRecord.toOctets` its
  octets.  It is read back as its containers (`Container.yields_readAll`).
* `Mention` is a block in its place.  What it says of a file depends on the container around it and,
  in a container of the second type, on its position among all blocks of the container, usable or
  not.
* `Phonebook.ofMentions` says which file of a record counts for which purpose: the last one that is
  mentioned, and for additional numbers all of them.  Putting one file after the other in its place
  comes to the same (`Phonebook.ofContainers_eq`).
* **The phonebooks of a card** are those of its records that are used, in their order, or reading
  them fails, which happens if and only if such a record does not mention the main file
  (`CardSession.phonebooks_are_those_listed`).
-/

set_option autoImplicit false

namespace SimCard

/-! ## Records as they are written -/

/-- The octets of a block. -/
def Block.toOctets (block : Block) : Octets :=
  block.tag :: UInt8.ofNat block.length :: block.value

/-- The octets of a container. -/
def Container.toOctets (container : Container) : Octets :=
  container.tag :: UInt8.ofNat container.length :: container.blocks.flatMap Block.toOctets

/-- **A container that can be written**: its tag is no filler, its blocks tell their lengths, and
their octets are as many as it says. -/
structure Container.Fits (container : Container) : Prop where
  tag_ne : container.tag ≠ 0xFF
  block_length : ∀ block ∈ container.blocks, block.length = block.value.length
  length_eq : (container.blocks.flatMap Block.toOctets).length = container.length
  length_lt : container.length < 256

/-- **A reference record**: containers, and filler behind them. -/
structure ReferenceRecord where
  containers : List Container
  filler : Nat
  fits : ∀ container ∈ containers, container.Fits

/-- The octets of a reference record. -/
def ReferenceRecord.toOctets (record : ReferenceRecord) : Octets :=
  record.containers.flatMap Container.toOctets ++ List.replicate record.filler 0xFF

namespace Container

variable {c c' c'' : Cursor} {container : Container} {containers : List Container}

theorem Fits.block_lt (h : container.Fits) {block : Block} (hblock : block ∈ container.blocks) :
    block.length < 256 := by
  obtain ⟨front, back, hblocks⟩ := List.append_of_mem hblock
  have hlength := h.length_eq
  have hlt := h.length_lt
  rw [hblocks, List.flatMap_append, List.flatMap_cons, List.length_append, List.length_append,
    Block.toOctets, List.length_cons, List.length_cons, ← h.block_length block hblock] at hlength
  omega

/-- The blocks of a container that can be written fill it. -/
theorem Fits.yields_readList (h : container.Fits)
    (htakes : c.Takes (container.blocks.flatMap Block.toOctets) c') :
    (Block.readList container.length).Yields c container.blocks c' := by
  have hframe : ∀ block ∈ container.blocks, Block.IsFrame (id block) block.toOctets :=
    fun block hblock => ⟨h.block_length block hblock, h.block_lt hblock, rfl⟩
  have hne : ∀ block octets, Block.IsFrame block octets → octets ≠ [] := by
    rintro block octets ⟨-, -, rfl⟩
    exact List.cons_ne_nil _ _
  have hfills := fills_flatMap id hframe hne
  rw [List.map_id, h.length_eq] at hfills
  exact Block.yields_readList.2 ⟨_, hfills, htakes⟩

/-- Nothing is read where the octets end, or filler begins. -/
theorem yields_readAll_nil (h : c.rest = [] ∨ c.rest.head? = some 0xFF) (fuel : Nat) :
    ∃ c', (readAll (fuel + 1)).Yields c [] c' := by
  rw [readAll]
  simp only [Step.yields_bind, Step.yields_get]
  by_cases hremaining : c.remaining = 0
  · refine ⟨c, c, c, ⟨rfl, rfl⟩, ?_⟩
    rw [if_pos hremaining, Step.yields_pure]
    exact ⟨rfl, rfl⟩
  · have hne : c.rest ≠ [] := by
      rwa [← List.length_pos_iff, Cursor.length_rest, Nat.pos_iff_ne_zero]
    obtain ⟨rest, hrest⟩ := List.head?_eq_some_iff.1 (h.resolve_left hne)
    have htag : c.Takes [0xFF] (c.advance 1) := Cursor.takes_of_rest_eq hrest
    refine ⟨c.advance 1, c, c, ⟨rfl, rfl⟩, ?_⟩
    rw [if_neg hremaining]
    simp only [Step.yields_bind, yields_liftM_card, Cursor.yields_readOctet]
    refine ⟨0xFF, _, htag, ?_⟩
    rw [if_pos rfl, Step.yields_pure]
    exact ⟨rfl, rfl⟩

/-- A container is read in front of the others. -/
theorem Fits.yields_readAll_cons (hfits : container.Fits) (h : c.Takes container.toOctets c')
    {fuel : Nat} (hrest : (readAll fuel).Yields c' containers c'') :
    (readAll (fuel + 1)).Yields c (container :: containers) c'' := by
  obtain ⟨c₁, htag, h⟩ := Cursor.takes_cons.1 h
  obtain ⟨c₂, hlength, hblocks⟩ := Cursor.takes_cons.1 h
  have hnat : (UInt8.ofNat container.length).toNat = container.length :=
    UInt8.toNat_ofNat_of_lt' hfits.length_lt
  have hremaining : ¬ c.remaining = 0 := by simp [htag.remaining_eq]
  rw [readAll]
  simp only [Step.yields_bind, Step.yields_get]
  refine ⟨c, c, ⟨rfl, rfl⟩, ?_⟩
  rw [if_neg hremaining]
  simp only [Step.yields_bind, yields_liftM_card, Cursor.yields_readOctet]
  refine ⟨container.tag, c₁, htag, ?_⟩
  rw [if_neg hfits.tag_ne]
  simp only [Step.yields_bind, yields_liftM_card, Cursor.yields_readOctet, Step.yields_pure]
  refine ⟨_, c₂, hlength, container.blocks, c', ?_, containers, c'', hrest, ?_, rfl⟩
  · rw [hnat]
    exact Step.yields_mapError.2 (hfits.yields_readList hblocks)
  · rw [hnat]

/-- **Containers are read back**, up to the end of the octets or to filler. -/
theorem yields_readAll (hfits : ∀ container ∈ containers, container.Fits)
    (h : c.Takes (containers.flatMap toOctets) c')
    (hend : c'.rest = [] ∨ c'.rest.head? = some 0xFF) {fuel : Nat}
    (hfuel : containers.length < fuel) : ∃ c'', (readAll fuel).Yields c containers c'' := by
  induction containers generalizing c fuel with
  | nil =>
    obtain ⟨fuel, rfl⟩ := Nat.exists_eq_add_of_lt hfuel
    obtain rfl := Cursor.takes_nil.1 h
    exact yields_readAll_nil hend _
  | cons container containers ih =>
    cases fuel with
    | zero => cases hfuel
    | succ fuel =>
      obtain ⟨hfirst, hothers⟩ := List.forall_mem_cons.1 hfits
      obtain ⟨c₁, hcontainer, hcontainers⟩ := Cursor.takes_append.1 (List.flatMap_cons ▸ h)
      obtain ⟨c'', hrest⟩ := ih hothers hcontainers (Nat.lt_of_succ_lt_succ hfuel)
      exact ⟨c'', hfirst.yields_readAll_cons hcontainer hrest⟩

theorem length_le_length_flatMap_toOctets (containers : List Container) :
    containers.length ≤ (containers.flatMap toOctets).length := by
  induction containers with
  | nil => exact Nat.le_refl _
  | cons container containers ih =>
    rw [List.flatMap_cons, List.length_append, toOctets, List.length_cons, List.length_cons,
      List.length_cons]
    omega

end Container

/-- **A reference record is read back as its containers.** -/
theorem ReferenceRecord.readAll_toOctets (record : ReferenceRecord) :
    readFrom record.toOctets (Container.readAll (record.toOctets.length + 1)) =
      .ok record.containers := by
  have htakes := Cursor.takes_of_rest_eq
    (show (Cursor.ofOctets record.toOctets).rest = _ ++ List.replicate record.filler 0xFF from rfl)
  have hrest := Cursor.rest_advance_of_rest_eq
    (show (Cursor.ofOctets record.toOctets).rest = _ ++ List.replicate record.filler 0xFF from rfl)
  have hfuel := Container.length_le_length_flatMap_toOctets record.containers
  rw [readFrom_eq_ok_iff]
  refine Container.yields_readAll record.fits htakes ?_ ?_
  · rw [hrest]
    cases record.filler with
    | zero => exact .inl rfl
    | succ filler => exact .inr rfl
  · rw [toOctets, List.length_append]
    omega

/-! ## What a record mentions -/

/-- **A block in its place**: the tag of the container around it, and its position there. -/
structure Mention where
  parent : UInt8
  position : Nat
  tag : UInt8
  value : Octets

namespace Mention

/-- What is mentioned in containers, in the order of the octets. -/
def all (containers : List Container) : List Mention :=
  containers.flatMap fun container => container.blocks.zipIdx.map fun (block, position) =>
    { parent := container.tag, position, tag := block.tag, value := block.value }

/-- The file that is mentioned, by the first octets of the value.  The position counts in a
container of the second type. -/
def file (mention : Mention) : PhonebookFile where
  fileType := mention.parent
  file := UInt16.ofNat (256 * (mention.value.getD 0 0).toNat + (mention.value.getD 1 0).toNat)
  shortId := mention.value[2]?
  index := if mention.parent = 0xA9 then some mention.position else none

/-- The files that are mentioned under a tag, by values of two octets or more. -/
def filesUnder (tag : UInt8) (mentions : List Mention) : List PhonebookFile :=
  (mentions.filter fun mention => mention.tag == tag && decide (2 ≤ mention.value.length)).map file

end Mention

namespace Phonebook

open Mention

/-- **The phonebook that a record lists**: for each purpose the file that is mentioned last, and all
files of additional numbers. -/
def ofMentions (mentions : List Mention) : Phonebook where
  entries := (filesUnder 0xC0 mentions).getLast?
  indices := (filesUnder 0xC1 mentions).getLast?
  extensions := (filesUnder 0xC2 mentions).getLast?
  secondNames := (filesUnder 0xC3 mentions).getLast?
  additionalNumbers := filesUnder 0xC4 mentions
  control := (filesUnder 0xC5 mentions).getLast?
  grouping := (filesUnder 0xC6 mentions).getLast?
  numberLabels := (filesUnder 0xC7 mentions).getLast?
  groupLabels := (filesUnder 0xC8 mentions).getLast?
  identifiers := (filesUnder 0xC9 mentions).getLast?
  emails := (filesUnder 0xCA mentions).getLast?
  callSettings := (filesUnder 0xCB mentions).getLast?

/-- A mention names its file if its value is long enough. -/
theorem ofBlock?_eq (mention : Mention) :
    PhonebookFile.ofBlock? mention.parent mention.position mention.value =
      if 2 ≤ mention.value.length then some mention.file else none := by
  obtain ⟨parent, position, tag, value⟩ := mention
  rcases value with _ | ⟨high, _ | ⟨low, rest⟩⟩
  · rfl
  · rfl
  · have hrest : rest.head? = (high :: low :: rest)[2]? := by simp [List.head?_eq_getElem?]
    rw [if_pos (by simp), PhonebookFile.ofBlock?, hrest]
    rfl

theorem filesUnder_append (tag : UInt8) (mentions : List Mention) {mention : Mention}
    (h : 2 ≤ mention.value.length) :
    filesUnder tag (mentions ++ [mention]) =
      filesUnder tag mentions ++ if mention.tag = tag then [mention.file] else [] := by
  rw [filesUnder, List.filter_append, List.map_append, filesUnder]
  by_cases htag : mention.tag = tag <;> simp [htag, h]

/-- One more file goes to its place. -/
theorem insert_ofMentions (mentions : List Mention) {mention : Mention}
    (h : 2 ≤ mention.value.length) :
    (ofMentions mentions).insert mention.tag mention.file = ofMentions (mentions ++ [mention]) := by
  rw [insert.eq_def]
  simp only [ofMentions, filesUnder_append _ _ h]
  split <;> simp_all

/-- What a mention puts in a phonebook: its file, under its tag. -/
def named? (mention : Mention) : Option (UInt8 × PhonebookFile) :=
  if 2 ≤ mention.value.length then some (mention.tag, mention.file) else none

theorem flatMap_filesOf (containers : List Container) :
    containers.flatMap filesOf = (Mention.all containers).filterMap named? := by
  rw [Mention.all, List.filterMap_flatMap]
  congr 1
  funext container
  rw [filesOf, List.filterMap_map]
  congr 1
  funext entry
  obtain ⟨block, position⟩ := entry
  have hblock := ofBlock?_eq
    { parent := container.tag, position, tag := block.tag, value := block.value }
  dsimp only [Function.comp_apply, named?] at hblock ⊢
  rw [hblock]
  split <;> rfl

/-- A mention that is too short for a file changes nothing. -/
theorem ofMentions_append_of_short (mentions : List Mention) {mention : Mention}
    (h : ¬ 2 ≤ mention.value.length) :
    ofMentions (mentions ++ [mention]) = ofMentions mentions := by
  have hunder : ∀ tag, filesUnder tag (mentions ++ [mention]) = filesUnder tag mentions := by
    intro tag
    rw [filesUnder, List.filter_append]
    simp [h, filesUnder]
  simp only [ofMentions, hunder]

/-- **Files that are put in their places one after the other**, behind what was mentioned before. -/
theorem foldl_insert (front back : List Mention) :
    (back.filterMap named?).foldl (fun book named => book.insert named.1 named.2)
      (ofMentions front) = ofMentions (front ++ back) := by
  induction back generalizing front with
  | nil =>
    rw [List.append_nil]
    rfl
  | cons mention back ih =>
    have hfront := ih (front ++ [mention])
    rw [List.append_assoc, List.singleton_append] at hfront
    by_cases hlength : 2 ≤ mention.value.length
    · have hnamed : named? mention = some (mention.tag, mention.file) := if_pos hlength
      rw [List.filterMap_cons_some hnamed, List.foldl_cons, insert_ofMentions front hlength]
      exact hfront
    · have hnamed : named? mention = none := if_neg hlength
      rw [List.filterMap_cons_none hnamed, ← hfront, ofMentions_append_of_short front hlength]

/-- **The phonebook of a record is the one that it lists.** -/
theorem ofContainers_eq (containers : List Container) :
    ofContainers containers = ofMentions (Mention.all containers) := by
  rw [ofContainers, flatMap_filesOf]
  exact foldl_insert [] (Mention.all containers)

end Phonebook

namespace ReferenceRecord

/-- Is there a container at all? -/
def isUsed (record : ReferenceRecord) : Bool := !record.containers.isEmpty

/-- Does the record mention the main file? -/
def hasEntries (record : ReferenceRecord) : Bool :=
  !(Mention.filesUnder 0xC0 (Mention.all record.containers)).isEmpty

/-- The phonebook that the record lists. -/
def phonebook (record : ReferenceRecord) : Phonebook :=
  .ofMentions (Mention.all record.containers)

theorem isSome_entries (record : ReferenceRecord) :
    record.phonebook.entries.isSome = record.hasEntries := by
  change (Mention.filesUnder 0xC0 (Mention.all record.containers)).getLast?.isSome = _
  rw [hasEntries]
  cases Mention.filesUnder 0xC0 (Mention.all record.containers) with
  | nil => rfl
  | cons file files => simp

/-- **What is made of a record**: nothing, its phonebook, or a complaint. -/
theorem ofRecord_toOctets (record : ReferenceRecord) :
    Phonebook.ofRecord record.toOctets =
      if record.isUsed then
        if record.hasEntries then .ok (some record.phonebook) else .error .noEntries
      else .ok none := by
  rw [Phonebook.ofRecord, record.readAll_toOctets, isUsed, ← record.isSome_entries, phonebook,
    ← Phonebook.ofContainers_eq]
  cases record.containers with
  | nil => rfl
  | cons container containers => rfl

/-- **A visit to reference records** gathers the phonebooks of those that are used, unless one of
them does not mention the main file. -/
theorem visitAll_gather (shape : RecordShape) (number : Nat) (found : List Phonebook)
    (records : List ReferenceRecord) :
    Records.visitAll (Records.gather false fun _ _ => Phonebook.ofRecord) shape number found
        (records.map toOctets) =
      if records.all fun record => !record.isUsed || record.hasEntries then
        .ok (found ++ (records.filter isUsed).map phonebook)
      else .error .noEntries := by
  induction records generalizing number found with
  | nil => simp [Records.visitAll]
  | cons record records ih =>
    rw [List.map_cons, Records.visitAll, Records.gather, record.ofRecord_toOctets]
    cases hused : record.isUsed with
    | false => simp [hused, ih]
    | true =>
      cases hentries : record.hasEntries with
      | false => simp [hused, hentries]
      | true => simp [hused, hentries, ih]

end ReferenceRecord

namespace CardSession

open ReferenceRecord

variable {σ : Type}

/-- **The phonebooks of a card are those that its records list.**  If the reference file has these
records, and every record that is used mentions the main file, then reading succeeds and keeps one
phonebook for each record that is used, in their order.  Otherwise reading fails. -/
theorem phonebooks_are_those_listed (access : FileAccess σ) (s : CardSession) {shape : RecordShape}
    {records : List ReferenceRecord} {Holds : σ → Prop} {card : σ}
    (hprovides : access.Provides FileId.phonebookReference shape (records.map toOctets) Holds)
    (hholds : Holds card) :
    ((∀ record ∈ records, record.isUsed → record.hasEntries) → ∃ card',
      let books := (records.filter isUsed).map phonebook
      readPhonebooks access (s, card) =
        (.ok books, { s with records := { s.records with phonebooks := books } }, card')) ∧
    ((readPhonebooks access (s, card)).1 = .error .noEntries ↔
      ∃ record ∈ records, record.isUsed ∧ ¬ record.hasEntries) := by
  obtain ⟨card', hwalk, -⟩ := hprovides.walk_eq hholds []
  rw [visitAll_gather, ← CardFile.phonebooks_eq_walk] at hwalk
  by_cases hall : records.all fun record => !record.isUsed || record.hasEntries
  · rw [if_pos hall] at hwalk
    have hnone : ¬ ∃ record ∈ records, record.isUsed ∧ ¬ record.hasEntries := by
      rintro ⟨record, hrecord, hused, hentries⟩
      simpa [hused, hentries] using List.all_eq_true.1 hall record hrecord
    rw [readPhonebooks_eq, learn, hwalk]
    exact ⟨fun _ => ⟨card', rfl⟩, fun h => (by cases h), fun h => absurd h hnone⟩
  · rw [if_neg hall] at hwalk
    have hsome : ∃ record ∈ records, record.isUsed ∧ ¬ record.hasEntries := by
      simpa using hall
    rw [readPhonebooks_eq, learn, hwalk]
    refine ⟨fun h => ?_, fun _ => hsome, fun _ => rfl⟩
    obtain ⟨record, hrecord, hused, hentries⟩ := hsome
    exact absurd (h record hrecord hused) hentries

/-- A reference file of two records. -/
def referenceFile : DirectoryFile .usim where
  file := FileId.phonebookReference
  path := Path.phonebook
  shape := { size := 32, count := 2 }
  path_eq := by decide
  footer_le := by decide
  size_le := by decide
  count_pos := by decide
  count_le := by decide
  total_le := by decide

/-- A block with its length. -/
def block (tag : UInt8) (value : Octets) : Block := { tag, length := value.length, value }

/-- A record that mentions the main file twice, two files of additional numbers, one that is too
short to name, and the addresses for mail behind it. -/
def fullRecord : ReferenceRecord where
  containers :=
    [{ tag := 0xA8, length := 14
       blocks := [block 0xC0 [0x4F, 0x3A, 0x01], block 0xC0 [0x4F, 0x3B],
         block 0xC4 [0x4F, 0x11, 0x02]] },
     { tag := 0xA9, length := 12
       blocks := [block 0xC3 [0x4F], block 0xCA [0x4F, 0x50, 0x04], block 0xC4 [0x4F, 0x12]] }]
  filler := 2
  fits := by
    rw [List.forall_mem_cons, List.forall_mem_singleton]
    exact ⟨⟨by decide, by decide, by decide, by decide⟩,
      ⟨by decide, by decide, by decide, by decide⟩⟩

/-- A record that is not used. -/
def emptyRecord : ReferenceRecord where
  containers := []
  filler := 32
  fits := by simp

/-- A card that holds the two. -/
def referenceCard : SimulatedCard :=
  { files := [SimulatedCard.plainFile FileId.phonebookReference
      ([fullRecord, emptyRecord].map toOctets)] }

/-- One phonebook is read, with the later of the two main files, and the addresses for mail at the
position behind the block that is passed over. -/
theorem phonebooks_are_those_listed_in_two_records :
    ∃ card', readPhonebooks (SimulatedCard.channel.access .usim)
        ({ application := .usim }, referenceCard) =
      (.ok [fullRecord.phonebook],
        { application := .usim, records := { phonebooks := [fullRecord.phonebook] } }, card') ∧
    fullRecord.phonebook =
      { entries := some { fileType := 0xA8, file := 0x4F3B, shortId := none, index := none }
        additionalNumbers :=
          [{ fileType := 0xA8, file := 0x4F11, shortId := some 2, index := none },
           { fileType := 0xA9, file := 0x4F12, shortId := none, index := some 2 }]
        emails :=
          some { fileType := 0xA9, file := 0x4F50, shortId := some 4, index := some 1 } } := by
  have hkeeps : SimulatedCard.Keeps referenceFile referenceCard
      ([fullRecord, emptyRecord].map toOctets) := ⟨rfl, rfl, by decide +kernel⟩
  have hprovides := (SimulatedCard.serves referenceFile).provides hkeeps
  obtain ⟨card', hread⟩ := (phonebooks_are_those_listed (SimulatedCard.channel.access .usim)
    { application := .usim } hprovides hkeeps).1 (by decide +kernel)
  exact ⟨card', hread, by decide +kernel⟩

end CardSession

end SimCard
