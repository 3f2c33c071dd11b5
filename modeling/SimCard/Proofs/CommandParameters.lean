import SimCard.Toolkit.Command

/-!
# What the parameters of a command depend on

A command arrives as a list of elements, and cards do not agree on their order: what is optional may
stand anywhere, and there may be elements between that a terminal has never heard of.  So a terminal
must look at the elements of each tag on their own, and at nothing else.

* `Element.valuesOf` are the values under a tag.  A terminal does not gather them: it searches the
  list for one element, takes a search up again behind the element it ended at, or goes through all
  elements of the list.  Each of these finds out no more than the values under one tag
  (`Parameters.first?_eq_head?`, `Element.valuesOf_searchNext`, `Parameters.filterMap_item?`).
* `CommandType.tags` lists the tags that a command looks at.  Lists that agree on the values under
  these (`Parameters.Agree`) give the same parameters, or the same complaint
  (`Parameters.ofElements_congr`).
* None of these tags is there in vain: leaving out the elements of one of them from a list that has
  all (`Parameters.full`) changes the parameters (`Parameters.ofType_without_ne`).
* `Parameters.Rearranged` is what a card may do to a list: exchange elements of different tags, and
  put in, or leave out, elements that the command does not look at.
-/

set_option autoImplicit false

namespace SimCard

/-! ## Values under a tag -/

namespace Element

variable {tag : UInt8} {element : Element}

theorem isTagged_iff : element.isTagged tag = true ↔ element.code? = some tag := by
  rw [isTagged, beq_iff_eq]

/-- The values under a tag, in the order of the elements. -/
def valuesOf (tag : UInt8) (elements : List Element) : List Value :=
  (elements.filter (isTagged tag)).map (·.value)

theorem valuesOf_cons (tag : UInt8) (element : Element) (elements : List Element) :
    valuesOf tag (element :: elements) =
      if element.isTagged tag then element.value :: valuesOf tag elements
      else valuesOf tag elements := by
  rw [valuesOf, List.filter_cons]
  split <;> rfl

/-- **A search finds the first value** under its tag. -/
theorem value_search? (tag : UInt8) (elements : List Element) :
    (search? tag elements).map (·.value) = (valuesOf tag elements).head? := by
  rw [search?, valuesOf, List.head?_map, List.head?_filter]

/-- A search that can be taken up again finds what a search finds, -/
theorem searchNext_fst (tag : UInt8) (elements : List Element) :
    (searchNext tag elements).1 = search? tag elements := by
  induction elements with
  | nil => rfl
  | cons element elements ih =>
    rw [searchNext, search?, List.find?_cons]
    split
    · rename_i htag
      rw [htag]
    · rename_i htag
      rw [Bool.eq_false_iff.2 htag]
      exact ih

/-- **and leaves all values under its tag but the first one.** -/
theorem valuesOf_searchNext (tag : UInt8) (elements : List Element) :
    valuesOf tag (searchNext tag elements).2 = (valuesOf tag elements).tail := by
  induction elements with
  | nil => rfl
  | cons element elements ih =>
    rw [searchNext, valuesOf_cons]
    split
    · rfl
    · exact ih

/-- The elements of a list that do not have a tag. -/
def without (tag : UInt8) (elements : List Element) : List Element :=
  elements.filter fun element => !element.isTagged tag

/-- Leaving out the elements of one tag does not touch those of another. -/
theorem valuesOf_without {other : UInt8} (hne : other ≠ tag) (elements : List Element) :
    valuesOf other (without tag elements) = valuesOf other elements := by
  have hboth : ∀ element ∈ elements,
      (isTagged other element && !element.isTagged tag) = isTagged other element := by
    intro element _
    by_cases hother : element.isTagged other = true
    · have htag : ¬ element.isTagged tag = true := fun htag =>
        hne (Option.some.inj ((isTagged_iff.1 hother).symm.trans (isTagged_iff.1 htag)))
      simp [hother, htag]
    · simp [hother]
  rw [valuesOf, valuesOf, without, List.filter_filter, List.filter_congr hboth]

end Element

/-- The tags that a command looks at. -/
def CommandType.tags : CommandType → List Tag
  | .moreTime | .pollOff | .provideLocalInformation => []
  | .refresh => [.fileList]
  | .pollInterval => [.duration]
  | .setUpEventList => [.eventList]
  | .setUpCall => [.alphaIdentifier, .address, .duration]
  | .sendSupplementaryService | .sendServiceData | .sendShortMessage | .sendTones | .openChannel
  | .closeChannel | .receiveData | .sendData => [.alphaIdentifier]
  | .launchBrowser => [.url, .alphaIdentifier]
  | .playTone => [.alphaIdentifier, .tone, .duration]
  | .displayText => [.textString, .immediateResponse, .duration]
  | .setUpIdleModeText => [.textString]
  | .getInkey => [.textString, .duration]
  | .getInput => [.textString, .responseLength, .defaultText, .duration]
  | .selectItem | .setUpMenu => [.item, .alphaIdentifier, .itemIdentifier, .nextActions]
  | .timerManagement => [.timerIdentifier, .timerValue]
  | .languageNotification => [.language]

/-- The tags that the command of an octet looks at, none if it is not known. -/
def CommandType.tagsOfCode (code : UInt8) : List UInt8 :=
  match CommandType.ofCode? code with
  | none => []
  | some type => type.tags.map Tag.code

namespace Parameters

variable {elements others : List Element} {tags : List Tag}

/-! ## Lists that agree -/

/-- The lists have the same values under these tags. -/
def Agree (tags : List Tag) (elements others : List Element) : Prop :=
  ∀ tag ∈ tags, Element.valuesOf tag.code elements = Element.valuesOf tag.code others

/-- The item of a menu, which may be without content. -/
def menuItem? : Value → Option (Option MenuItem)
  | .item item => some item
  | _ => none

theorem item?_eq (element : Element) :
    item? element =
      if element.isTagged Tag.item.code then menuItem? element.value else none := by
  rw [item?, Element.isTagged, menuItem?.eq_def]
  cases element.value <;> cases element.code? <;> simp

theorem first?_eq_head? (tag : Tag) (elements : List Element) :
    first? tag elements = (Element.valuesOf tag.code elements).head? :=
  Element.value_search? tag.code elements

theorem alphaOf?_search? (elements : List Element) :
    alphaOf? (Element.search? Tag.alphaIdentifier.code elements) =
      get? .alphaIdentifier Value.alphaText? elements := rfl

/-- **The items of a menu** are found among all elements, and are those among the values under their
tag. -/
theorem filterMap_item? (elements : List Element) :
    elements.filterMap item? =
      (Element.valuesOf Tag.item.code elements).filterMap menuItem? := by
  induction elements with
  | nil => rfl
  | cons element elements ih =>
    rw [List.filterMap_cons, item?_eq, ih, Element.valuesOf_cons]
    by_cases htag : element.isTagged Tag.item.code = true
    · rw [if_pos htag, if_pos htag, List.filterMap_cons]
    · rw [if_neg htag, if_neg htag]

/-- **Commands of a known type** look at nothing but the values under their tags. -/
theorem ofType_congr (type : CommandType) (h : Agree type.tags elements others)
    (qualifier : UInt8) : ofType type qualifier elements = ofType type qualifier others := by
  -- Each kind of search depends on the values under one tag, and that is one of the command's.
  have hfirst : ∀ tag ∈ type.tags, first? tag elements = first? tag others := by
    intro tag hmem
    rw [first?_eq_head?, h tag hmem, first?_eq_head?]
  have hagain : .alphaIdentifier ∈ type.tags →
      first? .alphaIdentifier (Element.searchNext Tag.alphaIdentifier.code elements).2 =
        first? .alphaIdentifier (Element.searchNext Tag.alphaIdentifier.code others).2 := by
    intro hmem
    rw [first?_eq_head?, Element.valuesOf_searchNext, h .alphaIdentifier hmem,
      ← Element.valuesOf_searchNext, first?_eq_head?]
  have hitems : .item ∈ type.tags → elements.filterMap item? = others.filterMap item? := by
    intro hmem
    rw [filterMap_item?, h .item hmem, filterMap_item?]
  cases type <;>
    simp (disch := decide) only [ofType, call?, notification?, browsing?, toneOf, display?,
      idleText?, inkey?, input?, menu?, timer?, alpha?, span?, alphaOf?_search?,
      Element.searchNext_fst, get?, hfirst, hagain, hitems]

/-- **Commands of any type** look at nothing but the values under their tags. -/
theorem ofElements_congr (details : CommandDetails)
    (h : ∀ tag ∈ CommandType.tagsOfCode details.commandType,
      Element.valuesOf tag elements = Element.valuesOf tag others) :
    ofElements details elements = ofElements details others := by
  rw [CommandType.tagsOfCode] at h
  rw [ofElements, ofElements]
  cases hcode : CommandType.ofCode? details.commandType with
  | none => rfl
  | some type =>
    rw [hcode] at h
    exact ofType_congr type (fun tag hmem => h _ (List.mem_map_of_mem hmem)) details.qualifier

/-! ## No tag in vain -/

/-- A list with a value of the right kind under every tag that a command looks at. -/
def full : List Element :=
  [.ofValue Tag.duration.code false (.duration default),
   .ofValue Tag.alphaIdentifier.code false (.alphaIdentifier ""),
   .ofValue Tag.address.code false (.address default),
   .ofValue Tag.textString.code false (.textString none),
   .ofValue Tag.tone.code false (.tone 0),
   .ofValue Tag.item.code false (.item none),
   .ofValue Tag.itemIdentifier.code false (.itemIdentifier 0),
   .ofValue Tag.responseLength.code false (.responseLength default),
   .ofValue Tag.fileList.code false (.fileList default),
   .ofValue Tag.defaultText.code false (.textString (some default)),
   .ofValue Tag.nextActions.code false (.nextActions []),
   .ofValue Tag.eventList.code false (.eventList none),
   .ofValue Tag.timerIdentifier.code false (.timerIdentifier 0),
   .ofValue Tag.timerValue.code false (.timerValue 0),
   .ofValue Tag.immediateResponse.code false .immediateResponse,
   .ofValue Tag.language.code false (.language ""),
   .ofValue Tag.url.code false (.url "")]

/-- **No tag is looked at in vain**: without the elements of one of its tags, a command is another
command, or none. -/
theorem ofType_without_ne (type : CommandType) (qualifier : UInt8) :
    ∀ tag ∈ type.tags,
      ofType type qualifier (Element.without tag.code full) ≠ ofType type qualifier full := by
  -- Both sides compute, up to the qualifier, and differ in what the tag is looked at for.
  cases type with
  | moreTime | pollOff | provideLocalInformation => exact List.forall_mem_nil _
  | refresh | pollInterval | setUpEventList | sendSupplementaryService | sendServiceData
  | sendShortMessage | sendTones | openChannel | closeChannel | receiveData | sendData
  | setUpIdleModeText | languageNotification =>
    refine List.forall_mem_singleton.2 fun h => ?_
    cases h
  | launchBrowser | getInkey | timerManagement =>
    simp only [CommandType.tags, List.forall_mem_cons]
    refine ⟨fun h => ?_, fun h => ?_, List.forall_mem_nil _⟩ <;> cases h
  | setUpCall | playTone | displayText =>
    simp only [CommandType.tags, List.forall_mem_cons]
    refine ⟨fun h => ?_, fun h => ?_, fun h => ?_, List.forall_mem_nil _⟩ <;> cases h
  | getInput | selectItem | setUpMenu =>
    simp only [CommandType.tags, List.forall_mem_cons]
    refine ⟨fun h => ?_, fun h => ?_, fun h => ?_, fun h => ?_, List.forall_mem_nil _⟩ <;> cases h

/-- **A command looks at a tag** exactly when there are lists that differ in the elements of this
tag only and give different parameters. -/
theorem mem_tagsOfCode_iff (details : CommandDetails) (tag : UInt8) :
    tag ∈ CommandType.tagsOfCode details.commandType ↔
      ∃ elements others : List Element,
        (∀ other ≠ tag, Element.valuesOf other elements = Element.valuesOf other others) ∧
        ofElements details elements ≠ ofElements details others := by
  constructor
  · intro hmem
    refine ⟨Element.without tag full, full, fun other hne => Element.valuesOf_without hne full, ?_⟩
    rw [CommandType.tagsOfCode] at hmem
    rw [ofElements, ofElements]
    cases hcode : CommandType.ofCode? details.commandType with
    | none =>
      rw [hcode] at hmem
      exact absurd hmem List.not_mem_nil
    | some type =>
      rw [hcode] at hmem
      obtain ⟨known, hknown, rfl⟩ := List.mem_map.1 hmem
      exact ofType_without_ne type details.qualifier known hknown
  · rintro ⟨elements, others, hagree, hne⟩
    refine Decidable.not_not.1 fun hmem => hne (ofElements_congr details fun other hother => ?_)
    exact hagree other fun heq => hmem (heq ▸ hother)

/-! ## What a card may do to a list -/

/-- **A list that is rearranged**, for a command that looks at these tags: elements of different
tags change places, and elements that the command does not look at come and go. -/
inductive Rearranged (tags : List UInt8) : List Element → List Element → Prop
  | nil : Rearranged tags [] []
  | cons (element : Element) {elements others : List Element}
      (h : Rearranged tags elements others) :
      Rearranged tags (element :: elements) (element :: others)
  /-- Neighbours that do not share a tag of one octet. -/
  | swap (first second : Element) (elements : List Element)
      (hapart : first.isLong = true ∨ first.code? ≠ second.code?) :
      Rearranged tags (first :: second :: elements) (second :: first :: elements)
  /-- An element with a tag in the long form, or with one that does not matter. -/
  | insert (element : Element) (elements : List Element)
      (hidle : element.isLong = true ∨ element.tag.toUInt8 ∉ tags) :
      Rearranged tags elements (element :: elements)
  | symm {elements others : List Element} (h : Rearranged tags elements others) :
      Rearranged tags others elements
  | trans {elements others further : List Element} (h : Rearranged tags elements others)
      (h' : Rearranged tags others further) : Rearranged tags elements further

/-- Rearranging leaves the values under the tags that matter alone. -/
theorem Rearranged.valuesOf_eq {tags : List UInt8} (h : Rearranged tags elements others) :
    ∀ tag ∈ tags, Element.valuesOf tag elements = Element.valuesOf tag others := by
  intro tag hmem
  induction h with
  | nil => rfl
  | cons element h ih => rw [Element.valuesOf_cons, Element.valuesOf_cons, ih]
  | swap first second elements hapart =>
    -- The order of the two is seen only under a tag that both have.
    have hnot : ¬ (first.isTagged tag = true ∧ second.isTagged tag = true) := by
      rw [Element.isTagged_iff, Element.isTagged_iff]
      rintro ⟨hfirst, hsecond⟩
      rcases hapart with hlong | hne
      · rw [Element.code?, if_pos hlong] at hfirst
        cases hfirst
      · exact hne (hfirst.trans hsecond.symm)
    by_cases hfirst : first.isTagged tag = true
    · have hsecond : ¬ second.isTagged tag = true := fun hsecond => hnot ⟨hfirst, hsecond⟩
      simp [Element.valuesOf_cons, hfirst, hsecond]
    · simp [Element.valuesOf_cons, hfirst]
  | insert element elements hidle =>
    rw [Element.valuesOf_cons, if_neg]
    rw [Element.isTagged_iff, Element.code?]
    intro htag
    split at htag
    · cases htag
    · rename_i hshort
      rcases hidle with hlong | hnotMem
      · exact hshort hlong
      · exact hnotMem (Option.some.inj htag ▸ hmem)
  | symm h ih => exact ih.symm
  | trans h h' ih ih' => exact ih.trans ih'

/-- **The order of elements of different tags does not matter, nor what else there is.**  Lists with
the same values under each tag give the same parameters or the same complaint; so do a list and what
a card makes of it by rearranging it.  The tags that matter for this are those of the command, and
every one of them does matter. -/
theorem same_values_same_parameters (details : CommandDetails) :
    (∀ elements others : List Element,
      (∀ tag : UInt8, Element.valuesOf tag elements = Element.valuesOf tag others) →
        ofElements details elements = ofElements details others) ∧
    (∀ elements others : List Element,
      Rearranged (CommandType.tagsOfCode details.commandType) elements others →
        ofElements details elements = ofElements details others) ∧
    ∀ tag : UInt8, tag ∈ CommandType.tagsOfCode details.commandType ↔
      ∃ elements others : List Element,
        (∀ other ≠ tag, Element.valuesOf other elements = Element.valuesOf other others) ∧
        ofElements details elements ≠ ofElements details others := by
  refine ⟨fun elements others h => ?_, fun elements others h => ?_, mem_tagsOfCode_iff details⟩
  · exact ofElements_congr details fun tag _ => h tag
  · exact ofElements_congr details h.valuesOf_eq

/-- A call to set up, with its two texts, an icon and an element of the long form in between, and
its address at the end or at the front. -/
theorem same_values_same_parameters_call :
    let details : CommandDetails := { number := 1, commandType := 0x10, qualifier := 0 }
    let ask : Element := .ofValue 0x05 true (.alphaIdentifier "Call?")
    let announce : Element := .ofValue 0x05 false (.alphaIdentifier "Calling")
    let icon : Element := .ofValue 0x1E false (.iconIdentifier { qualifier := 0, identifier := 1 })
    let long : Element :=
      { tag := 0x0105, required := false, isLong := true, length := 0, value := .raw [] }
    let address : Element := .ofValue 0x06 true (.address { numberType := 0x81, number := "112" })
    ofElements details [ask, icon, announce, long, address] =
        ofElements details [address, ask, announce] ∧
      ofElements details [address, ask, announce] =
        .ok (.call { number := "112", confirmation := some "Call?", announcement := some "Calling"
                     duration := none }) := by
  intro details ask announce icon long address
  refine ⟨(same_values_same_parameters details).2.1 _ _ ?_, rfl⟩
  have hicon : Rearranged (CommandType.tagsOfCode 0x10) [ask, icon, announce, long, address]
      [ask, announce, long, address] := .cons _ (.symm (.insert icon _ (.inr (by decide))))
  have hlong : Rearranged (CommandType.tagsOfCode 0x10) [ask, announce, long, address]
      [ask, announce, address] := .cons _ (.cons _ (.symm (.insert long _ (.inl rfl))))
  have hlast : Rearranged (CommandType.tagsOfCode 0x10) [ask, announce, address]
      [ask, address, announce] := .cons _ (.swap announce address [] (.inr (by decide)))
  have hfirst : Rearranged (CommandType.tagsOfCode 0x10) [ask, address, announce]
      [address, ask, announce] := .swap ask address [announce] (.inr (by decide))
  exact hicon.trans (hlong.trans (hlast.trans hfirst))

end Parameters

end SimCard
