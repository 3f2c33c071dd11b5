import SimCard.Proofs.Framing

/-!
# Templates, written and read

`SimCard.Proofs.Framing` says which octets the reader of a template accepts.  This file draws the
two conclusions that matter to somebody who sends or receives commands.

* `Template.read_of_rest` — **what is written is read back.**  Whatever stands behind a template,
  reading it gives the template again and leaves the cursor at what stands behind.  The elements
  must be ones that the format can tell apart, which is `Element.Faithful`: interpreting is lossy,
  and only a value that its own octets stand for can come back.
* `stops_at_declared_end_iff` — **where reading stops.**  The loops look at the budget between two
  items only.  So a reader stops at the end that was declared, unless the last item straddles it
  (`Straddles`); then it reads on to the end of that item, beyond what was declared.
-/

set_option autoImplicit false

namespace SimCard

/-! ## What is written is read back -/

namespace Element

/-- The elements that the format holds without loss: a tag of one octet with a value that its own
octets stand for, or a tag in the long form with plain octets.  The length is that of the value. -/
inductive Faithful : Element → Prop
  | short (tag : UInt16) (required : Bool) (value : Value) (hlow : 0x01 ≤ tag) (hhigh : tag ≤ 0x7E)
      (hvalue : Value.interpret tag.toUInt8 value.toOctets = value) :
      Faithful { tag, required, isLong := false, length := value.toOctets.length, value }
  | long (tag : UInt16) (required : Bool) (octets : Octets) (htag : tag < 0x8000) :
      Faithful { tag, required, isLong := true, length := octets.length, value := .raw octets }

theorem Faithful.holds {element : Element} (h : element.Faithful)
    (hlt : element.value.toOctets.length < 0x1000000) : element.Holds element.value.toOctets := by
  cases h with
  | short tag required value hlow hhigh hvalue => exact ⟨⟨hlow, hhigh⟩, rfl, hlt, hvalue.symm⟩
  | long tag required octets htag => exact ⟨htag, rfl, hlt, rfl⟩

/-- A faithful element that a length field can count is written in a form of its own. -/
theorem Faithful.isFrame {element : Element} (h : element.Faithful)
    (hlt : element.toOctets.length < 0x1000000) : element.IsFrame element.toOctets := by
  have hvalue : element.value.toOctets.length ≤ element.toOctets.length := by
    rw [toOctets_eq_frame, frame, List.length_append]
    omega
  exact ⟨_, h.holds (by omega), rfl⟩

/-- Faithful elements fill the budget of their own octets. -/
theorem fills_flatMap_toOctets {elements : List Element} (h : ∀ e ∈ elements, e.Faithful)
    (hlt : (elements.flatMap toOctets).length < 0x1000000) :
    Fills IsFrame (elements.flatMap toOctets).length elements (elements.flatMap toOctets) := by
  have hframes : ∀ e ∈ elements, (id e).IsFrame e.toOctets := by
    intro e he
    have hle : e.toOctets.length ≤ (elements.flatMap toOctets).length := by
      rw [List.flatMap_def]
      exact (List.sublist_flatten_of_mem (List.mem_map_of_mem he)).length_le
    exact (h e he).isFrame (by omega)
  have hfills := fills_flatMap id hframes fun _ _ => IsFrame.ne_nil
  rwa [List.map_id] at hfills

end Element

namespace Template

theorem length_toOctets (template : Template) :
    template.toOctets.length =
      1 + Length.size (template.elements.flatMap Element.toOctets).length +
        (template.elements.flatMap Element.toOctets).length := by
  rw [toOctets, Element.field, List.length_append, List.length_cons, Length.length_toOctets]
  omega

/-- **What is written is read back.**  Where a command made of faithful elements stands ahead of the
cursor, and is counted among the octets that are there for it, it is read as it was written, and the
cursor stops right behind it. -/
theorem read_of_rest (elements : List Element) (hfaithful : ∀ e ∈ elements, e.Faithful)
    (hlt : (elements.flatMap Element.toOctets).length < 0x1000000) (c : Cursor) (tail : Octets)
    (hrest : c.rest = (ofElements Tag.proactiveCommand.code elements).toOctets ++ tail)
    (size : Nat) (hsize : (ofElements Tag.proactiveCommand.code elements).toOctets.length ≤ size) :
    ∃ c', read size c = (.ok (ofElements Tag.proactiveCommand.code elements), c') ∧
      c' = c.advance (ofElements Tag.proactiveCommand.code elements).toOctets.length ∧
      c'.rest = tail := by
  have htakes := Cursor.takes_of_rest_eq hrest
  refine ⟨_, yields_read.2 ⟨rfl, hlt, ?_, _, Element.fills_flatMap_toOctets hfaithful hlt, htakes⟩,
    rfl, ?_⟩
  · rw [length_toOctets] at hsize
    exact Nat.le_sub_of_add_le (by rw [Nat.add_comm]; exact hsize)
  · rw [Cursor.rest_advance, hrest, List.drop_left]

/-- An instance with a tag of each form, a length of two octets, and more octets behind. -/
theorem read_of_rest_both_forms :
    let elements : List Element :=
      [.ofValue 0x01 true (.commandDetails { number := 1, commandType := 0x21, qualifier := 0x80 }),
       .ofValue 0x0B false (.raw (List.replicate 0x80 0x55)),
       { tag := 0x1234, required := true, isLong := true, length := 1, value := .raw [0xAB] }]
    let template := ofElements Tag.proactiveCommand.code elements
    let c := Cursor.ofOctets (template.toOctets ++ [0xD0, 0x00])
    (∀ e ∈ elements, e.Faithful) ∧
      ∃ c', read 200 c = (.ok template, c') ∧ c' = c.advance template.toOctets.length ∧
        c'.rest = [0xD0, 0x00] := by
  intro elements template c
  have hfaithful : ∀ e ∈ elements, e.Faithful := by
    intro e he
    simp only [elements, List.mem_cons, List.not_mem_nil, or_false] at he
    rcases he with rfl | rfl | rfl
    · exact .short 0x01 true _ (by decide) (by decide) rfl
    · exact .short 0x0B false _ (by decide) (by decide) rfl
    · exact .long 0x1234 true [0xAB] (by decide)
  exact ⟨hfaithful, read_of_rest elements hfaithful (by decide +kernel) c _ rfl 200
    (by decide +kernel)⟩

end Template

/-! ## Where reading stops -/

section Straddles

variable {α : Type} {size : α → Nat} {budget : Nat} {item : α} {items : List α}

/-- The sizes of items, added up. -/
def totalSize (size : α → Nat) (items : List α) : Nat :=
  items.foldr (fun item total => size item + total) 0

@[simp] theorem totalSize_nil : totalSize size [] = 0 := rfl

@[simp] theorem totalSize_cons :
    totalSize size (item :: items) = size item + totalSize size items := rfl

/-- The last item starts before the budget is used up and ends beyond it. -/
def Straddles (size : α → Nat) (budget : Nat) (items : List α) : Prop :=
  ∃ init last, items = init ++ [last] ∧ totalSize size init < budget ∧
    budget < totalSize size init + size last

theorem not_straddles_nil : ¬ Straddles size budget [] := by
  rintro ⟨init, last, h, -⟩
  exact List.append_ne_nil_of_right_ne_nil init (List.cons_ne_nil last []) h.symm

theorem straddles_singleton : Straddles size budget [item] ↔ 0 < budget ∧ budget < size item := by
  constructor
  · rintro ⟨init, last, h, hstart, hend⟩
    cases init with
    | nil =>
      obtain rfl : item = last := by simpa using h
      simpa using And.intro hstart hend
    | cons other init => simp at h
  · rintro ⟨hstart, hend⟩
    exact ⟨[], item, rfl, hstart, by simpa using hend⟩

/-- An item that is followed by others only moves the budget. -/
theorem straddles_cons (hne : items ≠ []) (hlt : size item < budget) :
    Straddles size budget (item :: items) ↔ Straddles size (budget - size item) items := by
  constructor
  · rintro ⟨init, last, h, hstart, hend⟩
    cases init with
    | nil => simp_all
    | cons other init =>
      obtain ⟨rfl, rfl⟩ : item = other ∧ items = init ++ [last] := by simpa using h
      rw [totalSize_cons] at hstart hend
      exact ⟨init, last, rfl, by omega, by omega⟩
  · rintro ⟨init, last, rfl, hstart, hend⟩
    refine ⟨item :: init, last, rfl, ?_, ?_⟩ <;> rw [totalSize_cons] <;> omega

variable {IsFrame : α → Octets → Prop} {octets : Octets}

theorem Fills.budget_le (h : Fills IsFrame budget items octets) : budget ≤ octets.length := by
  induction h with
  | nil => exact Nat.le_refl 0
  | cons hbudget hframe hrest ih =>
    rw [List.length_append]
    omega

/-- **Items that fill a budget** fill it exactly, unless the last one straddles its end. -/
theorem Fills.length_eq_iff (hsize : ∀ item front, IsFrame item front → front.length = size item)
    (h : Fills IsFrame budget items octets) :
    octets.length = budget ↔ ¬ Straddles size budget items := by
  induction h with
  | nil => exact ⟨fun _ => not_straddles_nil, fun _ => rfl⟩
  | @cons budget item items front back hbudget hframe hrest ih =>
    have hfront := hsize item front hframe
    rw [List.length_append]
    generalize hleft : budget - front.length = left at hrest ih
    cases hrest with
    | nil =>
      rw [straddles_singleton, List.length_nil]
      omega
    | cons hmore hnext hlast =>
      rw [straddles_cons (List.cons_ne_nil _ _) (by omega), ← hfront, hleft, ← ih]
      omega

end Straddles

/-- How many octets an element takes. -/
def Element.frameSize (element : Element) : Nat :=
  element.tagOctets.length + Length.size element.length + element.length

theorem Element.IsFrame.length_eq {element : Element} {octets : Octets}
    (h : element.IsFrame octets) : octets.length = element.frameSize := by
  obtain ⟨value, hholds, rfl⟩ := h
  rw [frame, List.length_append, List.length_append, Length.length_toOctets, frameSize,
    hholds.length_eq]

/-- How many octets a block takes. -/
def Block.frameSize (block : Block) : Nat := 2 + block.length

theorem Element.fills_length_eq_iff {budget : Nat} {elements : List Element} {octets : Octets}
    (h : Fills Element.IsFrame budget elements octets) :
    octets.length = budget ↔ ¬ Straddles Element.frameSize budget elements :=
  h.length_eq_iff fun _ _ hframe => hframe.length_eq

theorem Block.fills_length_eq_iff {budget : Nat} {blocks : List Block} {octets : Octets}
    (h : Fills Block.IsFrame budget blocks octets) :
    octets.length = budget ↔ ¬ Straddles Block.frameSize budget blocks :=
  h.length_eq_iff fun _ _ hframe => hframe.length_eq

/-- **Where reading stops.**  A list of elements, a list of blocks and a template are read at least
to the end that was declared for them, and no further, unless their last item straddles that end. -/
theorem stops_at_declared_end_iff (count : Nat) (c c' : Cursor) :
    (∀ elements, Element.readList count c = (.ok elements, c') →
      c.readIndex + count ≤ c'.readIndex ∧
        (c'.readIndex = c.readIndex + count ↔ ¬ Straddles Element.frameSize count elements)) ∧
    (∀ blocks, Block.readList count c = (.ok blocks, c') →
      c.readIndex + count ≤ c'.readIndex ∧
        (c'.readIndex = c.readIndex + count ↔ ¬ Straddles Block.frameSize count blocks)) ∧
    (∀ template, Template.read count c = (.ok template, c') →
      c.readIndex + (1 + Length.size template.length) + template.length ≤ c'.readIndex ∧
        (c'.readIndex = c.readIndex + (1 + Length.size template.length) + template.length ↔
          ¬ Straddles Element.frameSize template.length template.elements)) := by
  refine ⟨fun elements h => ?_, fun blocks h => ?_, fun template h => ?_⟩
  · obtain ⟨octets, hfills, htakes⟩ := Element.yields_readList.1 h
    have hle := hfills.budget_le
    rw [← Element.fills_length_eq_iff hfills, htakes.readIndex_eq]
    omega
  · obtain ⟨octets, hfills, htakes⟩ := Block.yields_readList.1 h
    have hle := hfills.budget_le
    rw [← Block.fills_length_eq_iff hfills, htakes.readIndex_eq]
    omega
  · obtain ⟨-, -, -, octets, hfills, htakes⟩ := Template.yields_read.1 h
    have hle := hfills.budget_le
    have hindex := htakes.readIndex_eq
    rw [List.length_append, List.length_cons, Length.length_toOctets] at hindex
    rw [← Element.fills_length_eq_iff hfills, hindex]
    omega

/-- A tone of three octets where two were declared, and a block of three where one was. -/
theorem stops_at_declared_end_iff_straddling :
    let tone : Element := .ofValue 0x0E false (.tone 0x05)
    let block : Block := { tag := 0xC0, length := 1, value := [0x4F] }
    let c := Cursor.ofOctets [0xD0, 0x02, 0x0E, 0x01, 0x05]
    let d := Cursor.ofOctets [0xC0, 0x01, 0x4F]
    (Element.readList 2 (c.advance 2) = (.ok [tone], c.advance 5) ∧
      Straddles Element.frameSize 2 [tone]) ∧
    (Block.readList 1 d = (.ok [block], d.advance 3) ∧ Straddles Block.frameSize 1 [block]) ∧
    (Template.read 5 c = (.ok { tag := 0xD0, length := 2, elements := [tone] }, c.advance 5) ∧
      Straddles Element.frameSize 2 [tone]) := by
  intro tone block c d
  obtain ⟨helements, -, -⟩ := stops_at_declared_end_iff 2 (c.advance 2) (c.advance 5)
  obtain ⟨-, hblocks, -⟩ := stops_at_declared_end_iff 1 d (d.advance 3)
  obtain ⟨-, -, htemplate⟩ := stops_at_declared_end_iff 5 c (c.advance 5)
  refine ⟨⟨rfl, ?_⟩, ⟨rfl, ?_⟩, rfl, ?_⟩
  · exact Classical.not_not.1 (mt (helements _ rfl).2.2 (by decide))
  · exact Classical.not_not.1 (mt (hblocks _ rfl).2.2 (by decide))
  · exact Classical.not_not.1 (mt (htemplate _ rfl).2.2 (by decide))

/-- The end that a template declares for its elements is not always where reading it stops. -/
theorem read_passes_declared_end :
    ¬ ∀ (size : Nat) (c c' : Cursor) (template : Template),
      Template.read size c = (.ok template, c') →
        c'.readIndex = c.readIndex + (1 + Length.size template.length) + template.length := by
  intro h
  let c := Cursor.ofOctets [0xD0, 0x02, 0x0E, 0x01, 0x05]
  exact absurd (h 5 c (c.advance 5) _ rfl) (by decide)

end SimCard
