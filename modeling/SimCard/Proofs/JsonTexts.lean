import SimCard.Json.Basic

/-!
# JSON that is read as it was written

The writers of `JsonText` and the reader of `JsonValue` are each other's counterpart, with more
freedom on the side of the reader: it takes blank space where the writers put none, and knows
escapes that they do not use.

* **Strings.**  Every character is written as one piece of a string that stands for it
  (`JsonValue.Stands`), the control characters without a short escape as a unit and all others as
  themselves.  So a text is read as it was written, whatever its characters are
  (`JsonValue.parseString_quote`).
* **Values.**  `JsonValue.Spells text value` says that a text is read as a value wherever it stands.
  Strings, truth values and null end by themselves, so they are spelled in this sense.
* **Records.**  A `JsonText.Field` is a name with a text and the value it spells.  However much
  blank space there is between the fields (`JsonText.layout`), they are read as an object with these
  values (`JsonText.parse_layout`), which is then taken apart into them
  (`JsonText.fields?_object`).
-/

set_option autoImplicit false

namespace SimCard

namespace JsonValue

open JsonText

/-! ## Strings -/

section Strings

variable {rest : List Char}

/-- What is read of a string behind a piece of it. -/
def behind (piece : Piece) (found : Option (List Piece × List Char)) :
    Option (List Piece × List Char) :=
  found.map fun (pieces, rest) => (piece :: pieces, rest)

/-- The piece stands for a character, whatever follows. -/
def Stands (piece : Piece) (c : Char) : Prop :=
  ∀ pieces, textOfPieces? (piece :: pieces) = (textOfPieces? pieces).map (c :: ·)

theorem stands_inl (c : Char) : Stands (.inl c) c := fun _ => by rw [textOfPieces?]

/-- A unit that is no surrogate stands for its character, also in front of another unit. -/
theorem stands_inr {unit : UInt16} (hhigh : Text.isHighSurrogate unit = false)
    (hlow : Text.isLowSurrogate unit = false) : Stands (.inr unit) (Text.unitChar unit) := by
  intro pieces
  obtain _ | ⟨_ | next, pieces⟩ := pieces <;> simp [textOfPieces?, hhigh, hlow]

theorem scanString_short {mark c : Char} (h : shortEscape? mark = some c) :
    scanString ('\x5c' :: mark :: rest) = behind (.inl c) (scanString rest) := by
  have hmark : mark ≠ 'u' := by
    rintro rfl
    cases h
  rw [scanString]
  · simp only [h]
    cases scanString rest <;> rfl
  · simp_all

theorem scanString_unit {a b c d : Char} {unit : UInt16} (h : unitOfDigits? a b c d = some unit) :
    scanString ('\x5c' :: 'u' :: a :: b :: c :: d :: rest) =
      behind (.inr unit) (scanString rest) := by
  rw [scanString, h]
  cases scanString rest <;> rfl

theorem scanString_plain {c : Char} (hquote : c ≠ '\x22') (hslash : c ≠ '\x5c')
    (hcontrol : ¬ c.toNat < 0x20) :
    scanString (c :: rest) = behind (.inl c) (scanString rest) := by
  rw [scanString]
  · rw [if_neg (by simp [hslash, hcontrol])]
    cases scanString rest <;> rfl
  · simp_all
  · simp_all
  · simp_all

/-- A control character is written by the digits of its unit, which stands for it. -/
theorem control_unit {value : Nat} (h : value < 0x20) :
    unitOfDigits? '0' '0' (lowerDigit (value / 16)) (lowerDigit (value % 16)) =
        some (UInt16.ofNat value) ∧
      Text.isHighSurrogate (UInt16.ofNat value) = false ∧
      Text.isLowSurrogate (UInt16.ofNat value) = false ∧
      Text.unitChar (UInt16.ofNat value) = Char.ofNat value := by
  revert value
  decide

/-- A character is written with a short escape, by its digits, or as it is. -/
theorem escape_cases (c : Char) :
    (∃ mark, escape c = ['\x5c', mark] ∧ shortEscape? mark = some c) ∨
      (c.toNat < 0x20 ∧ escape c =
        ['\x5c', 'u', '0', '0', lowerDigit (c.toNat / 16), lowerDigit (c.toNat % 16)]) ∨
      (c ≠ '\x22' ∧ c ≠ '\x5c' ∧ ¬ c.toNat < 0x20 ∧ escape c = [c]) := by
  unfold escape
  repeat' split
  all_goals first
    | (subst c; exact .inl ⟨_, rfl, rfl⟩)
    | exact .inr (.inl ⟨‹_›, rfl⟩)
    | exact .inr (.inr ⟨‹_›, ‹_›, ‹_›, rfl⟩)

/-- **Only quote, backslash and control characters are escaped.** -/
theorem escape_eq_self_iff (c : Char) :
    escape c = [c] ↔ c ≠ '\x22' ∧ c ≠ '\x5c' ∧ 0x20 ≤ c.toNat := by
  constructor
  · intro h
    obtain ⟨mark, hescape, -⟩ | ⟨-, hescape⟩ | ⟨hquote, hslash, hcontrol, -⟩ := escape_cases c
    · simp [hescape] at h
    · simp [hescape] at h
    · exact ⟨hquote, hslash, Nat.not_lt.1 hcontrol⟩
  · rintro ⟨hquote, hslash, hcontrol⟩
    have hne : ∀ d : Char, d.toNat < 0x20 → c ≠ d := by
      rintro d hd rfl
      omega
    rw [escape, if_neg hquote, if_neg hslash, if_neg (hne _ (by decide)),
      if_neg (hne _ (by decide)), if_neg (hne _ (by decide)), if_neg (hne _ (by decide)),
      if_neg (hne _ (by decide)), if_neg (Nat.not_lt.2 hcontrol)]

/-- **A character is written as one piece** that stands for it. -/
theorem exists_piece (c : Char) : ∃ piece, Stands piece c ∧
    ∀ rest, scanString (escape c ++ rest) = behind piece (scanString rest) := by
  obtain ⟨mark, hescape, hmark⟩ | ⟨hcontrol, hescape⟩ | ⟨hquote, hslash, hcontrol, hescape⟩ :=
    escape_cases c
  · rw [hescape]
    exact ⟨.inl c, stands_inl c, fun _ => scanString_short hmark⟩
  · obtain ⟨hdigits, hhigh, hlow, hchar⟩ := control_unit hcontrol
    rw [Char.ofNat_toNat] at hchar
    have hstands := stands_inr hhigh hlow
    rw [hchar] at hstands
    rw [hescape]
    exact ⟨.inr _, hstands, fun _ => scanString_unit hdigits⟩
  · rw [hescape]
    exact ⟨.inl c, stands_inl c, fun _ => scanString_plain hquote hslash hcontrol⟩

/-- Characters are written as pieces that stand for them one by one. -/
theorem exists_pieces (chars : List Char) : ∃ pieces, textOfPieces? pieces = some chars ∧
    ∀ rest, scanString (chars.flatMap escape ++ '\x22' :: rest) = some (pieces, rest) := by
  induction chars with
  | nil =>
    refine ⟨[], by rw [textOfPieces?], fun rest => ?_⟩
    rw [List.flatMap_nil, List.nil_append, scanString]
  | cons c chars ih =>
    obtain ⟨pieces, htext, hscan⟩ := ih
    obtain ⟨piece, hstands, hpiece⟩ := exists_piece c
    refine ⟨piece :: pieces, by rw [hstands, htext, Option.map_some], fun rest => ?_⟩
    rw [List.flatMap_cons, List.append_assoc, hpiece, hscan, behind, Option.map_some]

/-- **A string is read as the text that was written**, whatever follows it. -/
theorem parseString_quote (text : String) :
    parseString (text.toList.flatMap escape ++ '\x22' :: rest) = some (some text, rest) := by
  obtain ⟨pieces, htext, hscan⟩ := exists_pieces text.toList
  simp only [parseString, hscan, Option.map_some, htext, String.ofList_toList]

end Strings

/-! ## Values -/

section Values

/-- Nothing but blank space. -/
def Blank (chars : List Char) : Prop := chars.all isBlank

instance (chars : List Char) : Decidable (Blank chars) := inferInstanceAs (Decidable (_ = true))

theorem Blank.skip {blank chars : List Char} (h : Blank blank) :
    skipBlank (blank ++ chars) = skipBlank chars := by
  rw [Blank, List.all_eq_true] at h
  exact List.dropWhile_append_of_pos h

theorem skipBlank_cons {c : Char} {chars : List Char} (h : isBlank c = false) :
    skipBlank (c :: chars) = c :: chars := by
  rw [skipBlank, List.dropWhile_cons_of_neg (by simp [h])]

/-- **The text spells the value**: wherever it stands, it is read as this value and no further. -/
def Spells (text : List Char) (value : JsonValue) : Prop :=
  ∀ fuel rest, parseValue (fuel + 1) (text ++ rest) = some (value, rest)

theorem spells_quote (text : String) : Spells (quote text) (.text (some text)) := by
  intro fuel rest
  have hquote : quote text ++ rest = '\x22' :: (text.toList.flatMap escape ++ '\x22' :: rest) := by
    simp [quote]
  rw [hquote, parseValue, skipBlank_cons (by decide)]
  simp only [parseString_quote, Option.map_some]

theorem spells_ofBool (value : Bool) : Spells (ofBool value) (.bool value) := by
  intro fuel rest
  cases value
  · rw [ofBool, if_neg (by simp), List.cons_append, parseValue, skipBlank_cons (by decide)]
    rfl
  · rw [ofBool, if_pos rfl, List.cons_append, parseValue, skipBlank_cons (by decide)]
    rfl

theorem spells_null : Spells JsonText.null .null := by
  intro fuel rest
  rw [JsonText.null, List.cons_append, parseValue, skipBlank_cons (by decide)]
  rfl

variable {α : Type} {write : α → List Char} {value : α → JsonValue}

/-- The value of something, or null. -/
def orNull (value : α → JsonValue) : Option α → JsonValue
  | some a => value a
  | none => .null

theorem spells_ofOption (h : ∀ a, Spells (write a) (value a)) (a : Option α) :
    Spells (ofOption write a) (orNull value a) := by
  cases a with
  | none => exact spells_null
  | some a => exact h a

end Values

end JsonValue

/-! ## Records -/

namespace JsonText

open JsonValue

/-- **A field of a record**: its name, how its value is written, and the value. -/
structure Field where
  name : String
  text : List Char
  value : JsonValue
  spells : Spells text value

namespace Field

/-- The field as the writers take it. -/
def entry (field : Field) : String × List Char := (field.name, field.text)

/-- The field as the reader gives it. -/
def member (field : Field) : Option String × JsonValue := (some field.name, field.value)

/-- A line of a record: blank space, the name, and the value behind some more blank space. -/
def line (lead gap : List Char) (field : Field) : List Char :=
  lead ++ quote field.name ++ ':' :: gap ++ field.text

end Field

/-- The lines behind the first one, with a comma in front of each. -/
def moreLines (lead gap : List Char) (fields : List Field) : List Char :=
  fields.flatMap fun field => ',' :: field.line lead gap

/-- A record whose lines all have the same blank space in front of the name and between name and
value, with some more behind the last line. -/
def layout (lead gap tail : List Char) (first : Field) (fields : List Field) : List Char :=
  '\x7b' :: (first.line lead gap ++ moreLines lead gap fields ++ tail ++ ['\x7d'])

section Layout

variable {lead gap tail : List Char}

theorem skipBlank_line (hlead : Blank lead) (field : Field) (rest : List Char) :
    skipBlank (field.line lead gap ++ rest) = '\x22' :: (field.name.toList.flatMap escape ++
      '\x22' :: ':' :: (gap ++ field.text ++ rest)) := by
  have hline : field.line lead gap ++ rest = lead ++ '\x22' ::
      (field.name.toList.flatMap escape ++ '\x22' :: ':' :: (gap ++ field.text ++ rest)) := by
    simp [Field.line, quote]
  rw [hline, hlead.skip, skipBlank_cons (by decide)]

/-- Blank space in front of a value is passed over. -/
theorem parseValue_gap (hgap : Blank gap) (field : Field) (fuel : Nat) (rest : List Char) :
    parseValue (fuel + 1) (gap ++ field.text ++ rest) = some (field.value, rest) := by
  have h := field.spells fuel rest
  rw [parseValue] at h ⊢
  rwa [List.append_assoc, hgap.skip]

/-- The last line is read as its field, and with it the end of the record. -/
theorem parseMembers_last (hlead : Blank lead) (hgap : Blank gap) (htail : Blank tail)
    (field : Field) (fuel : Nat) (rest : List Char) :
    parseMembers (fuel + 2) (field.line lead gap ++ (tail ++ '\x7d' :: rest)) =
      some ([field.member], rest) := by
  have hend : skipBlank (tail ++ '\x7d' :: rest) = '\x7d' :: rest := by
    rw [htail.skip, skipBlank_cons (by decide)]
  rw [parseMembers, skipBlank_line hlead]
  simp only [parseString_quote, Option.bind_eq_bind, Option.bind_some,
    skipBlank_cons (show isBlank ':' = false by decide), parseValue_gap hgap, hend]
  rfl

/-- Any other line is read as its field, and then come the lines behind the comma. -/
theorem parseMembers_more (hlead : Blank lead) (hgap : Blank gap) (field : Field) (fuel : Nat)
    (rest : List Char) :
    parseMembers (fuel + 2) (field.line lead gap ++ ',' :: rest) =
      (parseMembers (fuel + 1) rest).map fun found => (field.member :: found.1, found.2) := by
  rw [parseMembers, skipBlank_line hlead]
  simp only [parseString_quote, Option.bind_eq_bind, Option.bind_some,
    skipBlank_cons (show isBlank ':' = false by decide), parseValue_gap hgap,
    skipBlank_cons (show isBlank ',' = false by decide)]
  cases parseMembers (fuel + 1) rest <;> rfl

/-- **Lines are read as their fields.**  Each line takes one unit of fuel, and the value in the last
line another one. -/
theorem parseMembers_lines (hlead : Blank lead) (hgap : Blank gap) (htail : Blank tail)
    (first : Field) (fields : List Field) (fuel : Nat) (rest : List Char) :
    parseMembers (fuel + fields.length + 2)
        (first.line lead gap ++ (moreLines lead gap fields ++ (tail ++ '\x7d' :: rest))) =
      some ((first :: fields).map Field.member, rest) := by
  induction fields generalizing first with
  | nil => exact parseMembers_last hlead hgap htail first fuel rest
  | cons next fields ih =>
    have hmore : moreLines lead gap (next :: fields) ++ (tail ++ '\x7d' :: rest) = ',' ::
        (next.line lead gap ++ (moreLines lead gap fields ++ (tail ++ '\x7d' :: rest))) := by
      simp [moreLines]
    rw [hmore, parseMembers_more hlead hgap, List.length_cons, ← Nat.add_assoc, ih,
      Option.map_some]
    rfl

/-- Blank space in front of the first member makes no difference. -/
theorem parseMembers_congr {chars chars' : List Char} (h : skipBlank chars = skipBlank chars')
    (fuel : Nat) : parseMembers fuel chars = parseMembers fuel chars' := by
  cases fuel with
  | zero => rw [parseMembers, parseMembers]
  | succ fuel => rw [parseMembers, parseMembers, h]

/-- Behind an opening brace, a quote starts the first member. -/
theorem parseValue_object {chars name rest : List Char} {fuel : Nat}
    {members : List (Option String × JsonValue)} (hquote : skipBlank chars = '\x22' :: name)
    (h : parseMembers fuel chars = some (members, rest)) :
    parseValue (fuel + 1) ('\x7b' :: chars) = some (.object members, rest) := by
  have hfirst : parseMembers fuel ('\x22' :: name) = some (members, rest) := by
    rw [← h]
    exact parseMembers_congr ((skipBlank_cons (by decide)).trans hquote.symm) fuel
  rw [parseValue, skipBlank_cons (by decide)]
  simp only [hquote]
  change (parseMembers fuel ('\x22' :: name)).map _ = _
  rw [hfirst, Option.map_some]

theorem length_le_moreLines (lead gap : List Char) (fields : List Field) :
    fields.length ≤ (moreLines lead gap fields).length := by
  induction fields with
  | nil => exact Nat.zero_le _
  | cons field fields ih =>
    simp only [moreLines, List.flatMap_cons, List.length_append, List.length_cons] at ih ⊢
    omega

/-- **A record is read as the object of its fields**, whatever blank space it is written with. -/
theorem parse_layout (hlead : Blank lead) (hgap : Blank gap) (htail : Blank tail) (first : Field)
    (fields : List Field) :
    JsonValue.parse (String.ofList (layout lead gap tail first fields)) =
      some (.object ((first :: fields).map Field.member)) := by
  -- the fuel is measured by the characters, of which every line has at least one
  obtain ⟨spare, hspare⟩ : ∃ spare, 2 * (layout lead gap tail first fields).length + 2 =
      spare + fields.length + 2 + 1 := by
    have hlength := length_le_moreLines lead gap fields
    refine ⟨2 * (layout lead gap tail first fields).length - fields.length - 1, ?_⟩
    simp only [layout, List.length_cons, List.length_append]
    omega
  rw [JsonValue.parse, String.toList_ofList, hspare, layout, List.append_assoc, List.append_assoc,
    parseValue_object (skipBlank_line hlead first _)
      (parseMembers_lines hlead hgap htail first fields spare [])]
  rfl

end Layout

theorem intercalate_cons (sep first : List Char) (lines : List (List Char)) :
    List.intercalate sep (first :: lines) = first ++ lines.flatMap (sep ++ ·) := by
  induction lines generalizing first with
  | nil => simp
  | cons next lines ih =>
    rw [List.intercalate_cons_cons, ih, List.flatMap_cons, List.append_assoc, List.append_assoc]

/-- **A record with a line for each field** is read as the object of its fields. -/
theorem parse_pretty (first : Field) (fields : List Field) :
    JsonValue.parse (String.ofList (pretty ((first :: fields).map Field.entry))) =
      some (.object ((first :: fields).map Field.member)) := by
  have hlayout : pretty ((first :: fields).map Field.entry) =
      layout ['\n', ' ', ' '] [' '] ['\n'] first fields := by
    simp [pretty, layout, moreLines, Field.line, Field.entry, intercalate_cons, List.flatMap_map]
  rw [hlayout]
  exact parse_layout (by decide) (by decide) (by decide) first fields

/-- **A record on one line** is read as the object of its fields. -/
theorem parse_compact (first : Field) (fields : List Field) :
    JsonValue.parse (String.ofList (compact ((first :: fields).map Field.entry))) =
      some (.object ((first :: fields).map Field.member)) := by
  have hlayout : compact ((first :: fields).map Field.entry) = layout [] [] [] first fields := by
    simp [compact, layout, moreLines, Field.line, Field.entry, intercalate_cons, List.flatMap_map]
  rw [hlayout]
  exact parse_layout (by decide) (by decide) (by decide) first fields

/-! ## Taking a record apart -/

/-- A field is found by its name, if no other field has it. -/
theorem member?_of_mem {fields : List Field} (hnames : (fields.map Field.name).Nodup)
    {field : Field} (h : field ∈ fields) :
    member? (fields.map fun field => (field.name, field.value)) field.name =
      some (some field.value) := by
  have hfilter : (fields.map fun field => (field.name, field.value)).filter
      (fun member => member.1 == field.name) = [(field.name, field.value)] := by
    induction fields with
    | nil => cases h
    | cons other fields ih =>
      obtain ⟨hother, hnames⟩ := List.nodup_cons.1 hnames
      have hdiffer : ∀ later ∈ fields, later.name ≠ other.name :=
        fun later hlater heq => hother (heq ▸ List.mem_map_of_mem hlater)
      rw [List.map_cons]
      obtain rfl | h := List.mem_cons.1 h
      · rw [List.filter_cons_of_pos (by simp), List.filter_eq_nil_iff.2]
        simpa using hdiffer
      · rw [List.filter_cons_of_neg (by simpa using (hdiffer field h).symm), ih hnames h]
  rw [member?, hfilter]

theorem mapM_eq_map {α β : Type} {f : α → Option β} {g : α → β} {items : List α}
    (h : ∀ a ∈ items, f a = some (g a)) : items.mapM f = some (items.map g) := by
  induction items with
  | nil => rfl
  | cons a items ih =>
    obtain ⟨ha, hitems⟩ := List.forall_mem_cons.1 h
    rw [List.mapM_cons, ha, ih hitems]
    rfl

/-- **The fields of a record** are the values of its members. -/
theorem fields?_object (least : Nat) {fields : List Field}
    (hnames : (fields.map Field.name).Nodup) :
    fields? least (fields.map Field.name) (.object (fields.map Field.member)) =
      some (fields.map fun field => some field.value) := by
  rw [fields?, List.mapM_map, mapM_eq_map (g := fun field => (field.name, field.value)),
    Option.bind_eq_bind, Option.bind_some, List.mapM_map]
  · exact mapM_eq_map fun field hfield => member?_of_mem hnames hfield
  · exact fun _ _ => rfl

end JsonText

end SimCard
