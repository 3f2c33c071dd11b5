import SimCard.Card.InfoText
import SimCard.Proofs.JsonTexts

/-!
# Summaries that come back

The summary of a card is handed on as a JSON record with seven fields, and each of them may be
unknown.  Whoever reads the record gets the summary that was written, whatever characters its texts
are made of.

What is written stands for a tree (`CardInfo.toJson`): the fields in their order, with null for what
is unknown.  The way there and back is by way of this tree.  The text is read as it
(`CardInfo.parse_toText`), and the summary is found in it (`CardInfo.ofJson?_toJson`): a text that
spells null is still a text, and a flag that is off is still known.
-/

set_option autoImplicit false

namespace SimCard

namespace CardInfo

open JsonText JsonValue

variable (info : CardInfo)

/-- **The tree of a summary**: all of its fields in order, null where nothing is known. -/
def toJson : JsonValue :=
  .object ((fieldNames.map some).zip [
    orNull (.text <| some ·) info.identity,
    orNull (.text <| some ·) info.country,
    orNull (.text <| some ·) info.network,
    orNull (.text <| some ·) info.provider,
    orNull (.text <| some ·) info.ownNumber,
    orNull .bool info.showsNetwork,
    orNull .bool info.showsProvider])

/-- The fields of the record, with the values that they spell. -/
def record : List Field :=
  [⟨"iccid", _, _, spells_ofOption spells_quote info.identity⟩,
    ⟨"mcc", _, _, spells_ofOption spells_quote info.country⟩,
    ⟨"mnc", _, _, spells_ofOption spells_quote info.network⟩,
    ⟨"spn", _, _, spells_ofOption spells_quote info.provider⟩,
    ⟨"msisdn", _, _, spells_ofOption spells_quote info.ownNumber⟩,
    ⟨"is_display_network_name_required", _, _, spells_ofOption spells_ofBool info.showsNetwork⟩,
    ⟨"is_display_spn_required", _, _, spells_ofOption spells_ofBool info.showsProvider⟩]

theorem toText_eq_compact : info.toText = String.ofList (compact (info.record.map Field.entry)) :=
  rfl

theorem toJson_eq_object : info.toJson = .object (info.record.map Field.member) := rfl

/-- **The text of a summary is read as its tree.** -/
theorem parse_toText : JsonValue.parse info.toText = some info.toJson := by
  rw [toText_eq_compact, toJson_eq_object]
  exact parse_compact _ _

theorem optional_text (text : Option String) :
    optional text? (some (orNull (.text <| some ·) text)) = some text := by
  cases text <;> rfl

theorem optional_bool (flag : Option Bool) :
    optional bool? (some (orNull .bool flag)) = some flag := by
  cases flag <;> rfl

/-- **The summary is found in its tree.** -/
theorem ofJson?_toJson : ofJson? info.toJson = some info := by
  have hnames : fieldNames = info.record.map Field.name := rfl
  have hnodup : (info.record.map Field.name).Nodup := by
    rw [← hnames]
    decide
  rw [ofJson?, hnames, toJson_eq_object, fields?_object 7 hnodup]
  simp [record, optional_text, optional_bool]

/-- **A summary survives being written and read.**  Its text is the record of all of its fields in
order, in which quote, backslash and control characters are escaped and no others are, and it is
read as the summary that was written. -/
theorem summary_is_read_back :
    ofText? info.toText = some info ∧ JsonValue.parse info.toText = some info.toJson ∧
      ∀ c, escape c = [c] ↔ c ≠ '\x22' ∧ c ≠ '\x5c' ∧ 0x20 ≤ c.toNat := by
  refine ⟨?_, info.parse_toText, escape_eq_self_iff⟩
  rw [ofText?, info.parse_toText, Option.bind_some, ofJson?_toJson]

end CardInfo

end SimCard
