import SimCard.Proofs.JsonTexts
import SimCard.Settings.Storage

/-!
# Settings that come back

Settings are kept in a file, as a JSON record with the profile in base 64.  What was saved is what
is loaded, for all settings and wherever the file lies.  Three things come together here.

* **Base 64.**  Three octets are four digits, and one or two that are left over are filled up.
  Reading takes the same steps backwards (`Base64.decode_encode`); no octets at all are no digits,
  and nothing is made of them but no octets.
* **The record.**  Every field is there, so none gets its usual value: the settings are read from
  the text as they were written (`Settings.ofText?_toText`).
* **The file.**  Writing a file changes no folder, so its path leads to the same place afterwards
  (`Storage.follow?_congr`), and there is what was written (`Storage.read?_of_write?`).
-/

set_option autoImplicit false

namespace SimCard

/-! ## Base 64 -/

namespace Base64

theorem value?_digit {value : Nat} (h : value < 64) : value? (digit value) = some value := by
  revert value
  decide

theorem digit_ne_fill {value : Nat} (h : value < 64) : digit value ≠ '=' := by
  revert value
  decide

/-- Three octets come back from their four digits. -/
theorem decodeFour_digits (a b c : UInt8) :
    decodeFour (digit (a.toNat / 4)) (digit (a.toNat % 4 * 16 + b.toNat / 16))
      (digit (b.toNat % 16 * 4 + c.toNat / 64)) (digit (c.toNat % 64)) = some [a, b, c] := by
  have ha := a.toNat_lt
  have hb := b.toNat_lt
  have hc := c.toNat_lt
  have hfirst : a.toNat / 4 * 4 + (a.toNat % 4 * 16 + b.toNat / 16) / 16 = a.toNat := by omega
  have hsecond : (a.toNat % 4 * 16 + b.toNat / 16) % 16 * 16 +
      (b.toNat % 16 * 4 + c.toNat / 64) / 4 = b.toNat := by omega
  have hthird : (b.toNat % 16 * 4 + c.toNat / 64) % 4 * 64 + c.toNat % 64 = c.toNat := by omega
  rw [decodeFour, value?_digit (by omega), value?_digit (by omega), value?_digit (by omega),
    value?_digit (by omega)]
  simp only [Option.bind_eq_bind, Option.bind_some, hfirst, hsecond, hthird, UInt8.ofNat_toNat]
  rfl

/-- Four digits without filling are read on their own, also at the end. -/
theorem decode_four {a b c d : Char} {rest : List Char} {octets more : Octets} (hd : d ≠ '=')
    (hfour : decodeFour a b c d = some octets) (hrest : decode rest = some more) :
    decode (a :: b :: c :: d :: rest) = some (octets ++ more) := by
  cases rest with
  | nil =>
    rw [decode] at hrest
    obtain rfl := Option.some.inj hrest
    rw [decode, decodeLast, if_neg hd, hfour, List.append_nil]
  | cons e rest =>
    rw [decode, hfour, hrest]
    · rfl
    · simp

/-- **Octets come back from their digits.** -/
theorem decode_encode (octets : Octets) : decode (encode octets) = some octets := by
  fun_induction encode octets with
  | case1 => rfl
  | case2 a =>
    have ha := a.toNat_lt
    have hoctet : a.toNat / 4 * 4 + a.toNat % 4 * 16 / 16 = a.toNat := by omega
    rw [decode, decodeLast, if_pos rfl, if_pos rfl, value?_digit (by omega),
      value?_digit (by omega)]
    simp only [Option.bind_eq_bind, Option.bind_some, hoctet, UInt8.ofNat_toNat]
    rw [if_pos (by omega)]
  | case3 a b =>
    have ha := a.toNat_lt
    have hb := b.toNat_lt
    have hfirst : a.toNat / 4 * 4 + (a.toNat % 4 * 16 + b.toNat / 16) / 16 = a.toNat := by omega
    have hsecond :
        (a.toNat % 4 * 16 + b.toNat / 16) % 16 * 16 + b.toNat % 16 * 4 / 4 = b.toNat := by omega
    rw [decode, decodeLast, if_pos rfl, if_neg (digit_ne_fill (by omega)), value?_digit (by omega),
      value?_digit (by omega), value?_digit (by omega)]
    simp only [Option.bind_eq_bind, Option.bind_some, hfirst, hsecond, UInt8.ofNat_toNat]
    rw [if_pos (by omega)]
  | case4 a b c rest ih =>
    exact decode_four (digit_ne_fill (by omega)) (decodeFour_digits a b c) ih

end Base64

/-! ## The record -/

theorem Language.ofName?_name (language : Language) :
    Language.ofName? language.name = some language := by
  cases language <;> decide

namespace Settings

open JsonText JsonValue

/-- The fields of the record, with the values that they spell. -/
def record (settings : Settings) : List Field :=
  [⟨"language", _, _, spells_quote settings.language.name⟩,
    ⟨"language_shift", _, _, spells_quote settings.shift.name⟩,
    ⟨"terminal_profile", _, _, spells_quote (String.ofList (Base64.encode settings.profile))⟩,
    ⟨"debug", _, _, spells_ofBool settings.debug⟩]

theorem toText_eq (settings : Settings) :
    settings.toText = String.ofList (pretty (settings.record.map Field.entry)) := rfl

theorem fieldNames_eq (settings : Settings) : fieldNames = settings.record.map Field.name := rfl

theorem ofJson?_record (settings : Settings) :
    ofJson? (.object (settings.record.map Field.member)) = some settings := by
  have hnames : (settings.record.map Field.name).Nodup := by
    rw [← fieldNames_eq]
    decide
  rw [ofJson?, fieldNames_eq settings, fields?_object 0 hnames]
  simp [record, withDefault, languageOfJson?, profileOfJson?, Language.ofName?_name,
    Base64.decode_encode, text?, bool?]

/-- **The settings are read from their text.** -/
theorem ofText?_toText (settings : Settings) : ofText? settings.toText = some settings := by
  have hparse : JsonValue.parse settings.toText =
      some (.object (settings.record.map Field.member)) := by
    rw [toText_eq]
    exact parse_pretty _ _
  rw [ofText?, hparse, Option.bind_some, ofJson?_record]

end Settings

/-! ## The file -/

namespace Storage

variable {storage storage' : Storage} {place other : Place} {path : Path} {content : Octets}

theorem lookup_filter_ne {entries : List (Place × Stored)} (h : other ≠ place) :
    (entries.filter (·.1 != place)).lookup other = entries.lookup other := by
  induction entries with
  | nil => rfl
  | cons entry entries ih =>
    obtain ⟨key, stored⟩ := entry
    by_cases hkey : key = place
    · subst hkey
      rw [List.filter_cons_of_neg (by simp), ih, List.lookup_cons, beq_eq_false_iff_ne.2 h]
    · rw [List.filter_cons_of_pos (by simpa using hkey), List.lookup_cons, List.lookup_cons, ih]

theorem find?_put_of_ne (stored : Stored) (h : other ≠ place) :
    (storage.put place stored).find? other = storage.find? other := by
  cases other with
  | top => rfl
  | start above => rfl
  | inside outer name =>
    rw [find?, find?, put, List.lookup_cons, lookup_filter_ne h, beq_eq_false_iff_ne.2 h]

/-- What is put at a place is there, unless a folder must be there. -/
theorem find?_put_self (stored : Stored) (h : storage.find? place ≠ some .folder) :
    (storage.put place stored).find? place = some stored := by
  cases place with
  | top => exact absurd rfl h
  | start above => exact absurd rfl h
  | inside outer name =>
    rw [find?, put, List.lookup_cons]
    simp

/-- A file that is put where no folder is leaves the folders as they are. -/
theorem find?_put_file_iff (h : storage.find? place ≠ some .folder) (other : Place) :
    (storage.put place (.file content)).find? other = some .folder ↔
      storage.find? other = some .folder := by
  by_cases hother : other = place
  · subst hother
    rw [find?_put_self _ h]
    exact iff_of_false (by simp) h
  · rw [find?_put_of_ne _ hother]

/-- **Steps lead to the same place** in storages with the same folders. -/
theorem follow?_congr
    (h : ∀ other, storage'.find? other = some .folder ↔ storage.find? other = some .folder)
    (place : Place) (steps : List PathStep) :
    storage'.follow? place steps = storage.follow? place steps := by
  induction steps generalizing place with
  | nil => rfl
  | cons step steps ih => simp only [follow?, h, ih]

/-- **A file that was written** is there to be read. -/
theorem read?_of_write? (h : storage.write? path content = some storage') :
    storage'.read? path = some content := by
  unfold write? at h
  split at h
  · cases h
  · rename_i place hplace
    split at h
    · cases h
    · rename_i hfree
      obtain rfl := Option.some.inj h
      have hplace' : (storage.put place (.file content)).place? path = some place := by
        rw [← hplace, place?, place?, follow?_congr (find?_put_file_iff hfree)]
      rw [read?, hplace', Option.bind_some, find?_put_self _ hfree]

/-- A text that was written is read as it is. -/
theorem readText?_of_write? {text : String}
    (h : storage.write? path text.toUTF8.data.toList = some storage') :
    storage'.readText? path = some text := by
  rw [readText?, read?_of_write? h, Option.bind_some, String.fromUTF8?]
  exact dif_pos text.isValidUTF8

end Storage

namespace Settings

/-- The settings in a file that holds their text. -/
theorem ofFile_of_readText? {settings : Settings} {storage : Storage} {path : Path}
    (h : storage.readText? path = some settings.toText) : ofFile storage path = .ok settings := by
  simp only [ofFile, h, ofText?_toText]

/-- Settings that were saved are in the file as their text. -/
theorem readText?_of_save {settings : Settings} {storage storage' : Storage} {path : Path}
    (h : settings.save storage path = (.ok (), storage')) :
    storage'.readText? path = some settings.toText := by
  unfold save at h
  split at h
  · cases h
  · split at h
    · cases h
    · rename_i hwrite
      cases h
      exact Storage.readText?_of_write? hwrite

/-- **Saved settings are loaded unchanged.**  The text of any settings is read as these settings, so
a file that holds it does; and it is what a file holds after the settings were saved there. -/
theorem saved_settings_come_back (settings : Settings) (storage : Storage) (path : Path) :
    ofText? settings.toText = some settings ∧
      (storage.readText? path = some settings.toText → ofFile storage path = .ok settings) ∧
      ∀ storage', settings.save storage path = (.ok (), storage') →
        ofFile storage' path = .ok settings ∧ load storage' (some path) = settings := by
  refine ⟨ofText?_toText settings, ofFile_of_readText?, fun storage' hsave => ?_⟩
  have hfile := ofFile_of_readText? (readText?_of_save hsave)
  exact ⟨hfile, by simp only [load, hfile]⟩

/-- Settings without any profile, and a path into a folder that has to be made. -/
theorem saved_settings_come_back_empty_profile :
    let settings : Settings :=
      { language := .turkish, shift := .spanish, profile := [], debug := true }
    let path : Path := ⟨[.name "nested", .name "config.json"]⟩
    (settings.save {} path).1 = .ok () ∧ ofFile (settings.save {} path).2 path = .ok settings := by
  refine ⟨rfl, ?_⟩
  exact ((saved_settings_come_back _ {} _).2.2 _ rfl).1

end Settings

end SimCard
