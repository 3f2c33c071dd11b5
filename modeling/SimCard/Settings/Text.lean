import SimCard.Json.Base64
import SimCard.Json.Basic
import SimCard.Settings.Basic

/-!
# The text of settings

Settings are kept as a JSON record.  Every field may be absent and then has its usual value.  The
profile is a text in base 64; a language goes by its name, which may also stand as the one member of
an object, with nothing for its value.
-/

set_option autoImplicit false

namespace SimCard

namespace Settings

/-- The fields of the record, in order. -/
def fieldNames : List String := ["language", "language_shift", "terminal_profile", "debug"]

/-- A language. -/
def languageOfJson? : JsonValue → Option Language
  | .text (some name) => Language.ofName? name
  | .object [(some name, .null)] => Language.ofName? name
  | _ => none

/-- A profile. -/
def profileOfJson? (value : JsonValue) : Option Octets := do
  let text ← value.text?
  Base64.decode text.toList

/-- The settings in a record. -/
def ofJson? (value : JsonValue) : Option Settings := do
  match ← value.fields? 0 fieldNames with
  | [language, shift, profile, debug] =>
    let language ← JsonValue.withDefault .standard languageOfJson? language
    let shift ← JsonValue.withDefault .standard languageOfJson? shift
    let profile ← JsonValue.withDefault standardProfile profileOfJson? profile
    let debug ← JsonValue.withDefault false JsonValue.bool? debug
    return { language, shift, profile, debug }
  | _ => none

/-- The settings in a text. -/
def ofText? (text : String) : Option Settings := (JsonValue.parse text).bind ofJson?

/-- The text of settings. -/
def toText (settings : Settings) : String :=
  String.ofList (JsonText.pretty (fieldNames.zip [
    JsonText.quote settings.language.name,
    JsonText.quote settings.shift.name,
    JsonText.quote (String.ofList (Base64.encode settings.profile)),
    JsonText.ofBool settings.debug]))

end Settings

end SimCard
