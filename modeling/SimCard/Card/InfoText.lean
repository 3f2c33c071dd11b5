import SimCard.Card.Info
import SimCard.Json.Basic

/-!
# The text of a card's summary

A `CardInfo` is handed to others as a JSON record on one line, with null for what is not known.  It
can be read back: a field that is absent is not known either, and the fields may also stand in an
array, all seven of them.
-/

set_option autoImplicit false

namespace SimCard

namespace CardInfo

/-- The fields of the record, in order. -/
def fieldNames : List String :=
  ["iccid", "mcc", "mnc", "spn", "msisdn", "is_display_network_name_required",
   "is_display_spn_required"]

/-- The summary in a record. -/
def ofJson? (value : JsonValue) : Option CardInfo := do
  match ← value.fields? 7 fieldNames with
  | [identity, country, network, provider, ownNumber, showsNetwork, showsProvider] =>
    let identity ← JsonValue.optional JsonValue.text? identity
    let country ← JsonValue.optional JsonValue.text? country
    let network ← JsonValue.optional JsonValue.text? network
    let provider ← JsonValue.optional JsonValue.text? provider
    let ownNumber ← JsonValue.optional JsonValue.text? ownNumber
    let showsNetwork ← JsonValue.optional JsonValue.bool? showsNetwork
    let showsProvider ← JsonValue.optional JsonValue.bool? showsProvider
    return { identity, country, network, provider, ownNumber, showsNetwork, showsProvider }
  | _ => none

/-- The summary in a text. -/
def ofText? (text : String) : Option CardInfo := (JsonValue.parse text).bind ofJson?

/-- The text of a summary. -/
def toText (info : CardInfo) : String :=
  String.ofList (JsonText.compact (fieldNames.zip [
    JsonText.ofOption JsonText.quote info.identity,
    JsonText.ofOption JsonText.quote info.country,
    JsonText.ofOption JsonText.quote info.network,
    JsonText.ofOption JsonText.quote info.provider,
    JsonText.ofOption JsonText.quote info.ownNumber,
    JsonText.ofOption JsonText.ofBool info.showsNetwork,
    JsonText.ofOption JsonText.ofBool info.showsProvider]))

end CardInfo

end SimCard
