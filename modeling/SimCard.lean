import SimCard.Octets
import SimCard.Step
import SimCard.Cursor
import SimCard.Parcel
import SimCard.Text.Alphabet
import SimCard.Text.Septets
import SimCard.Text.EightBit
import SimCard.Text.Utf16
import SimCard.Text.AlphaIdentifier
import SimCard.Text.NetworkName
import SimCard.Number.SemiOctet
import SimCard.Number.NetworkCode
import SimCard.Number.Dialling
import SimCard.Number.DirectoryEntry
import SimCard.Number.Timestamp
import SimCard.Element.Tag
import SimCard.Element.Length
import SimCard.Element.Value
import SimCard.Element.Basic
import SimCard.Settings.Basic
import SimCard.Toolkit.Command
import SimCard.Toolkit.Response
import SimCard.Toolkit.Session
import SimCard.File.Status
import SimCard.File.Command
import SimCard.File.Directory
import SimCard.File.Access
import SimCard.Card.Service
import SimCard.Card.Phonebook
import SimCard.Card.Info
import SimCard.Card.Files
import SimCard.Card.Session
import SimCard.Card.Simulated
import SimCard.Json.Basic
import SimCard.Json.Base64
import SimCard.Settings.Text
import SimCard.Storage.Path
import SimCard.Storage.Basic
import SimCard.Settings.Storage
import SimCard.Card.InfoText
import SimCard.Proofs.Framing
import SimCard.Proofs.Templates
import SimCard.Proofs.AcceptedInput
import SimCard.Proofs.LengthFields
import SimCard.Proofs.Alphabets
import SimCard.Proofs.EightBitFields
import SimCard.Proofs.Septets
import SimCard.Proofs.PackedTexts
import SimCard.Proofs.AlphaIdentifiers
import SimCard.Proofs.CodedNames
import SimCard.Proofs.SemiOctets
import SimCard.Proofs.DigitStrings
import SimCard.Proofs.Timestamps
import SimCard.Proofs.NormalForm
import SimCard.Proofs.Messages
import SimCard.Proofs.TimerValues
import SimCard.Proofs.ToolkitSessions
import SimCard.Proofs.Truncation
import SimCard.Proofs.CommandParameters
import SimCard.Proofs.Parcels
import SimCard.Proofs.Refusals
import SimCard.Proofs.CommandPayloads
import SimCard.Proofs.FileViews
import SimCard.Proofs.SessionReaders
import SimCard.Proofs.CardSessions
import SimCard.Proofs.FileLoading
import SimCard.Proofs.WholeFiles
import SimCard.Proofs.RecordWalks
import SimCard.Proofs.ProvidedRecords
import SimCard.Proofs.RecordRequests
import SimCard.Proofs.FileUses
import SimCard.Proofs.Startup
import SimCard.Proofs.DirectoryEntries
import SimCard.Proofs.Budgets
import SimCard.Proofs.Directories
import SimCard.Proofs.PhonebookRecords
import SimCard.Proofs.Responses
import SimCard.Proofs.TextStrings
import SimCard.Proofs.NetworkCodes
import SimCard.Proofs.Envelopes
import SimCard.Proofs.NetworkNames
import SimCard.Proofs.ProviderNetworks
import SimCard.Proofs.JsonTexts
import SimCard.Proofs.SavedSettings
import SimCard.Proofs.CardSummaries
import SimCard.Proofs.Machine.Basic
import SimCard.Proofs.Machine.Reading
import SimCard.Proofs.Machine.Texts
import SimCard.Proofs.Machine.Septets
import SimCard.Proofs.Machine.Numbers
import SimCard.Proofs.Machine.PairedDigits
import SimCard.Proofs.Machine.Values
import SimCard.Proofs.Machine.Commands
