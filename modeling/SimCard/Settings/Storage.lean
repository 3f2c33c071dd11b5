import SimCard.Settings.Text
import SimCard.Storage.Basic

/-!
# Where settings are kept

Settings live in a file.  `Settings.save` makes the folders it needs.  `Settings.load` never fails:
where there are no settings to be had, it gives the usual ones.
-/

set_option autoImplicit false

namespace SimCard

/-- Why settings cannot be read or kept. -/
inductive SettingsError where
  /-- The file cannot be read or written. -/
  | storage
  /-- The file holds no settings. -/
  | text
deriving Repr, DecidableEq

namespace Settings

/-- The settings in a file. -/
def ofFile (storage : Storage) (path : Path) : Except SettingsError Settings :=
  match storage.readText? path with
  | none => .error .storage
  | some text =>
    match ofText? text with
    | none => .error .text
    | some settings => .ok settings

/-- The file of the settings of an application: the one that is given, or the one that the
environment names, or the usual one under the user's own folder of settings. -/
def path? (given environment home : Option Path) (application : String) : Option Path :=
  given <|> environment <|> home.map (·.append [application, "config.json"])

/-- The settings in a file, or the usual ones if there is no file or nothing to be made of it. -/
def load (storage : Storage) (path : Option Path) : Settings :=
  match path with
  | none => {}
  | some path =>
    match ofFile storage path with
    | .ok settings => settings
    | .error _ => {}

/-- **Keep settings** in a file, making the folders that it lies in.  The folders stay even if the
file cannot be written. -/
def save (settings : Settings) (storage : Storage) (path : Path) :
    Except SettingsError Unit × Storage :=
  match storage.makeFolders path.folder with
  | (false, storage) => (.error .storage, storage)
  | (true, storage) =>
    match storage.write? path settings.toText.toUTF8.data.toList with
    | none => (.error .storage, storage)
    | some storage => (.ok (), storage)

end Settings

end SimCard
