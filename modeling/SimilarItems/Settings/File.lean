import SimilarItems.Settings.Toml

/-!
# The settings file

Settings are kept in a TOML file. Without the file, and when it cannot be read, everything has its
default.
-/

namespace SimilarItems

/-- What is found in the place of the settings file. -/
inductive SettingsFile where
  /-- Nothing. -/
  | missing
  /-- Something that is no file. -/
  | unreadable
  /-- A file with the given bytes. -/
  | bytes (content : ByteArray)

/-- What is wrong with a settings file. -/
inductive SettingsFault where
  /-- It is no file, or its bytes are no text. -/
  | unreadable
  /-- Its text gives no settings. -/
  | malformed
deriving DecidableEq

/-- The wording of a fault. -/
def SettingsFault.message : SettingsFault → String
  | unreadable => "Failed to read"
  | malformed => "Failed to parse"

/-- The settings that a text gives. -/
def Settings.ofText? (s : String) : Option Settings := (Toml.parse? s).bind Settings.ofToml?

namespace SettingsFile

/-- The settings of a file, or what is wrong with it. -/
def read : SettingsFile → Except SettingsFault Settings
  | missing => .ok .default
  | unreadable => .error .unreadable
  | bytes content =>
    match String.fromUTF8? content with
    | none => .error .unreadable
    | some text =>
      match Settings.ofText? text with
      | none => .error .malformed
      | some s => .ok s

/-- The settings that hold, and the fault that was found. -/
def load (f : SettingsFile) : Settings × Option SettingsFault :=
  match f.read with
  | .ok s => (s, none)
  | .error fault => (.default, some fault)

end SettingsFile

end SimilarItems
