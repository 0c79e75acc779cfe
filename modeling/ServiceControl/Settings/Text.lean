import ServiceControl.Settings.Validation
import ServiceControl.Toml.Document

/-!
# Settings files

A settings file is a TOML document in UTF-8.
-/

namespace ServiceControl.Settings

/-- Reads and validates settings. -/
def parse (text : String) : Except SettingsError Settings :=
  match (Toml.parse? text).bind (ofData? true) with
  | some s => s.validate
  | none => .error .parse

/-- Reads the contents of a file, or of none. -/
def load (contents : Option ByteArray) : Except SettingsError Settings :=
  match contents with
  | none => .error (.io "No such file or directory (os error 2)")
  | some bytes =>
    match String.fromUTF8? bytes with
    | some text => parse text
    | none => .error (.io "stream did not contain valid UTF-8")

end ServiceControl.Settings
