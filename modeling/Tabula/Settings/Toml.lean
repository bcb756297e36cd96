import Tabula.Settings.Codec
import Tabula.Toml.Document

/-!
# Settings in TOML

Settings files are TOML documents. Dates are given as strings there, since a date of TOML is no
value of a column.
-/

namespace Tabula

/-- Reads settings from a document with a decoder of their tree. -/
def settingsOfToml {A : Type} (decode : Decoder A) (text : String) : Except SettingsError A :=
  match Toml.parse? text with
  | none => .error .unreadable
  | some json => (decode json).mapError fun _ => .unreadable

/-- Reads the settings of an engine. -/
def EngineSettings.ofToml : String → Except SettingsError EngineSettings :=
  settingsOfToml (EngineSettings.decode Toml.dialect)

/-- Reads the settings of a service. -/
def ServiceSettings.ofToml : String → Except SettingsError ServiceSettings :=
  settingsOfToml (ServiceSettings.decode Toml.dialect)

end Tabula
