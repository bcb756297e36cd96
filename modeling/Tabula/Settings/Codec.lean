import Tabula.Settings.Basic

/-!
# Settings as trees

The forms of the settings in JSON and in other formats that denote the same trees. Unknown fields
are passed over. Writing settings leaves out the defaults and limits that a column does not have.
-/

namespace Tabula

namespace ColumnSpec

/-- Reads the description of a column. -/
def decode (dialect : Dialect) : Decoder ColumnSpec :=
  .record dialect "ColumnConfig" false
    (ColumnSpec.mk
      <$> .required "name" .text
      <*> .required "type" (ScalarType.decode dialect)
      <*> .defaulted "nullable" .bool false
      <*> .defaulted "primary_key" .bool false
      <*> .defaulted "auto_increment" .bool false
      <*> .defaulted "default" (.optional Value.decode) none
      <*> .defaulted "max_len" (.optional .uint32) none)

/-- The tree of the description of a column. -/
def toJson (spec : ColumnSpec) : Json :=
  .record ([
    ("name", .text spec.name),
    ("type", .text spec.type.name),
    ("nullable", .bool spec.isNullable),
    ("primary_key", .bool spec.isPrimaryKey),
    ("auto_increment", .bool spec.isAutoIncrement)] ++
    (spec.default.map fun value => ("default", value.toJson)).toList ++
    (spec.maxLength.map fun length => ("max_len", Json.ofUInt32 length)).toList)

end ColumnSpec

namespace TableSpec

/-- Reads the description of a table. -/
def decode (dialect : Dialect) : Decoder TableSpec :=
  .record dialect "TableConfig" false
    (TableSpec.mk
      <$> .required "name" .text
      <*> .required "columns" (.list (ColumnSpec.decode dialect)))

/-- The tree of the description of a table. -/
def toJson (spec : TableSpec) : Json :=
  .record [("name", .text spec.name), ("columns", .list (spec.columns.map ColumnSpec.toJson))]

end TableSpec

namespace DatabaseSettings

/-- Reads the settings of a database. -/
def decode (dialect : Dialect) : Decoder DatabaseSettings :=
  .record dialect "DatabaseConfig" false
    (DatabaseSettings.mk
      <$> .required "name" .text
      <*> .defaulted "tables" (.list (TableSpec.decode dialect)) [])

/-- The tree of the settings of a database. -/
def toJson (settings : DatabaseSettings) : Json :=
  .record [
    ("name", .text settings.name),
    ("tables", .list (settings.tables.map TableSpec.toJson))]

end DatabaseSettings

namespace EngineSettings

/-- Reads the settings of an engine. -/
def decode (dialect : Dialect) : Decoder EngineSettings :=
  .record dialect "EngineConfig" false
    (EngineSettings.mk <$> .defaulted "databases" (.list (DatabaseSettings.decode dialect)) [])

/-- The tree of the settings of an engine. -/
def toJson (settings : EngineSettings) : Json :=
  .record [("databases", .list (settings.databases.map DatabaseSettings.toJson))]

end EngineSettings

namespace SaveSettings

/-- Reads the limits of save requests. -/
def decode (dialect : Dialect) : Decoder SaveSettings :=
  .record dialect "SaveConfig" false
    (SaveSettings.mk <$> .defaulted "create_batch_size" .size standard.batchSize)

/-- The tree of the limits of save requests. -/
def toJson (settings : SaveSettings) : Json :=
  .record [("create_batch_size", .ofUInt64 settings.batchSize)]

end SaveSettings

namespace ServiceSettings

/-- Reads the settings of a service. -/
def decode (dialect : Dialect) : Decoder ServiceSettings :=
  .record dialect "ServerConfig" false
    (ServiceSettings.mk
      <$> .defaulted "engine" (EngineSettings.decode dialect) .empty
      <*> .defaulted "save" (SaveSettings.decode dialect) .standard)

/-- Reads the settings of a service from a JSON text. -/
def ofJsonText : String → Except Refusal ServiceSettings := (decode .json).ofSpelledText

/-- The tree of the settings of a service. -/
def toJson (settings : ServiceSettings) : Json :=
  .record [("engine", settings.engine.toJson), ("save", settings.save.toJson)]

end ServiceSettings

end Tabula
