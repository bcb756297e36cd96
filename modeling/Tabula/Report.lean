/-!
# Error reports

What a caller is told about a failed request: the kind of failure, a message, and the field at
fault if there is a single one. Every error type of the library has its report.
-/

namespace Tabula

/-- The kinds of failure that callers tell apart. -/
inductive ErrorKind where
  /-- A database, table or column does not exist, or a description is not lawful. -/
  | schema
  /-- The content of a request is wrong, whatever the tables hold. -/
  | validation
  /-- A record does not conform to the rules of its table. -/
  | writeValidation
  /-- No row is concerned. -/
  | notFound
  /-- The store rejects a statement. -/
  | execution
deriving DecidableEq, Repr

/-- The name of a kind in answers. -/
def ErrorKind.name : ErrorKind → String
  | .schema => "SchemaError"
  | .validation => "ValidationError"
  | .writeValidation => "WriteValidationError"
  | .notFound => "NotFoundError"
  | .execution => "ExecutionError"

/-- What a caller is told about a failure. -/
structure Report where
  kind : ErrorKind
  message : String
  field : Option String
deriving DecidableEq, Repr

end Tabula
