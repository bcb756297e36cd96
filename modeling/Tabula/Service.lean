import Tabula.Query.RequestJson
import Tabula.Settings.Codec
import Tabula.Store.Transaction

/-!
# The service

Requests to fetch, save and delete rows. Every request looks up its tables afresh, is compiled
completely before it touches a row, and writes in one transaction: either all of its statements
succeed or none has an effect on the rows. Requests and answers also have a JSON form.
-/

namespace Tabula

/-- Failures of a request. -/
inductive ServiceError where
  | query (error : QueryError)
  | write (error : WriteError)
  | store (error : StoreError)
  | schema (error : SchemaError)
  | batchTooLarge (limit : UInt64)
  | refused (refusal : Refusal)
  | unknownOperation (name : String)

/-- The report of a failure. -/
def ServiceError.report : ServiceError → Report
  | .query error => error.report
  | .write error => error.report
  | .store error => error.report
  | .schema error => error.report
  | .batchTooLarge limit =>
    ⟨.validation, s!"Only {limit.toNat} records allowed at a time.", none⟩
  | .refused refusal => ⟨.validation, s!"invalid request: {refusal.message}", none⟩
  | .unknownOperation name => ⟨.validation, s!"unknown operation {name}", none⟩

/-- A service: its engine and the limits of save requests. -/
structure Service where
  engine : Engine
  save : SaveSettings
deriving DecidableEq

namespace Service

/-- A service with the databases and limits of its settings. -/
def ofSettings (settings : ServiceSettings) : Except SettingsError Service := do
  return ⟨← settings.engine.build, settings.save⟩

/-! ### Requests -/

/-- Fetches rows, as records under the names of the requested fields. -/
def fetchRecords (service : Service) (request : FetchRequest) :
    Except ServiceError (List Record) := do
  let plan ← (SelectPlan.ofRequest service.engine.registry request).mapError ServiceError.query
  let rows ← (plan.run service.engine).mapError ServiceError.store
  return rows.map (Record.ofRow request.fields)

/-- Carries out statements in a transaction until one fails. -/
def writeAll (transaction : Transaction) :
    List WriteStatement → Except StoreError (List RowKey) × Transaction
  | [] => (.ok [], transaction)
  | statement :: rest =>
    match transaction.write statement with
    | (.error error, transaction) => (.error error, transaction)
    | (.ok key, transaction) =>
      let (keys, transaction) := writeAll transaction rest
      (keys.map (key :: ·), transaction)

/-- Ends a transaction: a success is kept, a failure undone. -/
def finish {A : Type} (service : Service) :
    Except StoreError A × Transaction → Except ServiceError A × Service
  | (.ok result, transaction) => (.ok result, { service with engine := transaction.commit })
  | (.error error, transaction) =>
    (.error (.store error), { service with engine := transaction.rollback })

/-- The statements of a write request. -/
def statements (service : Service) (request : WriteRequest) :
    Except ServiceError (List WriteStatement) := do
  if service.save.batchSize.toNat < request.items.length then
    throw (.batchTooLarge service.save.batchSize)
  let schema ← (service.engine.registry.resolve request.database request.table).mapError
    ServiceError.schema
  (WriteStatement.compile schema request.recordId request.items).mapError ServiceError.write

/-- Inserts all records, or updates the row with the given key, and gives the keys. -/
def saveRecords (service : Service) (request : WriteRequest) :
    Except ServiceError (List RowKey) × Service :=
  match service.statements request with
  | .error error => (.error error, service)
  | .ok statements => service.finish (writeAll (.begin service.engine) statements)

/-- Deletes all matching rows and gives their keys. There must be at least one. -/
def deleteRows (service : Service) (request : DeleteRequest) :
    Except ServiceError (List RowKey) × Service :=
  match DeletePlan.ofRequest service.engine.registry request with
  | .error error => (.error (.query error), service)
  | .ok plan => service.finish ((Transaction.begin service.engine).delete plan)

/-! ### JSON -/

/-- The answer to a request that succeeded. -/
def success (data : Json) (message : String) : Json :=
  .record [("data", data), ("message", .text message)]

/-- The answer to a request that failed. -/
def failure (error : ServiceError) : Json :=
  let report := error.report
  .record [("error", .record [
    ("kind", .text report.kind.name),
    ("message", .text report.message),
    ("field", .ofText? report.field)])]

/-- The answer of a request, with the wording for its success. -/
def answer {A : Type} (toJson : A → Json) (message : String) : Except ServiceError A → Json
  | .ok result => success (toJson result) message
  | .error error => failure error

/-- The JSON form of the keys of an answer. -/
def keysJson (keys : List RowKey) : Json := .list (keys.map RowKey.toJson)

/-- The JSON form of the records of an answer. -/
def recordsJson (records : List Record) : Json := .list (records.map Record.toJson)

/-- Reads the body of a request and carries the request out; a body that cannot be read changes
nothing. -/
def withBody {A : Type} (service : Service) (decode : Decoder A) (body : String)
    (carryOut : A → Json × Service) : Json × Service :=
  match decode.ofText body with
  | .error refusal => (failure (.refused refusal), service)
  | .ok request => carryOut request

/-- Answers the request of an operation with a JSON text as its body. -/
def handle (service : Service) (operation body : String) : Json × Service :=
  match operation with
  | "fetch" =>
    service.withBody FetchRequest.decode body fun request =>
      (answer recordsJson "Fetch Success" (service.fetchRecords request), service)
  | "save" =>
    service.withBody WriteRequest.decode body fun request =>
      let (result, service) := service.saveRecords request
      let message :=
        if request.recordId.isSome then "updated successfully" else "saved successfully"
      (answer keysJson message result, service)
  | "delete" =>
    service.withBody DeleteRequest.decode body fun request =>
      let (result, service) := service.deleteRows request
      (answer keysJson "deleted successfully" result, service)
  | name => (failure (.unknownOperation name), service)

end Service

end Tabula
