import Tabula.Proofs.Service.Integrity
import Tabula.Proofs.Strict.Transaction

/-!
# Positions in the requests to a service

The requests to a service once more, with every position checked: those at which conditions are
compiled, plans carried out, rows drafted, read, overwritten and removed, and changes undone. A
service that has been set up answers every sequence of requests without a position that is out of
range.
-/

namespace Tabula

/-- The answer to a request. -/
inductive ServiceAnswer where
  | fetched (result : Except ServiceError (List Record))
  | saved (result : Except ServiceError (List RowKey))
  | deleted (result : Except ServiceError (List RowKey))

namespace Service

/-- The answer to a request, and the service after it. -/
def answerTo (service : Service) : ServiceRequest → ServiceAnswer × Service
  | .fetch request => (.fetched (service.fetchRecords request), service)
  | .save request => (service.saveRecords request).map .saved id
  | .delete request => (service.deleteRows request).map .deleted id

/-- The answers to requests in their order, and the service after them. -/
def answers (service : Service) : List ServiceRequest → List ServiceAnswer × Service
  | [] => ([], service)
  | request :: rest =>
    let (answer, service) := service.answerTo request
    (service.answers rest).map (answer :: ·) id

/-- What a request does to the service is told with the answer. -/
theorem snd_answerTo (service : Service) (request : ServiceRequest) :
    (service.answerTo request).2 = service.after request := by
  cases request <;> rfl

/-- What requests do to the service is told with the answers. -/
theorem snd_answers (service : Service) (requests : List ServiceRequest) :
    (service.answers requests).2 = service.run requests := by
  induction requests generalizing service with
  | nil => rfl
  | cons request rest ih =>
    rw [answers, run, List.foldl_cons, ← snd_answerTo]
    exact ih (service.answerTo request).2

end Service

namespace Strict

/-! ### Definitions -/

/-- Carries out statements in a transaction until one fails. -/
def writeAll (transaction : Transaction) :
    List WriteStatement → Option (Except StoreError (List RowKey) × Transaction)
  | [] => some (.ok [], transaction)
  | statement :: rest => do
    match ← write transaction statement with
    | (.error error, transaction) => return (.error error, transaction)
    | (.ok key, transaction) =>
      let (keys, transaction) ← writeAll transaction rest
      return (keys.map (key :: ·), transaction)

/-- Ends a transaction: a success is kept, a failure undone. -/
def finish {A : Type} (service : Service) :
    Except StoreError A × Transaction → Option (Except ServiceError A × Service)
  | (.ok result, transaction) =>
    some (.ok result, { service with engine := transaction.commit })
  | (.error error, transaction) => do
    let engine ← rollback transaction
    return (.error (.store error), { service with engine := engine })

/-- Fetches rows. -/
def fetchRecords (service : Service) (request : FetchRequest) :
    ExceptT ServiceError Option (List Record) := do
  let plan ← (selectPlan service.engine.registry request).adapt ServiceError.query
  let rows ← (run plan service.engine).adapt ServiceError.store
  return rows.map (Record.ofRow request.fields)

/-- Inserts all records, or updates the row with the given key. -/
def saveRecords (service : Service) (request : WriteRequest) :
    Option (Except ServiceError (List RowKey) × Service) := do
  match service.statements request with
  | .error error => return (.error error, service)
  | .ok statements => finish service (← writeAll (.begin service.engine) statements)

/-- Deletes all matching rows. -/
def deleteRows (service : Service) (request : DeleteRequest) :
    Option (Except ServiceError (List RowKey) × Service) := do
  match ← (deletePlan service.engine.registry request).run with
  | .error error => return (.error (.query error), service)
  | .ok plan => finish service (← delete (.begin service.engine) plan)

/-- The answer to a request, and the service after it. -/
def answerTo (service : Service) : ServiceRequest → Option (ServiceAnswer × Service)
  | .fetch request => do return (.fetched (← (fetchRecords service request).run), service)
  | .save request => do return (← saveRecords service request).map .saved id
  | .delete request => do return (← deleteRows service request).map .deleted id

/-- The answers to requests in their order, and the service after them. -/
def answers (service : Service) : List ServiceRequest → Option (List ServiceAnswer × Service)
  | [] => some ([], service)
  | request :: rest => do
    let (answer, service) ← answerTo service request
    return (← answers service rest).map (answer :: ·) id

/-! ### Requests -/

variable {service : Service}

/-- Statements that write no column of a key can be carried out one after the other. -/
theorem writeAll_eq {transaction : Transaction} {statements : List WriteStatement}
    (h : transaction.engine.Sound)
    (hkeys : ∀ statement ∈ statements, statement.call.KeepsKeys transaction.engine) :
    writeAll transaction statements = some (Service.writeAll transaction statements) := by
  induction statements generalizing transaction with
  | nil => rfl
  | cons statement rest ih =>
    obtain ⟨hfirst, hrest⟩ := List.forall_mem_cons.mp hkeys
    have hcall := transaction.perform_call statement
    have hsound := (Transaction.integrity_perform h hfirst).1
    have hrest' : ∀ other ∈ rest,
        other.call.KeepsKeys (transaction.perform statement.call).2.engine := fun other hother =>
      (hrest other hother).of_related (Transaction.perform_step transaction statement.call).sameSchema
    rw [hcall] at hsound hrest'
    simp only [writeAll, Service.writeAll, write_eq h, Option.bind_eq_bind, Option.bind_some]
    rcases hwrite : transaction.write statement with ⟨error | key, after⟩
    · rfl
    · rw [hwrite] at hsound hrest'
      simp only [ih hsound hrest', Option.bind_some]
      rfl

/-- A transaction can be ended after any calls. -/
theorem finish_eq {A : Type} (service : Service) {calls : List TransactionCall}
    {outcome : Except StoreError A × Transaction}
    (h : outcome.2 = (Transaction.begin service.engine).run calls) :
    finish service outcome = some (service.finish outcome) := by
  obtain ⟨error | result, transaction⟩ := outcome
  · have hrange := @Transaction.allInRange_run (.begin service.engine) trivial calls
    rw [← h] at hrange
    simp only [finish, rollback_eq hrange]
    rfl
  · rfl

/-- Rows can be fetched. -/
theorem fetchRecords_eq (service : Service) (request : FetchRequest) :
    fetchRecords service request = inRange (service.fetchRecords request) := by
  simp only [fetchRecords, selectPlan_eq, run_eq, adapt_inRange]
  exact inRange_bind fun plan => inRange_bind fun rows => rfl

/-- Records can be saved. -/
theorem saveRecords_eq (h : service.engine.Sound) (request : WriteRequest) :
    saveRecords service request = some (service.saveRecords request) := by
  unfold saveRecords Service.saveRecords
  cases hstatements : service.statements request with
  | error error => rfl
  | ok statements =>
    have hwrite := @writeAll_eq (.begin service.engine) statements h fun statement hstatement =>
      (Service.LeadsTo.write hstatements hstatement).keepsKeys h
    simp only [hwrite, Option.bind_eq_bind, Option.bind_some]
    exact finish_eq service (Transaction.snd_writeAll _ statements)

/-- Rows can be deleted. -/
theorem deleteRows_eq (h : service.engine.Sound) (request : DeleteRequest) :
    deleteRows service request = some (service.deleteRows request) := by
  unfold deleteRows Service.deleteRows
  rw [deletePlan_eq, run_inRange]
  cases hplan : DeletePlan.ofRequest service.engine.registry request with
  | error error => rfl
  | ok plan =>
    obtain ⟨table, htable, -, -, hof⟩ := DeletePlan.ofRequest_eq_ok hplan
    have hdatabase : table.schema.database = request.database :=
      (Engine.ForAllTables.of_table h htable).1
    have hname : table.schema.name = request.table := Engine.name_of_table htable
    rw [← hdatabase, ← hname] at htable
    have hdelete := @delete_eq (.begin service.engine) table h plan.filter htable
    rw [← hof] at hdelete
    simp only [hdelete, Option.bind_eq_bind, Option.bind_some]
    have hrun : ((Transaction.begin service.engine).delete plan).2 =
        (Transaction.begin service.engine).run [.delete plan] := rfl
    exact finish_eq service hrun

/-- A request can be answered. -/
theorem answerTo_eq (h : service.engine.Sound) (request : ServiceRequest) :
    answerTo service request = some (service.answerTo request) := by
  cases request with
  | fetch request => simp only [answerTo, fetchRecords_eq, run_inRange]; rfl
  | save request => simp only [answerTo, saveRecords_eq h]; rfl
  | delete request => simp only [answerTo, deleteRows_eq h]; rfl

/-- Requests can be answered one after the other. -/
theorem answers_eq (h : service.engine.Sound) (requests : List ServiceRequest) :
    answers service requests = some (service.answers requests) := by
  induction requests generalizing service with
  | nil => rfl
  | cons request rest ih =>
    have hnext : (service.answerTo request).2.engine.Sound := by
      rw [service.snd_answerTo]
      exact (Service.integrity_after h request).1
    simp only [answers, answerTo_eq h, Option.bind_eq_bind, Option.bind_some, ih hnext]
    rfl

end Strict

/-- Whatever is requested of a service that has been set up, and whether or not it succeeds: with
every position checked, that of a column in a row, of a row in its table, of a table in a query, of a
change on the log and of the first value of a condition, each request has the answer that it has
without these checks, and the same effect. So no position is out of range, whether or not a counter
overflows. -/
theorem Service.answers_inRange {start : Service} (h : start.engine.SetUp)
    (requests : List ServiceRequest) :
    Strict.answers start requests = some (start.answers requests) ∧
      (start.answers requests).2 = start.run requests :=
  ⟨Strict.answers_eq h.sound requests, start.snd_answers requests⟩

/-- The answers of a hotel are given with all positions in range. -/
theorem Service.answers_inRange_guests :
    (guestEngine [] 1).SetUp ∧
      Strict.answers (guestService [] 1) guestRequests =
        some ((guestService [] 1).answers guestRequests) ∧
      ((guestService [] 1).answers guestRequests).1[3]? =
        some (.deleted (.ok [⟨[.int 1]⟩, ⟨[.int 2]⟩])) :=
  ⟨setUp_guestEngine, (@answers_inRange (guestService [] 1) setUp_guestEngine guestRequests).1, rfl⟩

end Tabula
