import Tabula.Proofs.Engine.SetUp
import Tabula.Proofs.Write.Compile
import Tabula.Service

/-!
# Runs of a service

A run is a sequence of requests of all kinds, whether or not they succeed. Every request either
leaves the service as it is, or carries out calls in one transaction that it commits or rolls back.
These are calls of compiled statements, or a deletion, and none of them writes a column of a key.
-/

namespace Tabula

/-- A request of any kind. -/
inductive ServiceRequest where
  | fetch (request : FetchRequest)
  | save (request : WriteRequest)
  | delete (request : DeleteRequest)

/-- The call that a statement stands for. -/
def WriteStatement.call : WriteStatement → TransactionCall
  | .insert statement => .insert statement
  | .update statement => .update statement

namespace Transaction

/-- The calls of statements up to the first that fails, which is the last to be carried out. -/
def carriedOut (transaction : Transaction) : List WriteStatement → List TransactionCall
  | [] => []
  | statement :: rest =>
    match transaction.write statement with
    | (.error _, _) => [statement.call]
    | (.ok _, after) => statement.call :: carriedOut after rest

/-- Writing a statement is carrying out its call. -/
theorem perform_call (transaction : Transaction) (statement : WriteStatement) :
    (transaction.perform statement.call).2 = (transaction.write statement).2 := by
  cases statement with
  | insert statement => rfl
  | update statement => rfl

/-- Only calls of the given statements are carried out. -/
theorem exists_of_mem_carriedOut {transaction : Transaction} {statements : List WriteStatement}
    {call : TransactionCall} (h : call ∈ transaction.carriedOut statements) :
    ∃ statement ∈ statements, call = statement.call := by
  induction statements generalizing transaction with
  | nil => simp [carriedOut] at h
  | cons statement rest ih =>
    rw [carriedOut] at h
    split at h
    · exact ⟨statement, List.mem_cons_self, List.mem_singleton.mp h⟩
    · rcases List.mem_cons.mp h with rfl | h
      · exact ⟨statement, List.mem_cons_self, rfl⟩
      · obtain ⟨other, hother, rfl⟩ := ih h
        exact ⟨other, List.mem_cons_of_mem statement hother, rfl⟩

/-- Writing statements until one fails carries out their calls. -/
theorem snd_writeAll (transaction : Transaction) (statements : List WriteStatement) :
    (Service.writeAll transaction statements).2 =
      transaction.run (transaction.carriedOut statements) := by
  induction statements generalizing transaction with
  | nil => rfl
  | cons statement rest ih =>
    have hcall := transaction.perform_call statement
    rcases hwrite : transaction.write statement with ⟨error | key, after⟩ <;>
      rw [hwrite] at hcall
    · simp only [Service.writeAll, carriedOut, hwrite]
      exact hcall.symm
    · simp only [Service.writeAll, carriedOut, hwrite, ih after]
      rw [run, run, List.foldl_cons, hcall]

end Transaction

namespace Service

/-- The service after a request. -/
def after (service : Service) : ServiceRequest → Service
  | .fetch _ => service
  | .save request => (service.saveRecords request).2
  | .delete request => (service.deleteRows request).2

/-- The service after requests in their order, whether or not they succeed. -/
def run (service : Service) (requests : List ServiceRequest) : Service :=
  requests.foldl after service

/-- No counter overflows in a request. -/
def CountsOn (service : Service) : ServiceRequest → Prop
  | .save request =>
    ∀ statements, service.statements request = .ok statements →
      (Transaction.begin service.engine).CountsThrough
        ((Transaction.begin service.engine).carriedOut statements)
  | _ => True

/-- No counter overflows in a run. -/
def CountsThrough (service : Service) : List ServiceRequest → Prop
  | [] => True
  | request :: rest => service.CountsOn request ∧ (service.after request).CountsThrough rest

/-- No counter overflows in a run exactly if none does in its first part, nor in the rest. -/
theorem countsThrough_append (service : Service) (first rest : List ServiceRequest) :
    service.CountsThrough (first ++ rest) ↔
      service.CountsThrough first ∧ (service.run first).CountsThrough rest := by
  induction first generalizing service with
  | nil => exact ⟨fun h => ⟨trivial, h⟩, fun h => h.2⟩
  | cons request others ih =>
    rw [List.cons_append, CountsThrough, CountsThrough, ih, and_assoc]
    rfl

/-- Whether a counter overflows in a request can be decided. -/
instance decidableCountsOn (service : Service) :
    (request : ServiceRequest) → Decidable (service.CountsOn request)
  | .save _ => inferInstanceAs (Decidable (∀ _, _ → _))
  | .fetch _ | .delete _ => isTrue trivial

/-- Whether a counter overflows in a run can be decided by carrying it out. -/
instance decidableCountsThrough (service : Service) :
    (requests : List ServiceRequest) → Decidable (service.CountsThrough requests)
  | [] => isTrue trivial
  | request :: rest =>
    have := decidableCountsThrough (service.after request) rest
    inferInstanceAs (Decidable (_ ∧ _))

/-- A service that requests lead to from one whose engine was set up. -/
def Reachable (service : Service) : Prop :=
  ∃ (start : Service) (requests : List ServiceRequest),
    start.engine.SetUp ∧ service = start.run requests

/-! ### What a request can do -/

/-- A transaction is committed or rolled back in the end. -/
theorem snd_finish {A : Type} (service : Service)
    (outcome : Except StoreError A × Transaction) :
    (service.finish outcome).2 = { service with engine := outcome.2.engine } ∨
      (service.finish outcome).2 = { service with engine := outcome.2.rollback } := by
  obtain ⟨error | result, transaction⟩ := outcome
  · exact Or.inr rfl
  · exact Or.inl rfl

/-- A compiled request has the schema of a table and statements for values kept by its rules. -/
theorem statements_eq_ok {service : Service} {request : WriteRequest}
    {statements : List WriteStatement} (h : service.statements request = .ok statements) :
    ∃ table, service.engine.table request.database request.table = .ok table ∧
      ∃ (key : Option (ColumnRef × Value)) (kept : List (List (ColumnRef × Value))),
        request.items.mapIdx (RecordRules.of table.schema).validate = kept.map .ok ∧
        statements = kept.map (WriteStatement.ofValues table.schema key) ∧
        (request.recordId = none → key = none) := by
  unfold Service.statements at h
  split at h
  · cases h
  · obtain ⟨schema, hschema, h⟩ := bind_eq_ok_iff.mp h
    obtain ⟨table, htable, rfl⟩ := Engine.resolve_eq_ok_iff.mp (mapError_eq_ok_iff.mp hschema)
    exact ⟨table, htable, WriteStatement.compile_eq_ok (mapError_eq_ok_iff.mp h)⟩

/-- The calls that a request can lead to: those of the statements into which it is compiled, or a
deletion. -/
inductive LeadsTo (service : Service) : ServiceRequest → TransactionCall → Prop
  | write {request : WriteRequest} {statements : List WriteStatement} {statement : WriteStatement}
      (compiled : service.statements request = .ok statements)
      (mem : statement ∈ statements) : LeadsTo service (.save request) statement.call
  | delete (request : DeleteRequest) (plan : DeletePlan) :
      LeadsTo service (.delete request) (.delete plan)

/-- A call of a request writes no column of a key. -/
theorem LeadsTo.keepsKeys {service : Service} {request : ServiceRequest} {call : TransactionCall}
    (hleads : service.LeadsTo request call) (h : service.engine.Sound) :
    call.KeepsKeys service.engine := by
  cases hleads with
  | delete request plan => trivial
  | write compiled mem =>
    obtain ⟨table, htable, key, kept, hkept, rfl, -⟩ := statements_eq_ok compiled
    obtain ⟨hdatabase, hsound⟩ := Engine.ForAllTables.of_table h htable
    obtain ⟨values, hvalues, rfl⟩ := List.mem_map.mp mem
    obtain ⟨number, item, hvalidate⟩ := RecordRules.exists_of_mem_kept hkept hvalues
    cases key with
    | none => trivial
    | some key =>
      intro found hfound
      rw [hdatabase, Engine.name_of_table htable, htable] at hfound
      cases hfound
      exact RecordRules.offKey_of_validate hsound.lawful hvalidate

/-- A request leaves the service as it is, or commits or rolls back calls that it leads to. -/
theorem after_cases (service : Service) (request : ServiceRequest) :
    service.after request = service ∨
      ∃ calls : List TransactionCall,
        (∀ call ∈ calls, service.LeadsTo request call) ∧
        (service.CountsOn request → (Transaction.begin service.engine).CountsThrough calls) ∧
        (service.after request = { service with
            engine := ((Transaction.begin service.engine).run calls).engine } ∨
          service.after request = { service with
            engine := ((Transaction.begin service.engine).run calls).rollback }) := by
  cases request with
  | fetch request => exact Or.inl rfl
  | save request =>
    cases hstatements : service.statements request with
    | error error => exact Or.inl (by simp only [after, saveRecords, hstatements])
    | ok statements =>
      refine Or.inr ⟨(Transaction.begin service.engine).carriedOut statements, ?_,
        fun hcounts => hcounts statements hstatements, ?_⟩
      · intro call hcall
        obtain ⟨statement, hstatement, rfl⟩ := Transaction.exists_of_mem_carriedOut hcall
        exact .write hstatements hstatement
      · rw [← Transaction.snd_writeAll]
        simp only [after, saveRecords, hstatements]
        exact service.snd_finish (writeAll (Transaction.begin service.engine) statements)
  | delete request =>
    cases hplan : DeletePlan.ofRequest service.engine.registry request with
    | error error => exact Or.inl (by simp only [after, deleteRows, hplan])
    | ok plan =>
      refine Or.inr ⟨[.delete plan], ?_, fun _ => ⟨trivial, trivial⟩, ?_⟩
      · intro call hcall
        rw [List.mem_singleton.mp hcall]
        exact .delete request plan
      · simp only [after, deleteRows, hplan]
        exact service.snd_finish ((Transaction.begin service.engine).delete plan)

end Service

end Tabula
