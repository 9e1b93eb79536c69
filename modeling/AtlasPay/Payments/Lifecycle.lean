import AtlasPay.Database.Balance
import AtlasPay.Payments.Writes

/-!
# The life of a payment, and what the tables say about it

A payment is created pending, is authorized from outside, and from there on operations move it along
their transitions: `History` is this state machine, on its own. `Consistent` says that the tables
agree with it, and with one another: the operations of a payment are a history of its status, each
has a journal of its own that moves the payment's amount between two accounts, and the events of the
outbox announce the operations one by one. Every call of the services keeps it.
-/

namespace AtlasPay

/-! ## The state machine -/

/-- The operations that bring a payment to a status, in order. -/
inductive History : PaymentStatus → List PaymentOperation → Prop where
  | pending : History .pending []
  | authorized : History .authorized []
  | operation {operation : PaymentOperation} {operations : List PaymentOperation}
      (before : History operation.transition.1 operations) :
      History operation.transition.2 (operations ++ [operation])

namespace History

/-- There are five histories. -/
theorem cases_of {status : PaymentStatus} {operations : List PaymentOperation}
    (h : History status operations) :
    status = .pending ∧ operations = [] ∨ status = .authorized ∧ operations = [] ∨
      status = .captured ∧ operations = [.capture] ∨
      status = .refunded ∧ operations = [.capture, .refund] ∨
      status = .reversed ∧ operations = [.reversal] := by
  induction h with
  | pending => simp
  | authorized => simp
  | @operation operation operations before ih =>
    -- The status that the operation needs leaves one history to extend.
    cases operation <;> simp_all [PaymentOperation.transition]

/-- The operations are some of a capture and then a refund, or a reversal alone. -/
theorem prefix_or_reversal {status : PaymentStatus} {operations : List PaymentOperation}
    (h : History status operations) :
    operations <+: [.capture, .refund] ∨ operations = [.reversal] := by
  rcases h.cases_of with ⟨-, rfl⟩ | ⟨-, rfl⟩ | ⟨-, rfl⟩ | ⟨-, rfl⟩ | ⟨-, rfl⟩ <;> decide

/-- The status is the target of the last operation. -/
theorem target_of_getLast? {status : PaymentStatus} {operations : List PaymentOperation}
    {last : PaymentOperation} (h : History status operations)
    (hlast : operations.getLast? = some last) : last.transition.2 = status := by
  rcases h.cases_of with ⟨rfl, rfl⟩ | ⟨rfl, rfl⟩ | ⟨rfl, rfl⟩ | ⟨rfl, rfl⟩ | ⟨rfl, rfl⟩ <;>
    simp_all [PaymentOperation.transition] <;> subst hlast <;> rfl

/-- Without a refund, every operation leads to the status that the payment has. -/
theorem target_eq_iff {status : PaymentStatus} {operations : List PaymentOperation}
    (h : History status operations) :
    (∀ operation ∈ operations, operation.transition.2 = status) ↔
      PaymentOperation.refund ∉ operations := by
  rcases h.cases_of with ⟨rfl, rfl⟩ | ⟨rfl, rfl⟩ | ⟨rfl, rfl⟩ | ⟨rfl, rfl⟩ | ⟨rfl, rfl⟩ <;> decide

end History

/-! ## What the tables say -/

/-- Two entries that move a payment's amount from one account to another. -/
structure Moves (payment : PaymentRow) (entries : List LedgerEntryRow) : Prop where
  pair : ∃ debit credit, entries = [debit, credit] ∧ debit.side = "debit" ∧
    credit.side = "credit" ∧ debit.accountId ≠ credit.accountId
  amount : ∀ entry ∈ entries, entry.amount = payment.amount
  currency : ∀ entry ∈ entries, entry.currency = payment.currency

/-- The event of an operation. -/
structure Announces (row : PaymentOperationRow) (event : OutboxEventRow) : Prop where
  aggregateType : event.aggregateType = "payment"
  aggregateId : event.aggregateId = row.paymentId
  operationId : Json.text? event.payload "operation_id" = some row.id
  journalId : Json.text? event.payload "journal_transaction_id" = some row.journalTransactionId
  toStatus : Json.text? event.payload "to_status" = some row.toStatus

namespace Database

/-- The operations of a payment, in the order in which they were committed. -/
def operationsOf (db : Database) (paymentId : String) : List PaymentOperationRow :=
  db.paymentOperations.rows.filter fun row => row.paymentId = paymentId

/-- A payment's status and the operations that are recorded for it are a history. -/
def FollowsHistory (db : Database) (payment : PaymentRow) : Prop :=
  ∃ status operations, payment.status = status.value ∧ History status operations ∧
    (db.operationsOf payment.id).map PaymentOperationRow.operation =
      operations.map PaymentOperation.value

/-- An operation names its transition, and its journal moves the amount of its payment. -/
def RecordsMove (db : Database) (row : PaymentOperationRow) : Prop :=
  (∃ operation : PaymentOperation, row.operation = operation.value ∧
    row.fromStatus = operation.transition.1.value ∧
    row.toStatus = operation.transition.2.value) ∧
  (db.ledgerTransactions.find? row.journalTransactionId).isSome ∧
  ∃ payment, db.payments.find? row.paymentId = some payment ∧
    Moves payment (db.entriesOf row.journalTransactionId)

/-- The tables agree with one another. -/
structure Consistent (db : Database) : Prop where
  history : ∀ payment ∈ db.payments.rows, db.FollowsHistory payment
  currency : ∀ payment ∈ db.payments.rows, upper payment.currency = payment.currency
  keys : ∀ key ∈ db.idempotencyKeys.rows, (db.payments.find? key.paymentId).isSome
  entries : ∀ entry ∈ db.ledgerEntries, (db.ledgerTransactions.find? entry.transactionId).isSome
  balanced : db.Balanced
  operations : ∀ row ∈ db.paymentOperations.rows, db.RecordsMove row
  journals : (db.paymentOperations.rows.map PaymentOperationRow.journalTransactionId).Nodup
  events : List.Forall₂ Announces db.paymentOperations.rows db.outboxEvents.rows

/-- The empty tables agree. -/
theorem consistent_migrated : Consistent migrated where
  history := by simp [migrated]
  currency := by simp [migrated]
  keys := by simp [migrated]
  entries := by simp [migrated]
  balanced := by simp [migrated, Balanced]
  operations := by simp [migrated]
  journals := by simp [migrated]
  events := by simp [migrated]

namespace Consistent

variable {db : Database}

/-- Every event announces an operation that is there. -/
theorem exists_operation (h : Consistent db) {event : OutboxEventRow}
    (hevent : event ∈ db.outboxEvents.rows) :
    ∃ row ∈ db.paymentOperations.rows, Announces row event := by
  obtain ⟨i, rfl⟩ := List.get_of_mem hevent
  have hi : i.1 < db.paymentOperations.rows.length := by
    rw [h.events.length_eq]
    exact i.2
  exact ⟨_, List.get_mem _ _, h.events.get hi i.2⟩

/-- Every operation is announced by one event. -/
theorem existsUnique_event (h : Consistent db) {row : PaymentOperationRow}
    (hrow : row ∈ db.paymentOperations.rows) :
    ∃ event ∈ db.outboxEvents.rows, Announces row event ∧
      ∀ event' ∈ db.outboxEvents.rows,
        Json.text? event'.payload "operation_id" = some row.id → event' = event := by
  obtain ⟨i, rfl⟩ := List.get_of_mem hrow
  have hi : i.1 < db.outboxEvents.rows.length := by
    rw [← h.events.length_eq]
    exact i.2
  refine ⟨_, List.get_mem _ ⟨i.1, hi⟩, h.events.get i.2 hi, fun event' hevent' hid => ?_⟩
  obtain ⟨j, rfl⟩ := List.get_of_mem hevent'
  have hj : j.1 < db.paymentOperations.rows.length := by
    rw [h.events.length_eq]
    exact j.2
  -- An event with the id announces the operation in its own place, which has the id too.
  have hsame :
      (db.paymentOperations.rows.get ⟨j.1, hj⟩).id = (db.paymentOperations.rows.get i).id :=
    Option.some.inj ((h.events.get hj j.2).operationId.symm.trans hid)
  have hrows : db.paymentOperations.rows.get ⟨j.1, hj⟩ = db.paymentOperations.rows.get i :=
    Table.eq_of_key_eq (List.get_mem _ _) (List.get_mem _ _) hsame
  have hplace := (List.Nodup.of_map _ db.paymentOperations.nodup).get_inj_iff.mp hrows
  have heq : j.1 = i.1 := congrArg Fin.val hplace
  exact congrArg _ (Fin.ext heq)

end Consistent

end Database

end AtlasPay
