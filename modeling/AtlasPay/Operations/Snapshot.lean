import AtlasPay.Network.Snapshot
import AtlasPay.Payments.Reconciliation
import AtlasPay.Python.Basic
import Mathlib.Data.String.Basic

/-!
# The operational snapshot

`read` of the two readers of `app/operational_snapshot.py`. The reader of a database measures it and
has it inspected, in twelve statements of two transactions, each of which sees what is committed
when it starts. The other reader stands in where there is no database.
-/

namespace AtlasPay

/-! ## The contract -/

/-- `SnapshotHealth`. -/
inductive SnapshotHealth where
  | healthy
  | degraded
  | critical
  deriving DecidableEq, Repr

/-- `DataState`: fresh or partial. -/
inductive DataState where
  | fresh
  | partialData
  deriving DecidableEq, Repr

/-- `SectionState`. -/
inductive SectionState where
  | available
  | unavailable
  deriving DecidableEq, Repr

/-- `SnapshotProvenance`. -/
structure SnapshotProvenance where
  source : String := "atlaspay-api"
  generatedAt : Timestamp
  contractVersion : String := "v1"
  deriving DecidableEq, Repr

/-- `PaymentSummary`. -/
structure PaymentSummary where
  state : SectionState
  total : Option ℕ := none
  byStatus : Option (List (String × ℕ)) := none
  operations : Option ℕ := none
  reason : Option String := none
  deriving DecidableEq, Repr

/-- `LedgerSummary`. -/
structure LedgerSummary where
  state : SectionState
  balanced : Option Bool := none
  discrepancies : Option ℕ := none
  discrepancyKinds : Option (List (String × ℕ)) := none
  inspectedAt : Option Timestamp := none
  reason : Option String := none
  deriving DecidableEq, Repr

/-- `OutboxSummary`. -/
structure OutboxSummary (T : Type) where
  state : SectionState
  unpublished : Option ℕ := none
  poisonMessages : Option ℕ := none
  oldestUnpublishedAgeSeconds : Option T := none
  reason : Option String := none

/-- `NetworkSummary`. -/
structure NetworkSummary (T : Type) where
  state : SectionState
  observations : Option ℕ := none
  byDisposition : Option (List (String × ℕ)) := none
  timeouts : Option ℕ := none
  lateResponses : Option ℕ := none
  p95LatencyMs : Option T := none
  routes : Option (List (RouteNetworkSummary T)) := none
  reason : Option String := none

/-- `OperationalSnapshot`. -/
structure OperationalSnapshot (T : Type) where
  provenance : SnapshotProvenance
  health : SnapshotHealth
  dataState : DataState
  payments : PaymentSummary
  ledger : LedgerSummary
  outbox : OutboxSummary T
  network : NetworkSummary T
  incidents : List String
  missingSections : List String

/-! ## `inspect`, statement by statement -/

/-- The statements of `inspect`. -/
inductive InspectStatement where
  | operationsWithoutPayment
  | operationsWithoutJournal
  | operationsWithoutOutbox
  | outboxWithoutOperation
  | statusMismatches
  | journals
  deriving DecidableEq, Repr

namespace Reconciler

/-- What the loop over the rows of a statement appends. -/
def found (db : Database) : InspectStatement → List ReconciliationDiscrepancy
  | .operationsWithoutPayment => withoutPayment db
  | .operationsWithoutJournal => withoutJournal db
  | .operationsWithoutOutbox => withoutOutbox db
  | .outboxWithoutOperation => withoutOperation db
  | .statusMismatches => statusMismatches db
  | .journals => db.ledgerTransactions.rows.flatMap (journalDiscrepancies db)

/-- `inspect`, while others commit. -/
def inspection :
    Program (fun _ : InspectStatement => List ReconciliationDiscrepancy) Empty
      ReconciliationReport :=
  .call .operationsWithoutPayment fun withoutPayment =>
    .call .operationsWithoutJournal fun withoutJournal =>
      .call .operationsWithoutOutbox fun withoutOutbox =>
        .call .outboxWithoutOperation fun withoutOperation =>
          .call .statusMismatches fun statusMismatches =>
            .call .journals fun journals =>
              .done ⟨(withoutPayment ++ withoutJournal ++ withoutOutbox ++ withoutOperation ++
                statusMismatches ++ journals).insertionSort inOrder⟩

/-- On tables that do not change, this is `inspect`. -/
theorem result_inspection (db : Database) : inspection.result (found db) = .ok (inspect db) := rfl

end Reconciler

/-! ## The readers -/

/-- The statements of `read`. -/
inductive ReadStatement where
  | measure (s : SnapshotStatement)
  | inspect (s : InspectStatement)
  deriving DecidableEq, Repr

namespace ReadStatement

/-- What a statement is answered with. -/
@[reducible]
def Answer (T : Type) : ReadStatement → Type
  | measure s => s.Answer T
  | inspect _ => List ReconciliationDiscrepancy

variable {T : Type} [LinearOrder T] [Zero T]

/-- A statement on what is committed. -/
def answer (server : Server T) : (s : ReadStatement) → ObservedTables T → Answer T s
  | measure s, c => s.answer server c
  | inspect s, c => Reconciler.found c.tables s

end ReadStatement

/-- `dict(sorted(Counter(items).items()))`. -/
def sortedCounts (items : List String) : List (String × ℕ) :=
  (groups id (fun a b => a ≤ b) items).map fun group => (group.1, group.2.length)

/-- `PostgresOperationalSnapshotReader`, with the check of `__init__` as a field. -/
structure PostgresOperationalSnapshotReader where
  outboxMaxAttempts : ℤ
  outboxMaxAttempts_pos : 0 < outboxMaxAttempts

namespace PostgresOperationalSnapshotReader

/-- `__init__`. -/
def new (outboxMaxAttempts : ℤ) : Py PostgresOperationalSnapshotReader :=
  if h : outboxMaxAttempts ≤ 0 then
    throw (.valueError "outbox_max_attempts must be positive")
  else
    pure ⟨outboxMaxAttempts, not_le.mp h⟩

/-- The reader that `app/main.py` and the demo build, with `DEFAULT_OUTBOX_MAX_ATTEMPTS`. -/
def usual : PostgresOperationalSnapshotReader := ⟨5, by omega⟩

variable {T : Type}

/-- What `read` makes of the measurements and the report. -/
def snapshot (generatedAt : Timestamp) (measurements : DatabaseMeasurements T)
    (reconciliation : ReconciliationReport) : OperationalSnapshot T :=
  let found := reconciliation.discrepancies.length
  let poison := measurements.poisonOutbox
  { provenance := { generatedAt }
    health :=
      if reconciliation.discrepancies ≠ [] ∨ poison ≠ 0 then .critical
      else if measurements.unpublishedOutbox ≠ 0 then .degraded
      else .healthy
    dataState := .fresh
    payments := {
      state := .available
      total := some measurements.paymentTotal
      byStatus := some measurements.paymentStatusCounts
      operations := some measurements.operationCount }
    ledger := {
      state := .available
      balanced := some reconciliation.clean
      discrepancies := some found
      discrepancyKinds := some (sortedCounts
        (reconciliation.discrepancies.map fun item => item.kind.value))
      inspectedAt := some generatedAt }
    outbox := {
      state := .available
      unpublished := some measurements.unpublishedOutbox
      poisonMessages := some poison
      oldestUnpublishedAgeSeconds := some measurements.oldestUnpublishedAgeSeconds }
    network := {
      state := .available
      observations := some measurements.networkObservations
      byDisposition := some measurements.networkDispositionCounts
      timeouts := some measurements.networkTimeouts
      lateResponses := some measurements.networkLateResponses
      p95LatencyMs := some measurements.networkP95LatencyMs
      routes := some measurements.networkRoutes }
    incidents :=
      (if reconciliation.discrepancies ≠ [] then
        [s!"ledger/reconciliation has {found} discrepancy(s)"] else []) ++
      if poison ≠ 0 then [s!"outbox has {poison} unpublished event(s) at retry limit"] else []
    missingSections := [] }

variable [LinearOrder T] [Zero T]

/-- `read`. -/
def read (self : PostgresOperationalSnapshotReader) (generatedAt : Timestamp) :
    Program (ReadStatement.Answer T) Empty (OperationalSnapshot T) :=
  ((measureDatabase self.outboxMaxAttempts).embed ReadStatement.measure).bind fun measurements =>
    (Reconciler.inspection.embed ReadStatement.inspect).bind fun reconciliation =>
      .done (snapshot generatedAt measurements reconciliation)

/-- The statements, in their order. -/
def statements (self : PostgresOperationalSnapshotReader) : List ReadStatement :=
  [.paymentStatuses, .paymentOperations, .outboxEvents self.outboxMaxAttempts, .networkTotals,
    .networkDispositions, .networkRoutes].map .measure ++
  [.operationsWithoutPayment, .operationsWithoutJournal, .operationsWithoutOutbox,
    .outboxWithoutOperation, .statusMismatches, .journals].map .inspect

end PostgresOperationalSnapshotReader

/-- `UnavailableOperationalSnapshotReader`. -/
structure UnavailableOperationalSnapshotReader where
  reason : String

/-- `read`. -/
def UnavailableOperationalSnapshotReader.read {T : Type}
    (self : UnavailableOperationalSnapshotReader) (generatedAt : Timestamp) :
    OperationalSnapshot T where
  provenance := { generatedAt }
  health := .degraded
  dataState := .partialData
  payments := { state := .unavailable, reason := some self.reason }
  ledger := { state := .unavailable, reason := some self.reason }
  outbox := { state := .unavailable, reason := some self.reason }
  network := { state := .unavailable, reason := some self.reason }
  incidents := ["durable operational database is unavailable"]
  missingSections := ["payments", "ledger", "outbox", "network"]

end AtlasPay
