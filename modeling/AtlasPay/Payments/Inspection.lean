import AtlasPay.Payments.Reconciliation
import AtlasPay.Payments.Services

/-!
# What the reconciler reports about consistent tables

In consistent tables, `inspect` finds no missing row and no journal out of balance. Its check of
statuses compares the target of every operation with the status that the payment has now, not the
last operation only; so it reports the capture of a payment that was refunded, and nothing else
(`clean_iff`). A run of the services therefore stays clean as long as nothing is refunded.
-/

namespace AtlasPay

open Database

namespace Reconciler

variable {db : Database}

/-! ## The checks, one by one -/

/-- What is sorted is empty when nothing was found. -/
theorem insertionSort_eq_nil_iff (found : List ReconciliationDiscrepancy) :
    found.insertionSort inOrder = [] ↔ found = [] := by
  rw [← List.length_eq_zero_iff, List.length_insertionSort, List.length_eq_zero_iff]

/-- A report is clean when no check finds anything. -/
theorem clean_inspect_iff : (inspect db).clean = true ↔
    withoutPayment db = [] ∧ withoutJournal db = [] ∧ withoutOutbox db = [] ∧
      withoutOperation db = [] ∧ statusMismatches db = [] ∧
      db.ledgerTransactions.rows.flatMap (journalDiscrepancies db) = [] := by
  unfold ReconciliationReport.clean inspect
  simp only [List.isEmpty_iff, insertionSort_eq_nil_iff, List.append_eq_nil_iff, and_assoc]

/-- The payments of operations are there. -/
theorem withoutPayment_eq_nil (h : Consistent db) : withoutPayment db = [] := by
  unfold withoutPayment
  rw [List.map_eq_nil_iff, List.filter_eq_nil_iff]
  intro row hrow
  obtain ⟨-, -, payment, hpayment, -⟩ := h.operations row hrow
  simp [hpayment]

/-- The journals of operations are there. -/
theorem withoutJournal_eq_nil (h : Consistent db) : withoutJournal db = [] := by
  unfold withoutJournal
  rw [List.map_eq_nil_iff, List.filter_eq_nil_iff]
  intro row hrow
  have hjournal := (h.operations row hrow).2.1
  simpa [Option.isSome_iff_ne_none] using hjournal

/-- Every operation is announced. -/
theorem withoutOutbox_eq_nil (h : Consistent db) : withoutOutbox db = [] := by
  unfold withoutOutbox
  rw [List.map_eq_nil_iff, List.filter_eq_nil_iff]
  intro row hrow
  obtain ⟨event, hevent, hannounces, -⟩ := h.existsUnique_event hrow
  simp only [decide_eq_true_eq, not_not, List.any_eq_true]
  refine ⟨event, hevent, ?_⟩
  simp [announces, operationId?, hannounces.aggregateType, hannounces.aggregateId,
    hannounces.operationId]

/-- Every event announces an operation that is there. -/
theorem withoutOperation_eq_nil (h : Consistent db) : withoutOperation db = [] := by
  unfold withoutOperation
  rw [List.filterMap_eq_nil_iff]
  intro event hevent
  obtain ⟨row, hrow, hannounces⟩ := h.exists_operation hevent
  have hid : operationId? event = some row.id := hannounces.operationId
  have hfound : db.paymentOperations.find? row.id = some row :=
    Table.find?_eq_some_iff.mpr ⟨hrow, rfl⟩
  simp [hid, hfound]

/-- A journal has nothing wrong with it exactly when its entries balance. -/
theorem journalDiscrepancies_eq_nil_iff {journal : LedgerTransactionRow} :
    journalDiscrepancies db journal = [] ↔ Balances (db.entriesOf journal.id) := by
  unfold journalDiscrepancies
  dsimp only
  rw [List.append_eq_nil_iff, balances_iff]
  refine and_congr ?_ ?_
  · split_ifs with hlength
    · exact iff_of_false (by simp) (by omega)
    · exact iff_of_true rfl (not_lt.mp hlength)
  · split_ifs with htotals
    · exact iff_of_false (by simp) htotals
    · exact iff_of_true rfl (not_not.mp htotals)

/-- No journal has anything wrong with it. -/
theorem journalDiscrepancies_eq_nil (h : Consistent db) :
    db.ledgerTransactions.rows.flatMap (journalDiscrepancies db) = [] := by
  rw [List.flatMap_eq_nil_iff]
  exact fun journal hjournal => journalDiscrepancies_eq_nil_iff.mpr (h.balanced journal hjournal)

/-- The operations of a payment all lead to its status when none of them is a refund. -/
theorem toStatus_eq_iff (h : Consistent db) {payment : PaymentRow}
    (hpayment : payment ∈ db.payments.rows) :
    (∀ row ∈ db.operationsOf payment.id, row.toStatus = payment.status) ↔
      ∀ row ∈ db.operationsOf payment.id, row.operation ≠ PaymentOperation.refund.value := by
  obtain ⟨status, operations, hvalue, hhistory, hmap⟩ := h.history payment hpayment
  -- The rows and the history list the same operations.
  have hsame : ∀ P : String → Prop, (∀ row ∈ db.operationsOf payment.id, P row.operation) ↔
      ∀ operation ∈ operations, P operation.value := by
    intro P
    have hall := List.forall_mem_map (f := PaymentOperationRow.operation) (P := P)
      (l := db.operationsOf payment.id)
    rw [← hall, hmap, List.forall_mem_map]
  -- A row has the target of its operation.
  have htarget : ∀ row ∈ db.operationsOf payment.id, ∀ operation : PaymentOperation,
      row.operation = operation.value → row.toStatus = operation.transition.2.value := by
    intro row hrow operation hoperation
    obtain ⟨⟨operation', hoperation', -, hto⟩, -⟩ :=
      h.operations row (List.mem_of_mem_filter hrow)
    have heq : operation' = operation :=
      PaymentOperation.value_injective (hoperation'.symm.trans hoperation)
    rw [hto, heq]
  have hrefund : (∀ row ∈ db.operationsOf payment.id,
      row.operation ≠ PaymentOperation.refund.value) ↔ PaymentOperation.refund ∉ operations := by
    rw [hsame fun operation => operation ≠ PaymentOperation.refund.value]
    constructor
    · exact fun hall hmem => hall _ hmem rfl
    · rintro hrefund operation hmem heq
      rw [PaymentOperation.value_injective heq] at hmem
      exact hrefund hmem
  have hstatus : (∀ row ∈ db.operationsOf payment.id, row.toStatus = payment.status) ↔
      ∀ operation ∈ operations, operation.transition.2 = status := by
    have hstep : (∀ row ∈ db.operationsOf payment.id, row.toStatus = payment.status) ↔
        ∀ row ∈ db.operationsOf payment.id, ∀ operation : PaymentOperation,
          row.operation = operation.value → operation.transition.2 = status := by
      refine forall₂_congr fun row hrow => ?_
      constructor
      · intro heq operation hoperation
        refine PaymentStatus.value_injective ?_
        rw [← htarget row hrow operation hoperation, heq, hvalue]
      · intro hall
        obtain ⟨⟨operation, hoperation, -, hto⟩, -⟩ :=
          h.operations row (List.mem_of_mem_filter hrow)
        rw [hto, hall operation hoperation, hvalue]
    rw [hstep, hsame fun text => ∀ operation : PaymentOperation, text = operation.value →
      operation.transition.2 = status]
    constructor
    · exact fun hall operation hmem => hall operation hmem operation rfl
    · intro hall operation hmem operation' heq
      rw [← PaymentOperation.value_injective heq]
      exact hall operation hmem
  rw [hstatus, hrefund]
  exact hhistory.target_eq_iff

/-- The statuses match when nothing was refunded. -/
theorem statusMismatches_eq_nil_iff (h : Consistent db) :
    statusMismatches db = [] ↔
      ∀ row ∈ db.paymentOperations.rows, row.operation ≠ PaymentOperation.refund.value := by
  -- Both sides speak of the operations of one payment at a time.
  have hby : ∀ P : PaymentOperationRow → PaymentRow → Prop,
      (∀ row ∈ db.paymentOperations.rows, ∀ payment,
        db.payments.find? row.paymentId = some payment → P row payment) ↔
      ∀ payment ∈ db.payments.rows, ∀ row ∈ db.operationsOf payment.id, P row payment := by
    intro P
    constructor
    · intro hall payment hpayment row hrow
      obtain ⟨hmem, hid⟩ := List.mem_filter.mp hrow
      have hid : row.paymentId = payment.id := by simpa using hid
      exact hall row hmem payment (Table.find?_eq_some_iff.mpr ⟨hpayment, hid.symm⟩)
    · intro hall row hrow payment hfound
      obtain ⟨hpayment, hid⟩ := Table.find?_eq_some_iff.mp hfound
      exact hall payment hpayment row (List.mem_filter.mpr ⟨hrow, by simpa using hid.symm⟩)
  have hmismatch : statusMismatches db = [] ↔ ∀ row ∈ db.paymentOperations.rows, ∀ payment,
      db.payments.find? row.paymentId = some payment → row.toStatus = payment.status := by
    unfold statusMismatches
    rw [List.filterMap_eq_nil_iff]
    refine forall₂_congr fun row _ => ?_
    cases hfound : db.payments.find? row.paymentId with
    | none => simp
    | some payment => simp [eq_comm]
  have hrefund : (∀ row ∈ db.paymentOperations.rows,
      row.operation ≠ PaymentOperation.refund.value) ↔
      ∀ row ∈ db.paymentOperations.rows, ∀ payment,
        db.payments.find? row.paymentId = some payment →
          row.operation ≠ PaymentOperation.refund.value := by
    refine forall₂_congr fun row hrow => ⟨fun hne _ _ => hne, fun hall => ?_⟩
    obtain ⟨-, -, payment, hpayment, -⟩ := h.operations row hrow
    exact hall payment hpayment
  rw [hmismatch, hrefund, hby, hby fun row _ => row.operation ≠ PaymentOperation.refund.value]
  exact forall₂_congr fun payment hpayment => toStatus_eq_iff h hpayment

/-- The report about consistent tables is clean when nothing was refunded. -/
theorem clean_iff (h : Consistent db) : (inspect db).clean = true ↔
    ∀ row ∈ db.paymentOperations.rows, row.operation ≠ PaymentOperation.refund.value := by
  rw [clean_inspect_iff, ← statusMismatches_eq_nil_iff h]
  constructor
  · exact fun ⟨_, _, _, _, hstatuses, _⟩ => hstatuses
  · exact fun hstatuses => ⟨withoutPayment_eq_nil h, withoutJournal_eq_nil h,
      withoutOutbox_eq_nil h, withoutOperation_eq_nil h, hstatuses, journalDiscrepancies_eq_nil h⟩

/-! ## Runs -/

/-- The call refunds. -/
def isRefund : ServiceCall → Bool
  | .execute call => call.operation = .refund
  | _ => false

/-- In every state of every run of the services, the report is clean exactly when no refund was
committed; so it is in every run whose calls are no refunds. -/
theorem clean_inspect_of_run {hashtext : String → ℤ} {sha256 : String → Digest}
    {log : List (ServiceCall × Outcome DbError ServiceError PUnit)}
    (h : (ServiceCall.serial hashtext sha256).Run log db) :
    ((∀ label ∈ log, isRefund label.1 = false) → (inspect db).clean = true) ∧
      ((inspect db).clean = true ↔
        ∀ row ∈ db.paymentOperations.rows, row.operation ≠ PaymentOperation.refund.value) := by
  have hiff := clean_iff (ServiceCall.consistent_of_run id h)
  refine ⟨fun hlog => hiff.mpr fun row hrow hrefund => ?_, hiff⟩
  obtain ⟨made, outcome, hmem, hoperation⟩ := ServiceCall.operation_of_run h row hrow
  have hmade : made.operation = .refund :=
    PaymentOperation.value_injective (hoperation.symm.trans hrefund)
  have hnot := hlog _ hmem
  simp [isRefund, hmade] at hnot

/-- The digests of the two calls below. -/
def digests (payload : String) : Digest :=
  if payload = "\x7b\"destination_account_id\":\"acct_merchant\",\"operation\":\"capture\"," ++
      "\"payment_id\":\"pay_1\",\"source_account_id\":\"acct_cash\"\x7d" then
    captureDigest
  else ⟨"2ed2074160aaf619f270cc920a3263e4cdaf06b76eb618511356b1c3501c067d", rfl⟩

/-- The hashes of the two keys below. -/
def hashes (key : String) : ℤ := if key = "capture-1" then -233200888 else -1508249766

/-- A payment, authorized, with two accounts to move its amount between. -/
def setUp : List ServiceCall := [
  .createPayment sampleOrder none "pay_1" 0,
  .authorize "pay_1",
  .createAccount ⟨"acct_cash", "Cash", "MAD"⟩,
  .createAccount ⟨"acct_merchant", "Merchant", "MAD"⟩]

/-- The capture of the payment. -/
def capture : ServiceCall :=
  .execute
    ⟨"pay_1", .capture, "acct_cash", "acct_merchant", "capture-1", "op_1", "jrn_1", "evt_1", 1⟩

/-- The refund of the payment. -/
def refund : ServiceCall :=
  .execute
    ⟨"pay_1", .refund, "acct_cash", "acct_merchant", "refund-1", "op_2", "jrn_2", "evt_2", 2⟩

/-- The tables after some calls, with how each ended. -/
def leaves (calls : List ServiceCall) :
    List (ServiceCall × Outcome DbError ServiceError PUnit) × Database :=
  (postgres hashes).transactAll (ServiceCall.body digests) migrated calls

/-- Some calls are a run. -/
theorem run_leaves (calls : List ServiceCall) :
    (ServiceCall.serial hashes digests).Run (leaves calls).1 (leaves calls).2 :=
  Engine.run_transactAll (· = migrated) (ServiceCall.body digests) rfl calls

/-- A capture is reported clean. -/
theorem clean_inspect_capture :
    (inspect (leaves (setUp ++ [capture])).2).clean = true ∧
      (leaves (setUp ++ [capture])).2.paymentOperations.rows.length = 1 :=
  ⟨(clean_inspect_of_run (run_leaves (setUp ++ [capture]))).1 (by decide), by decide⟩

/-- A capture and then a refund of one payment, both committed, are reported: the status of the
payment is not the target of the capture any more. -/
theorem not_clean_inspect_refund :
    ¬∀ log db, (ServiceCall.serial hashes digests).Run log db → (inspect db).clean = true := by
  intro h
  have hclean := h _ _ (run_leaves (setUp ++ [capture, refund]))
  revert hclean
  decide

end Reconciler

end AtlasPay
