import AtlasPay.Library.Grouping
import AtlasPay.Payments.Inspection

/-!
# Counting payments and operations

In consistent tables the operations of each kind are counted by the statuses of the payments: every
capture is that of a payment which is captured or refunded now, every refund and every reversal that
of a payment which is refunded or reversed now. The check of statuses finds the capture of each
refunded payment and nothing else, so it finds as many discrepancies as there were refunds.
-/

namespace AtlasPay

/-- The statuses of the payments for which the operation was executed. -/
def PaymentOperation.leavesIn : PaymentOperation → List PaymentStatus
  | .capture => [.captured, .refunded]
  | .refund => [.refunded]
  | .reversal => [.reversed]

namespace History

variable {status : PaymentStatus} {operations : List PaymentOperation}

/-- A history has an operation once, if the status is one that this leaves a payment in. -/
theorem count_eq (h : History status operations) (operation : PaymentOperation) :
    operations.count operation = if status ∈ operation.leavesIn then 1 else 0 := by
  rcases h.cases_of with ⟨rfl, rfl⟩ | ⟨rfl, rfl⟩ | ⟨rfl, rfl⟩ | ⟨rfl, rfl⟩ | ⟨rfl, rfl⟩ <;>
    cases operation <;> decide

/-- An operation that did not lead to the status is the capture before a refund. -/
theorem target_ne_iff (h : History status operations) {operation : PaymentOperation}
    (hmem : operation ∈ operations) :
    status ≠ operation.transition.2 ↔ status = .refunded ∧ operation = .capture := by
  rcases h.cases_of with ⟨rfl, rfl⟩ | ⟨rfl, rfl⟩ | ⟨rfl, rfl⟩ | ⟨rfl, rfl⟩ | ⟨rfl, rfl⟩ <;>
    cases operation <;> simp_all [PaymentOperation.transition]

/-- No payment fails, and none is cancelled. -/
theorem status_ne (h : History status operations) : status ≠ .failed ∧ status ≠ .cancelled := by
  rcases h.cases_of with ⟨rfl, -⟩ | ⟨rfl, -⟩ | ⟨rfl, -⟩ | ⟨rfl, -⟩ | ⟨rfl, -⟩ <;> decide

end History

namespace Database

/-- How many payments have a status. -/
def paymentsWith (db : Database) (status : PaymentStatus) : ℕ :=
  db.payments.rows.countP fun payment => payment.status = status.value

/-- How many operations of a kind there are. -/
def operationsWith (db : Database) (operation : PaymentOperation) : ℕ :=
  db.paymentOperations.rows.countP fun row => row.operation = operation.value

/-- The operations of some payments are counted payment by payment. -/
theorem sum_operationsOf_filter (db : Database) (q : PaymentRow → Bool)
    (p : PaymentOperationRow → Bool) :
    ((db.payments.rows.filter q).map fun payment => (db.operationsOf payment.id).countP p).sum =
      db.paymentOperations.rows.countP fun row => (db.payments.find? row.paymentId).any q && p row := by
  have hreferences := db.payments.sum_references q PaymentOperationRow.paymentId
    (fun row => if p row then 1 else 0) db.paymentOperations.rows
  simp only [sum_map_ite] at hreferences
  refine hreferences.trans ?_
  rw [List.countP_filter]
  exact List.countP_congr fun row _ => by rw [Bool.and_comm]

namespace Consistent

variable {db : Database}

/-- The operations are counted payment by payment. -/
theorem sum_operationsOf (h : Consistent db) (p : PaymentOperationRow → Bool) :
    (db.payments.rows.map fun payment => (db.operationsOf payment.id).countP p).sum =
      db.paymentOperations.rows.countP p := by
  have hall : db.paymentOperations.rows.countP p = db.paymentOperations.rows.countP
      fun row => (db.payments.find? row.paymentId).any (fun _ => true) && p row := by
    refine List.countP_congr fun row hrow => ?_
    obtain ⟨-, -, payment, hpayment, -⟩ := h.operations row hrow
    rw [hpayment]
    rfl
  rw [hall, ← sum_operationsOf_filter, List.filter_true]

/-- A payment has an operation of a kind once, if its status is one that this leaves it in. -/
theorem countP_operationsOf (h : Consistent db) {payment : PaymentRow}
    (hpayment : payment ∈ db.payments.rows) (operation : PaymentOperation) :
    (db.operationsOf payment.id).countP (fun row => row.operation = operation.value) =
      if (operation.leavesIn.map PaymentStatus.value).contains payment.status then 1 else 0 := by
  obtain ⟨status, operations, hvalue, hhistory, hmap⟩ := h.history payment hpayment
  calc (db.operationsOf payment.id).countP (fun row => row.operation = operation.value)
      = ((db.operationsOf payment.id).map PaymentOperationRow.operation).countP
          (fun text => text = operation.value) := by rw [List.countP_map]; rfl
    _ = (operations.map PaymentOperation.value).countP (fun text => text = operation.value) := by
        rw [hmap]
    _ = operations.count operation := by
        rw [List.countP_map, List.count]
        refine List.countP_congr fun other _ => ?_
        simp [PaymentOperation.value_injective.eq_iff]
    _ = _ := by
        rw [hhistory.count_eq, hvalue]
        refine if_congr ?_ rfl rfl
        rw [List.contains_iff_mem, List.mem_map_of_injective PaymentStatus.value_injective]

/-- No payment has failed, and none is cancelled. -/
theorem paymentsWith_eq_zero (h : Consistent db) :
    db.paymentsWith .failed = 0 ∧ db.paymentsWith .cancelled = 0 := by
  have hnone : ∀ other : PaymentStatus, (∀ status operations, History status operations →
      status ≠ other) → db.paymentsWith other = 0 := by
    intro other hother
    refine List.countP_eq_zero.mpr fun payment hpayment => ?_
    obtain ⟨status, operations, hvalue, hhistory, -⟩ := h.history payment hpayment
    rw [hvalue, decide_eq_true_iff, PaymentStatus.value_injective.eq_iff]
    exact hother status operations hhistory
  exact ⟨hnone _ fun _ _ hhistory => hhistory.status_ne.1,
    hnone _ fun _ _ hhistory => hhistory.status_ne.2⟩

/-- The status of a payment is not the target of one of its operations when this is the capture
before a refund. -/
theorem mismatch_iff (h : Consistent db) {row : PaymentOperationRow}
    (hrow : row ∈ db.paymentOperations.rows) {payment : PaymentRow}
    (hfound : db.payments.find? row.paymentId = some payment) :
    payment.status ≠ row.toStatus ↔ payment.status = PaymentStatus.refunded.value ∧
      row.operation = PaymentOperation.capture.value := by
  obtain ⟨hpayment, hid⟩ := Table.find?_eq_some_iff.mp hfound
  obtain ⟨⟨operation, hoperation, -, hto⟩, -⟩ := h.operations row hrow
  obtain ⟨status, operations, hvalue, hhistory, hmap⟩ := h.history payment hpayment
  have hof : row ∈ db.operationsOf payment.id := List.mem_filter.mpr ⟨hrow, by simpa using hid.symm⟩
  have hmem : operation ∈ operations := by
    rw [← List.mem_map_of_injective PaymentOperation.value_injective, ← hmap, ← hoperation]
    exact List.mem_map_of_mem hof
  have htarget := hhistory.target_ne_iff hmem
  rw [hvalue, hto, hoperation]
  rwa [Ne, PaymentStatus.value_injective.eq_iff, PaymentStatus.value_injective.eq_iff,
    PaymentOperation.value_injective.eq_iff]

/-- The check of statuses finds the captures of refunded payments. -/
theorem mem_statusMismatches_iff (h : Consistent db) {found : ReconciliationDiscrepancy} :
    found ∈ Reconciler.statusMismatches db ↔
      ∃ row ∈ db.paymentOperations.rows, row.operation = PaymentOperation.capture.value ∧
        (∃ payment, db.payments.find? row.paymentId = some payment ∧
          payment.status = PaymentStatus.refunded.value) ∧
        found = ⟨.paymentStatusMismatch, row.id,
          "payment status refunded != operation target captured"⟩ := by
  unfold Reconciler.statusMismatches
  rw [List.mem_filterMap]
  refine exists_congr fun row => and_congr_right fun hrow => ?_
  obtain ⟨⟨operation, hoperation, -, hto⟩, -, payment, hpayment, -⟩ := h.operations row hrow
  -- The status of a payment is not the target of an operation when a later one has moved it on.
  have hmismatch := h.mismatch_iff hrow hpayment
  rw [hpayment]
  dsimp only
  constructor
  · intro hfound
    split_ifs at hfound with hne
    · obtain ⟨hstatus, hcapture⟩ := hmismatch.mp hne
      have heq : operation = .capture :=
        PaymentOperation.value_injective (hoperation.symm.trans hcapture)
      refine ⟨hcapture, ⟨payment, rfl, hstatus⟩, ?_⟩
      rw [← Option.some.inj hfound, hstatus, hto, heq]
      rfl
  · rintro ⟨hcapture, ⟨payment', hsame, hstatus⟩, rfl⟩
    cases hsame
    have heq : operation = .capture :=
      PaymentOperation.value_injective (hoperation.symm.trans hcapture)
    rw [if_pos (hmismatch.mpr ⟨hstatus, hcapture⟩), hstatus, hto, heq]
    rfl

/-- The check of statuses finds one discrepancy for each refund. -/
theorem length_statusMismatches (h : Consistent db) :
    (Reconciler.statusMismatches db).length = db.operationsWith .refund := by
  unfold Reconciler.statusMismatches
  rw [List.length_filterMap_eq_countP, ← h.sum_operationsOf, operationsWith, ← h.sum_operationsOf]
  refine congrArg List.sum (List.map_congr_left fun payment hpayment => ?_)
  have hcapture := h.countP_operationsOf hpayment .capture
  rw [h.countP_operationsOf hpayment .refund]
  have hfound : ∀ row ∈ db.operationsOf payment.id, row ∈ db.paymentOperations.rows ∧
      db.payments.find? row.paymentId = some payment := by
    intro row hrow
    obtain ⟨hmem, hid⟩ := List.mem_filter.mp hrow
    have hid : payment.id = row.paymentId := Eq.symm (by simpa using hid)
    exact ⟨hmem, Table.find?_eq_some_iff.mpr ⟨hpayment, hid⟩⟩
  calc _ = (db.operationsOf payment.id).countP (fun row =>
        payment.status = PaymentStatus.refunded.value ∧
          row.operation = PaymentOperation.capture.value) := by
        refine List.countP_congr fun row hrow => ?_
        obtain ⟨hmem, hpaid⟩ := hfound row hrow
        rw [hpaid, decide_eq_true_iff, ← h.mismatch_iff hmem hpaid]
        dsimp only
        split_ifs with hne <;> simp [hne]
    _ = _ := by
        by_cases hrefunded : payment.status = PaymentStatus.refunded.value
        · simp only [hrefunded, true_and] at hcapture ⊢
          exact hcapture.trans (by decide)
        · simp only [hrefunded, false_and, decide_false, List.countP_false]
          simp [PaymentOperation.leavesIn, hrefunded]

end Consistent

end Database

end AtlasPay
