import AtlasPay.Operations.Health
import Mathlib.Data.Rat.Floor

/-!
# The marts

`daily_payment_kpis.sql`, `payment_operation_latency.sql` and `outbox_reliability.sql` of
`analytics/sql`, each a grouping of rows of the tables. The marts group by different days: a payment
by that of its creation, an operation by that of its own. By currency alone they agree, in every
state of every run of the services, with one another and with the snapshot (`kpis_of_run`,
`marts_of_run`).
-/

namespace AtlasPay

open Database

/-! ## What the queries compute -/

/-- What the database computes for the marts: the day of a moment, in its time zone, the collation
of `ORDER BY`, and rounded averages, shares and percentiles, those of seconds from microseconds. -/
structure MartServer (Date N : Type) where
  date : Timestamp → Date
  dateLe : Date → Date → Bool
  collate : String → String → Bool
  averageAmount : List ℤ → N
  share : ℕ → ℕ → N
  averageSeconds : List ℤ → Option N
  p50Seconds : List ℤ → Option N
  p95Seconds : List ℤ → Option N

variable {Date N : Type} [DecidableEq Date]

/-- `ORDER BY` a date and then a text. -/
def MartServer.inOrder (server : MartServer Date N) (a b : Date × String) : Bool :=
  if a.1 ≠ b.1 then server.dateLe a.1 b.1 else server.collate a.2 b.2

/-- A row of `daily_payment_kpis`. -/
structure DailyPaymentKpisRow (Date N : Type) where
  paymentDate : Date
  currency : String
  paymentsCreated : ℕ
  grossCreatedAmountMinor : ℤ
  averageCreatedAmountMinor : N
  pendingPayments : ℕ
  authorizedPayments : ℕ
  capturedPayments : ℕ
  refundedPayments : ℕ
  reversedPayments : ℕ
  failedPayments : ℕ
  cancelledPayments : ℕ
  currentCapturedShare : N

/-- The column of a status. -/
def DailyPaymentKpisRow.paymentsIn (status : PaymentStatus) (row : DailyPaymentKpisRow Date N) : ℕ :=
  match status with
  | .pending => row.pendingPayments
  | .authorized => row.authorizedPayments
  | .captured => row.capturedPayments
  | .refunded => row.refundedPayments
  | .reversed => row.reversedPayments
  | .failed => row.failedPayments
  | .cancelled => row.cancelledPayments

/-- A row of `payment_operation_latency`. -/
structure PaymentOperationLatencyRow (Date N : Type) where
  operationDate : Date
  currency : String
  operation : String
  operationCount : ℕ
  averageSecondsAfterCreation : Option N
  p50SecondsAfterCreation : Option N
  p95SecondsAfterCreation : Option N

/-- A row of `outbox_reliability`. -/
structure OutboxReliabilityRow (Date N : Type) where
  eventDate : Date
  eventType : String
  totalEvents : ℕ
  publishedEvents : ℕ
  unpublishedEvents : ℕ
  retryLimitEvents : ℕ
  averagePublishLatencySeconds : Option N
  p95PublishLatencySeconds : Option N
  maxAttempts : Option ℤ

namespace Marts

/-- `status = ...`. -/
def isIn (status : PaymentStatus) (payment : PaymentRow) : Bool := payment.status = status.value

/-- A cohort of payments. -/
def kpisRow (server : MartServer Date N) (group : (Date × String) × List PaymentRow) :
    DailyPaymentKpisRow Date N where
  paymentDate := group.1.1
  currency := group.1.2
  paymentsCreated := group.2.length
  grossCreatedAmountMinor := (group.2.map PaymentRow.amount).sum
  averageCreatedAmountMinor := server.averageAmount (group.2.map PaymentRow.amount)
  pendingPayments := group.2.countP (isIn .pending)
  authorizedPayments := group.2.countP (isIn .authorized)
  capturedPayments := group.2.countP (isIn .captured)
  refundedPayments := group.2.countP (isIn .refunded)
  reversedPayments := group.2.countP (isIn .reversed)
  failedPayments := group.2.countP (isIn .failed)
  cancelledPayments := group.2.countP (isIn .cancelled)
  currentCapturedShare := server.share (group.2.countP (isIn .captured)) group.2.length

omit [DecidableEq Date] in
/-- The column of a status counts the payments with the status. -/
theorem paymentsIn_kpisRow (server : MartServer Date N) (status : PaymentStatus)
    (group : (Date × String) × List PaymentRow) :
    (kpisRow server group).paymentsIn status = group.2.countP (isIn status) := by
  cases status <;> rfl

/-- `GROUP BY created_at::date, currency`. -/
def cohort (server : MartServer Date N) (payment : PaymentRow) : Date × String :=
  (server.date payment.createdAt, payment.currency)

/-- `daily_payment_kpis`. -/
def dailyPaymentKpis (server : MartServer Date N) (db : Database) :
    List (DailyPaymentKpisRow Date N) :=
  (groups (cohort server) server.inOrder db.payments.rows).map (kpisRow server)

/-- A row of `operation_observations`. -/
structure OperationObservation (Date : Type) where
  operationDate : Date
  currency : String
  operation : String
  secondsAfterPaymentCreation : ℤ

/-- `operation_observations`, of operations that were created at some moments. -/
def operationObservations (server : MartServer Date N) (createdAt : String → Timestamp)
    (db : Database) : List (OperationObservation Date) :=
  db.paymentOperations.rows.filterMap fun row =>
    (db.payments.find? row.paymentId).map fun payment => {
      operationDate := server.date (createdAt row.id)
      currency := payment.currency
      operation := row.operation
      secondsAfterPaymentCreation := createdAt row.id - payment.createdAt }

/-- `GROUP BY operation_date, currency, operation`. -/
def observed (observation : OperationObservation Date) : Date × String × String :=
  (observation.operationDate, observation.currency, observation.operation)

/-- `ORDER BY operation_date, currency, operation`. -/
def inObservedOrder (server : MartServer Date N) (a b : Date × String × String) : Bool :=
  if a.1 ≠ b.1 then server.dateLe a.1 b.1
  else if a.2.1 ≠ b.2.1 then server.collate a.2.1 b.2.1
  else server.collate a.2.2 b.2.2

/-- The operations of a kind on one day in one currency. -/
def latencyRow (server : MartServer Date N)
    (group : (Date × String × String) × List (OperationObservation Date)) :
    PaymentOperationLatencyRow Date N :=
  let seconds := group.2.map OperationObservation.secondsAfterPaymentCreation
  { operationDate := group.1.1
    currency := group.1.2.1
    operation := group.1.2.2
    operationCount := group.2.length
    averageSecondsAfterCreation := server.averageSeconds seconds
    p50SecondsAfterCreation := server.p50Seconds seconds
    p95SecondsAfterCreation := server.p95Seconds seconds }

/-- `payment_operation_latency`. -/
def paymentOperationLatency (server : MartServer Date N) (createdAt : String → Timestamp)
    (db : Database) : List (PaymentOperationLatencyRow Date N) :=
  (groups observed (inObservedOrder server) (operationObservations server createdAt db)).map
    (latencyRow server)

/-- `published_at IS NULL AND attempts >= 5`. -/
def isAtRetryLimit (event : OutboxEventRow) : Bool :=
  event.publishedAt.isNone && 5 ≤ event.attempts

/-- The events of a type on one day. -/
def reliabilityRow (server : MartServer Date N)
    (group : (Date × String) × List OutboxEventRow) : OutboxReliabilityRow Date N :=
  let latencies := group.2.filterMap fun event =>
    event.publishedAt.map fun publishedAt => publishedAt - event.createdAt
  { eventDate := group.1.1
    eventType := group.1.2
    totalEvents := group.2.length
    publishedEvents := group.2.countP fun event => event.publishedAt.isSome
    unpublishedEvents := group.2.countP fun event => event.publishedAt.isNone
    retryLimitEvents := group.2.countP isAtRetryLimit
    averagePublishLatencySeconds := server.averageSeconds latencies
    p95PublishLatencySeconds := server.p95Seconds latencies
    maxAttempts := (group.2.map OutboxEventRow.attempts).max? }

/-- `outbox_reliability`. -/
def outboxReliability (server : MartServer Date N) (db : Database) :
    List (OutboxReliabilityRow Date N) :=
  (groups (fun event => (server.date event.createdAt, event.eventType)) server.inOrder
    db.outboxEvents.rows).map (reliabilityRow server)

/-! ## Sums over rows -/

/-- What a column counts, summed over the rows of a currency. -/
def inCurrency {ρ : Type} (currency : ρ → String) (column : ρ → ℕ) (c : String)
    (rows : List ρ) : ℕ :=
  ((rows.filter fun row => currency row = c).map column).sum

variable {server : MartServer Date N} {createdAt : String → Timestamp} {db : Database}

/-- A column that counts payments counts those of the currency. -/
theorem inCurrency_kpis {column : DailyPaymentKpisRow Date N → ℕ} {p : PaymentRow → Bool}
    (hcolumn : ∀ group, column (kpisRow server group) = group.2.countP p) (c : String) :
    inCurrency DailyPaymentKpisRow.currency column c (dailyPaymentKpis server db) =
      db.payments.rows.countP fun payment => decide (payment.currency = c) && p payment := by
  unfold inCurrency dailyPaymentKpis
  rw [List.filter_map, List.map_map]
  have hsum := sum_countP_filter_groups (cohort server) server.inOrder
    (fun group => decide (group.2 = c)) p db.payments.rows
  refine Eq.trans ?_ hsum
  exact congrArg List.sum (List.map_congr_left fun group _ => hcolumn group)

/-- The operations of a kind are those of the payments in the currency. -/
theorem inCurrency_latency (c operation : String) :
    inCurrency PaymentOperationLatencyRow.currency PaymentOperationLatencyRow.operationCount c
        ((paymentOperationLatency server createdAt db).filter fun row =>
          row.operation = operation) =
      db.paymentOperations.rows.countP fun row =>
        (db.payments.find? row.paymentId).any (fun payment => payment.currency = c) &&
          decide (row.operation = operation) := by
  unfold inCurrency paymentOperationLatency
  rw [List.filter_map, List.filter_map, List.map_map, List.filter_filter]
  have hsum := sum_countP_filter_groups observed (inObservedOrder server)
    (fun group => decide (group.2.1 = c) && decide (group.2.2 = operation)) (fun _ => true)
    (operationObservations server createdAt db)
  simp only [List.countP_true, Bool.and_true] at hsum
  refine Eq.trans hsum ?_
  unfold operationObservations
  rw [List.countP_filterMap]
  refine List.countP_congr fun row _ => ?_
  cases db.payments.find? row.paymentId <;> rfl

/-- The operations of a kind, by the statuses of the payments in a currency. -/
theorem countP_operations_inCurrency (h : Consistent db) (c : String)
    (operation : PaymentOperation) :
    (db.paymentOperations.rows.countP fun row =>
        (db.payments.find? row.paymentId).any (fun payment => payment.currency = c) &&
          decide (row.operation = operation.value)) =
      db.payments.rows.countP fun payment => decide (payment.currency = c) &&
        (operation.leavesIn.map PaymentStatus.value).contains payment.status := by
  rw [← sum_operationsOf_filter]
  have hcounts : ((db.payments.rows.filter fun payment => decide (payment.currency = c)).map
      fun payment => (db.operationsOf payment.id).countP
        fun row => decide (row.operation = operation.value)) =
      (db.payments.rows.filter fun payment => decide (payment.currency = c)).map fun payment =>
        if (operation.leavesIn.map PaymentStatus.value).contains payment.status then 1 else 0 :=
    List.map_congr_left fun payment hpayment =>
      h.countP_operationsOf (List.mem_of_mem_filter hpayment) operation
  rw [hcounts, sum_map_ite, List.countP_filter]
  exact List.countP_congr fun payment _ => by rw [Bool.and_comm]

/-- The payments of consistent tables have one of five statuses. -/
theorem length_eq_of_statuses {rows : List PaymentRow}
    (h : ∀ payment ∈ rows, ∃ status operations, payment.status = PaymentStatus.value status ∧
      History status operations) :
    rows.length = rows.countP (isIn .pending) + rows.countP (isIn .authorized) +
      rows.countP (isIn .captured) + rows.countP (isIn .refunded) + rows.countP (isIn .reversed) := by
  induction rows with
  | nil => rfl
  | cons payment rows ih =>
    obtain ⟨⟨status, operations, hvalue, hhistory⟩, hrest⟩ := List.forall_mem_cons.mp h
    have hlength := ih hrest
    rw [List.length_cons, List.countP_cons, List.countP_cons, List.countP_cons, List.countP_cons,
      List.countP_cons]
    simp only [isIn, hvalue]
    rcases hhistory.cases_of with ⟨rfl, -⟩ | ⟨rfl, -⟩ | ⟨rfl, -⟩ | ⟨rfl, -⟩ | ⟨rfl, -⟩ <;>
      simp only [PaymentStatus.value] <;> simp <;> omega

/-- No payment of a cohort has failed, and none is cancelled. -/
theorem countP_isIn_eq_zero (h : Consistent db) {rows : List PaymentRow}
    (hrows : ∀ payment ∈ rows, payment ∈ db.payments.rows) :
    rows.countP (isIn .failed) = 0 ∧ rows.countP (isIn .cancelled) = 0 := by
  obtain ⟨hfailed, hcancelled⟩ := h.paymentsWith_eq_zero
  unfold paymentsWith at hfailed hcancelled
  rw [List.countP_eq_zero] at hfailed hcancelled
  exact ⟨List.countP_eq_zero.mpr fun payment hpayment => hfailed payment (hrows payment hpayment),
    List.countP_eq_zero.mpr fun payment hpayment => hcancelled payment (hrows payment hpayment)⟩

/-- In every state of every run of the services, a cohort is split by five statuses, and in each
currency the operations of a kind are the payments with the statuses that these leave payments in,
on whatever days they were executed. -/
theorem kpis_of_run {hashtext : String → ℤ} {sha256 : String → Digest}
    {log : List (ServiceCall × Outcome DbError ServiceError PUnit)}
    (h : (ServiceCall.serial hashtext sha256).Run log db) :
    (∀ row ∈ dailyPaymentKpis server db, 0 < row.paymentsCreated ∧
      row.paymentsCreated ≤ row.grossCreatedAmountMinor ∧
      row.paymentsCreated = row.pendingPayments + row.authorizedPayments + row.capturedPayments +
        row.refundedPayments + row.reversedPayments ∧
      row.failedPayments = 0 ∧ row.cancelledPayments = 0) ∧
    ∀ c,
      let payments column := inCurrency DailyPaymentKpisRow.currency column c
        (dailyPaymentKpis server db)
      let operations (operation : PaymentOperation) := inCurrency
        PaymentOperationLatencyRow.currency PaymentOperationLatencyRow.operationCount c
        ((paymentOperationLatency server createdAt db).filter fun row =>
          row.operation = operation.value)
      operations .capture = payments DailyPaymentKpisRow.capturedPayments +
        payments DailyPaymentKpisRow.refundedPayments ∧
      operations .refund = payments DailyPaymentKpisRow.refundedPayments ∧
      operations .reversal = payments DailyPaymentKpisRow.reversedPayments := by
  have hconsistent : Consistent db := ServiceCall.consistent_of_run id h
  constructor
  · intro row hrow
    obtain ⟨group, hgroup, rfl⟩ := List.mem_map.mp hrow
    -- The rows of a cohort are payments of the table, which have a history.
    have hrows : ∀ payment ∈ group.2, payment ∈ db.payments.rows := by
      rw [(mem_groups_iff.mp hgroup).2]
      exact fun payment hpayment => List.mem_of_mem_filter hpayment
    have hzero := countP_isIn_eq_zero hconsistent hrows
    refine ⟨List.length_pos_iff.mpr (ne_nil_of_mem_groups hgroup), ?_,
      length_eq_of_statuses fun payment hpayment => ?_, hzero.1, hzero.2⟩
    · -- Each payment is of at least one minor unit.
      have hsum := List.card_nsmul_le_sum (group.2.map PaymentRow.amount) 1 ?_
      · simpa [kpisRow] using hsum
      · intro amount hamount
        obtain ⟨payment, -, rfl⟩ := List.mem_map.mp hamount
        exact payment.amount_check
    · obtain ⟨status, operations, hvalue, hhistory, -⟩ :=
        hconsistent.history payment (hrows payment hpayment)
      exact ⟨status, operations, hvalue, hhistory⟩
  · intro c payments operations
    have hstatus : ∀ (column : DailyPaymentKpisRow Date N → ℕ) (status : PaymentStatus),
        (∀ group, column (kpisRow server group) = group.2.countP (isIn status)) →
        payments column = db.payments.rows.countP fun payment =>
          decide (payment.currency = c) && isIn status payment :=
      fun column status hcolumn => inCurrency_kpis hcolumn c
    have hoperations : ∀ operation : PaymentOperation, operations operation =
        db.payments.rows.countP fun payment => decide (payment.currency = c) &&
          (operation.leavesIn.map PaymentStatus.value).contains payment.status :=
      fun operation => (inCurrency_latency c operation.value).trans
        (countP_operations_inCurrency hconsistent c operation)
    -- One status is a list of one.
    have hone : ∀ (payment : PaymentRow) (status : PaymentStatus),
        ([status].map PaymentStatus.value).contains payment.status = isIn status payment := by
      intro payment status
      simp [isIn]
    refine ⟨?_, ?_, ?_⟩
    · rw [hoperations, hstatus _ .captured fun _ => rfl, hstatus _ .refunded fun _ => rfl]
      -- A capture is of a payment that is captured or refunded now, and is never both.
      rw [← countP_or]
      · refine List.countP_congr fun payment _ => ?_
        have hboth : (PaymentOperation.capture.leavesIn.map PaymentStatus.value).contains
            payment.status = (isIn .captured payment || isIn .refunded payment) := by
          rw [← hone, ← hone]
          simp [PaymentOperation.leavesIn]
        rw [hboth, Bool.and_or_distrib_left]
      · intro payment _ hcaptured hrefunded
        have hcaptured := of_decide_eq_true (Bool.and_eq_true_iff.mp hcaptured).2
        have hrefunded := of_decide_eq_true (Bool.and_eq_true_iff.mp hrefunded).2
        exact absurd (PaymentStatus.value_injective (hcaptured.symm.trans hrefunded)) (by decide)
    · rw [hoperations, hstatus _ .refunded fun _ => rfl]
      exact List.countP_congr fun payment _ => by rw [← hone]; rfl
    · rw [hoperations, hstatus _ .reversed fun _ => rfl]
      exact List.countP_congr fun payment _ => by rw [← hone]; rfl

/-- A server in UTC, which computes exactly and then rounds. -/
def utcServer : MartServer ℤ ℚ :=
  let rounded (digits : ℕ) (q : ℚ) : ℚ := (⌊q * 10 ^ digits + 1 / 2⌋ : ℚ) / 10 ^ digits
  let average (values : List ℤ) : ℚ := (values.sum : ℚ) / values.length
  let percentile (percent : ℕ) (values : List ℤ) : Option ℚ :=
    match values.insertionSort (· ≤ ·) with
    | [] => none
    | low :: rest =>
      let position := percent * rest.length
      let before := (low :: rest).getD (position / 100) low
      let next := (low :: rest).getD (position / 100 + 1) before
      some (rounded 3 ((before + (next - before) * (position % 100 : ℕ) / 100) / 1000000))
  { date := fun moment => moment / 86400000000
    dateLe := fun a b => a ≤ b
    collate := fun a b => a ≤ b
    averageAmount := fun amounts => rounded 2 (average amounts)
    share := fun captured created => rounded 4 ((captured : ℚ) / created)
    averageSeconds := fun values =>
      if values = [] then none else some (rounded 3 (average values / 1000000))
    p50Seconds := percentile 50
    p95Seconds := percentile 95 }

/-- A capture is counted once, whatever day it is executed on. -/
theorem kpis_of_capture :
    let db := (Reconciler.leaves (Reconciler.setUp ++ [Reconciler.capture])).2
    let payments column := inCurrency DailyPaymentKpisRow.currency column "MAD"
      (dailyPaymentKpis utcServer db)
    inCurrency PaymentOperationLatencyRow.currency PaymentOperationLatencyRow.operationCount "MAD"
        ((paymentOperationLatency utcServer (fun _ => 86400000001) db).filter fun row =>
          row.operation = PaymentOperation.capture.value) =
      payments DailyPaymentKpisRow.capturedPayments +
        payments DailyPaymentKpisRow.refundedPayments ∧
      payments DailyPaymentKpisRow.capturedPayments = 1 :=
  ⟨((kpis_of_run (Reconciler.run_leaves (Reconciler.setUp ++ [Reconciler.capture]))).2 "MAD").1,
    by decide⟩

/-- A column that counts rows of groups counts those of the table. -/
theorem sum_column {α κ ρ : Type} [DecidableEq κ] {key : α → κ} {le : κ → κ → Bool}
    {make : κ × List α → ρ} {column : ρ → ℕ} {p : α → Bool}
    (hcolumn : ∀ group, column (make group) = group.2.countP p) (rows : List α) :
    (((groups key le rows).map make).map column).sum = rows.countP p := by
  rw [← sum_countP_groups key le p rows, List.map_map]
  exact congrArg List.sum (List.map_congr_left fun group _ => hcolumn group)

/-- In every state of every run of the services, the marts and the snapshot of that state tell the
same numbers: the payments in all and with each status, the operations, the unpublished events and
those at the retry limit. And there are as many events as operations. -/
theorem marts_of_run {T : Type} [LinearOrder T] [Zero T] {hashtext : String → ℤ}
    {sha256 : String → Digest}
    {log : List (ServiceCall × Outcome DbError ServiceError PUnit)}
    (h : (ServiceCall.serial hashtext sha256).Run log db) {snapshotServer : Server T}
    {generatedAt : Timestamp} {observations : List (NetworkObservationRow T)}
    {result : OperationalSnapshot T}
    (hread : (PostgresOperationalSnapshotReader.usual.read generatedAt).result
      (fun s => s.answer snapshotServer ⟨db, observations⟩) = .ok result) :
    let kpis column := ((dailyPaymentKpis server db).map column).sum
    let operations := ((paymentOperationLatency server createdAt db).map
      PaymentOperationLatencyRow.operationCount).sum
    let events column := ((outboxReliability server db).map column).sum
    result.payments.total = some (kpis DailyPaymentKpisRow.paymentsCreated) ∧
      (∀ status, result.paymentsWith status = kpis (DailyPaymentKpisRow.paymentsIn status)) ∧
      result.payments.operations = some operations ∧
      result.outbox.unpublished = some (events OutboxReliabilityRow.unpublishedEvents) ∧
      result.outbox.poisonMessages = some (events OutboxReliabilityRow.retryLimitEvents) ∧
      events OutboxReliabilityRow.totalEvents = operations ∧
      events OutboxReliabilityRow.totalEvents = events OutboxReliabilityRow.publishedEvents +
        events OutboxReliabilityRow.unpublishedEvents := by
  have hconsistent : Consistent db := ServiceCall.consistent_of_run id h
  rw [PostgresOperationalSnapshotReader.read, Program.result_bind, Program.result_embed] at hread
  cases hread
  intro kpis operations events
  have htotal : ∀ {α : Type} (rows : List α), rows.countP (fun _ => true) = rows.length :=
    fun rows => congrFun List.countP_true rows
  -- The sum of a column over all groups is the count of its rows.
  have hstatus : ∀ (column : DailyPaymentKpisRow Date N → ℕ) (p : PaymentRow → Bool),
      (∀ group, column (kpisRow server group) = group.2.countP p) →
      kpis column = db.payments.rows.countP p :=
    fun column p hcolumn => sum_column hcolumn db.payments.rows
  have hevents : ∀ (column : OutboxReliabilityRow Date N → ℕ) (p : OutboxEventRow → Bool),
      (∀ group, column (reliabilityRow server group) = group.2.countP p) →
      events column = db.outboxEvents.rows.countP p :=
    fun column p hcolumn => sum_column hcolumn db.outboxEvents.rows
  -- Every operation has its payment, so the join loses none.
  have hoperations : operations = db.paymentOperations.rows.length := by
    have hall : (operationObservations server createdAt db).length =
        db.paymentOperations.rows.length := by
      unfold operationObservations
      rw [List.length_filterMap_eq_countP, List.countP_eq_length]
      intro row hrow
      obtain ⟨-, -, payment, hpayment, -⟩ := hconsistent.operations row hrow
      rw [hpayment]
      rfl
    have hcolumn : ∀ group, (latencyRow server group).operationCount =
        group.2.countP fun _ => true := fun group => (htotal group.2).symm
    rw [← hall, ← htotal]
    exact sum_column hcolumn _
  -- An event is counted as published or as unpublished, and in the total.
  have htotals : events OutboxReliabilityRow.totalEvents = db.outboxEvents.rows.length :=
    (hevents _ (fun _ => true) fun group => (htotal group.2).symm).trans (htotal _)
  have hunpublished := hevents OutboxReliabilityRow.unpublishedEvents
    (fun event => event.publishedAt.isNone) fun _ => rfl
  refine ⟨?_, fun status => ?_, congrArg some hoperations.symm, ?_, ?_, ?_, ?_⟩
  · have hlength := hstatus DailyPaymentKpisRow.paymentsCreated (fun _ => true)
      fun group => (htotal group.2).symm
    rw [hlength, htotal]
    exact congrArg some ((tallies_groups PaymentRow.status snapshotServer.collate _).sum)
  · rw [hstatus _ (isIn status) (paymentsIn_kpisRow server status)]
    exact lookup_groups PaymentRow.status snapshotServer.collate _ _
  · rw [hunpublished]
    exact congrArg some List.countP_eq_length_filter.symm
  · rw [hevents OutboxReliabilityRow.retryLimitEvents isAtRetryLimit fun _ => rfl]
    refine congrArg some ((List.countP_filter ..).trans (List.countP_congr fun event _ => ?_))
    -- The mart and the snapshot make the two tests in different orders.
    unfold isAtRetryLimit SnapshotStatement.isUnpublished
    rw [Bool.and_comm]
    rfl
  · rw [htotals, hoperations]
    -- Each operation has its event, in order.
    exact hconsistent.events.length_eq.symm
  · rw [htotals, hunpublished, hevents _ (fun event => event.publishedAt.isSome) fun _ => rfl,
      List.length_eq_countP_add_countP fun event : OutboxEventRow => event.publishedAt.isSome]
    refine congrArg _ (List.countP_congr fun event _ => ?_)
    cases event.publishedAt <;> simp

/-- The marts and the snapshot after a capture count one operation and one event. -/
theorem marts_of_capture :
    let db := (Reconciler.leaves (Reconciler.setUp ++ [Reconciler.capture])).2
    ∃ result, (PostgresOperationalSnapshotReader.usual.read 0).result
        (fun s => s.answer exactServer ⟨db, []⟩) = .ok result ∧
      result.payments.operations = some ((paymentOperationLatency utcServer (fun _ => 1) db).map
        PaymentOperationLatencyRow.operationCount).sum ∧
      result.payments.operations = some 1 := by
  intro db
  obtain ⟨result, hread⟩ : ∃ result, (PostgresOperationalSnapshotReader.usual.read 0).result
      (fun s => s.answer exactServer ⟨db, []⟩) = .ok result := ⟨_, rfl⟩
  have hrun := Reconciler.run_leaves (Reconciler.setUp ++ [Reconciler.capture])
  have hoperations : result.payments.operations =
      some ((paymentOperationLatency utcServer (fun _ => 1) db).map
        PaymentOperationLatencyRow.operationCount).sum :=
    (marts_of_run hrun hread).2.2.1
  have hone : ((paymentOperationLatency utcServer (fun _ => 1) db).map
      PaymentOperationLatencyRow.operationCount).sum = 1 := by decide
  rw [hone] at hoperations
  exact ⟨result, hread, by rw [hoperations, hone], hoperations⟩

end Marts

end AtlasPay
