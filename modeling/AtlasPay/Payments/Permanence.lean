import AtlasPay.Payments.Conservation
import AtlasPay.Payments.Delivery
import Mathlib.Logic.Relation

/-!
# What is written stays

The tables of the payments as a history: whatever the services do from one committed state to a
later one, journals, entries, operations, keys and accounts stay as they are, in the order of their
commits; of a payment only the status moves, along its transitions; and of an event only its
delivery, until it is published (`Extends`).
-/

namespace AtlasPay

open Database
open Relation (ReflTransGen)

/-! ## From a state to a later one -/

/-- A status may become another one: from outside, or by an operation. -/
inductive StatusMove : String → String → Prop where
  | authorized : StatusMove PaymentStatus.pending.value PaymentStatus.authorized.value
  | operation (operation : PaymentOperation) :
      StatusMove operation.transition.1.value operation.transition.2.value

/-- A payment stays but for its status. -/
structure PaymentRow.Continues (row row' : PaymentRow) : Prop where
  id : row'.id = row.id
  amount : row'.amount = row.amount
  currency : row'.currency = row.currency
  merchantReference : row'.merchantReference = row.merchantReference
  createdAt : row'.createdAt = row.createdAt
  status : ReflTransGen StatusMove row.status row'.status

/-- An event stays but for its delivery, and altogether once it is published. -/
structure OutboxEventRow.Continues (row row' : OutboxEventRow) : Prop where
  id : row'.id = row.id
  aggregateType : row'.aggregateType = row.aggregateType
  aggregateId : row'.aggregateId = row.aggregateId
  eventType : row'.eventType = row.eventType
  payload : row'.payload = row.payload
  createdAt : row'.createdAt = row.createdAt
  published : row.publishedAt.isSome → row' = row

/-- A payment continues itself. -/
theorem PaymentRow.Continues.refl (row : PaymentRow) : row.Continues row :=
  ⟨rfl, rfl, rfl, rfl, rfl, .refl⟩

/-- A payment continues what it continued before. -/
theorem PaymentRow.Continues.trans (row row' row'' : PaymentRow) (h : row.Continues row')
    (h' : row'.Continues row'') : row.Continues row'' where
  id := h'.id.trans h.id
  amount := h'.amount.trans h.amount
  currency := h'.currency.trans h.currency
  merchantReference := h'.merchantReference.trans h.merchantReference
  createdAt := h'.createdAt.trans h.createdAt
  status := h.status.trans h'.status

/-- An event continues itself. -/
theorem OutboxEventRow.Continues.refl (row : OutboxEventRow) : row.Continues row :=
  ⟨rfl, rfl, rfl, rfl, rfl, rfl, fun _ => rfl⟩

/-- An event continues what it continued before. -/
theorem OutboxEventRow.Continues.trans (row row' row'' : OutboxEventRow) (h : row.Continues row')
    (h' : row'.Continues row'') : row.Continues row'' where
  id := h'.id.trans h.id
  aggregateType := h'.aggregateType.trans h.aggregateType
  aggregateId := h'.aggregateId.trans h.aggregateId
  eventType := h'.eventType.trans h.eventType
  payload := h'.payload.trans h.payload
  createdAt := h'.createdAt.trans h.createdAt
  published := by
    intro hpublished
    have hsame := h.published hpublished
    rw [← hsame] at hpublished
    exact (h'.published hpublished).trans hsame

namespace Database

/-- One state of the tables is later than another. -/
structure Extends (db db' : Database) : Prop where
  payments : Grows PaymentRow.Continues db.payments.rows db'.payments.rows
  keys : Grows Eq db.idempotencyKeys.rows db'.idempotencyKeys.rows
  accounts : Grows Eq db.ledgerAccounts.rows db'.ledgerAccounts.rows
  journals : Grows Eq db.ledgerTransactions.rows db'.ledgerTransactions.rows
  entries : Grows Eq db.ledgerEntries db'.ledgerEntries
  operations : Grows Eq db.paymentOperations.rows db'.paymentOperations.rows
  events : Grows OutboxEventRow.Continues db.outboxEvents.rows db'.outboxEvents.rows

variable {db db' db'' : Database}

namespace Extends

/-- Nothing happens. -/
theorem refl (db : Database) : Extends db db where
  payments := .refl PaymentRow.Continues.refl _
  keys := .refl Eq.refl _
  accounts := .refl Eq.refl _
  journals := .refl Eq.refl _
  entries := .refl Eq.refl _
  operations := .refl Eq.refl _
  events := .refl OutboxEventRow.Continues.refl _

/-- What is later than a later state. -/
theorem trans (h : Extends db db') (h' : Extends db' db'') : Extends db db'' where
  payments := h.payments.trans PaymentRow.Continues.trans h'.payments
  keys := h.keys.trans (fun _ _ _ => Eq.trans) h'.keys
  accounts := h.accounts.trans (fun _ _ _ => Eq.trans) h'.accounts
  journals := h.journals.trans (fun _ _ _ => Eq.trans) h'.journals
  entries := h.entries.trans (fun _ _ _ => Eq.trans) h'.entries
  operations := h.operations.trans (fun _ _ _ => Eq.trans) h'.operations
  events := h.events.trans OutboxEventRow.Continues.trans h'.events

/-! ## One change -/

/-- A new payment. -/
theorem of_insertPayment {row : PaymentRow} (habsent : db.payments.find? row.id = none) :
    Extends db (db.apply (.insertPayment row)) := by
  refine { refl db with payments := ?_ }
  show Grows _ _ (db.payments.put row).rows
  rw [Table.rows_put_of_absent habsent]
  exact .append PaymentRow.Continues.refl _ _

/-- The status of a payment moves. -/
theorem of_setPaymentStatus {id status : String} {payment : PaymentRow}
    (hpayment : db.payments.find? id = some payment) (hmove : StatusMove payment.status status) :
    Extends db (db.apply (.setPaymentStatus id status)) := by
  refine { refl db with payments := .map fun row hrow => ?_ }
  unfold setStatus
  split
  case isTrue hid =>
    obtain ⟨hmem, hkey⟩ := Table.find?_eq_some_iff.mp hpayment
    have hsame : row = payment := Table.eq_of_key_eq hrow hmem (hid.trans hkey.symm)
    rw [hsame]
    exact ⟨rfl, rfl, rfl, rfl, rfl, .single hmove⟩
  case isFalse => exact .refl row

/-- A new key. -/
theorem of_insertIdempotencyKey {row : IdempotencyKeyRow}
    (habsent : db.idempotencyKeys.find? row.key = none) :
    Extends db (db.apply (.insertIdempotencyKey row)) := by
  refine { refl db with keys := ?_ }
  show Grows _ _ (db.idempotencyKeys.put row).rows
  rw [Table.rows_put_of_absent habsent]
  exact .append Eq.refl _ _

/-- A new account. -/
theorem of_insertLedgerAccount {row : LedgerAccountRow}
    (habsent : db.ledgerAccounts.find? row.id = none) :
    Extends db (db.apply (.insertLedgerAccount row)) := by
  refine { refl db with accounts := ?_ }
  show Grows _ _ (db.ledgerAccounts.put row).rows
  rw [Table.rows_put_of_absent habsent]
  exact .append Eq.refl _ _

/-- A new journal. -/
theorem of_insertLedgerTransaction {row : LedgerTransactionRow}
    (habsent : db.ledgerTransactions.find? row.id = none) :
    Extends db (db.apply (.insertLedgerTransaction row)) := by
  refine { refl db with journals := ?_ }
  show Grows _ _ (db.ledgerTransactions.put row).rows
  rw [Table.rows_put_of_absent habsent]
  exact .append Eq.refl _ _

/-- New entries. -/
theorem of_insertLedgerEntries (rows : List LedgerEntryRow) :
    Extends db (after (rows.map .insertLedgerEntry) db) := by
  rw [after_insertLedgerEntries]
  exact { refl db with entries := .append Eq.refl _ _ }

/-- A new operation. -/
theorem of_insertPaymentOperation {row : PaymentOperationRow}
    (habsent : db.paymentOperations.find? row.id = none) :
    Extends db (db.apply (.insertPaymentOperation row)) := by
  refine { refl db with operations := ?_ }
  show Grows _ _ (db.paymentOperations.put row).rows
  rw [Table.rows_put_of_absent habsent]
  exact .append Eq.refl _ _

/-- A new event. -/
theorem of_insertOutboxEvent {row : OutboxEventRow}
    (habsent : db.outboxEvents.find? row.id = none) :
    Extends db (db.apply (.insertOutboxEvent row)) := by
  refine { refl db with events := ?_ }
  show Grows _ _ (db.outboxEvents.put row).rows
  rw [Table.rows_put_of_absent habsent]
  exact .append OutboxEventRow.Continues.refl _ _

/-- Events that are not published are updated. -/
theorem of_updateOutboxEvents {ids : List String} {update : OutboxUpdate}
    (hunpublished : ∀ id ∈ ids, db.isUnpublished id = true) :
    Extends db (db.apply (.updateOutboxEvents ids update)) := by
  refine { refl db with events := .map fun row hrow => ?_ }
  unfold updateEvent
  split
  case isTrue hid =>
    obtain ⟨found, hfound, hnone⟩ := isUnpublished_eq_true.mp (hunpublished row.id hid)
    obtain ⟨hmem, hkey⟩ := Table.find?_eq_some_iff.mp hfound
    have hsame : row = found := Table.eq_of_key_eq hrow hmem hkey.symm
    have hopen : row.publishedAt.isSome → update.apply row = row := by
      intro hpublished
      rw [hsame, hnone] at hpublished
      cases hpublished
    cases update <;> exact ⟨rfl, rfl, rfl, rfl, rfl, rfl, hopen⟩
  case isFalse => exact .refl row

end Extends

end Database

/-! ## One call -/

variable {hashtext : String → ℤ} {sha256 : String → Digest} {db db' : Database}
  {changes : List Change} {held : List Lock}

/-- `create_payment` leaves a later state: a candidate that loses is gone again. -/
theorem PaymentRepository.Creates.extends {request : CreatePaymentRequest} {key : Option String}
    {id : String} {now : Timestamp} {result : Except ServiceError Payment}
    (h : Creates sha256 db request id now key result changes held) :
    Extends db (after changes db) := by
  cases h with
  | unkeyed row hkey hrow habsent =>
    have hid : row.id = id := (paymentRow_eq_ok hrow).1
    exact .of_insertPayment (by rwa [hid])
  | claimed row hkey hrow habsent hunclaimed =>
    have hid : row.id = id := (paymentRow_eq_ok hrow).1
    exact (Extends.of_insertPayment (by rwa [hid])).trans (.of_insertIdempotencyKey hunclaimed)
  | found row existing hkey hrow habsent =>
    rw [after_insert_delete hrow habsent]
    exact .refl db

/-- `execute` leaves a later state. -/
theorem PaymentOperations.Executes.extends {call : OperationCall} {result : OperationResult}
    (h : Executes hashtext sha256 db call result changes held) :
    Extends db (after changes db) := by
  cases h with
  | replayed => exact .refl db
  | recorded payment journal debit credit event hdistinct hpayment hstatus hjournal hjournalNew
      hdebit hcredit hnew hevent heventNew =>
    have hjournalId : journal.id = call.journalId := (ledgerTransactionRow_eq_ok hjournal).1
    have heventId : event.id = call.eventId := (outboxEventRow_eq_ok hevent).1
    have hmove : StatusMove payment.status call.operation.transition.2.value := by
      rw [← PaymentStatus.value_of_ofValue? hstatus]
      exact .operation call.operation
    have hjournalStep : Extends db (db.apply (.insertLedgerTransaction journal)) :=
      .of_insertLedgerTransaction (by rwa [hjournalId])
    have hentriesStep := hjournalStep.trans (.of_insertLedgerEntries [debit, credit])
    have hstatusStep := hentriesStep.trans (.of_setPaymentStatus hpayment hmove)
    have hoperationStep := hstatusStep.trans
      (.of_insertPaymentOperation (operationExists_eq_false.mp hnew).1)
    exact hoperationStep.trans (.of_insertOutboxEvent (by rw [heventId]; exact heventNew))

namespace Outbox

/-- An update of an event changes one that is not published, or nothing. -/
theorem extends_of_update {id : String} {update : OutboxUpdate} {result : Bool}
    (h : Returns hashtext db (.call (.updateUnpublishedEvent id update) fun updated =>
      .done updated) result changes held) : Extends db (after changes db) := by
  obtain ⟨updated, first, rest, locks, hrun, hnext, rfl, -⟩ := returns_call.mp h
  obtain ⟨-, rfl, -⟩ := Engine.executes_done.mp hnext
  have hrun : db.updateUnpublishedEvent id update = .ok (updated, first) := hrun
  unfold updateUnpublishedEvent at hrun
  simp only [bind_eq_ok, text_eq_ok] at hrun
  obtain ⟨-, -, -, -, hrun⟩ := hrun
  rw [List.append_nil]
  split at hrun
  case isTrue hunpublished =>
    cases hrun
    exact .of_updateOutboxEvents (List.forall_mem_singleton.mpr hunpublished)
  case isFalse =>
    cases hrun
    exact .refl db

/-- A claim changes events that are not published. -/
theorem extends_of_claimBatch {batchSize maxAttempts leaseSeconds : ℤ} {now : Timestamp}
    {skipped : List String} {result : List OutboxEvent}
    (h : Returns hashtext db (claimBatch batchSize maxAttempts leaseSeconds now skipped) result
      changes held) : Extends db (after changes db) := by
  obtain ⟨-, -, hresult, ⟨-, rfl⟩ | rfl⟩ := claimBatch_returns h
  · exact .refl db
  · refine .of_updateOutboxEvents fun id hid => ?_
    obtain ⟨event, hevent, rfl⟩ := List.mem_map.mp hid
    rw [hresult] at hevent
    obtain ⟨row, hrow, rfl⟩ := List.mem_map.mp hevent
    obtain ⟨hfound, hclaimable⟩ :=
      (selectClaimableEvents_spec db now maxAttempts leaseSeconds batchSize skipped).2 row hrow
    exact isUnpublished_eq_true.mpr ⟨row, hfound, (claimable_iff.mp hclaimable).1⟩

end Outbox

namespace ServiceCall

/-- Every call leaves a later state. -/
theorem extends_after {call : ServiceCall}
    (h : Returns hashtext db (body sha256 call) ⟨⟩ changes held) :
    Extends db (after changes db) := by
  cases call with
  | createPayment request key id now =>
    obtain ⟨result, h⟩ := Engine.executes_forget.mp h
    exact (PaymentRepository.creates_of_returns h).extends
  | authorize id =>
    obtain ⟨hpending, rfl, -⟩ := PaymentOperations.authorize_returns h
    obtain ⟨payment, hpayment, hstatus⟩ := Option.any_eq_true _ _ |>.mp hpending
    -- An authorization is of a payment that is pending.
    have hmove : StatusMove payment.status PaymentStatus.authorized.value := by
      rw [of_decide_eq_true hstatus]
      exact .authorized
    exact .of_setPaymentStatus hpayment hmove
  | execute call =>
    obtain ⟨result, h⟩ := Engine.executes_forget.mp h
    exact (PaymentOperations.executes_of_returns h).extends
  | createAccount account =>
    obtain ⟨result, h⟩ := Engine.executes_forget.mp h
    obtain ⟨row, hid, habsent, rfl, -⟩ := Ledger.createAccount_returns h
    rw [← hid] at habsent
    exact .of_insertLedgerAccount habsent
  | post ref currency postings transactionId drawn now =>
    obtain ⟨result, h⟩ := Engine.executes_forget.mp h
    obtain ⟨journal, entries, habsent, -, rfl, -⟩ := Ledger.post_returns h
    -- The journal is new, and entries are only added.
    have hjournal := Extends.of_insertLedgerTransaction habsent
    rw [after_cons]
    exact hjournal.trans (.of_insertLedgerEntries entries)
  | claimBatch batchSize maxAttempts leaseSeconds now skipped =>
    obtain ⟨result, h⟩ := Engine.executes_forget.mp h
    exact Outbox.extends_of_claimBatch h
  | acknowledge eventId now =>
    obtain ⟨result, h⟩ := Engine.executes_forget.mp h
    exact Outbox.extends_of_update h
  | recordFailure eventId error =>
    obtain ⟨result, h⟩ := Engine.executes_forget.mp h
    exact Outbox.extends_of_update h
  | resetOutboxEvent eventId =>
    obtain ⟨result, h⟩ := Engine.executes_forget.mp h
    unfold Outbox.resetOutboxEvent at h
    split_ifs at h
    · exact Outbox.extends_of_update h
    · exact absurd h Engine.executes_fail

/-! ## Runs -/

/-- Calls one after the other leave a later state, whatever they raise. -/
theorem extends_of_steps {log : List (ServiceCall × Outcome DbError ServiceError PUnit)}
    (h : (serial hashtext sha256).Steps db log db') : Extends db db' :=
  Engine.serial_steps_preserve (P := Extends db)
    (fun _ _ _ _ _ hbefore hexec _ => hbefore.trans (extends_after hexec)) (.refl db) h

end ServiceCall

namespace LedgerCall

variable {log log' : List (Option (LedgerCall × Outcome DbError ServiceError PUnit))}
  {s s' : Engine.Sessions Statement.Answer Database Change Lock ServiceError PUnit LedgerCall}

/-- What concurrent calls have committed at one time, the later ones extend. -/
theorem extends_of_sessions (h : (sessions hashtext sha256).Run log s)
    (h' : (sessions hashtext sha256).Steps s log' s') : Extends s.committed s'.committed := by
  obtain ⟨serial, hsteps, -⟩ := Engine.exists_serial_steps_of_run covers h
    (Lts.run_append_iff.mpr ⟨s, h, h'⟩)
  exact Engine.serial_steps_preserve (P := Extends s.committed)
    (fun _ _ _ _ _ hbefore hexec _ => hbefore.trans (ServiceCall.extends_after hexec)) (.refl _)
    hsteps

end LedgerCall

/-- From any committed state to a later one: journals, entries, operations, keys and accounts stay
in their order, payments but for their status, and events but for their delivery until they are
published. This holds of all calls of the services one after the other, and of the calls on payments
and the ledger in any interleaving of their statements. -/
theorem written_stays (hashtext : String → ℤ) (sha256 : String → Digest) :
    (∀ db log db', (ServiceCall.serial hashtext sha256).Steps db log db' → Extends db db') ∧
    ∀ log s log' s', (LedgerCall.sessions hashtext sha256).Run log s →
      (LedgerCall.sessions hashtext sha256).Steps s log' s' → Extends s.committed s'.committed :=
  ⟨fun _ _ _ => ServiceCall.extends_of_steps, fun _ _ _ _ => LedgerCall.extends_of_sessions⟩

end AtlasPay
