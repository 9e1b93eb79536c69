import AtlasPay.Payments.Concurrency

/-!
# Payments whose calls run concurrently

Payments are created and authorized, accounts are created, and operations are executed, in sessions
whose statements come in any order that PostgreSQL admits. Since their locks cover what they rely
on, every state that is committed is one of a run of whole transactions, so it is consistent; and
consistent tables link every operation with its payment, its journal and its event (`Linked`).
-/

namespace AtlasPay

open Database

/-! ## What is linked -/

namespace Database

/-- A journal with one debit and one credit, on different accounts, each for the payment's amount
and currency. -/
def HasMove (db : Database) (payment : PaymentRow) (journalId : String) : Prop :=
  ∃ debit credit, db.entriesOf journalId = [debit, credit] ∧
    debit.side = "debit" ∧ credit.side = "credit" ∧ debit.accountId ≠ credit.accountId ∧
    debit.amount = payment.amount ∧ credit.amount = payment.amount ∧
    debit.currency = payment.currency ∧ credit.currency = payment.currency

/-- One event has the id of the operation in its payload, and this event has its journal and its
target status there too. -/
def HasEvent (db : Database) (row : PaymentOperationRow) : Prop :=
  ∃ event ∈ db.outboxEvents.rows,
    Json.text? event.payload "operation_id" = some row.id ∧
    Json.text? event.payload "journal_transaction_id" = some row.journalTransactionId ∧
    Json.text? event.payload "to_status" = some row.toStatus ∧
    ∀ event' ∈ db.outboxEvents.rows,
      Json.text? event'.payload "operation_id" = some row.id → event' = event

/-- The operations of every payment are a part of its life, the last of them has led to its status,
and each has a journal and an event of its own. -/
structure Linked (db : Database) : Prop where
  operations : ∀ payment ∈ db.payments.rows, ∃ operations : List PaymentOperation,
    (db.operationsOf payment.id).map PaymentOperationRow.operation =
      operations.map PaymentOperation.value ∧
    (operations <+: [.capture, .refund] ∨ operations = [.reversal])
  status : ∀ payment ∈ db.payments.rows, ∀ last,
    (db.operationsOf payment.id).getLast? = some last → payment.status = last.toStatus
  journals : (db.paymentOperations.rows.map PaymentOperationRow.journalTransactionId).Nodup
  moves : ∀ row ∈ db.paymentOperations.rows,
    (db.ledgerTransactions.find? row.journalTransactionId).isSome ∧
      ∃ payment, db.payments.find? row.paymentId = some payment ∧
        db.HasMove payment row.journalTransactionId
  events : ∀ row ∈ db.paymentOperations.rows, db.HasEvent row

/-- The status of a payment is the target of its last operation. -/
theorem Consistent.status_eq {db : Database} (h : Consistent db) {payment : PaymentRow}
    (hpayment : payment ∈ db.payments.rows) {last : PaymentOperationRow}
    (hlast : (db.operationsOf payment.id).getLast? = some last) :
    payment.status = last.toStatus := by
  obtain ⟨status, operations, hvalue, hhistory, hmap⟩ := h.history payment hpayment
  have hmem : last ∈ db.paymentOperations.rows :=
    List.mem_of_mem_filter (List.mem_of_getLast? hlast)
  obtain ⟨⟨operation, hoperation, -, hto⟩, -⟩ := h.operations last hmem
  have hlasts : operations.getLast?.map PaymentOperation.value = some operation.value := by
    rw [← List.getLast?_map, ← hmap, List.getLast?_map, hlast, Option.map_some, hoperation]
  obtain ⟨operation', hoperation', hsame⟩ := Option.map_eq_some_iff.mp hlasts
  rw [PaymentOperation.value_injective hsame] at hoperation'
  rw [hvalue, hto, hhistory.target_of_getLast? hoperation']

/-- Consistent tables are linked. -/
theorem Consistent.linked {db : Database} (h : Consistent db) : Linked db where
  operations payment hpayment := by
    obtain ⟨status, operations, -, hhistory, hmap⟩ := h.history payment hpayment
    exact ⟨operations, hmap, hhistory.prefix_or_reversal⟩
  status payment hpayment last hlast := h.status_eq hpayment hlast
  journals := h.journals
  moves row hrow := by
    obtain ⟨-, hjournal, payment, hpayment, hmoves⟩ := h.operations row hrow
    obtain ⟨debit, credit, hentries, hdebit, hcredit, hdistinct⟩ := hmoves.pair
    refine ⟨hjournal, payment, hpayment, debit, credit, hentries, hdebit, hcredit, hdistinct,
      hmoves.amount _ ?_, hmoves.amount _ ?_, hmoves.currency _ ?_, hmoves.currency _ ?_⟩ <;>
    simp [hentries]
  events row hrow := by
    obtain ⟨event, hevent, hannounces, hunique⟩ := h.existsUnique_event hrow
    exact ⟨event, hevent, hannounces.operationId, hannounces.journalId, hannounces.toStatus,
      hunique⟩

end Database

/-! ## The sessions -/

/-- The calls that run concurrently. -/
inductive LifecycleCall where
  | createPayment (request : CreatePaymentRequest) (idempotencyKey : Option String) (id : String)
      (now : Timestamp)
  | createAccount (account : LedgerAccount)
  | authorize (paymentId : String)
  | execute (call : OperationCall)

namespace LifecycleCall

/-- The calls are some of those of the services. -/
def toServiceCall : LifecycleCall → ServiceCall
  | createPayment request idempotencyKey id now => .createPayment request idempotencyKey id now
  | createAccount account => .createAccount account
  | authorize paymentId => .authorize paymentId
  | execute call => .execute call

/-- The transaction of a call. -/
def body (sha256 : String → Digest) (call : LifecycleCall) : Service PUnit :=
  call.toServiceCall.body sha256

/-- The sessions, from the migrated database. -/
def sessions (hashtext : String → ℤ) (sha256 : String → Digest) :
    Lts (Engine.Sessions Statement.Answer Database Change Lock ServiceError PUnit LifecycleCall)
      (Option (LifecycleCall × Outcome DbError ServiceError PUnit)) :=
  (postgres hashtext).interleaved (body sha256) (· = migrated)

/-- A payment that is not locked stays, and its status stays a status. -/
def KeepsPayment (row row' : PaymentRow) : Prop :=
  row'.id = row.id ∧
    ((PaymentStatus.ofValue? row.status).isSome → (PaymentStatus.ofValue? row'.status).isSome)

/-- A payment may stay as it is. -/
theorem keepsPayment_refl (row : PaymentRow) : KeepsPayment row row := ⟨rfl, id⟩

/-- What a payment may become, it may become in two steps. -/
theorem keepsPayment_trans (row row' row'' : PaymentRow) (h : KeepsPayment row row')
    (h' : KeepsPayment row' row'') : KeepsPayment row row'' :=
  ⟨h'.1.trans h.1, h'.2 ∘ h.2⟩

/-- The status of a payment may be set. -/
theorem keepsPayment_setStatus (id : String) (status : PaymentStatus) (row : PaymentRow) :
    KeepsPayment row (setStatus id status.value row) := by
  refine ⟨id_setStatus id status.value row, fun hstatus => ?_⟩
  unfold setStatus
  split
  · rw [PaymentStatus.ofValue?_value]
    rfl
  · exact hstatus

/-- The status of a payment may be set before and after. -/
theorem keepsPayment_setStatus_setStatus (id : String) (status : PaymentStatus)
    (row row' : PaymentRow) (h : KeepsPayment row row') :
    KeepsPayment (setStatus id status.value row) (setStatus id status.value row') := by
  refine ⟨by rw [id_setStatus, id_setStatus, h.1], fun hstatus => ?_⟩
  unfold setStatus at hstatus ⊢
  rw [h.1]
  split
  · rw [PaymentStatus.ofValue?_value]
    rfl
  · next hne =>
    rw [if_neg hne] at hstatus
    exact h.2 hstatus

/-- A payment can still be read. -/
theorem rowToPayment_of_keepsPayment {row row' : PaymentRow} {result : Payment}
    (h : KeepsPayment row row') (hresult : PaymentRepository.rowToPayment row = .ok result) :
    ∃ result', PaymentRepository.rowToPayment row' = .ok result' := by
  unfold PaymentRepository.rowToPayment at hresult ⊢
  have hstatus : (PaymentStatus.ofValue? row.status).isSome := by
    cases hvalue : PaymentStatus.ofValue? row.status with
    | none =>
      rw [hvalue] at hresult
      exact absurd hresult throw_ne_ok
    | some status => rfl
  obtain ⟨status, hstatus'⟩ := Option.isSome_iff_exists.mp (h.2 hstatus)
  rw [hstatus']
  exact ⟨_, rfl⟩

variable {hashtext : String → ℤ} {sha256 : String → Digest} {db : Database}

/-- Every call is steady. -/
theorem steady_body (call : LifecycleCall) :
    Steady hashtext KeepsPayment (· = ·) [] db (body sha256 call) := by
  cases call with
  | createPayment request key id now =>
    refine PaymentRepository.steady_createPayment keepsPayment_refl fun _ _ _ hkeep hresult => ?_
    obtain ⟨result', hresult'⟩ := rowToPayment_of_keepsPayment hkeep hresult
    exact ⟨result', hresult', rfl⟩
  | createAccount account => exact Engine.Steady.forget Ledger.steady_createAccount
  | authorize id => exact PaymentOperations.steady_authorize keepsPayment_setStatus_setStatus
  | execute call =>
    exact Engine.Steady.forget
      (PaymentOperations.steady_execute keepsPayment_setStatus_setStatus)

/-- What a call commits leaves what others have locked. -/
theorem rely_after {call : LifecycleCall} {u : PUnit} {changes : List Change} {held : List Lock}
    (h : Returns hashtext db (body sha256 call) u changes held) {locks : Set Lock}
    (hfree : ∀ lock ∈ held, lock ∉ locks) :
    Rely hashtext KeepsPayment locks db (after changes db) := by
  cases call with
  | createPayment request key id now =>
    obtain ⟨result, h⟩ := Engine.executes_forget.mp h
    exact PaymentRepository.rely_of_creates keepsPayment_refl keepsPayment_trans
      (PaymentRepository.creates_of_returns h) hfree
  | createAccount account =>
    obtain ⟨result, h⟩ := Engine.executes_forget.mp h
    exact Ledger.rely_of_createAccount keepsPayment_refl h hfree
  | authorize id =>
    obtain ⟨hpending, rfl, hlock⟩ := PaymentOperations.authorize_returns h
    exact .of_setPaymentStatus keepsPayment_refl (keepsPayment_setStatus id .authorized)
      (hfree _ hlock)
  | execute call =>
    obtain ⟨result, h⟩ := Engine.executes_forget.mp h
    exact PaymentOperations.rely_of_executes keepsPayment_refl keepsPayment_trans
      keepsPayment_setStatus (PaymentOperations.executes_of_returns h) hfree

/-- The locks of the calls cover what these rely on. -/
theorem covers : (postgres hashtext).Covers (body sha256) (Rely hashtext KeepsPayment) (· = ·) where
  refl _ := rfl
  trans _ _ _ := Eq.trans
  steady _ call := steady_body call
  guarantee _ _ _ _ _ hexec _ _ hfree := rely_after hexec hfree

/-- In every run of concurrent sessions, what is committed is linked, whatever is still open. -/
theorem linked_of_run {log : List (Option (LifecycleCall × Outcome DbError ServiceError PUnit))}
    {s : Engine.Sessions Statement.Answer Database Change Lock ServiceError PUnit LifecycleCall}
    (h : (sessions hashtext sha256).Run log s) : Linked s.committed := by
  -- The sessions commit what the calls would, one after the other.
  have hserial := Engine.serial_of_run covers h
  exact (ServiceCall.consistent_of_run toServiceCall hserial).linked

/-! ## A capture and a reversal at once -/

/-- The digests of the two operations below. -/
def digests (payload : String) : Digest :=
  if payload = "\x7b\"destination_account_id\":\"acct_merchant\",\"operation\":\"capture\"," ++
      "\"payment_id\":\"pay_1\",\"source_account_id\":\"acct_cash\"\x7d" then
    captureDigest
  else ⟨"1471e360421f958d2a874181b67c29df60c7ab9aa9cd04a2849d71dc4f00651c", rfl⟩

/-- The hashes of their keys. -/
def hashes (key : String) : ℤ := if key = "capture-1" then -233200888 else 645299499

/-- A call of one statement, in a session of its own. -/
def alone (call : LifecycleCall) : List (Engine.Move LifecycleCall) :=
  [.begin 0 call, .statement 0, .commit 0]

/-- A payment, authorized, with two accounts to move its amount between. -/
def setUp : List (Engine.Move LifecycleCall) :=
  [.createPayment sampleOrder none "pay_1" 0,
   .authorize "pay_1",
   .createAccount ⟨"acct_cash", "Cash", "MAD"⟩,
   .createAccount ⟨"acct_merchant", "Merchant", "MAD"⟩].flatMap alone

/-- The capture and the reversal of the payment: the capture gets the lock on the payment first, and
the reversal reads the payment when the capture has committed. -/
def atOnce : List (Engine.Move LifecycleCall) :=
  [.begin 1 (.execute ⟨"pay_1", .capture, "acct_cash", "acct_merchant", "capture-1", "op_1",
     "jrn_1", "evt_1", 1⟩),
   .begin 2 (.execute ⟨"pay_1", .reversal, "acct_cash", "acct_merchant", "reversal-1", "op_2",
     "jrn_2", "evt_2", 2⟩),
   .statement 1, .statement 2, .statement 2, .statement 1, .statement 1] ++
  List.replicate 6 (.statement 1) ++ [.commit 1, .statement 2]

/-- The sessions after the moves, with how the transactions ended. -/
def played : Option
    (Engine.Sessions Statement.Answer Database Change Lock ServiceError PUnit LifecycleCall ×
      List (Option (LifecycleCall × Outcome DbError ServiceError PUnit))) :=
  Lts.play ((postgres hashes).advance (body digests)) ⟨migrated, ∅⟩ (setUp ++ atOnce)

/-- One of the two is recorded, and what is committed is linked. -/
theorem linked_atOnce : ∃ s log, played = some (s, log) ∧
    s.committed.paymentOperations.rows.map PaymentOperationRow.operation = ["capture"] ∧
    Linked s.committed := by
  have hplayed : played.map (fun result => result.1.committed.paymentOperations.rows.map
      PaymentOperationRow.operation) = some ["capture"] := by decide
  obtain ⟨⟨s, log⟩, hresult, hoperations⟩ := Option.map_eq_some_iff.mp hplayed
  exact ⟨s, log, hresult, hoperations,
    linked_of_run ⟨⟨migrated, ∅⟩, ⟨rfl, rfl⟩, Lts.steps_of_play hresult⟩⟩

end LifecycleCall

end AtlasPay
