import AtlasPay.Payments.Consistency

/-!
# The services together

The calls of the services, any of which may come next, and their transactions on PostgreSQL. A call
that commits keeps the tables consistent.
-/

namespace AtlasPay

open Database

/-! ## What the programs leave -/

namespace Database.Consistent

variable {hashtext : String → ℤ} {sha256 : String → Digest} {db : Database}
  {changes : List Change} {held : List Lock}

/-- The currency of a new payment's row is in upper case, also where it was padded. -/
theorem upper_currency_of_paymentRow {request : CreatePaymentRequest} {id : String}
    {now : Timestamp} {row : PaymentRow} (h : paymentRow (Payment.new request id now) = .ok row) :
    upper row.currency = row.currency := by
  obtain ⟨-, -, -, -, ⟨padded, hpadded, hcurrency⟩, -⟩ := paymentRow_eq_ok h
  obtain ⟨given, -, hgiven⟩ := request.currency_normalized
  have hgiven : (Payment.new request id now).currency = upper given := hgiven
  rw [hcurrency]
  refine upper_eq_self fun c hc => ?_
  rw [toList_of_bpchar hpadded, hgiven] at hc
  rcases List.mem_append.mp (List.mem_of_mem_take hc) with hletter | hspace
  · exact upperCode_of_mem_upper hletter
  · rw [List.eq_of_mem_replicate hspace]
    rfl

/-- A payment's currency is stored as it is, in a journal as in its entries. -/
theorem bpchar_currency (h : Consistent db) {id : String} {payment : PaymentRow}
    (hpayment : db.payments.find? id = some payment) :
    bpchar 3 (upper payment.currency) = .ok ⟨payment.currency, payment.currency_char⟩ := by
  rw [h.currency payment (Table.find?_eq_some_iff.mp hpayment).1]
  exact bpchar_of_length payment.currency_char

/-- `create_payment` keeps the tables consistent. -/
theorem createPayment (h : Consistent db) {request : CreatePaymentRequest} {key : Option String}
    {id : String} {now : Timestamp} {result : Except ServiceError Payment}
    (hcreates : PaymentRepository.Creates sha256 db request id now key result changes held) :
    Consistent (after changes db) := by
  have hinsert : ∀ row, paymentRow (Payment.new request id now) = .ok row →
      db.payments.find? id = none → Consistent (db.apply (.insertPayment row)) := by
    intro row hrow habsent
    obtain ⟨hid, -, hstatus, -⟩ := paymentRow_eq_ok hrow
    have hid : row.id = id := hid
    exact h.insertPayment (by rwa [hid]) hstatus (upper_currency_of_paymentRow hrow)
  cases hcreates with
  | unkeyed row hkey hrow habsent hlock => exact hinsert row hrow habsent
  | claimed row hkey hrow habsent hunclaimed hlock hkeyLock =>
    have hid : row.id = id := (paymentRow_eq_ok hrow).1
    refine (hinsert row hrow habsent).insertIdempotencyKey ?_
    rw [apply, Table.find?_put, if_pos hid]
    rfl
  | found row existing hkey hrow habsent hexisting hresult =>
    have hid : row.id = id := (paymentRow_eq_ok hrow).1
    have hsame : after [.insertPayment row, .deletePayment id] db = db := by
      rw [after_cons, after_cons, after_nil, ← hid]
      exact PaymentRepository.apply_insert_delete (by rwa [hid])
    rwa [hsame]

/-- The step outside keeps the tables consistent: a pending payment has no operations. -/
theorem authorize (h : Consistent db) {id : String} (hpending : db.isPending id = true) :
    Consistent (db.apply (.setPaymentStatus id PaymentStatus.authorized.value)) := by
  refine h.setPaymentStatus fun payment hpayment => ⟨[], .authorized, ?_⟩
  have hrow := Table.find?_eq_some_iff.mp hpayment
  obtain ⟨status, operations, hvalue, hhistory, hmap⟩ := h.history payment hrow.1
  have hstatus : status = .pending := by
    refine PaymentStatus.value_injective ?_
    unfold isPending at hpending
    rw [hpayment] at hpending
    rw [← hvalue]
    simpa using hpending
  rw [hstatus] at hhistory
  have hnone : operations = [] := by
    have hcases := hhistory.cases_of
    simpa using hcases
  rw [← hrow.2, hmap, hnone]

/-- `execute` keeps the tables consistent. -/
theorem execute (h : Consistent db) {call : OperationCall} {result : OperationResult}
    (hexecutes : PaymentOperations.Executes hashtext sha256 db call result changes held) :
    Consistent (after changes db) := by
  cases hexecutes with
  | replayed existing hexisting hsame hresult => exact h
  | recorded payment journal debit credit event hdistinct hpayment hstatus hjournal hjournalNew
      hdebit hcredit hnew hevent heventNew hlocks =>
    obtain ⟨hjournalId, -, -⟩ := ledgerTransactionRow_eq_ok hjournal
    obtain ⟨hdebitJournal, hdebitAccount, hdebitSide, hdebitAmount, -, _, hdebitPadded,
      hdebitCurrency⟩ := ledgerEntryRow_eq_ok hdebit
    obtain ⟨hcreditJournal, hcreditAccount, hcreditSide, hcreditAmount, -, _, hcreditPadded,
      hcreditCurrency⟩ := ledgerEntryRow_eq_ok hcredit
    obtain ⟨heventId, hannounces⟩ : event.id = call.eventId ∧ Announces
        (PaymentOperations.operationRow call (PaymentOperations.fingerprint sha256 call)
          call.operation.transition.1) event := by
      obtain ⟨hid, haggregateType, haggregateId, -, hpayload⟩ := outboxEventRow_eq_ok hevent
      refine ⟨hid, haggregateType, haggregateId, ?_, ?_, ?_⟩ <;> rw [hpayload] <;> rfl
    -- The currency of a payment has three characters, so that the ledger stores it as it is.
    have hpadded := h.bpchar_currency hpayment
    have hmoves : Moves payment [debit, credit] := by
      refine ⟨⟨debit, credit, rfl, hdebitSide, hcreditSide, ?_⟩, ?_, ?_⟩
      · rw [hdebitAccount, hcreditAccount]
        exact hdistinct
      · simp [hdebitAmount, hcreditAmount]
      · rw [hpadded] at hdebitPadded hcreditPadded
        cases hdebitPadded
        cases hcreditPadded
        simp [hdebitCurrency, hcreditCurrency]
    have hall : ∀ entry ∈ [debit, credit], entry.transactionId = journal.id := by
      simp [hdebitJournal, hcreditJournal, hjournalId]
    have habsent : db.ledgerTransactions.find? journal.id = none := by
      rw [hjournalId]
      exact hjournalNew
    have hbalances : Balances [debit, credit] :=
      balances_pair hdebitSide hcreditSide (hdebitAmount.trans hcreditAmount.symm)
    -- First the journal with its entries, then the operation that refers to it.
    have hposted := h.insertJournal habsent hall hbalances
    obtain ⟨hnewId, -, hnewJournal⟩ := operationExists_eq_false.mp hnew
    have hsplit : after [.insertLedgerTransaction journal, .insertLedgerEntry debit,
        .insertLedgerEntry credit] db =
        { db with ledgerTransactions := db.ledgerTransactions.put journal,
                  ledgerEntries := db.ledgerEntries ++ [debit, credit] } := by
      rw [after_cons]
      exact after_insertLedgerEntries [debit, credit] _
    rw [← hsplit] at hposted
    -- On the tables with the journal, it is there, and its entries are the two.
    have hthere : ((after [.insertLedgerTransaction journal, .insertLedgerEntry debit,
        .insertLedgerEntry credit] db).ledgerTransactions.find? call.journalId).isSome := by
      rw [hsplit, Table.find?_put, if_pos hjournalId]
      rfl
    have hentriesOf : (after [.insertLedgerTransaction journal, .insertLedgerEntry debit,
        .insertLedgerEntry credit] db).entriesOf call.journalId = [debit, credit] := by
      rw [entriesOf, hsplit, entriesOf_append hall, entriesOf_eq_nil h.entries hjournalNew,
        if_pos hjournalId, List.nil_append]
    have hstatus := (PaymentStatus.value_of_ofValue? hstatus).symm
    have hunused := Table.findBy_eq_none_iff.mp hnewJournal
    rw [← heventId] at heventNew
    rw [← hentriesOf] at hmoves
    exact hposted.insertOperation hpayment hstatus rfl rfl rfl hnewId hthere hunused hmoves
      heventNew hannounces

/-- The entries that `post` commits balance. -/
theorem balances_of_post (h : Consistent db) {journal : LedgerTransactionRow}
    {entries : List LedgerEntryRow} (habsent : db.ledgerTransactions.find? journal.id = none)
    (hall : ∀ entry ∈ entries, entry.transactionId = journal.id)
    (hsettle : (settle db (.insertLedgerTransaction journal ::
      entries.map .insertLedgerEntry)).isOk) : Balances entries := by
  have hnone := entriesOf_eq_nil h.entries habsent
  have hbalances := (isOk_settle_journal.mp hsettle).1
  rwa [entriesOf_after_journal hnone hall] at hbalances

/-- `post` keeps the tables consistent. -/
theorem post (h : Consistent db) {journal : LedgerTransactionRow} {entries : List LedgerEntryRow}
    (habsent : db.ledgerTransactions.find? journal.id = none)
    (hall : ∀ entry ∈ entries, entry.transactionId = journal.id)
    (hsettle : (settle db (.insertLedgerTransaction journal ::
      entries.map .insertLedgerEntry)).isOk) :
    Consistent (after (.insertLedgerTransaction journal :: entries.map .insertLedgerEntry) db) := by
  rw [after_cons, after_insertLedgerEntries]
  exact h.insertJournal habsent hall (h.balances_of_post habsent hall hsettle)

end Database.Consistent

/-! ## The calls -/

/-- The calls of the services, with what they draw. -/
inductive ServiceCall where
  | createPayment (request : CreatePaymentRequest) (idempotencyKey : Option String) (id : String)
      (now : Timestamp)
  | authorize (paymentId : String)
  | execute (call : OperationCall)
  | createAccount (account : LedgerAccount)
  | post (reference currency : String) (postings : List LedgerPosting)
      (transactionId : Option String) (drawn : String) (now : Timestamp)
  | claimBatch (batchSize maxAttempts leaseSeconds : ℤ) (now : Timestamp) (skipped : List String)
  | acknowledge (eventId : String) (now : Timestamp)
  | recordFailure (eventId error : String)
  | resetOutboxEvent (eventId : String)

namespace ServiceCall

/-- The transaction of a call, whatever it returns. -/
def body (sha256 : String → Digest) : ServiceCall → Service PUnit
  | createPayment request idempotencyKey id now =>
    (PaymentRepository.createPayment sha256 request idempotencyKey id now).forget
  | authorize paymentId => PaymentOperations.authorize paymentId
  | execute call => (PaymentOperations.execute sha256 call).forget
  | createAccount account => (Ledger.createAccount account).forget
  | post reference currency postings transactionId drawn now =>
    (Ledger.post reference currency postings transactionId drawn now).forget
  | claimBatch batchSize maxAttempts leaseSeconds now skipped =>
    (Outbox.claimBatch batchSize maxAttempts leaseSeconds now skipped).forget
  | acknowledge eventId now => (Outbox.acknowledge eventId now).forget
  | recordFailure eventId error => (Outbox.recordFailure eventId error).forget
  | resetOutboxEvent eventId => (Outbox.resetOutboxEvent eventId).forget

variable {hashtext : String → ℤ} {sha256 : String → Digest} {db : Database}
  {changes : List Change} {held : List Lock}

/-- What a call that returns has changed. The calls of the outbox update events, or change
nothing. -/
inductive Writes (hashtext : String → ℤ) (sha256 : String → Digest) (db : Database) :
    ServiceCall → List Change → List Lock → Prop where
  | created {request : CreatePaymentRequest} {key : Option String} {id : String} {now : Timestamp}
      {result : Except ServiceError Payment} {changes : List Change} {held : List Lock}
      (hcreates : PaymentRepository.Creates sha256 db request id now key result changes held) :
      Writes hashtext sha256 db (.createPayment request key id now) changes held
  | authorized {id : String} {held : List Lock} (hpending : db.isPending id = true)
      (hlock : .payment id ∈ held) :
      Writes hashtext sha256 db (.authorize id)
        [.setPaymentStatus id PaymentStatus.authorized.value] held
  | executed {call : OperationCall} {result : OperationResult} {changes : List Change}
      {held : List Lock}
      (hexecutes : PaymentOperations.Executes hashtext sha256 db call result changes held) :
      Writes hashtext sha256 db (.execute call) changes held
  | opened {account : LedgerAccount} {held : List Lock} (row : LedgerAccountRow)
      (hid : row.id = account.id) (habsent : db.ledgerAccounts.find? account.id = none)
      (hlock : .ledgerAccount account.id ∈ held) :
      Writes hashtext sha256 db (.createAccount account) [.insertLedgerAccount row] held
  | posted {ref currency drawn : String} {postings : List LedgerPosting}
      {transactionId : Option String} {now : Timestamp} {held : List Lock}
      (journal : LedgerTransactionRow) (entries : List LedgerEntryRow)
      (habsent : db.ledgerTransactions.find? journal.id = none)
      (hlock : .ledgerTransaction journal.id ∈ held)
      (hall : ∀ entry ∈ entries, Ledger.PostedIn journal now entry) :
      Writes hashtext sha256 db (.post ref currency postings transactionId drawn now)
        (.insertLedgerTransaction journal :: entries.map .insertLedgerEntry) held
  | nothing (call : ServiceCall) {held : List Lock} : Writes hashtext sha256 db call [] held
  | updated (call : ServiceCall) {held : List Lock} (ids : List String) (update : OutboxUpdate) :
      Writes hashtext sha256 db call [.updateOutboxEvents ids update] held

/-- A call that returns has changed what `Writes` says. -/
theorem writes_of_returns {call : ServiceCall}
    (h : Returns hashtext db (body sha256 call) ⟨⟩ changes held) :
    Writes hashtext sha256 db call changes held := by
  cases call with
  | createPayment request key id now =>
    obtain ⟨result, h⟩ := Engine.executes_forget.mp h
    exact .created (PaymentRepository.creates_of_returns h)
  | authorize id =>
    obtain ⟨hpending, rfl, hlock⟩ := PaymentOperations.authorize_returns h
    exact .authorized hpending hlock
  | execute call =>
    obtain ⟨result, h⟩ := Engine.executes_forget.mp h
    exact .executed (PaymentOperations.executes_of_returns h)
  | createAccount account =>
    obtain ⟨result, h⟩ := Engine.executes_forget.mp h
    obtain ⟨row, hid, habsent, rfl, hlock⟩ := Ledger.createAccount_returns h
    exact .opened row hid habsent hlock
  | post ref currency postings transactionId drawn now =>
    obtain ⟨result, h⟩ := Engine.executes_forget.mp h
    obtain ⟨journal, entries, habsent, hlock, rfl, hall⟩ := Ledger.post_returns h
    exact .posted journal entries habsent hlock hall
  | claimBatch batchSize maxAttempts leaseSeconds now skipped =>
    -- The calls of the outbox update events, or do nothing.
    obtain ⟨result, h⟩ := Engine.executes_forget.mp h
    obtain ⟨-, -, -, ⟨-, rfl⟩ | rfl⟩ := Outbox.claimBatch_returns h
    · exact .nothing _
    · exact .updated _ _ _
  | acknowledge eventId now =>
    obtain ⟨result, h⟩ := Engine.executes_forget.mp h
    rcases Outbox.updateUnpublishedEvent_returns h with rfl | rfl
    · exact .nothing _
    · exact .updated _ _ _
  | recordFailure eventId error =>
    obtain ⟨result, h⟩ := Engine.executes_forget.mp h
    rcases Outbox.updateUnpublishedEvent_returns h with rfl | rfl
    · exact .nothing _
    · exact .updated _ _ _
  | resetOutboxEvent eventId =>
    obtain ⟨result, h⟩ := Engine.executes_forget.mp h
    rcases Outbox.resetOutboxEvent_returns h with rfl | rfl
    · exact .nothing _
    · exact .updated _ _ _

/-- A call that commits keeps the tables consistent. -/
theorem consistent_after {call : ServiceCall} (hdb : Consistent db)
    (h : Returns hashtext db (body sha256 call) ⟨⟩ changes held)
    (hsettle : (settle db changes).isOk) : Consistent (after changes db) := by
  cases writes_of_returns h with
  | created hcreates => exact hdb.createPayment hcreates
  | authorized hpending hlock => exact hdb.authorize hpending
  | executed hexecutes => exact hdb.execute hexecutes
  | opened row hid habsent hlock => exact hdb.insertLedgerAccount row
  | posted journal entries habsent hlock hall =>
    exact hdb.post habsent (fun entry hentry => (hall entry hentry).1) hsettle
  | nothing => exact hdb
  | updated _ ids update => exact hdb.updateOutboxEvents ids update

/-- Only `execute` inserts operations, each of the kind that it was called with, under a new id and
a new key. -/
theorem operations_after {call : ServiceCall}
    (h : Returns hashtext db (body sha256 call) ⟨⟩ changes held) :
    (after changes db).paymentOperations = db.paymentOperations ∨
      ∃ made row, call = execute made ∧ row.operation = made.operation.value ∧
        db.operationExists row = false ∧
        (after changes db).paymentOperations = db.paymentOperations.put row := by
  cases writes_of_returns h with
  | created hcreates => cases hcreates <;> exact .inl rfl
  | authorized hpending hlock => exact .inl rfl
  | executed hexecutes =>
    cases hexecutes with
    | replayed existing hexisting hsame hresult => exact .inl rfl
    | recorded payment journal debit credit event hdistinct hpayment hstatus hjournal hjournalNew
        hdebit hcredit hnew => exact .inr ⟨_, _, rfl, rfl, hnew, rfl⟩
  | opened row hid habsent hlock => exact .inl rfl
  | posted journal entries habsent hlock hall =>
    rw [after_cons, after_insertLedgerEntries]
    exact .inl rfl
  | nothing => exact .inl rfl
  | updated _ ids update => exact .inl rfl

/-- The operations after a call that commits are those before, and that of `execute`. -/
theorem operation_of_mem_after {call : ServiceCall}
    (h : Returns hashtext db (body sha256 call) ⟨⟩ changes held) {row : PaymentOperationRow}
    (hrow : row ∈ (after changes db).paymentOperations.rows) :
    row ∈ db.paymentOperations.rows ∨
      ∃ made, call = execute made ∧ row.operation = made.operation.value := by
  rcases operations_after h with hsame | ⟨made, other, hcall, hoperation, -, hput⟩
  · rw [hsame] at hrow
    exact .inl hrow
  · rw [hput] at hrow
    rcases Table.mem_rows_of_mem_put hrow with rfl | hold
    · exact .inr ⟨made, hcall, hoperation⟩
    · exact .inl hold

/-! ## Runs -/

/-- The calls of the services, one transaction after the other, on the migrated database. -/
def serial (hashtext : String → ℤ) (sha256 : String → Digest) :
    Lts Database (ServiceCall × Outcome DbError ServiceError PUnit) :=
  (postgres hashtext).serial (· = migrated) (body sha256)

/-- The tables are consistent in every state of every run of such calls. -/
theorem consistent_of_run {Call : Type} (toServiceCall : Call → ServiceCall)
    {log : List (Call × Outcome DbError ServiceError PUnit)}
    (h : ((postgres hashtext).serial (· = migrated) fun call =>
      body sha256 (toServiceCall call)).Run log db) : Consistent db := by
  refine h.invariant (P := Consistent) ?_ fun db label db' hdb hstep => ?_
  · rintro db rfl
    exact consistent_migrated
  · exact Engine.serial_step_preserves (fun _ _ _ _ _ hbefore hexec hsettle =>
      consistent_after hbefore hexec (isOk_settle.mp hsettle)) hdb hstep

/-- The operations of a run are those of its calls. -/
theorem operation_of_run {log : List (ServiceCall × Outcome DbError ServiceError PUnit)}
    (h : (serial hashtext sha256).Run log db) :
    ∀ row ∈ db.paymentOperations.rows, ∃ made outcome, (execute made, outcome) ∈ log ∧
      row.operation = made.operation.value := by
  refine h.log_invariant (P := fun log db => ∀ row ∈ db.paymentOperations.rows,
    ∃ made outcome, (execute made, outcome) ∈ log ∧ row.operation = made.operation.value) ?_ ?_
  · rintro db rfl row hrow
    cases hrow
  · rintro log db label db' - hdb hstep row hrow
    have hlater : row ∈ db.paymentOperations.rows → ∃ made outcome,
        (execute made, outcome) ∈ log ++ [label] ∧ row.operation = made.operation.value := by
      intro hold
      obtain ⟨made, outcome, hmem, hoperation⟩ := hdb row hold
      exact ⟨made, outcome, List.mem_append_left _ hmem, hoperation⟩
    rcases Engine.transact_cases hstep with ⟨rfl, -⟩ | ⟨u, changes, held, -, hexec, -, rfl⟩
    · exact hlater hrow
    · rcases operation_of_mem_after hexec hrow with hold | ⟨made, hcall, hoperation⟩
      · exact hlater hold
      · refine ⟨made, label.2, List.mem_append_right _ ?_, hoperation⟩
        rw [← hcall]
        exact List.mem_singleton_self label

end ServiceCall

/-! ## The payment of the tests -/

/-- A request for a payment of one dirham. -/
def sampleOrder : CreatePaymentRequest :=
  ⟨100, "MAD", "order-1", by decide, ⟨"MAD", rfl, rfl⟩, by decide, by decide⟩

/-- The digest of the capture of the payment. -/
def captureDigest : Digest :=
  ⟨"b38a4a4c2f977f260ca6bade3f80bacf2080af31d2f26bb739ad468c7b750c6f", rfl⟩

end AtlasPay
