import AtlasPay.Database.Answers

/-!
# Programs that start with a statement

For each statement, when a program that starts with it returns: what is found, what the rest of the
program runs on, and the changes and the locks that the statement adds. The proofs about programs
go through them statement by statement with these rules.
-/

namespace AtlasPay

namespace Database

variable {hashtext : String → ℤ} {db : Database} {α : Type} {a : α} {changes : List Change}
  {held : List Lock}

/-! ## The locks of the statements that write -/

/-- A new payment is locked by its id. -/
theorem locks_insertPayment {payment : Payment} (habsent : db.payments.find? payment.id = none) :
    (Statement.insertPayment payment).locks hashtext db = [.payment payment.id] := by
  simp [Statement.locks, habsent]

/-- A payment that is deleted is locked. -/
theorem locks_deletePayment {id : String} (hthere : (db.payments.find? id).isSome) :
    (Statement.deletePayment id).locks hashtext db = [.payment id] := by
  rw [Statement.locks, if_pos hthere]

/-- A payment whose status is set is locked. -/
theorem locks_updatePaymentStatus {id : String} {status : PaymentStatus}
    (hthere : (db.payments.find? id).isSome) :
    (Statement.updatePaymentStatus id status).locks hashtext db = [.payment id] := by
  rw [Statement.locks, if_pos hthere]

/-- A new account is locked by its id. -/
theorem locks_insertLedgerAccount {id name currency : String}
    (habsent : db.ledgerAccounts.find? id = none) :
    (Statement.insertLedgerAccount id name currency).locks hashtext db = [.ledgerAccount id] := by
  simp [Statement.locks, habsent]

/-- A new journal is locked by its id. -/
theorem locks_insertLedgerTransaction {id reference currency : String}
    (habsent : db.ledgerTransactions.find? id = none) :
    (Statement.insertLedgerTransaction id reference currency).locks hashtext db =
      [.ledgerTransaction id] := by
  simp [Statement.locks, habsent]

/-- A new operation is locked by its id, its key and its journal. -/
theorem locks_insertPaymentOperation {row : PaymentOperationRow}
    (hnew : db.operationExists row = false) :
    (Statement.insertPaymentOperation row).locks hashtext db =
      [.operation row.id, .operationKey row.idempotencyKey,
        .operationJournal row.journalTransactionId] := by
  simp [Statement.locks, hnew]

/-- A new event is locked by its id. -/
theorem locks_insertOutboxEvent {id aggregateType aggregateId eventType : String}
    {payload : JsonObject} {now : Timestamp} (habsent : db.outboxEvents.find? id = none) :
    (Statement.insertOutboxEvent id aggregateType aggregateId eventType payload now).locks
      hashtext db = [.outboxEvent id] := by
  simp [Statement.locks, habsent]

/-! ## Programs, by their first statement -/

/-- A program returns on PostgreSQL, with its changes and its locks. -/
abbrev Returns (hashtext : String → ℤ) (db : Database) (p : Service α) (a : α)
    (changes : List Change) (held : List Lock) : Prop :=
  (postgres hashtext).Executes db p a changes held

/-- A program that starts with a statement, as the engine has it. -/
theorem returns_call {s : Statement} {next : s.Answer → Service α} :
    Returns hashtext db (.call s next) a changes held ↔
      ∃ answer first rest locks, s.run db = .ok (answer, first) ∧
        Returns hashtext (after first db) (next answer) a rest locks ∧
        changes = first ++ rest ∧ held = s.locks hashtext db ++ locks :=
  Engine.executes_call

/-- An insert: for which rows it goes through on some tables, with which change, and what it locks
then. -/
structure Inserts (hashtext : String → ℤ) (s : Statement) (u : s.Answer) {ρ : Type}
    (ready : Database → ρ → Prop) (change : ρ → Change) (locks : List Lock) : Prop where
  run : ∀ db answer first, s.run db = .ok (answer, first) ↔
    ∃ row, ready db row ∧ answer = u ∧ first = [change row]
  locks : ∀ db row, ready db row → s.locks hashtext db = locks

/-- A program that starts with an insert. -/
theorem Inserts.returns {s : Statement} {u : s.Answer} {ρ : Type} {ready : Database → ρ → Prop}
    {change : ρ → Change} {locks : List Lock} (h : Inserts hashtext s u ready change locks)
    {next : s.Answer → Service α} :
    Returns hashtext db (.call s next) a changes held ↔
      ∃ row rest more, ready db row ∧
        Returns hashtext (db.apply (change row)) (next u) a rest more ∧
        changes = change row :: rest ∧ held = locks ++ more := by
  rw [returns_call]
  constructor
  · rintro ⟨answer, first, rest, more, hrun, hnext, rfl, rfl⟩
    obtain ⟨row, hready, rfl, rfl⟩ := (h.run db answer first).mp hrun
    rw [h.locks db row hready]
    exact ⟨row, rest, more, hready, hnext, rfl, rfl⟩
  · rintro ⟨row, rest, more, hready, hnext, rfl, rfl⟩
    have hrun := (h.run db u [change row]).mpr ⟨row, hready, rfl, rfl⟩
    refine ⟨u, [change row], rest, more, hrun, hnext, rfl, ?_⟩
    rw [h.locks db row hready]

/-- An advisory lock is taken on the hash of a text, and nothing else is done. -/
theorem returns_advisoryXactLock {key : String} {next : Unit → Service α} :
    Returns hashtext db (.call (.advisoryXactLock key) next) a changes held ↔
      Storable key ∧ ∃ locks, Returns hashtext db (next ()) a changes locks ∧
        held = .advisory (hashtext key) :: locks := by
  rw [returns_call]
  constructor
  · rintro ⟨_, first, rest, locks, hrun, hnext, rfl, rfl⟩
    obtain ⟨hkey, rfl⟩ := advisoryXactLock_eq_ok.mp hrun
    exact ⟨hkey, locks, hnext, rfl⟩
  · rintro ⟨hkey, locks, hnext, rfl⟩
    exact ⟨(), [], changes, locks, advisoryXactLock_eq_ok.mpr ⟨hkey, rfl⟩, hnext, rfl, rfl⟩

/-- An operation is looked up by its key, without a lock. -/
theorem returns_selectOperation {key : String}
    {next : Option PaymentOperationRow → Service α} :
    Returns hashtext db (.call (.selectOperation key) next) a changes held ↔
      Storable key ∧ Returns hashtext db
        (next (db.paymentOperations.findBy PaymentOperationRow.idempotencyKey key)) a changes
        held := by
  rw [returns_call]
  constructor
  · rintro ⟨found, first, rest, locks, hrun, hnext, rfl, rfl⟩
    obtain ⟨hkey, rfl, rfl⟩ := selectOperation_eq_ok.mp hrun
    exact ⟨hkey, hnext⟩
  · rintro ⟨hkey, hnext⟩
    exact ⟨_, [], changes, held, selectOperation_eq_ok.mpr ⟨hkey, rfl, rfl⟩, hnext, rfl, rfl⟩

/-- A payment is looked up by its id, without a lock. -/
theorem returns_selectPayment {id : String} {next : Option PaymentRow → Service α} :
    Returns hashtext db (.call (.selectPayment id) next) a changes held ↔
      Storable id ∧ Returns hashtext db (next (db.payments.find? id)) a changes held := by
  rw [returns_call]
  constructor
  · rintro ⟨found, first, rest, locks, hrun, hnext, rfl, rfl⟩
    obtain ⟨hid, rfl, rfl⟩ := selectPayment_eq_ok.mp hrun
    exact ⟨hid, hnext⟩
  · rintro ⟨hid, hnext⟩
    exact ⟨_, [], changes, held, selectPayment_eq_ok.mpr ⟨hid, rfl, rfl⟩, hnext, rfl, rfl⟩

/-- A payment is looked up by its id and locked, if there is one. -/
theorem returns_selectPaymentForUpdate {id : String} {next : Option PaymentRow → Service α} :
    Returns hashtext db (.call (.selectPaymentForUpdate id) next) a changes held ↔
      Storable id ∧ ∃ locks, Returns hashtext db (next (db.payments.find? id)) a changes locks ∧
        held = (if (db.payments.find? id).isSome then [.payment id] else []) ++ locks := by
  rw [returns_call]
  constructor
  · rintro ⟨found, first, rest, locks, hrun, hnext, rfl, rfl⟩
    obtain ⟨hid, rfl, rfl⟩ := selectPayment_eq_ok.mp hrun
    exact ⟨hid, locks, hnext, rfl⟩
  · rintro ⟨hid, locks, hnext, rfl⟩
    exact ⟨_, [], changes, locks, selectPayment_eq_ok.mpr ⟨hid, rfl, rfl⟩, hnext, rfl, rfl⟩

/-- An idempotency key is looked up, without a lock. -/
theorem returns_selectIdempotencyKey {key : String}
    {next : Option IdempotencyKeyRow → Service α} :
    Returns hashtext db (.call (.selectIdempotencyKey key) next) a changes held ↔
      Storable key ∧ Returns hashtext db (next (db.idempotencyKeys.find? key)) a changes held := by
  rw [returns_call]
  constructor
  · rintro ⟨found, first, rest, locks, hrun, hnext, rfl, rfl⟩
    obtain ⟨hkey, rfl, rfl⟩ := selectIdempotencyKey_eq_ok.mp hrun
    exact ⟨hkey, hnext⟩
  · rintro ⟨hkey, hnext⟩
    exact ⟨_, [], changes, held, selectIdempotencyKey_eq_ok.mpr ⟨hkey, rfl, rfl⟩, hnext, rfl, rfl⟩

/-- A payment is inserted under a new id. -/
theorem inserts_payment (payment : Payment) :
    Inserts hashtext (.insertPayment payment) ()
      (fun db row => paymentRow payment = .ok row ∧ db.payments.find? payment.id = none)
      .insertPayment [.payment payment.id] where
  run db answer first := by
    refine insertPayment_eq_ok.trans (exists_congr fun row => ?_)
    simp only [and_assoc, true_and]
    refine and_congr_right fun hrow => ?_
    rw [(paymentRow_eq_ok hrow).1]
  locks db row hready := locks_insertPayment hready.2

/-- A payment is inserted under a new id, as the row that its columns hold. -/
theorem returns_insertPayment {payment : Payment} {next : Unit → Service α} :
    Returns hashtext db (.call (.insertPayment payment) next) a changes held ↔
      ∃ row rest locks, paymentRow payment = .ok row ∧ db.payments.find? payment.id = none ∧
        Returns hashtext (db.apply (.insertPayment row)) (next ()) a rest locks ∧
        changes = .insertPayment row :: rest ∧ held = .payment payment.id :: locks := by
  refine (inserts_payment payment).returns.trans ?_
  simp only [and_assoc, List.singleton_append]

/-- A key is claimed for a payment, or it is there already and nothing is done. -/
theorem returns_claimIdempotencyKey {key paymentId : String} {requestFingerprint : Digest}
    {next : Option String → Service α} :
    Returns hashtext db (.call (.claimIdempotencyKey key requestFingerprint paymentId) next) a
        changes held ↔
      Storable key ∧ Storable paymentId ∧
        ((db.idempotencyKeys.find? key).isSome ∧
            Returns hashtext db (next none) a changes held ∨
          db.idempotencyKeys.find? key = none ∧ (db.payments.find? paymentId).isSome ∧
            ∃ rest locks, Returns hashtext
              (db.apply (.insertIdempotencyKey ⟨key, requestFingerprint, paymentId⟩))
              (next (some paymentId)) a rest locks ∧
              changes = .insertIdempotencyKey ⟨key, requestFingerprint, paymentId⟩ :: rest ∧
              held = .idempotencyKey key :: locks) := by
  rw [returns_call]
  constructor
  · rintro ⟨claimed, first, rest, locks, hrun, hnext, rfl, rfl⟩
    obtain ⟨hkey, hid, ⟨hthere, rfl, rfl⟩ | ⟨hfree, hpayment, rfl, rfl⟩⟩ :=
      claimIdempotencyKey_eq_ok.mp hrun
    · refine ⟨hkey, hid, .inl ⟨hthere, ?_⟩⟩
      -- `ON CONFLICT DO NOTHING` takes no lock.
      rw [Statement.locks, if_pos hthere]
      exact hnext
    · refine ⟨hkey, hid, .inr ⟨hfree, hpayment, rest, locks, hnext, rfl, ?_⟩⟩
      rw [Statement.locks, hfree]
      rfl
  · rintro ⟨hkey, hid, ⟨hthere, hnext⟩ | ⟨hfree, hpayment, rest, locks, hnext, rfl, rfl⟩⟩
    · refine ⟨none, [], changes, held,
        claimIdempotencyKey_eq_ok.mpr ⟨hkey, hid, .inl ⟨hthere, rfl, rfl⟩⟩, hnext, rfl, ?_⟩
      rw [Statement.locks, if_pos hthere]
      rfl
    · refine ⟨some paymentId, [_], rest, locks,
        claimIdempotencyKey_eq_ok.mpr ⟨hkey, hid, .inr ⟨hfree, hpayment, rfl, rfl⟩⟩, hnext, rfl,
        ?_⟩
      rw [Statement.locks, hfree]
      rfl

/-- A payment that is there, and that nothing refers to, is deleted. -/
theorem returns_deletePayment {id : String} {next : Unit → Service α}
    (hthere : (db.payments.find? id).isSome) :
    Returns hashtext db (.call (.deletePayment id) next) a changes held ↔
      Storable id ∧ ¬db.Referenced id ∧ ∃ rest locks,
        Returns hashtext (db.apply (.deletePayment id)) (next ()) a rest locks ∧
        changes = .deletePayment id :: rest ∧ held = .payment id :: locks := by
  rw [returns_call, locks_deletePayment hthere]
  constructor
  · rintro ⟨_, first, rest, locks, hrun, hnext, rfl, rfl⟩
    obtain ⟨hid, ⟨hnone, -⟩ | ⟨-, hfree, rfl⟩⟩ := deletePayment_eq_ok.mp hrun
    · simp [hnone] at hthere
    · exact ⟨hid, hfree, rest, locks, hnext, rfl, rfl⟩
  · rintro ⟨hid, hfree, rest, locks, hnext, rfl, rfl⟩
    exact ⟨(), [.deletePayment id], rest, locks,
      deletePayment_eq_ok.mpr ⟨hid, .inr ⟨hthere, hfree, rfl⟩⟩, hnext, rfl, rfl⟩

/-- The status of a payment that is there is set. -/
theorem returns_updatePaymentStatus {id : String} {status : PaymentStatus}
    {next : Unit → Service α} (hthere : (db.payments.find? id).isSome) :
    Returns hashtext db (.call (.updatePaymentStatus id status) next) a changes held ↔
      Storable id ∧ ∃ rest locks,
        Returns hashtext (db.apply (.setPaymentStatus id status.value)) (next ()) a rest locks ∧
        changes = .setPaymentStatus id status.value :: rest ∧ held = .payment id :: locks := by
  rw [returns_call, locks_updatePaymentStatus hthere]
  constructor
  · rintro ⟨_, first, rest, locks, hrun, hnext, rfl, rfl⟩
    obtain ⟨hid, ⟨hnone, -⟩ | ⟨-, rfl⟩⟩ := updatePaymentStatus_eq_ok.mp hrun
    · simp [hnone] at hthere
    · exact ⟨hid, rest, locks, hnext, rfl, rfl⟩
  · rintro ⟨hid, rest, locks, hnext, rfl, rfl⟩
    exact ⟨(), [.setPaymentStatus id status.value], rest, locks,
      updatePaymentStatus_eq_ok.mpr ⟨hid, .inr ⟨hthere, rfl⟩⟩, hnext, rfl, rfl⟩

/-- A pending payment is authorized, and any other one is left as it is. -/
theorem returns_authorizePayment {id : String} {next : Bool → Service α} :
    Returns hashtext db (.call (.authorizePayment id) next) a changes held ↔
      Storable id ∧
        (db.isPending id = false ∧ Returns hashtext db (next false) a changes held ∨
          db.isPending id = true ∧ ∃ rest locks,
            Returns hashtext (db.apply (.setPaymentStatus id PaymentStatus.authorized.value))
              (next true) a rest locks ∧
            changes = .setPaymentStatus id PaymentStatus.authorized.value :: rest ∧
            held = .payment id :: locks) := by
  rw [returns_call]
  constructor
  · rintro ⟨updated, first, rest, locks, hrun, hnext, rfl, rfl⟩
    obtain ⟨hid, hupdated, hfirst⟩ := authorizePayment_eq_ok.mp hrun
    -- The update counts the row exactly when the payment is pending, and takes its lock then.
    refine ⟨hid, ?_⟩
    rw [Statement.locks]
    cases hpending : db.isPending id with
    | false =>
      simp only [hpending] at hupdated hfirst
      subst hupdated hfirst
      exact .inl ⟨rfl, hnext⟩
    | true =>
      simp only [hpending] at hupdated hfirst
      subst hupdated hfirst
      exact .inr ⟨rfl, rest, locks, hnext, rfl, rfl⟩
  · rintro ⟨hid, ⟨hpending, hnext⟩ | ⟨hpending, rest, locks, hnext, rfl, rfl⟩⟩
    · refine ⟨false, [], changes, held, authorizePayment_eq_ok.mpr ⟨hid, hpending.symm, ?_⟩, hnext,
        rfl, ?_⟩
      · rw [hpending]
        rfl
      · rw [Statement.locks, hpending]
        rfl
    · refine ⟨true, [.setPaymentStatus id PaymentStatus.authorized.value], rest, locks,
        authorizePayment_eq_ok.mpr ⟨hid, hpending.symm, ?_⟩, hnext, rfl, ?_⟩
      · rw [hpending]
        rfl
      · rw [Statement.locks, hpending]
        rfl

/-- An account is inserted under a new id. -/
theorem inserts_ledgerAccount (id name currency : String) :
    Inserts hashtext (.insertLedgerAccount id name currency) ()
      (fun db row => ledgerAccountRow id name currency = .ok row ∧
        db.ledgerAccounts.find? id = none)
      .insertLedgerAccount [.ledgerAccount id] where
  run db answer first := by
    refine insertLedgerAccount_eq_ok.trans (exists_congr fun row => ?_)
    simp only [and_assoc, true_and]
    refine and_congr_right fun hrow => ?_
    rw [(ledgerAccountRow_eq_ok hrow).1]
  locks db row hready := locks_insertLedgerAccount hready.2

/-- An account is inserted under a new id, as the row that its columns hold. -/
theorem returns_insertLedgerAccount {id name currency : String} {next : Unit → Service α} :
    Returns hashtext db (.call (.insertLedgerAccount id name currency) next) a changes held ↔
      ∃ row rest locks, ledgerAccountRow id name currency = .ok row ∧
        db.ledgerAccounts.find? id = none ∧
        Returns hashtext (db.apply (.insertLedgerAccount row)) (next ()) a rest locks ∧
        changes = .insertLedgerAccount row :: rest ∧ held = .ledgerAccount id :: locks := by
  refine (inserts_ledgerAccount id name currency).returns.trans ?_
  simp only [and_assoc, List.singleton_append]

/-- A journal is inserted under a new id. -/
theorem inserts_ledgerTransaction (id reference currency : String) :
    Inserts hashtext (.insertLedgerTransaction id reference currency) ()
      (fun db row => ledgerTransactionRow id reference currency = .ok row ∧
        db.ledgerTransactions.find? id = none)
      .insertLedgerTransaction [.ledgerTransaction id] where
  run db answer first := by
    refine insertLedgerTransaction_eq_ok.trans (exists_congr fun row => ?_)
    simp only [and_assoc, true_and]
    refine and_congr_right fun hrow => ?_
    rw [(ledgerTransactionRow_eq_ok hrow).1]
  locks db row hready := locks_insertLedgerTransaction hready.2

/-- A journal is inserted under a new id, as the row that its columns hold. -/
theorem returns_insertLedgerTransaction {id reference currency : String}
    {next : Unit → Service α} :
    Returns hashtext db (.call (.insertLedgerTransaction id reference currency) next) a changes
        held ↔
      ∃ row rest locks, ledgerTransactionRow id reference currency = .ok row ∧
        db.ledgerTransactions.find? id = none ∧
        Returns hashtext (db.apply (.insertLedgerTransaction row)) (next ()) a rest locks ∧
        changes = .insertLedgerTransaction row :: rest ∧
        held = .ledgerTransaction id :: locks := by
  refine (inserts_ledgerTransaction id reference currency).returns.trans ?_
  simp only [and_assoc, List.singleton_append]

/-- An entry is inserted whose journal and whose account are there, in its currency. -/
theorem inserts_ledgerEntry (transactionId accountId side : String) (amount : ℤ)
    (currency : String) (now : Timestamp) :
    Inserts hashtext (.insertLedgerEntry transactionId accountId side amount currency now) ()
      (fun db row => ledgerEntryRow transactionId accountId side amount currency now = .ok row ∧
        (∃ journal, db.ledgerTransactions.find? transactionId = some journal ∧
          journal.currency = row.currency) ∧
        ∃ account, db.ledgerAccounts.find? accountId = some account ∧
          account.currency = row.currency)
      .insertLedgerEntry [] where
  run db answer first := by
    refine insertLedgerEntry_eq_ok.trans (exists_congr fun row => ?_)
    simp only [and_assoc, true_and]
  locks _ _ _ := rfl

/-- An entry is inserted, as the row that its columns hold. -/
theorem returns_insertLedgerEntry {transactionId accountId side currency : String} {amount : ℤ}
    {now : Timestamp} {next : Unit → Service α} :
    Returns hashtext db
        (.call (.insertLedgerEntry transactionId accountId side amount currency now) next) a
        changes held ↔
      ∃ row rest, ledgerEntryRow transactionId accountId side amount currency now = .ok row ∧
        (∃ journal, db.ledgerTransactions.find? transactionId = some journal ∧
          journal.currency = row.currency) ∧
        (∃ account, db.ledgerAccounts.find? accountId = some account ∧
          account.currency = row.currency) ∧
        Returns hashtext (db.apply (.insertLedgerEntry row)) (next ()) a rest held ∧
        changes = .insertLedgerEntry row :: rest := by
  refine (inserts_ledgerEntry transactionId accountId side amount currency now).returns.trans ?_
  constructor
  · rintro ⟨row, rest, locks, ⟨hrow, hjournal, haccount⟩, hnext, hchanges, rfl⟩
    exact ⟨row, rest, hrow, hjournal, haccount, hnext, hchanges⟩
  · rintro ⟨row, rest, hrow, hjournal, haccount, hnext, hchanges⟩
    exact ⟨row, rest, held, ⟨hrow, hjournal, haccount⟩, hnext, hchanges, rfl⟩

/-- An operation is inserted with a new id, key and journal, for a payment that is there. -/
theorem inserts_paymentOperation (operation : PaymentOperationRow) :
    Inserts hashtext (.insertPaymentOperation operation) ()
      (fun db row => row = operation ∧ operationTexts row = .ok () ∧
        db.operationExists row = false ∧ (db.payments.find? row.paymentId).isSome ∧
        (db.ledgerTransactions.find? row.journalTransactionId).isSome)
      .insertPaymentOperation [.operation operation.id, .operationKey operation.idempotencyKey,
        .operationJournal operation.journalTransactionId] where
  run db answer first := by
    refine insertPaymentOperation_eq_ok.trans ?_
    simp only [and_assoc, true_and, exists_eq_left]
  locks db row hready := by
    obtain ⟨rfl, -, hnew, -⟩ := hready
    exact locks_insertPaymentOperation hnew

/-- An operation is inserted as it is. -/
theorem returns_insertPaymentOperation {row : PaymentOperationRow} {next : Unit → Service α} :
    Returns hashtext db (.call (.insertPaymentOperation row) next) a changes held ↔
      operationTexts row = .ok () ∧ db.operationExists row = false ∧
        (db.payments.find? row.paymentId).isSome ∧
        (db.ledgerTransactions.find? row.journalTransactionId).isSome ∧
        ∃ rest locks, Returns hashtext (db.apply (.insertPaymentOperation row)) (next ()) a rest
            locks ∧
          changes = .insertPaymentOperation row :: rest ∧
          held = .operation row.id :: .operationKey row.idempotencyKey ::
            .operationJournal row.journalTransactionId :: locks := by
  refine (inserts_paymentOperation row).returns.trans ?_
  simp only [and_assoc, exists_and_left, exists_eq_left, List.cons_append, List.nil_append]

/-- An event is inserted under a new id. -/
theorem inserts_outboxEvent (id aggregateType aggregateId eventType : String)
    (payload : JsonObject) (now : Timestamp) :
    Inserts hashtext (.insertOutboxEvent id aggregateType aggregateId eventType payload now) ()
      (fun db row => outboxEventRow id aggregateType aggregateId eventType payload now = .ok row ∧
        db.outboxEvents.find? id = none)
      .insertOutboxEvent [.outboxEvent id] where
  run db answer first := by
    refine insertOutboxEvent_eq_ok.trans (exists_congr fun row => ?_)
    simp only [and_assoc, true_and]
    refine and_congr_right fun hrow => ?_
    rw [(outboxEventRow_eq_ok hrow).1]
  locks db row hready := locks_insertOutboxEvent hready.2

/-- An event is inserted under a new id, as the row that its columns hold. -/
theorem returns_insertOutboxEvent {id aggregateType aggregateId eventType : String}
    {payload : JsonObject} {now : Timestamp} {next : Unit → Service α} :
    Returns hashtext db
        (.call (.insertOutboxEvent id aggregateType aggregateId eventType payload now) next) a
        changes held ↔
      ∃ row rest locks,
        outboxEventRow id aggregateType aggregateId eventType payload now = .ok row ∧
        db.outboxEvents.find? id = none ∧
        Returns hashtext (db.apply (.insertOutboxEvent row)) (next ()) a rest locks ∧
        changes = .insertOutboxEvent row :: rest ∧ held = .outboxEvent id :: locks := by
  refine (inserts_outboxEvent id aggregateType aggregateId eventType payload now).returns.trans ?_
  simp only [and_assoc, List.singleton_append]

end Database

end AtlasPay
