import AtlasPay.Database.Rules

/-!
# What the locks of a transaction leave to others

`Rely` is what may happen to the committed tables while a transaction holds some locks: rows are
added, and payments change as a parameter `keeps` allows, but nothing under a key that is locked.
An operation is protected by the lock on its idempotency key, its own or the advisory one. First
that `Rely` shows through the changes of the transaction itself, then that a change of another one
is within it.
-/

namespace AtlasPay

namespace Database

/-- What may happen to the committed tables while the locks are held. -/
structure Rely (hashtext : String → ℤ) (keeps : PaymentRow → PaymentRow → Prop) (locks : Set Lock)
    (db db' : Database) : Prop where
  payments : Table.Drift {id | .payment id ∈ locks} keeps db.payments db'.payments
  idempotencyKeys : Table.Drift {key | .idempotencyKey key ∈ locks} (· = ·) db.idempotencyKeys
    db'.idempotencyKeys
  ledgerAccounts : Table.Drift {id | .ledgerAccount id ∈ locks} (· = ·) db.ledgerAccounts
    db'.ledgerAccounts
  ledgerTransactions : Table.Drift {id | .ledgerTransaction id ∈ locks} (· = ·)
    db.ledgerTransactions db'.ledgerTransactions
  paymentOperations : Table.Drift {id | .operation id ∈ locks} (· = ·) db.paymentOperations
    db'.paymentOperations
  outboxEvents : Table.Drift {id | .outboxEvent id ∈ locks} (· = ·) db.outboxEvents db'.outboxEvents
  operationKeys : ∀ key, .operationKey key ∈ locks ∨ .advisory (hashtext key) ∈ locks →
    db'.paymentOperations.findBy PaymentOperationRow.idempotencyKey key =
      db.paymentOperations.findBy PaymentOperationRow.idempotencyKey key
  operationJournals : ∀ id, .operationJournal id ∈ locks →
    db'.paymentOperations.findBy PaymentOperationRow.journalTransactionId id =
      db.paymentOperations.findBy PaymentOperationRow.journalTransactionId id
  references : ∀ id, .payment id ∈ locks → (db'.Referenced id ↔ db.Referenced id)

variable {hashtext : String → ℤ} {keeps : PaymentRow → PaymentRow → Prop} {locks : Set Lock}
  {db db' db'' : Database}

/-- A new key refers to its payment. -/
theorem referenced_insertIdempotencyKey {row : IdempotencyKeyRow}
    (habsent : db.idempotencyKeys.find? row.key = none) (id : String) :
    (db.apply (.insertIdempotencyKey row)).Referenced id ↔
      db.Referenced id ∨ row.paymentId = id := by
  have hrows : (db.idempotencyKeys.put row).rows = db.idempotencyKeys.rows ++ [row] :=
    Table.rows_put_of_absent habsent
  unfold Referenced apply
  simp only [hrows, List.mem_append, List.mem_singleton, or_and_right, exists_or, exists_eq_left]
  exact or_right_comm

/-- A new operation refers to its payment. -/
theorem referenced_insertPaymentOperation {row : PaymentOperationRow}
    (habsent : db.paymentOperations.find? row.id = none) (id : String) :
    (db.apply (.insertPaymentOperation row)).Referenced id ↔
      db.Referenced id ∨ row.paymentId = id := by
  have hrows : (db.paymentOperations.put row).rows = db.paymentOperations.rows ++ [row] :=
    Table.rows_put_of_absent habsent
  unfold Referenced apply
  simp only [hrows, List.mem_append, List.mem_singleton, or_and_right, exists_or, exists_eq_left]
  exact or_assoc.symm

namespace Rely

/-- Nothing may happen. -/
theorem refl (hkeeps : ∀ row, keeps row row) (db : Database) : Rely hashtext keeps locks db db where
  payments := .refl hkeeps _
  idempotencyKeys := .refl (fun _ => rfl) _
  ledgerAccounts := .refl (fun _ => rfl) _
  ledgerTransactions := .refl (fun _ => rfl) _
  paymentOperations := .refl (fun _ => rfl) _
  outboxEvents := .refl (fun _ => rfl) _
  operationKeys _ _ := rfl
  operationJournals _ _ := rfl
  references _ _ := Iff.rfl

/-- One thing may happen after the other. -/
theorem trans (hkeeps : ∀ row row' row'', keeps row row' → keeps row' row'' → keeps row row'')
    (h : Rely hashtext keeps locks db db') (h' : Rely hashtext keeps locks db' db'') :
    Rely hashtext keeps locks db db'' where
  payments := h.payments.trans hkeeps h'.payments
  idempotencyKeys := h.idempotencyKeys.trans (fun _ _ _ => Eq.trans) h'.idempotencyKeys
  ledgerAccounts := h.ledgerAccounts.trans (fun _ _ _ => Eq.trans) h'.ledgerAccounts
  ledgerTransactions := h.ledgerTransactions.trans (fun _ _ _ => Eq.trans) h'.ledgerTransactions
  paymentOperations := h.paymentOperations.trans (fun _ _ _ => Eq.trans) h'.paymentOperations
  outboxEvents := h.outboxEvents.trans (fun _ _ _ => Eq.trans) h'.outboxEvents
  operationKeys key hkey := (h'.operationKeys key hkey).trans (h.operationKeys key hkey)
  operationJournals id hid := (h'.operationJournals id hid).trans (h.operationJournals id hid)
  references id hid := (h'.references id hid).trans (h.references id hid)

/-! ## Through the changes of the transaction itself -/

/-- A payment of its own. -/
theorem insertPayment (hkeeps : ∀ row, keeps row row) (h : Rely hashtext keeps locks db db')
    (row : PaymentRow) :
    Rely hashtext keeps locks (db.apply (.insertPayment row)) (db'.apply (.insertPayment row)) :=
  { h with payments := h.payments.put hkeeps row }

/-- A payment that it deletes. -/
theorem deletePayment (h : Rely hashtext keeps locks db db') (id : String) :
    Rely hashtext keeps locks (db.apply (.deletePayment id)) (db'.apply (.deletePayment id)) :=
  { h with payments := h.payments.erase id }

/-- A payment whose status it sets. -/
theorem setPaymentStatus {id status : String}
    (hkeeps : ∀ row row', keeps row row' →
      keeps (setStatus id status row) (setStatus id status row'))
    (h : Rely hashtext keeps locks db db') :
    Rely hashtext keeps locks (db.apply (.setPaymentStatus id status))
      (db'.apply (.setPaymentStatus id status)) := by
  have hpayments : Table.Drift {id | .payment id ∈ locks} keeps
      (db.payments.modify (setStatus id status) (id_setStatus id status))
      (db'.payments.modify (setStatus id status) (id_setStatus id status)) :=
    h.payments.modify hkeeps
  exact { h with payments := hpayments }

/-- A key of its own. -/
theorem insertIdempotencyKey (h : Rely hashtext keeps locks db db') {row : IdempotencyKeyRow}
    (hlock : .idempotencyKey row.key ∈ locks)
    (habsent : db.idempotencyKeys.find? row.key = none) :
    Rely hashtext keeps locks (db.apply (.insertIdempotencyKey row))
      (db'.apply (.insertIdempotencyKey row)) := by
  have habsent' : db'.idempotencyKeys.find? row.key = none := by
    rw [h.idempotencyKeys.same row.key hlock]
    exact habsent
  refine { h with
    idempotencyKeys := h.idempotencyKeys.put (fun _ => rfl) row
    references := fun id hid => ?_ }
  rw [referenced_insertIdempotencyKey habsent, referenced_insertIdempotencyKey habsent',
    h.references id hid]

/-- An account of its own. -/
theorem insertLedgerAccount (h : Rely hashtext keeps locks db db') (row : LedgerAccountRow) :
    Rely hashtext keeps locks (db.apply (.insertLedgerAccount row))
      (db'.apply (.insertLedgerAccount row)) :=
  { h with ledgerAccounts := h.ledgerAccounts.put (fun _ => rfl) row }

/-- A journal of its own. -/
theorem insertLedgerTransaction (h : Rely hashtext keeps locks db db')
    (row : LedgerTransactionRow) :
    Rely hashtext keeps locks (db.apply (.insertLedgerTransaction row))
      (db'.apply (.insertLedgerTransaction row)) :=
  { h with ledgerTransactions := h.ledgerTransactions.put (fun _ => rfl) row }

/-- An entry of its own. -/
theorem insertLedgerEntry (h : Rely hashtext keeps locks db db') (row : LedgerEntryRow) :
    Rely hashtext keeps locks (db.apply (.insertLedgerEntry row))
      (db'.apply (.insertLedgerEntry row)) :=
  { h with }

/-- An operation of its own. -/
theorem insertPaymentOperation (h : Rely hashtext keeps locks db db') {row : PaymentOperationRow}
    (hlock : .operation row.id ∈ locks) (habsent : db.paymentOperations.find? row.id = none) :
    Rely hashtext keeps locks (db.apply (.insertPaymentOperation row))
      (db'.apply (.insertPaymentOperation row)) := by
  have habsent' : db'.paymentOperations.find? row.id = none := by
    rw [h.paymentOperations.same row.id hlock]
    exact habsent
  refine { h with
    paymentOperations := h.paymentOperations.put (fun _ => rfl) row
    operationKeys := fun key hkey => ?_
    operationJournals := fun id hid => ?_
    references := fun id hid => ?_ }
  · rw [apply, apply, Table.findBy_put habsent, Table.findBy_put habsent', h.operationKeys key hkey]
  · rw [apply, apply, Table.findBy_put habsent, Table.findBy_put habsent',
      h.operationJournals id hid]
  · rw [referenced_insertPaymentOperation habsent, referenced_insertPaymentOperation habsent',
      h.references id hid]

/-- An event of its own. -/
theorem insertOutboxEvent (h : Rely hashtext keeps locks db db') (row : OutboxEventRow) :
    Rely hashtext keeps locks (db.apply (.insertOutboxEvent row))
      (db'.apply (.insertOutboxEvent row)) :=
  { h with outboxEvents := h.outboxEvents.put (fun _ => rfl) row }

/-! ## The changes of another transaction -/

/-- A payment of another transaction. -/
theorem of_insertPayment (hkeeps : ∀ row, keeps row row) {row : PaymentRow}
    (habsent : db.payments.find? row.id = none) (hfree : .payment row.id ∉ locks) :
    Rely hashtext keeps locks db (db.apply (.insertPayment row)) :=
  { refl hkeeps db with payments := .of_put hkeeps habsent hfree }

/-- A payment whose status another transaction sets. -/
theorem of_setPaymentStatus (hrefl : ∀ row, keeps row row) {id status : String}
    (hkeeps : ∀ row, keeps row (setStatus id status row)) (hfree : .payment id ∉ locks) :
    Rely hashtext keeps locks db (db.apply (.setPaymentStatus id status)) := by
  have hpayments : Table.Drift {id | .payment id ∈ locks} keeps db.payments
      (db.payments.modify (setStatus id status) (id_setStatus id status)) := by
    refine .of_modify hkeeps fun row hrow => ?_
    have hne : row.id ≠ id := by
      rintro rfl
      exact hfree hrow
    exact if_neg hne
  exact { refl hrefl db with payments := hpayments }

/-- A key of another transaction. -/
theorem of_insertIdempotencyKey (hkeeps : ∀ row, keeps row row) {row : IdempotencyKeyRow}
    (habsent : db.idempotencyKeys.find? row.key = none) (hfree : .idempotencyKey row.key ∉ locks)
    (hpayment : .payment row.paymentId ∉ locks) :
    Rely hashtext keeps locks db (db.apply (.insertIdempotencyKey row)) := by
  refine { refl hkeeps db with
    idempotencyKeys := .of_put (fun _ => rfl) habsent hfree
    references := fun id hid => ?_ }
  have hne : row.paymentId ≠ id := by
    rintro rfl
    exact hpayment hid
  rw [referenced_insertIdempotencyKey habsent]
  simp [hne]

/-- An account of another transaction. -/
theorem of_insertLedgerAccount (hkeeps : ∀ row, keeps row row) {row : LedgerAccountRow}
    (habsent : db.ledgerAccounts.find? row.id = none) (hfree : .ledgerAccount row.id ∉ locks) :
    Rely hashtext keeps locks db (db.apply (.insertLedgerAccount row)) :=
  { refl hkeeps db with ledgerAccounts := .of_put (fun _ => rfl) habsent hfree }

/-- A journal of another transaction. -/
theorem of_insertLedgerTransaction (hkeeps : ∀ row, keeps row row) {row : LedgerTransactionRow}
    (habsent : db.ledgerTransactions.find? row.id = none)
    (hfree : .ledgerTransaction row.id ∉ locks) :
    Rely hashtext keeps locks db (db.apply (.insertLedgerTransaction row)) :=
  { refl hkeeps db with ledgerTransactions := .of_put (fun _ => rfl) habsent hfree }

/-- An entry of another transaction. -/
theorem of_insertLedgerEntry (hkeeps : ∀ row, keeps row row) (row : LedgerEntryRow) :
    Rely hashtext keeps locks db (db.apply (.insertLedgerEntry row)) :=
  { refl hkeeps db with }

/-- An operation of another transaction, which holds the advisory lock of its key as well. -/
theorem of_insertPaymentOperation (hkeeps : ∀ row, keeps row row) {row : PaymentOperationRow}
    (habsent : db.paymentOperations.find? row.id = none) (hfree : .operation row.id ∉ locks)
    (hkey : .operationKey row.idempotencyKey ∉ locks)
    (hadvisory : .advisory (hashtext row.idempotencyKey) ∉ locks)
    (hjournal : .operationJournal row.journalTransactionId ∉ locks)
    (hpayment : .payment row.paymentId ∉ locks) :
    Rely hashtext keeps locks db (db.apply (.insertPaymentOperation row)) := by
  have hsame : Rely hashtext keeps locks db db := refl hkeeps db
  refine { hsame with
    paymentOperations := .of_put (fun _ => rfl) habsent hfree
    operationKeys := fun key hlock => ?_
    operationJournals := fun id hlock => ?_
    references := fun id hlock => ?_ }
  · have hne : row.idempotencyKey ≠ key := by
      rintro rfl
      exact hlock.elim hkey hadvisory
    rw [apply, Table.findBy_put habsent, if_neg hne, Option.or_none]
  · have hne : row.journalTransactionId ≠ id := by
      rintro rfl
      exact hjournal hlock
    rw [apply, Table.findBy_put habsent, if_neg hne, Option.or_none]
  · have hne : row.paymentId ≠ id := by
      rintro rfl
      exact hpayment hlock
    rw [referenced_insertPaymentOperation habsent]
    simp [hne]

/-- An event of another transaction. -/
theorem of_insertOutboxEvent (hkeeps : ∀ row, keeps row row) {row : OutboxEventRow}
    (habsent : db.outboxEvents.find? row.id = none) (hfree : .outboxEvent row.id ∉ locks) :
    Rely hashtext keeps locks db (db.apply (.insertOutboxEvent row)) :=
  { refl hkeeps db with outboxEvents := .of_put (fun _ => rfl) habsent hfree }

end Rely

end Database

end AtlasPay
