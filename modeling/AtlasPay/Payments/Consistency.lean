import AtlasPay.Payments.Lifecycle

/-!
# Every call keeps the tables consistent

One lemma for each kind of write: what it adds agrees with what is there. Then the calls of the
services, any of which may come next, and the lemma that a call that commits keeps `Consistent`.
-/

namespace AtlasPay

/-! ## What a change elsewhere leaves alone -/

/-- A journal moves a payment's amount as long as its amount and its currency stay. -/
theorem Moves.congr {payment payment' : PaymentRow} {entries : List LedgerEntryRow}
    (h : Moves payment entries) (hamount : payment'.amount = payment.amount)
    (hcurrency : payment'.currency = payment.currency) : Moves payment' entries :=
  ⟨h.pair, fun entry hentry => (h.amount entry hentry).trans hamount.symm,
    fun entry hentry => (h.currency entry hentry).trans hcurrency.symm⟩

namespace Database

variable {db db' : Database}

/-- A payment follows its history as long as its status and its operations stay. -/
theorem FollowsHistory.congr {payment payment' : PaymentRow} (h : db.FollowsHistory payment)
    (hstatus : payment'.status = payment.status)
    (hoperations : db'.operationsOf payment'.id = db.operationsOf payment.id) :
    db'.FollowsHistory payment' := by
  obtain ⟨status, operations, hvalue, hhistory, hmap⟩ := h
  exact ⟨status, operations, hstatus.trans hvalue, hhistory, by rw [hoperations, hmap]⟩

/-- An operation records its move as long as its journal and its payment stay. -/
theorem RecordsMove.congr {row : PaymentOperationRow} (h : db.RecordsMove row)
    (hjournals : ∀ id, (db.ledgerTransactions.find? id).isSome →
      (db'.ledgerTransactions.find? id).isSome)
    (hentries : (db.ledgerTransactions.find? row.journalTransactionId).isSome →
      db'.entriesOf row.journalTransactionId = db.entriesOf row.journalTransactionId)
    (hpayments : ∀ id payment, db.payments.find? id = some payment →
      ∃ payment', db'.payments.find? id = some payment' ∧ payment'.amount = payment.amount ∧
        payment'.currency = payment.currency) :
    db'.RecordsMove row := by
  obtain ⟨htransition, hjournal, payment, hpayment, hmoves⟩ := h
  obtain ⟨payment', hpayment', hamount, hcurrency⟩ := hpayments _ _ hpayment
  refine ⟨htransition, hjournals _ hjournal, payment', hpayment', ?_⟩
  rw [hentries hjournal]
  exact hmoves.congr hamount hcurrency

namespace Consistent

/-- A payment that is not there has no operations. -/
theorem operationsOf_eq_nil (h : Consistent db) {id : String}
    (habsent : db.payments.find? id = none) : db.operationsOf id = [] := by
  unfold operationsOf
  refine List.filter_eq_nil_iff.mpr fun row hrow => ?_
  obtain ⟨-, -, payment, hpayment, -⟩ := h.operations row hrow
  have hne : row.paymentId ≠ id := by
    intro heq
    rw [heq, habsent] at hpayment
    cases hpayment
  simpa using hne

/-! ## Payments, keys and accounts -/

/-- A new payment, pending and with a currency in upper case. -/
theorem insertPayment (h : Consistent db) {row : PaymentRow}
    (habsent : db.payments.find? row.id = none)
    (hstatus : row.status = PaymentStatus.pending.value)
    (hcurrency : upper row.currency = row.currency) :
    Consistent (db.apply (.insertPayment row)) := by
  have hrows : (db.payments.put row).rows = db.payments.rows ++ [row] :=
    Table.rows_put_of_absent habsent
  -- The id is new, so a lookup that finds another payment finds it still.
  have hkept : ∀ id payment, db.payments.find? id = some payment →
      (db.payments.put row).find? id = some payment := by
    intro id payment hpayment
    have hne : row.id ≠ id := by
      intro heq
      rw [heq, hpayment] at habsent
      cases habsent
    rw [Table.find?_put, if_neg hne, hpayment]
  constructor
  case history =>
    intro payment hpayment
    rw [apply, hrows, List.mem_append, List.mem_singleton] at hpayment
    rcases hpayment with hpayment | rfl
    · exact (h.history payment hpayment).congr rfl rfl
    · -- No operation is of a payment that was not there.
      refine ⟨.pending, [], hstatus, .pending, ?_⟩
      change (db.operationsOf payment.id).map _ = _
      rw [h.operationsOf_eq_nil habsent, List.map_nil, List.map_nil]
  case currency =>
    intro payment hpayment
    rw [apply, hrows, List.mem_append, List.mem_singleton] at hpayment
    rcases hpayment with hpayment | rfl
    · exact h.currency payment hpayment
    · exact hcurrency
  case keys =>
    intro key hkey
    obtain ⟨payment, hpayment⟩ := Option.isSome_iff_exists.mp (h.keys key hkey)
    exact Option.isSome_iff_exists.mpr ⟨payment, hkept _ _ hpayment⟩
  case entries => exact h.entries
  case balanced => exact h.balanced
  case operations =>
    intro operation hoperation
    exact (h.operations operation hoperation).congr (fun _ hjournal => hjournal) (fun _ => rfl)
      fun id payment hpayment => ⟨payment, hkept id payment hpayment, rfl, rfl⟩
  case journals => exact h.journals
  case events => exact h.events

/-- A new key for a payment that is there. -/
theorem insertIdempotencyKey (h : Consistent db) {row : IdempotencyKeyRow}
    (hpayment : (db.payments.find? row.paymentId).isSome) :
    Consistent (db.apply (.insertIdempotencyKey row)) := by
  constructor
  case keys =>
    intro key hkey
    rcases Table.mem_rows_of_mem_put hkey with rfl | hkey
    · exact hpayment
    · exact h.keys key hkey
  case history => exact h.history
  case currency => exact h.currency
  case entries => exact h.entries
  case balanced => exact h.balanced
  case operations => exact h.operations
  case journals => exact h.journals
  case events => exact h.events

/-- A new account. -/
theorem insertLedgerAccount (h : Consistent db) (row : LedgerAccountRow) :
    Consistent (db.apply (.insertLedgerAccount row)) :=
  ⟨h.history, h.currency, h.keys, h.entries, h.balanced, h.operations, h.journals, h.events⟩

/-- A payment whose status is set is found with the amount and the currency that it had. -/
theorem find?_setStatus (id status paymentId : String) (payment : PaymentRow)
    (hpayment : db.payments.find? paymentId = some payment) :
    ∃ payment', (db.apply (.setPaymentStatus id status)).payments.find? paymentId = some payment' ∧
      payment'.amount = payment.amount ∧ payment'.currency = payment.currency := by
  refine ⟨setStatus id status payment, ?_, amount_setStatus _ _ _, currency_setStatus _ _ _⟩
  rw [apply, Table.find?_modify, hpayment, Option.map_some]

/-- A status that continues the history of the payment, without an operation. -/
theorem setPaymentStatus (h : Consistent db) {id : String} {status : PaymentStatus}
    (hnext : ∀ payment, db.payments.find? id = some payment →
      ∃ operations, History status operations ∧
        (db.operationsOf id).map PaymentOperationRow.operation =
          operations.map PaymentOperation.value) :
    Consistent (db.apply (.setPaymentStatus id status.value)) := by
  -- No payment comes or goes.
  have hsome : ∀ paymentId, (db.payments.find? paymentId).isSome →
      ((db.apply (.setPaymentStatus id status.value)).payments.find? paymentId).isSome := by
    intro paymentId hpayment
    obtain ⟨payment, hpayment⟩ := Option.isSome_iff_exists.mp hpayment
    obtain ⟨payment', hpayment', -⟩ := find?_setStatus id status.value paymentId payment
      hpayment
    exact Option.isSome_iff_exists.mpr ⟨payment', hpayment'⟩
  constructor
  case history =>
    intro payment' hpayment'
    obtain ⟨payment, hpayment, rfl⟩ := List.mem_map.mp hpayment'
    have hid := id_setStatus id status.value payment
    -- The payment itself continues its history; every other one keeps its row.
    by_cases heq : payment.id = id
    · obtain ⟨operations, hhistory, hmap⟩ :=
        hnext payment (Table.find?_eq_some_iff.mpr ⟨hpayment, heq⟩)
      refine ⟨status, operations, ?_, hhistory, ?_⟩
      · rw [setStatus, if_pos heq]
      · rw [hid, heq]
        exact hmap
    · have hsame : setStatus id status.value payment = payment := if_neg heq
      rw [hsame]
      exact (h.history payment hpayment).congr rfl rfl
  case currency =>
    intro payment' hpayment'
    obtain ⟨payment, hpayment, rfl⟩ := List.mem_map.mp hpayment'
    rw [currency_setStatus]
    exact h.currency payment hpayment
  case keys => exact fun key hkey => hsome _ (h.keys key hkey)
  case entries => exact h.entries
  case balanced => exact h.balanced
  case operations =>
    intro operation hoperation
    exact (h.operations operation hoperation).congr (fun _ hjournal => hjournal) (fun _ => rfl)
      (find?_setStatus _ _)
  case journals => exact h.journals
  case events => exact h.events

/-! ## The ledger -/

/-- A new journal with its entries, which balance. -/
theorem insertJournal (h : Consistent db) {journal : LedgerTransactionRow}
    {entries : List LedgerEntryRow} (habsent : db.ledgerTransactions.find? journal.id = none)
    (hall : ∀ entry ∈ entries, entry.transactionId = journal.id) (hbalances : Balances entries) :
    Consistent { db with ledgerTransactions := db.ledgerTransactions.put journal,
                         ledgerEntries := db.ledgerEntries ++ entries } := by
  have hjournals : ∀ id, (db.ledgerTransactions.find? id).isSome →
      ((db.ledgerTransactions.put journal).find? id).isSome := by
    intro id hid
    rw [Table.find?_put]
    split
    · rfl
    · exact hid
  -- The entries are those of the new journal, so that the others keep theirs.
  have hothers : ∀ id, (db.ledgerTransactions.find? id).isSome →
      (db.ledgerEntries ++ entries).filter (fun entry => entry.transactionId = id) =
        db.entriesOf id := by
    intro id hid
    have hne : journal.id ≠ id := by
      intro heq
      rw [← heq, habsent] at hid
      cases hid
    rw [entriesOf_append hall, if_neg hne, List.append_nil]
  constructor
  case entries =>
    intro entry hentry
    rcases List.mem_append.mp hentry with hold | hnew
    · exact hjournals _ (h.entries entry hold)
    · rw [Table.find?_put, hall entry hnew, if_pos rfl]
      rfl
  case balanced =>
    intro row hrow
    change Balances ((db.ledgerEntries ++ entries).filter _)
    rcases Table.mem_rows_of_mem_put hrow with rfl | hold
    · rw [entriesOf_append hall, if_pos rfl, entriesOf_eq_nil h.entries habsent, List.nil_append]
      exact hbalances
    · rw [hothers _ (exists_ledgerTransaction.mp ⟨row, hold, rfl⟩)]
      exact h.balanced row hold
  case operations =>
    intro operation hoperation
    exact (h.operations operation hoperation).congr hjournals (hothers _)
      fun _ payment hpayment => ⟨payment, hpayment, rfl, rfl⟩
  case history => exact h.history
  case currency => exact h.currency
  case keys => exact h.keys
  case journals => exact h.journals
  case events => exact h.events

/-! ## Operations and events -/

/-- An operation of a payment that has the status that the operation needs, with its journal and its
event: the payment has the target status now. -/
theorem insertOperation (h : Consistent db) {row : PaymentOperationRow} {event : OutboxEventRow}
    {operation : PaymentOperation} {payment : PaymentRow}
    (hpayment : db.payments.find? row.paymentId = some payment)
    (hstatus : payment.status = operation.transition.1.value)
    (hoperation : row.operation = operation.value)
    (hfrom : row.fromStatus = operation.transition.1.value)
    (hto : row.toStatus = operation.transition.2.value)
    (habsent : db.paymentOperations.find? row.id = none)
    (hjournal : (db.ledgerTransactions.find? row.journalTransactionId).isSome)
    (hunused : ∀ other ∈ db.paymentOperations.rows,
      other.journalTransactionId ≠ row.journalTransactionId)
    (hmoves : Moves payment (db.entriesOf row.journalTransactionId))
    (heventNew : db.outboxEvents.find? event.id = none) (hannounces : Announces row event) :
    Consistent (after [.setPaymentStatus row.paymentId row.toStatus, .insertPaymentOperation row,
      .insertOutboxEvent event] db) := by
  have hoperations : (db.paymentOperations.put row).rows = db.paymentOperations.rows ++ [row] :=
    Table.rows_put_of_absent habsent
  have hevents : (db.outboxEvents.put event).rows = db.outboxEvents.rows ++ [event] :=
    Table.rows_put_of_absent heventNew
  -- Only the payment of the operation has one operation more.
  have hoperationsOf : ∀ id, (db.paymentOperations.rows ++ [row]).filter
      (fun other => other.paymentId = id) =
        db.operationsOf id ++ if row.paymentId = id then [row] else [] := by
    intro id
    rw [List.filter_append, List.filter_singleton, operationsOf]
    simp
  constructor
  case history =>
    intro payment' hpayment'
    obtain ⟨before, hbefore, rfl⟩ := List.mem_map.mp hpayment'
    have hid := id_setStatus row.paymentId row.toStatus before
    by_cases heq : before.id = row.paymentId
    · -- The payment of the operation: its history goes on by one.
      have hfound : db.payments.find? row.paymentId = some before :=
        Table.find?_eq_some_iff.mpr ⟨hbefore, heq⟩
      have hsame : before = payment := Option.some.inj (hfound.symm.trans hpayment)
      -- Its history ends in the status that the row has, which the operation starts from.
      obtain ⟨status, operations, hvalue, hhistory, hmap⟩ := h.history before hbefore
      have hcurrent : status = operation.transition.1 := by
        refine PaymentStatus.value_injective ?_
        rw [← hvalue, hsame, hstatus]
      rw [hcurrent] at hhistory
      refine ⟨operation.transition.2, operations ++ [operation], ?_, .operation hhistory, ?_⟩
      · rw [setStatus, if_pos heq]
        exact hto
      · change (((db.paymentOperations.put row).rows).filter _).map _ = _
        rw [hoperations, hid, hoperationsOf, if_pos heq.symm, List.map_append, hmap,
          List.map_append, List.map_singleton, List.map_singleton, hoperation]
    · have hsame : setStatus row.paymentId row.toStatus before = before := if_neg heq
      rw [hsame]
      refine (h.history before hbefore).congr rfl ?_
      change ((db.paymentOperations.put row).rows).filter _ = _
      rw [hoperations, hoperationsOf, if_neg (Ne.symm heq), List.append_nil]
  case currency =>
    intro payment' hpayment'
    obtain ⟨before, hbefore, rfl⟩ := List.mem_map.mp hpayment'
    rw [currency_setStatus]
    exact h.currency before hbefore
  case keys =>
    intro key hkey
    obtain ⟨before, hbefore⟩ := Option.isSome_iff_exists.mp (h.keys key hkey)
    obtain ⟨after, hafter, -⟩ := find?_setStatus row.paymentId row.toStatus key.paymentId
      before hbefore
    exact Option.isSome_iff_exists.mpr ⟨after, hafter⟩
  case entries => exact h.entries
  case balanced => exact h.balanced
  case operations =>
    intro other hother
    -- The new operation records its move; the others keep theirs.
    rcases Table.mem_rows_of_mem_put hother with rfl | hother
    · obtain ⟨payment', hpayment', hamount, hcurrency⟩ := find?_setStatus
        other.paymentId other.toStatus other.paymentId payment hpayment
      exact ⟨⟨operation, hoperation, hfrom, hto⟩, hjournal, payment', hpayment',
        hmoves.congr hamount hcurrency⟩
    · exact (h.operations other hother).congr (fun _ hjournal => hjournal) (fun _ => rfl)
        (find?_setStatus _ _)
  case journals =>
    change ((db.paymentOperations.put row).rows.map _).Nodup
    rw [hoperations, List.map_append, List.map_singleton, ← List.concat_eq_append]
    refine h.journals.concat fun hmem => ?_
    -- No two operations have the same journal.
    obtain ⟨other, hother, heq⟩ := List.mem_map.mp hmem
    exact hunused other hother heq
  case events =>
    change List.Forall₂ Announces (db.paymentOperations.put row).rows
      (db.outboxEvents.put event).rows
    rw [hoperations, hevents]
    exact List.rel_append h.events (.cons hannounces .nil)

/-- An update of events that leaves what they announce. -/
theorem updateOutboxEvents (h : Consistent db) (ids : List String) (update : OutboxUpdate) :
    Consistent (db.apply (.updateOutboxEvents ids update)) := by
  have hkept : ∀ row event, Announces row event → Announces row (updateEvent ids update event) := by
    intro row event hannounces
    unfold updateEvent
    split
    · cases update <;> exact ⟨hannounces.1, hannounces.2, hannounces.3, hannounces.4, hannounces.5⟩
    · exact hannounces
  constructor
  case events =>
    change List.Forall₂ Announces db.paymentOperations.rows (db.outboxEvents.rows.map _)
    rw [List.forall₂_map_right_iff]
    exact h.events.imp hkept
  case history => exact h.history
  case currency => exact h.currency
  case keys => exact h.keys
  case entries => exact h.entries
  case balanced => exact h.balanced
  case operations => exact h.operations
  case journals => exact h.journals

end Consistent

end Database

end AtlasPay
