import AtlasPay.Database.Statements
import AtlasPay.Python.Basic

/-!
# When statements are answered

For each statement, when it is answered and not refused, with what, and with which changes. The
proofs about programs read these lemmas, not the definitions of the statements.
-/

namespace AtlasPay

/-! ## Values -/

/-- An answer with changes. -/
theorem pure_pair_eq_ok {ε α β : Type*} {a a' : α} {b b' : β} :
    (pure (a, b) : Except ε (α × β)) = .ok (a', b') ↔ a' = a ∧ b' = b := by
  rw [pure_eq_ok, Prod.mk.injEq, @eq_comm _ a, @eq_comm _ b]

/-- A text parameter passes when it can be stored. -/
@[simp]
theorem text_eq_ok {s : String} {u : Unit} : text s = .ok u ↔ Storable s := by
  unfold text
  rw [ite_throw_eq_ok]
  simp

/-- An amount passes when it fits. -/
theorem bigint_eq_ok {n : ℤ} {m : { m : ℤ // m < 2 ^ 63 }} :
    bigint n = .ok m ↔ -2 ^ 63 ≤ n ∧ m.1 = n := by
  unfold bigint
  split
  · next h =>
    rw [pure_eq_ok, Subtype.ext_iff]
    exact ⟨fun heq => ⟨h.1, heq.symm⟩, fun heq => heq.2.symm⟩
  · next h =>
    refine iff_of_false throw_ne_ok fun heq => h ⟨heq.1, ?_⟩
    rw [← heq.2]
    exact m.2

/-- A text of the right length is stored as it is. -/
theorem bpchar_of_length {n : ℕ} {s : String} (h : s.length = n) : bpchar n s = .ok ⟨s, h⟩ := by
  have hlen : s.toList.length = n := h
  have hall : (s.toList.drop n).all (· = ' ') = true := by
    rw [List.drop_eq_nil_of_le (by omega)]
    rfl
  have htake : (s.toList ++ List.replicate n ' ').take n = s.toList := by
    rw [← hlen, List.take_left]
  unfold bpchar
  rw [if_pos hall]
  refine congrArg Except.ok (Subtype.ext ?_)
  exact (congrArg String.ofList htake).trans String.ofList_toList

/-- What is stored of a text: its first characters, and spaces. -/
theorem toList_of_bpchar {n : ℕ} {s : String} {padded : { padded : String // padded.length = n }}
    (h : bpchar n s = .ok padded) :
    padded.1.toList = (s.toList ++ List.replicate n ' ').take n := by
  unfold bpchar at h
  split at h
  · rw [pure_eq_ok] at h
    rw [← h, String.toList_ofList]
  · exact absurd h throw_ne_ok

/-- Padding with spaces adds no NUL. -/
theorem storable_of_bpchar {n : ℕ} {s : String} {padded : { padded : String // padded.length = n }}
    (h : bpchar n s = .ok padded) (hs : Storable s) : Storable padded.1 := by
  unfold Storable
  rw [toList_of_bpchar h]
  intro hmem
  rcases List.mem_append.mp (List.mem_of_mem_take hmem) with hgiven | hspace
  · exact hs hgiven
  · have heq := List.eq_of_mem_replicate hspace
    revert heq
    decide

/-- What a `VARCHAR(n)` column keeps of a text: its first characters. -/
def keptText (n : ℕ) (s : String) : String := String.ofList (s.toList.take n)

/-- A text that is not too long is kept as it is. -/
theorem keptText_of_length {n : ℕ} {s : String} (h : s.length ≤ n) : keptText n s = s := by
  have hlen : s.toList.length ≤ n := h
  unfold keptText
  rw [List.take_of_length_le hlen, String.ofList_toList]

/-- A text is stored when what is not kept are spaces. -/
theorem varchar_eq_ok {n : ℕ} {s : String} {kept : { kept : String // kept.length ≤ n }} :
    varchar n s = .ok kept ↔ (s.toList.drop n).all (· = ' ') ∧ kept.1 = keptText n s := by
  unfold varchar keptText
  split
  · next h =>
    rw [pure_eq_ok, Subtype.ext_iff]
    exact ⟨fun heq => ⟨h, heq.symm⟩, fun heq => heq.2.symm⟩
  · next h => exact iff_of_false throw_ne_ok fun heq => h heq.1

/-- A text that is not too long is stored as it is. -/
theorem varchar_of_length {n : ℕ} {s : String} (h : s.length ≤ n) :
    varchar n s = .ok ⟨s, h⟩ := by
  have hlen : s.toList.length ≤ n := h
  refine varchar_eq_ok.mpr ⟨?_, (keptText_of_length h).symm⟩
  rw [List.drop_eq_nil_of_le hlen]
  rfl

namespace Database

variable {db : Database} {changes : List Change}

/-! ## Payments and idempotency keys -/

/-- The row of a payment has its values, but for the padding of its currency and the length of its
reference. -/
theorem paymentRow_eq_ok {payment : Payment} {row : PaymentRow}
    (h : paymentRow payment = .ok row) :
    row.id = payment.id ∧ row.amount = payment.amount ∧ row.status = payment.status.value ∧
      row.createdAt = payment.createdAt ∧
      (∃ currency, bpchar 3 payment.currency = .ok currency ∧ row.currency = currency.1) ∧
      ∃ merchantReference, varchar 128 payment.merchantReference = .ok merchantReference ∧
        row.merchantReference = merchantReference.1 := by
  unfold paymentRow at h
  simp only [bind_eq_ok, text_eq_ok] at h
  obtain ⟨-, -, -, -, -, -, amount, hamount, currency, hcurrency, reference, hreference, h⟩ := h
  split at h
  · rw [pure_eq_ok] at h
    subst h
    exact ⟨rfl, (bigint_eq_ok.mp hamount).2, rfl, rfl, ⟨currency, hcurrency, rfl⟩, reference,
      hreference, rfl⟩
  · exact absurd h throw_ne_ok

/-- The row of a payment has texts that can be stored. -/
theorem storable_of_paymentRow {payment : Payment} {row : PaymentRow}
    (h : paymentRow payment = .ok row) :
    Storable payment.id ∧ Storable payment.currency ∧ Storable payment.merchantReference := by
  unfold paymentRow at h
  simp only [bind_eq_ok, text_eq_ok] at h
  obtain ⟨-, hid, -, hcurrency, -, hreference, -⟩ := h
  exact ⟨hid, hcurrency, hreference⟩

/-- A payment is inserted when its values fit and its id is new. -/
theorem insertPayment_eq_ok {payment : Payment} {u : Unit} :
    db.insertPayment payment = .ok (u, changes) ↔
      ∃ row, paymentRow payment = .ok row ∧ db.payments.find? row.id = none ∧
        changes = [.insertPayment row] := by
  unfold insertPayment
  simp only [bind_eq_ok, ite_throw_eq_ok, pure_pair_eq_ok, not_not, true_and, ne_eq]

/-- A payment is selected. -/
theorem selectPayment_eq_ok {id : String} {found : Option PaymentRow} :
    db.selectPayment id = .ok (found, changes) ↔
      Storable id ∧ found = db.payments.find? id ∧ changes = [] := by
  unfold selectPayment
  simp only [bind_eq_ok, text_eq_ok, pure_pair_eq_ok, exists_const]

/-- A payment that is there is deleted when nothing refers to it. -/
theorem deletePayment_eq_ok {id : String} {u : Unit} :
    db.deletePayment id = .ok (u, changes) ↔
      Storable id ∧ (db.payments.find? id = none ∧ changes = [] ∨
        (db.payments.find? id).isSome ∧ ¬db.Referenced id ∧ changes = [.deletePayment id]) := by
  unfold deletePayment
  simp only [bind_eq_ok, text_eq_ok, exists_const]
  refine and_congr_right fun _ => ?_
  cases hfind : db.payments.find? id with
  | none => simp [pure_pair_eq_ok, -pure_eq_ok]
  | some row => simp [ite_throw_eq_ok, pure_pair_eq_ok, -pure_eq_ok]

/-- The status of a payment that is there is set. -/
theorem updatePaymentStatus_eq_ok {id : String} {status : PaymentStatus} {u : Unit} :
    db.updatePaymentStatus id status = .ok (u, changes) ↔
      Storable id ∧ (db.payments.find? id = none ∧ changes = [] ∨
        (db.payments.find? id).isSome ∧ changes = [.setPaymentStatus id status.value]) := by
  unfold updatePaymentStatus
  simp only [bind_eq_ok, text_eq_ok, exists_const]
  refine and_congr_right fun _ => ?_
  cases hfind : db.payments.find? id with
  | none => simp [pure_pair_eq_ok, -pure_eq_ok]
  | some row => simp [pure_pair_eq_ok, -pure_eq_ok]

/-- A pending payment is authorized. -/
theorem authorizePayment_eq_ok {id : String} {updated : Bool} :
    db.authorizePayment id = .ok (updated, changes) ↔
      Storable id ∧ updated = db.isPending id ∧
        changes = if db.isPending id then
          [.setPaymentStatus id PaymentStatus.authorized.value] else [] := by
  unfold authorizePayment
  simp only [bind_eq_ok, text_eq_ok, exists_const]
  refine and_congr_right fun _ => ?_
  cases hpending : db.isPending id <;> simp [pure_pair_eq_ok, -pure_eq_ok]

/-- A key is claimed when it is not there. -/
theorem claimIdempotencyKey_eq_ok {key paymentId : String} {requestFingerprint : Digest}
    {claimed : Option String} :
    db.claimIdempotencyKey key requestFingerprint paymentId = .ok (claimed, changes) ↔
      Storable key ∧ Storable paymentId ∧
        ((db.idempotencyKeys.find? key).isSome ∧ claimed = none ∧ changes = [] ∨
          db.idempotencyKeys.find? key = none ∧ (db.payments.find? paymentId).isSome ∧
            claimed = some paymentId ∧
            changes = [.insertIdempotencyKey ⟨key, requestFingerprint, paymentId⟩]) := by
  unfold claimIdempotencyKey
  simp only [bind_eq_ok, text_eq_ok, exists_const]
  refine and_congr_right fun _ => and_congr_right fun _ => ?_
  cases hkey : db.idempotencyKeys.find? key with
  | some row => simp [pure_pair_eq_ok, -pure_eq_ok]
  | none =>
    cases hpayment : db.payments.find? paymentId with
    | none => simp
    | some row => simp [pure_pair_eq_ok, -pure_eq_ok]

/-- A key is selected. -/
theorem selectIdempotencyKey_eq_ok {key : String} {found : Option IdempotencyKeyRow} :
    db.selectIdempotencyKey key = .ok (found, changes) ↔
      Storable key ∧ found = db.idempotencyKeys.find? key ∧ changes = [] := by
  unfold selectIdempotencyKey
  simp only [bind_eq_ok, text_eq_ok, pure_pair_eq_ok, exists_const]

/-! ## The ledger -/

/-- The row of an account has its values, and an id and a currency that can be stored. -/
theorem ledgerAccountRow_eq_ok {id name currency : String} {row : LedgerAccountRow}
    (h : ledgerAccountRow id name currency = .ok row) :
    row.id = id ∧ row.name = name ∧ Storable id ∧ Storable row.currency := by
  unfold ledgerAccountRow at h
  simp only [bind_eq_ok, text_eq_ok, pure_eq_ok] at h
  obtain ⟨-, hid, -, -, -, hcurrency, padded, hpadded, rfl⟩ := h
  exact ⟨rfl, rfl, hid, storable_of_bpchar hpadded hcurrency⟩

/-- An account is inserted when its values fit and its id is new. -/
theorem insertLedgerAccount_eq_ok {id name currency : String} {u : Unit} :
    db.insertLedgerAccount id name currency = .ok (u, changes) ↔
      ∃ row, ledgerAccountRow id name currency = .ok row ∧
        db.ledgerAccounts.find? row.id = none ∧ changes = [.insertLedgerAccount row] := by
  unfold insertLedgerAccount
  simp only [bind_eq_ok, ite_throw_eq_ok, pure_pair_eq_ok, not_not, true_and, ne_eq]

/-- The row of a journal has its values. -/
theorem ledgerTransactionRow_eq_ok {id reference currency : String} {row : LedgerTransactionRow}
    (h : ledgerTransactionRow id reference currency = .ok row) :
    row.id = id ∧ row.reference = reference ∧
      ∃ padded, bpchar 3 currency = .ok padded ∧ row.currency = padded.1 := by
  unfold ledgerTransactionRow at h
  simp only [bind_eq_ok, text_eq_ok, pure_eq_ok] at h
  obtain ⟨-, -, -, -, -, -, padded, hpadded, rfl⟩ := h
  exact ⟨rfl, rfl, padded, hpadded, rfl⟩

/-- The row of a journal whose texts can be stored and whose currency has three characters. -/
theorem ledgerTransactionRow_of_length {id reference currency : String} (hid : Storable id)
    (href : Storable reference) (hcurrency : Storable currency) (hlength : currency.length = 3) :
    ledgerTransactionRow id reference currency = .ok ⟨id, reference, currency, hlength⟩ := by
  unfold ledgerTransactionRow
  simp only [bind_eq_ok, text_eq_ok]
  exact ⟨(), hid, (), href, (), hcurrency, _, bpchar_of_length hlength, rfl⟩

/-- The texts of a journal that has a row can be stored. -/
theorem storable_of_ledgerTransactionRow {id reference currency : String}
    {row : LedgerTransactionRow} (h : ledgerTransactionRow id reference currency = .ok row) :
    Storable id ∧ Storable reference := by
  unfold ledgerTransactionRow at h
  simp only [bind_eq_ok, text_eq_ok] at h
  obtain ⟨-, hid, -, href, -⟩ := h
  exact ⟨hid, href⟩

/-- A journal is inserted when its values fit and its id is new. -/
theorem insertLedgerTransaction_eq_ok {id reference currency : String} {u : Unit} :
    db.insertLedgerTransaction id reference currency = .ok (u, changes) ↔
      ∃ row, ledgerTransactionRow id reference currency = .ok row ∧
        db.ledgerTransactions.find? row.id = none ∧ changes = [.insertLedgerTransaction row] := by
  unfold insertLedgerTransaction
  simp only [bind_eq_ok, ite_throw_eq_ok, pure_pair_eq_ok, not_not, true_and, ne_eq]

/-- The row of an entry has its values. -/
theorem ledgerEntryRow_eq_ok {transactionId accountId side currency : String} {amount : ℤ}
    {now : Timestamp} {row : LedgerEntryRow}
    (h : ledgerEntryRow transactionId accountId side amount currency now = .ok row) :
    row.transactionId = transactionId ∧ row.accountId = accountId ∧ row.side = side ∧
      row.amount = amount ∧ row.createdAt = now ∧
      ∃ padded, bpchar 3 currency = .ok padded ∧ row.currency = padded.1 := by
  unfold ledgerEntryRow at h
  simp only [bind_eq_ok, text_eq_ok] at h
  obtain ⟨-, -, -, -, -, -, -, -, stored, hamount, padded, hpadded, h⟩ := h
  split at h
  · rw [pure_eq_ok] at h
    subst h
    exact ⟨rfl, rfl, rfl, (bigint_eq_ok.mp hamount).2, rfl, padded, hpadded, rfl⟩
  · exact absurd h throw_ne_ok

/-- The row of an entry whose texts can be stored, whose currency has three characters and whose
side and amount pass the checks. -/
theorem ledgerEntryRow_of_length {transactionId accountId side currency : String} {amount : ℤ}
    {now : Timestamp} (hid : Storable transactionId) (haccount : Storable accountId)
    (hcurrency : Storable currency) (hlength : currency.length = 3)
    (hside : side = "debit" ∨ side = "credit") (hlt : amount < 2 ^ 63) (hpos : 0 < amount) :
    ledgerEntryRow transactionId accountId side amount currency now =
      .ok ⟨transactionId, accountId, side, amount, currency, now, hside, hlt, hpos, hlength⟩ := by
  have hsideText : Storable side := by
    rcases hside with rfl | rfl <;> decide
  have hbigint : bigint amount = .ok ⟨amount, hlt⟩ := bigint_eq_ok.mpr ⟨by omega, rfl⟩
  unfold ledgerEntryRow
  simp only [bind_eq_ok, text_eq_ok]
  refine ⟨(), hid, (), haccount, (), hsideText, (), hcurrency, _, hbigint, _,
    bpchar_of_length hlength, ?_⟩
  rw [dif_pos ⟨hside, hpos⟩]
  rfl

/-- An entry is inserted when its values fit, and its journal and its account have its currency. -/
theorem insertLedgerEntry_eq_ok {transactionId accountId side currency : String} {amount : ℤ}
    {now : Timestamp} {u : Unit} :
    db.insertLedgerEntry transactionId accountId side amount currency now = .ok (u, changes) ↔
      ∃ row, ledgerEntryRow transactionId accountId side amount currency now = .ok row ∧
        (∃ journal, db.ledgerTransactions.find? transactionId = some journal ∧
          journal.currency = row.currency) ∧
        (∃ account, db.ledgerAccounts.find? accountId = some account ∧
          account.currency = row.currency) ∧ changes = [.insertLedgerEntry row] := by
  unfold insertLedgerEntry
  rw [bind_eq_ok]
  refine exists_congr fun row => and_congr_right fun _ => ?_
  simp only [Option.any_eq_true, decide_eq_true_eq]
  split
  · next h => simp [h, pure_pair_eq_ok, -pure_eq_ok]
  · next h =>
    refine iff_of_false throw_ne_ok ?_
    rintro ⟨hjournal, haccount, -⟩
    exact h ⟨hjournal, haccount⟩

/-- Nothing happens to entries but that a statement finds none. -/
theorem mutateLedgerEntries_eq_ok {p : LedgerEntryRow → Bool} {u : Unit} :
    db.mutateLedgerEntries p = .ok (u, changes) ↔
      (∀ entry ∈ db.ledgerEntries, p entry = false) ∧ changes = [] := by
  unfold mutateLedgerEntries
  rw [ite_throw_eq_ok, pure_pair_eq_ok]
  simp

/-- Nothing happens to journals but that a statement finds none. -/
theorem mutateLedgerTransactions_eq_ok {p : LedgerTransactionRow → Bool} {u : Unit} :
    db.mutateLedgerTransactions p = .ok (u, changes) ↔
      (∀ journal ∈ db.ledgerTransactions.rows, p journal = false) ∧ changes = [] := by
  unfold mutateLedgerTransactions
  rw [ite_throw_eq_ok, pure_pair_eq_ok]
  simp

/-! ## Operations and the outbox -/

/-- An advisory lock is taken on a text that can be stored. -/
theorem advisoryXactLock_eq_ok {key : String} {u : Unit} :
    (Statement.advisoryXactLock key).run db = .ok (u, changes) ↔ Storable key ∧ changes = [] := by
  change (text key >>= fun _ => pure ((), [])) = .ok (u, changes) ↔ _
  simp only [bind_eq_ok, text_eq_ok, pure_pair_eq_ok, exists_const, true_and]

/-- An operation is selected by its key. -/
theorem selectOperation_eq_ok {idempotencyKey : String} {found : Option PaymentOperationRow} :
    db.selectOperation idempotencyKey = .ok (found, changes) ↔
      Storable idempotencyKey ∧
        found = db.paymentOperations.findBy PaymentOperationRow.idempotencyKey idempotencyKey ∧
        changes = [] := by
  unfold selectOperation
  simp only [bind_eq_ok, text_eq_ok, pure_pair_eq_ok, exists_const]

/-- No operation has the id, the key or the journal. -/
theorem operationExists_eq_false {row : PaymentOperationRow} :
    db.operationExists row = false ↔ db.paymentOperations.find? row.id = none ∧
      db.paymentOperations.findBy PaymentOperationRow.idempotencyKey row.idempotencyKey = none ∧
      db.paymentOperations.findBy PaymentOperationRow.journalTransactionId
        row.journalTransactionId = none := by
  unfold operationExists
  simp [and_assoc]

/-- An operation is inserted when its id, key and journal are new, and its payment and its journal
are there. -/
theorem insertPaymentOperation_eq_ok {row : PaymentOperationRow} {u : Unit} :
    db.insertPaymentOperation row = .ok (u, changes) ↔
      operationTexts row = .ok () ∧ db.operationExists row = false ∧
        (db.payments.find? row.paymentId).isSome ∧
        (db.ledgerTransactions.find? row.journalTransactionId).isSome ∧
        changes = [.insertPaymentOperation row] := by
  unfold insertPaymentOperation
  simp only [bind_eq_ok, ite_throw_eq_ok, pure_pair_eq_ok, true_and, Bool.not_eq_true, not_or,
    ← ne_eq, Option.ne_none_iff_isSome, and_assoc]
  constructor
  · rintro ⟨_, h⟩
    exact h
  · exact fun h => ⟨(), h⟩

/-- The row of a new event has its values. -/
theorem outboxEventRow_eq_ok {id aggregateType aggregateId eventType : String}
    {payload : JsonObject} {now : Timestamp} {row : OutboxEventRow}
    (h : outboxEventRow id aggregateType aggregateId eventType payload now = .ok row) :
    row.id = id ∧ row.aggregateType = aggregateType ∧ row.aggregateId = aggregateId ∧
      row.eventType = eventType ∧ row.payload = payload := by
  unfold outboxEventRow at h
  simp only [bind_eq_ok, text_eq_ok, pure_eq_ok] at h
  obtain ⟨-, -, -, -, -, -, -, -, rfl⟩ := h
  exact ⟨rfl, rfl, rfl, rfl, rfl⟩

/-- An event is inserted when its values fit and its id is new. -/
theorem insertOutboxEvent_eq_ok {id aggregateType aggregateId eventType : String}
    {payload : JsonObject} {now : Timestamp} {u : Unit} :
    db.insertOutboxEvent id aggregateType aggregateId eventType payload now = .ok (u, changes) ↔
      ∃ row, outboxEventRow id aggregateType aggregateId eventType payload now = .ok row ∧
        db.outboxEvents.find? row.id = none ∧ changes = [.insertOutboxEvent row] := by
  unfold insertOutboxEvent
  simp only [bind_eq_ok, ite_throw_eq_ok, pure_pair_eq_ok, not_not, true_and, ne_eq]

/-- An update of an unpublished event. -/
theorem updateUnpublishedEvent_eq_ok {id : String} {update : OutboxUpdate} {updated : Bool}
    (h : db.updateUnpublishedEvent id update = .ok (updated, changes)) :
    updated = db.isUnpublished id ∧
      (changes = [] ∨ changes = [.updateOutboxEvents [id] update]) := by
  unfold updateUnpublishedEvent at h
  simp only [bind_eq_ok, text_eq_ok] at h
  obtain ⟨-, -, -, -, h⟩ := h
  split at h
  · next hun =>
    rw [pure_eq_ok] at h
    cases h
    exact ⟨hun.symm, .inr rfl⟩
  · next hun =>
    rw [pure_eq_ok] at h
    cases h
    exact ⟨by simpa using hun, .inl rfl⟩

end Database

end AtlasPay
