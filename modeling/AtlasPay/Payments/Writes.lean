import AtlasPay.Database.Rules
import AtlasPay.Payments.Ledger
import AtlasPay.Payments.Operations
import AtlasPay.Payments.Outbox
import AtlasPay.Payments.Repository

/-!
# What the services write

For each program that returns, what it found, what it wrote and which locks it took, in as many
cases as the program has ends. The proofs about states of the database read these lemmas, not the
programs.
-/

namespace AtlasPay

open Database

variable {hashtext : String → ℤ} {sha256 : String → Digest} {db : Database}
  {changes : List Change} {held : List Lock}

/-! ## `create_payment` -/

namespace PaymentRepository

/-- What a call found for its key, and what it returns: a stored request that is another one, or
the payment of the same one. -/
inductive FindsClaimed (db : Database) (fingerprint : Digest) (existing : IdempotencyKeyRow) :
    Except ServiceError Payment → Prop where
  | conflicting (hdiffers : existing.requestFingerprint ≠ fingerprint) :
      FindsClaimed db fingerprint existing (.error conflictError)
  | replayed (row : PaymentRow) (payment : Payment)
      (hsame : existing.requestFingerprint = fingerprint)
      (hrow : db.payments.find? existing.paymentId = some row)
      (hpayment : rowToPayment row = .ok payment) :
      FindsClaimed db fingerprint existing (.ok payment)

/-- The ends of `create_payment`: without a key; with a key that it claims; with a key that was
there. -/
inductive Creates (sha256 : String → Digest) (db : Database) (request : CreatePaymentRequest)
    (id : String) (now : Timestamp) :
    Option String → Except ServiceError Payment → List Change → List Lock → Prop where
  | unkeyed {key : Option String} {held : List Lock} (row : PaymentRow)
      (hkey : key = none ∨ key = some "")
      (hrow : paymentRow (Payment.new request id now) = .ok row)
      (habsent : db.payments.find? id = none) (hlock : .payment id ∈ held) :
      Creates sha256 db request id now key (.ok (Payment.new request id now))
        [.insertPayment row] held
  | claimed {key : String} {held : List Lock} (row : PaymentRow) (hkey : key ≠ "")
      (hrow : paymentRow (Payment.new request id now) = .ok row)
      (habsent : db.payments.find? id = none)
      (hunclaimed : db.idempotencyKeys.find? key = none)
      (hlock : .payment id ∈ held) (hkeyLock : .idempotencyKey key ∈ held) :
      Creates sha256 db request id now (some key) (.ok (Payment.new request id now))
        [.insertPayment row, .insertIdempotencyKey ⟨key, requestFingerprint sha256 request, id⟩]
        held
  | found {key : String} {held : List Lock} {result : Except ServiceError Payment}
      (row : PaymentRow) (existing : IdempotencyKeyRow) (hkey : key ≠ "")
      (hrow : paymentRow (Payment.new request id now) = .ok row)
      (habsent : db.payments.find? id = none)
      (hexisting : db.idempotencyKeys.find? key = some existing)
      (hresult : FindsClaimed db (requestFingerprint sha256 request) existing result) :
      Creates sha256 db request id now (some key) result [.insertPayment row, .deletePayment id]
        held

/-- A payment that is inserted and deleted again leaves the tables as they were. -/
theorem apply_insert_delete {row : PaymentRow} (habsent : db.payments.find? row.id = none) :
    (db.apply (.insertPayment row)).apply (.deletePayment row.id) = db := by
  have hpayments : (db.payments.put row).erase row.id = db.payments :=
    Table.erase_put_of_absent habsent
  unfold apply
  simp only [hpayments]

/-- A candidate that loses is gone again. -/
theorem after_insert_delete {request : CreatePaymentRequest} {id : String} {now : Timestamp}
    {row : PaymentRow} (hrow : paymentRow (Payment.new request id now) = .ok row)
    (habsent : db.payments.find? id = none) :
    after [.insertPayment row, .deletePayment id] db = db := by
  have hid : row.id = id := (paymentRow_eq_ok hrow).1
  show (db.apply (.insertPayment row)).apply (.deletePayment id) = db
  rw [← hid]
  exact apply_insert_delete (by rwa [hid])

/-- What is concluded from a key that was there. -/
theorem findsClaimed_of_returns {fingerprint : Digest} {existing : IdempotencyKeyRow}
    {left : Bool × Option Payment}
    (h : Returns hashtext db (readClaimed fingerprint (some existing)) left changes held) :
    FindsClaimed db fingerprint existing (conclude left) ∧ changes = [] := by
  rw [readClaimed] at h
  split at h
  · next hdiffers =>
    obtain ⟨rfl, rfl, -⟩ := Engine.executes_done.mp h
    exact ⟨.conflicting hdiffers, rfl⟩
  · next hsame =>
    obtain ⟨-, hnext⟩ := returns_selectPayment.mp h
    cases hrow : db.payments.find? existing.paymentId with
    | none =>
      rw [hrow] at hnext
      exact absurd hnext Engine.executes_fail
    | some row =>
      simp only [hrow] at hnext
      cases hpayment : rowToPayment row with
      | error e =>
        rw [hpayment] at hnext
        exact absurd hnext Engine.executes_fail
      | ok payment =>
        rw [hpayment] at hnext
        obtain ⟨rfl, rfl, -⟩ := Engine.executes_done.mp hnext
        exact ⟨.replayed row payment (not_not.mp hsame) hrow hpayment, rfl⟩

/-- What `create_payment` did when its transaction committed. -/
theorem creates_of_returns {request : CreatePaymentRequest} {key : Option String} {id : String}
    {now : Timestamp} {result : Except ServiceError Payment}
    (h : Returns hashtext db (createPayment sha256 request key id now) result changes held) :
    Creates sha256 db request id now key result changes held := by
  -- Without a key, or with an empty one, the payment is inserted and that is all.
  have hplain : ∀ key : Option String, key = none ∨ key = some "" →
      Returns hashtext db (.call (.insertPayment (Payment.new request id now)) fun _ =>
        .done (.ok (Payment.new request id now))) result changes held →
      Creates sha256 db request id now key result changes held := by
    intro key hkey h
    obtain ⟨row, rest, locks, hrow, habsent, hnext, rfl, rfl⟩ := returns_insertPayment.mp h
    obtain ⟨rfl, rfl, -⟩ := Engine.executes_done.mp hnext
    exact .unkeyed row hkey hrow habsent List.mem_cons_self
  unfold createPayment at h
  split at h
  · exact hplain none (.inl rfl) h
  · exact hplain (some "") (.inr rfl) h
  · next key hempty =>
    have hkey : key ≠ "" := fun heq => hempty (by rw [heq])
    obtain ⟨left, first, locks, rest, locks', h₁, hdone, rfl, rfl⟩ := Engine.executes_bind.mp h
    obtain ⟨rfl, rfl, rfl⟩ := Engine.executes_done.mp hdone
    obtain ⟨row, rest₂, locks₂, hrow, habsent, h₂, rfl, rfl⟩ := returns_insertPayment.mp h₁
    have hid : row.id = id := (paymentRow_eq_ok hrow).1
    have habsent : db.payments.find? id = none := habsent
    obtain ⟨-, -, ⟨hthere, h₃⟩ | ⟨hfree, -, rest₃, locks₃, h₃, rfl, rfl⟩⟩ :=
      returns_claimIdempotencyKey.mp h₂
    · -- The key was there. The candidate is deleted, and the key is read.
      have hcandidate : ((db.apply (.insertPayment row)).payments.find? id).isSome := by
        simp [apply, hid]
      obtain ⟨-, -, rest₄, locks₄, h₄, rfl, rfl⟩ := (returns_deletePayment hcandidate).mp h₃
      have hsame : (db.apply (.insertPayment row)).apply (.deletePayment id) = db := by
        rw [← hid]
        exact apply_insert_delete (by rwa [hid])
      rw [hsame] at h₄
      obtain ⟨-, h₅⟩ := returns_selectIdempotencyKey.mp h₄
      obtain ⟨existing, hexisting⟩ := Option.isSome_iff_exists.mp hthere
      have hexisting : db.idempotencyKeys.find? key = some existing := hexisting
      rw [hexisting] at h₅
      obtain ⟨hfinds, rfl⟩ := findsClaimed_of_returns h₅
      exact .found row existing hkey hrow habsent hexisting hfinds
    · obtain ⟨rfl, rfl, -⟩ := Engine.executes_done.mp h₃
      exact .claimed row hkey hrow habsent hfree List.mem_cons_self
        (List.mem_append_left _ (List.mem_cons_of_mem _ List.mem_cons_self))

end PaymentRepository

/-! ## `execute` and the step outside -/

namespace PaymentOperations

/-- The ends of `execute`: the operation of an earlier call, or a new one with its journal, its
entries, the status of the payment and its event. -/
inductive Executes (hashtext : String → ℤ) (sha256 : String → Digest) (db : Database)
    (call : OperationCall) : OperationResult → List Change → List Lock → Prop where
  | replayed {held : List Lock} {result : OperationResult} (existing : PaymentOperationRow)
      (hexisting : db.paymentOperations.findBy PaymentOperationRow.idempotencyKey
        call.idempotencyKey = some existing)
      (hsame : existing.requestFingerprint = fingerprint sha256 call)
      (hresult : resultFromRow existing true = .ok result) :
      Executes hashtext sha256 db call result [] held
  | recorded {held : List Lock} (payment : PaymentRow) (journal : LedgerTransactionRow)
      (debit credit : LedgerEntryRow) (event : OutboxEventRow)
      (hdistinct : call.sourceAccountId ≠ call.destinationAccountId)
      (hpayment : db.payments.find? call.paymentId = some payment)
      (hstatus : PaymentStatus.ofValue? payment.status = some call.operation.transition.1)
      (hjournal : ledgerTransactionRow call.journalId (reference call) (upper payment.currency) =
        .ok journal)
      (hjournalNew : db.ledgerTransactions.find? call.journalId = none)
      (hdebit : ledgerEntryRow call.journalId call.sourceAccountId "debit" payment.amount
        (upper payment.currency) call.now = .ok debit)
      (hcredit : ledgerEntryRow call.journalId call.destinationAccountId "credit" payment.amount
        (upper payment.currency) call.now = .ok credit)
      (hnew : db.operationExists
        (operationRow call (fingerprint sha256 call) call.operation.transition.1) = false)
      (hevent : outboxEventRow call.eventId "payment" call.paymentId
        ("payment." ++ call.operation.transition.2.value)
        (eventPayload call call.operation.transition.1 payment.amount (upper payment.currency))
        call.now = .ok event)
      (heventNew : db.outboxEvents.find? call.eventId = none)
      (hlocks : ∀ lock ∈ [.advisory (hashtext call.idempotencyKey), .payment call.paymentId,
        .ledgerTransaction call.journalId, .operation call.operationId,
        .operationKey call.idempotencyKey, .operationJournal call.journalId,
        .outboxEvent call.eventId], lock ∈ held) :
      Executes hashtext sha256 db call
        ⟨call.operationId, call.paymentId, call.operation, call.operation.transition.1,
          call.operation.transition.2, call.journalId, false⟩
        [.insertLedgerTransaction journal, .insertLedgerEntry debit, .insertLedgerEntry credit,
          .setPaymentStatus call.paymentId call.operation.transition.2.value,
          .insertPaymentOperation
            (operationRow call (fingerprint sha256 call) call.operation.transition.1),
          .insertOutboxEvent event] held

/-- A replay returns what the row says, for the same request. -/
theorem replay_returns {fingerprint : Digest} {existing : PaymentOperationRow}
    {result : OperationResult}
    (h : Returns hashtext db (replay fingerprint existing) result changes held) :
    existing.requestFingerprint = fingerprint ∧ resultFromRow existing true = .ok result ∧
      changes = [] := by
  unfold replay at h
  split at h
  · exact absurd h Engine.executes_fail
  · next hsame =>
    cases hresult : resultFromRow existing true with
    | error e =>
      rw [hresult] at h
      exact absurd h Engine.executes_fail
    | ok result' =>
      rw [hresult] at h
      obtain ⟨rfl, rfl, -⟩ := Engine.executes_done.mp h
      exact ⟨not_not.mp hsame, rfl, rfl⟩

/-- An operation is recorded for a payment that has the status that it needs. -/
theorem apply_returns {call : OperationCall} {fingerprint : Digest} {payment : PaymentRow}
    {result : OperationResult}
    (h : Returns hashtext db (apply call fingerprint (some payment)) result changes held) :
    PaymentStatus.ofValue? payment.status = some call.operation.transition.1 ∧
      Returns hashtext db (record call fingerprint call.operation.transition.1 payment.amount
        (upper payment.currency)) result changes held := by
  unfold apply at h
  cases hstatus : PaymentStatus.ofValue? payment.status with
  | none =>
    simp only [hstatus] at h
    exact absurd h Engine.executes_fail
  | some current =>
    simp only [hstatus] at h
    split at h
    · exact absurd h Engine.executes_fail
    · next hcurrent =>
      rw [not_not.mp hcurrent] at h ⊢
      exact ⟨rfl, h⟩

/-- What `execute` did when its transaction committed. -/
theorem executes_of_returns {call : OperationCall} {result : OperationResult}
    (h : Returns hashtext db (execute sha256 call) result changes held) :
    Executes hashtext sha256 db call result changes held := by
  unfold execute at h
  dsimp only at h
  split_ifs at h with hkey hdistinct
  · exact absurd h Engine.executes_fail
  swap
  · exact absurd h Engine.executes_fail
  obtain ⟨-, locks₁, h₁, rfl⟩ := returns_advisoryXactLock.mp h
  obtain ⟨-, h₂⟩ := returns_selectOperation.mp h₁
  cases hexisting : db.paymentOperations.findBy PaymentOperationRow.idempotencyKey
      call.idempotencyKey with
  | some existing =>
    simp only [hexisting] at h₂
    -- The key has been used: the operation is replayed, and nothing is written.
    obtain ⟨hsame, hresult, rfl⟩ := replay_returns h₂
    exact .replayed existing hexisting hsame hresult
  | none =>
    simp only [hexisting] at h₂
    obtain ⟨-, locks₃, h₃, rfl⟩ := returns_selectPaymentForUpdate.mp h₂
    cases hpayment : db.payments.find? call.paymentId with
    | none =>
      rw [hpayment] at h₃
      exact absurd h₃ Engine.executes_fail
    | some payment =>
      rw [hpayment] at h₃
      obtain ⟨hstatus, h₄⟩ := apply_returns h₃
      -- The writes, statement by statement.
      obtain ⟨journal, _, _, hjournal, hjournalNew, h₅, rfl, rfl⟩ :=
        returns_insertLedgerTransaction.mp h₄
      obtain ⟨debit, _, hdebit, -, -, h₆, rfl⟩ := returns_insertLedgerEntry.mp h₅
      obtain ⟨credit, _, hcredit, -, -, h₇, rfl⟩ := returns_insertLedgerEntry.mp h₆
      obtain ⟨-, _, _, h₈, rfl, rfl⟩ := (returns_updatePaymentStatus (by
        change (db.payments.find? call.paymentId).isSome
        rw [hpayment]
        rfl)).mp h₇
      obtain ⟨-, hnew, -, -, _, _, h₉, rfl, rfl⟩ := returns_insertPaymentOperation.mp h₈
      obtain ⟨event, _, _, hevent, heventNew, h₁₀, rfl, rfl⟩ := returns_insertOutboxEvent.mp h₉
      obtain ⟨rfl, rfl, rfl⟩ := Engine.executes_done.mp h₁₀
      refine .recorded payment journal debit credit event hdistinct hpayment hstatus hjournal
        hjournalNew hdebit hcredit hnew hevent heventNew ?_
      simp [operationRow]

/-- What the step outside did when it committed. -/
theorem authorize_returns {id : String} {u : Unit}
    (h : Returns hashtext db (authorize id) u changes held) :
    db.isPending id = true ∧ changes = [.setPaymentStatus id PaymentStatus.authorized.value] ∧
      .payment id ∈ held := by
  obtain ⟨-, ⟨-, hnext⟩ | ⟨hpending, rest, locks, hnext, rfl, rfl⟩⟩ :=
    returns_authorizePayment.mp h
  · exact absurd hnext Engine.executes_fail
  · obtain ⟨-, rfl, -⟩ := Engine.executes_done.mp hnext
    exact ⟨hpending, rfl, List.mem_cons_self⟩

end PaymentOperations

/-! ## The ledger -/

namespace Ledger

/-- The row that `create_account` inserted when its transaction committed. -/
theorem createAccount_inserts {account result : LedgerAccount}
    (h : Returns hashtext db (createAccount account) result changes held) :
    ∃ row : LedgerAccountRow,
      ledgerAccountRow account.id account.name (upper account.currency) = .ok row ∧
      (upper account.currency).length = 3 ∧ db.ledgerAccounts.find? account.id = none ∧
      changes = [.insertLedgerAccount row] ∧ .ledgerAccount account.id ∈ held := by
  unfold createAccount at h
  dsimp only at h
  split_ifs at h with hlength
  · exact absurd h Engine.executes_fail
  · obtain ⟨row, rest, locks, hrow, habsent, hnext, rfl, rfl⟩ := returns_insertLedgerAccount.mp h
    obtain ⟨-, rfl, -⟩ := Engine.executes_done.mp hnext
    exact ⟨row, hrow, not_not.mp hlength, habsent, rfl, List.mem_cons_self⟩

/-- What `create_account` did when its transaction committed. -/
theorem createAccount_returns {account result : LedgerAccount}
    (h : Returns hashtext db (createAccount account) result changes held) :
    ∃ row : LedgerAccountRow, row.id = account.id ∧ db.ledgerAccounts.find? account.id = none ∧
      changes = [.insertLedgerAccount row] ∧ .ledgerAccount account.id ∈ held := by
  obtain ⟨row, hrow, -, habsent, hchanges, hlock⟩ := createAccount_inserts h
  exact ⟨row, (ledgerAccountRow_eq_ok hrow).1, habsent, hchanges, hlock⟩

/-- The entries of a journal that is posted: they have its id, its currency and one moment. -/
def PostedIn (journal : LedgerTransactionRow) (now : Timestamp) (entry : LedgerEntryRow) : Prop :=
  entry.transactionId = journal.id ∧ entry.createdAt = now ∧ entry.currency = journal.currency

/-- An entry has the account, the side and the amount of a posting. -/
def Records (posting : LedgerPosting) (entry : LedgerEntryRow) : Prop :=
  entry.accountId = posting.accountId ∧ entry.side = posting.side ∧ entry.amount = posting.amount

instance : DecidableRel Records := fun _ _ => inferInstanceAs (Decidable (_ ∧ _))

/-- An entry has the currency of its journal when both come from one text. -/
theorem postedIn_of_rows {journalId reference currency accountId side : String} {amount : ℤ}
    {now : Timestamp} {journal : LedgerTransactionRow} {entry : LedgerEntryRow}
    (hjournal : ledgerTransactionRow journalId reference currency = .ok journal)
    (hentry : ledgerEntryRow journalId accountId side amount currency now = .ok entry) :
    PostedIn journal now entry := by
  obtain ⟨hid, -, padded, hpadded, hcurrency⟩ := ledgerTransactionRow_eq_ok hjournal
  obtain ⟨hentryId, -, -, -, hmoment, padded', hpadded', hcurrency'⟩ := ledgerEntryRow_eq_ok hentry
  rw [hpadded] at hpadded'
  cases hpadded'
  exact ⟨hentryId.trans hid.symm, hmoment, hcurrency'.trans hcurrency.symm⟩

/-- The entries that `post` inserts are those of its journal. -/
theorem insertEntries_returns {journalId reference currency result : String} {now : Timestamp}
    {postings : List LedgerPosting} {journal : LedgerTransactionRow}
    (hjournal : ledgerTransactionRow journalId reference currency = .ok journal)
    (h : Returns hashtext db (insertEntries journalId currency now postings) result changes held) :
    ∃ entries : List LedgerEntryRow, changes = entries.map .insertLedgerEntry ∧
      List.Forall₂ Records postings entries ∧ ∀ entry ∈ entries, PostedIn journal now entry := by
  induction postings generalizing db changes held with
  | nil =>
    obtain ⟨-, rfl, -⟩ := Engine.executes_done.mp h
    exact ⟨[], rfl, .nil, by simp⟩
  | cons posting postings ih =>
    obtain ⟨row, rest, hrow, -, -, hnext, rfl⟩ := returns_insertLedgerEntry.mp h
    obtain ⟨entries, rfl, hrecords, hall⟩ := ih hnext
    obtain ⟨-, haccount, hside, hamount, -⟩ := ledgerEntryRow_eq_ok hrow
    exact ⟨row :: entries, rfl, .cons ⟨haccount, hside, hamount⟩ hrecords,
      List.forall_mem_cons.mpr ⟨postedIn_of_rows hjournal hrow, hall⟩⟩

/-- What `post` inserted when its transaction committed: a new journal, and an entry of it for each
posting. -/
theorem post_inserts {ref currency drawn result : String} {postings : List LedgerPosting}
    {transactionId : Option String} {now : Timestamp}
    (h : Returns hashtext db (post ref currency postings transactionId drawn now) result changes
      held) :
    ∃ (journal : LedgerTransactionRow) (entries : List LedgerEntryRow),
      db.ledgerTransactions.find? journal.id = none ∧ .ledgerTransaction journal.id ∈ held ∧
      changes = .insertLedgerTransaction journal :: entries.map .insertLedgerEntry ∧
      List.Forall₂ Records postings entries ∧ ∀ entry ∈ entries, PostedIn journal now entry := by
  unfold post at h
  cases hvalid : validatePostings postings with
  | error e =>
    rw [hvalid] at h
    exact absurd h Engine.executes_fail
  | ok u =>
    simp only [hvalid] at h
    split_ifs at h with hlength
    · exact absurd h Engine.executes_fail
    · obtain ⟨journal, rest, locks, hjournal, hnew, hnext, rfl, rfl⟩ :=
        returns_insertLedgerTransaction.mp h
      obtain ⟨entries, rfl, hrecords, hall⟩ := insertEntries_returns hjournal hnext
      obtain ⟨hid, -⟩ := ledgerTransactionRow_eq_ok hjournal
      rw [← hid] at hnew ⊢
      exact ⟨journal, entries, hnew, List.mem_cons_self, rfl, hrecords, hall⟩

/-- What `post` did when its transaction committed: a new journal, and entries of it. -/
theorem post_returns {ref currency drawn result : String} {postings : List LedgerPosting}
    {transactionId : Option String} {now : Timestamp}
    (h : Returns hashtext db (post ref currency postings transactionId drawn now) result changes
      held) :
    ∃ (journal : LedgerTransactionRow) (entries : List LedgerEntryRow),
      db.ledgerTransactions.find? journal.id = none ∧ .ledgerTransaction journal.id ∈ held ∧
      changes = .insertLedgerTransaction journal :: entries.map .insertLedgerEntry ∧
      ∀ entry ∈ entries, PostedIn journal now entry := by
  obtain ⟨journal, entries, hnew, hlock, hchanges, -, hall⟩ := post_inserts h
  exact ⟨journal, entries, hnew, hlock, hchanges, hall⟩

end Ledger

/-! ## The outbox -/

namespace Outbox

/-- A conditional update of an event changes that event or nothing. -/
theorem updateUnpublishedEvent_returns {id : String} {update : OutboxUpdate} {result : Bool}
    (h : Returns hashtext db (.call (.updateUnpublishedEvent id update) fun updated =>
      .done updated) result changes held) :
    changes = [] ∨ changes = [.updateOutboxEvents [id] update] := by
  obtain ⟨updated, first, rest, locks, hrun, hnext, rfl, -⟩ := returns_call.mp h
  obtain ⟨-, rfl, -⟩ := Engine.executes_done.mp hnext
  rw [List.append_nil]
  exact (updateUnpublishedEvent_eq_ok hrun).2

/-- A reset changes its event or nothing. -/
theorem resetOutboxEvent_returns {id : String} {result : Bool}
    (h : Returns hashtext db (resetOutboxEvent id) result changes held) :
    changes = [] ∨ changes = [.updateOutboxEvents [id] .reset] := by
  unfold resetOutboxEvent at h
  split_ifs at h
  · exact updateUnpublishedEvent_returns h
  · exact absurd h Engine.executes_fail

/-- A claim selects events and locks them, where there are any. -/
theorem claimBatch_returns {batchSize maxAttempts leaseSeconds : ℤ} {now : Timestamp}
    {skipped : List String} {result : List OutboxEvent}
    (h : Returns hashtext db (claimBatch batchSize maxAttempts leaseSeconds now skipped) result
      changes held) :
    0 < maxAttempts ∧ 0 < leaseSeconds ∧
      result = (db.selectClaimableEvents now maxAttempts leaseSeconds batchSize skipped).map
        rowToEvent ∧
      (result = [] ∧ changes = [] ∨
        changes = [.updateOutboxEvents (result.map OutboxEvent.id) (.claimed now)]) := by
  unfold claimBatch at h
  split_ifs at h with hbatch hattempts hlease
  · exact absurd h Engine.executes_fail
  · exact absurd h Engine.executes_fail
  · exact absurd h Engine.executes_fail
  · refine ⟨not_le.mp hattempts, not_le.mp hlease, ?_⟩
    obtain ⟨rows, first, rest, locks, hrun, hnext, rfl, -⟩ := returns_call.mp h
    obtain ⟨rfl, rfl⟩ := pure_pair_eq_ok.mp hrun
    cases hevents : (db.selectClaimableEvents now maxAttempts leaseSeconds batchSize skipped).map
        rowToEvent with
    | nil =>
      simp only [hevents] at hnext
      -- Without events there is nothing to lock.
      obtain ⟨rfl, rfl, -⟩ := Engine.executes_done.mp hnext
      exact ⟨rfl, .inl ⟨rfl, rfl⟩⟩
    | cons event events =>
      simp only [hevents] at hnext
      obtain ⟨_, first', rest', locks', hrun', hdone, rfl, -⟩ := returns_call.mp hnext
      obtain ⟨-, rfl⟩ := pure_pair_eq_ok.mp hrun'
      obtain ⟨rfl, rfl, -⟩ := Engine.executes_done.mp hdone
      exact ⟨rfl, .inr rfl⟩

end Outbox

end AtlasPay
