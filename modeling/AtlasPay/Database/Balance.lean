import AtlasPay.Database.Answers

/-!
# The balance of the ledger

What the changes of a transaction leave of the journals and their entries, and what the deferred
trigger `ledger_transaction_balanced` ensures at commit: every journal that the transaction inserted
is balanced. The trigger looks at no other journal, so the journals that were there before are
balanced afterwards exactly when the transaction adds equal totals to them (`balanced_step_iff`).
-/

namespace AtlasPay

namespace Database

/-- A journal's entries have a debit and a credit, and equal totals. -/
structure Balances (entries : List LedgerEntryRow) : Prop where
  debit : ∃ entry ∈ entries, entry.side = "debit"
  credit : ∃ entry ∈ entries, entry.side = "credit"
  totals : total "debit" entries = total "credit" entries

instance (entries : List LedgerEntryRow) : Decidable (Balances entries) :=
  decidable_of_iff ((∃ entry ∈ entries, entry.side = "debit") ∧
    (∃ entry ∈ entries, entry.side = "credit") ∧ total "debit" entries = total "credit" entries)
    ⟨fun h => ⟨h.1, h.2.1, h.2.2⟩, fun h => ⟨h.debit, h.credit, h.totals⟩⟩

/-- Every journal is balanced. -/
def Balanced (db : Database) : Prop :=
  ∀ journal ∈ db.ledgerTransactions.rows, Balances (db.entriesOf journal.id)

instance (db : Database) : Decidable (Balanced db) :=
  inferInstanceAs (Decidable (∀ journal ∈ db.ledgerTransactions.rows, _))

/-- The entries that some changes insert. -/
def newLedgerEntries (changes : List Change) : List LedgerEntryRow :=
  changes.filterMap fun
    | .insertLedgerEntry row => some row
    | _ => none

/-! ## Totals -/

@[simp]
theorem total_nil (side : String) : total side [] = 0 := rfl

@[simp]
theorem total_cons (side : String) (entry : LedgerEntryRow) (entries : List LedgerEntryRow) :
    total side (entry :: entries) =
      (if entry.side = side then entry.amount else 0) + total side entries := by
  unfold total
  by_cases h : entry.side = side <;> simp [h]

@[simp]
theorem total_append (side : String) (entries entries' : List LedgerEntryRow) :
    total side (entries ++ entries') = total side entries + total side entries' := by
  unfold total
  simp

/-- Totals are not negative. -/
theorem total_nonneg (side : String) (entries : List LedgerEntryRow) : 0 ≤ total side entries := by
  induction entries with
  | nil => simp
  | cons entry entries ih =>
    rw [total_cons]
    have hpos := entry.amount_check
    split <;> omega

/-- A total is zero when no entry is on the side. -/
theorem total_eq_zero_iff {side : String} {entries : List LedgerEntryRow} :
    total side entries = 0 ↔ ∀ entry ∈ entries, entry.side ≠ side := by
  induction entries with
  | nil => simp
  | cons entry entries ih =>
    have hpos := entry.amount_check
    have hrest := total_nonneg side entries
    rw [total_cons, List.forall_mem_cons, ← ih]
    by_cases h : entry.side = side
    · simp only [h, if_true, ne_eq, not_true, false_and, iff_false]
      omega
    · simp [h]

/-- A debit and a credit of one amount balance. -/
theorem balances_pair {debit credit : LedgerEntryRow} (hdebit : debit.side = "debit")
    (hcredit : credit.side = "credit") (hamount : debit.amount = credit.amount) :
    Balances [debit, credit] := by
  refine ⟨⟨debit, by simp, hdebit⟩, ⟨credit, by simp, hcredit⟩, ?_⟩
  simp [hdebit, hcredit, hamount]

/-- A debit and a credit are two entries. -/
theorem Balances.two_le_length {entries : List LedgerEntryRow} (h : Balances entries) :
    2 ≤ entries.length := by
  obtain ⟨⟨debit, hdebit, hdebitSide⟩, ⟨credit, hcredit, hcreditSide⟩, -⟩ := h
  by_contra hlength
  have hone : entries.length = 1 := by
    have hpos := List.length_pos_of_mem hdebit
    omega
  obtain ⟨entry, rfl⟩ := List.length_eq_one_iff.mp hone
  rw [List.mem_singleton] at hdebit hcredit
  rw [hcredit, ← hdebit, hdebitSide] at hcreditSide
  simp at hcreditSide

/-- Entries balance when there are two of them and their totals are equal: amounts are positive, so
neither total is zero. -/
theorem balances_iff {entries : List LedgerEntryRow} :
    Balances entries ↔
      2 ≤ entries.length ∧ total "debit" entries = total "credit" entries := by
  constructor
  · exact fun h => ⟨h.two_le_length, h.totals⟩
  · rintro ⟨hlength, htotals⟩
    have hsome : ∀ side, total side entries ≠ 0 → ∃ entry ∈ entries, entry.side = side := by
      intro side hside
      simpa using mt total_eq_zero_iff.mpr hside
    obtain ⟨entry, hentry⟩ := List.exists_mem_of_length_pos (by omega : 0 < entries.length)
    -- Some entry is on one of the sides, whose total is the total of the other side too.
    have hdebit : total "debit" entries ≠ 0 := by
      rcases entry.side_check with hside | hside
      · exact fun hzero => total_eq_zero_iff.mp hzero entry hentry hside
      · rw [htotals]
        exact fun hzero => total_eq_zero_iff.mp hzero entry hentry hside
    exact ⟨hsome _ hdebit, hsome _ (htotals ▸ hdebit), htotals⟩

/-- The trigger passes a journal that is balanced, when the totals fit in its variables. -/
theorem assertLedgerTransactionBalanced_eq_ok {db : Database} {id : String} :
    db.assertLedgerTransactionBalanced id = .ok () ↔
      Balances (db.entriesOf id) ∧ total "debit" (db.entriesOf id) < 2 ^ 63 := by
  unfold assertLedgerTransactionBalanced
  simp only [bind_eq_ok, ite_throw_eq_ok, not_or]
  constructor
  · rintro ⟨debits, hdebits, credits, hcredits, ⟨hlength, -, -⟩, htotals, -⟩
    have hlt := debits.2
    rw [(bigint_eq_ok.mp hdebits).2] at htotals hlt
    rw [(bigint_eq_ok.mp hcredits).2] at htotals
    exact ⟨balances_iff.mpr ⟨not_lt.mp hlength, not_not.mp htotals⟩, hlt⟩
  · rintro ⟨hbalances, hlt⟩
    have htotals := hbalances.totals
    have hnonneg := total_nonneg "debit" (db.entriesOf id)
    have hdebit : total "debit" (db.entriesOf id) ≠ 0 := by
      obtain ⟨entry, hentry, hside⟩ := hbalances.debit
      exact fun hzero => total_eq_zero_iff.mp hzero entry hentry hside
    -- The totals are equal and not negative, so both fit and neither is zero.
    have hcredit : total "credit" (db.entriesOf id) < 2 ^ 63 := by rwa [← htotals]
    refine ⟨⟨_, hlt⟩, bigint_eq_ok.mpr ⟨by omega, rfl⟩, ⟨_, hcredit⟩,
      bigint_eq_ok.mpr ⟨by omega, rfl⟩, ⟨not_lt.mpr hbalances.two_le_length, hdebit, ?_⟩,
      not_not.mpr htotals, rfl⟩
    exact fun hzero => hdebit (htotals.trans hzero)

/-- A total that does not fit in a variable of the trigger is an error of its own. -/
theorem assertLedgerTransactionBalanced_of_large {db : Database} {id : String}
    (h : 2 ^ 63 ≤ total "debit" (db.entriesOf id)) :
    db.assertLedgerTransactionBalanced id = .error .data := by
  have hdebits : bigint (total "debit" (db.entriesOf id)) = .error .data :=
    dif_neg fun hfits => by omega
  unfold assertLedgerTransactionBalanced
  dsimp only
  rw [hdebits]
  rfl

/-! ## What changes leave of the ledger -/

@[simp]
theorem after_nil (db : Database) : after [] db = db := rfl

@[simp]
theorem after_cons (change : Change) (changes : List Change) (db : Database) :
    after (change :: changes) db = after changes (db.apply change) := rfl

/-- Entries are only added. -/
theorem ledgerEntries_after (changes : List Change) (db : Database) :
    (after changes db).ledgerEntries = db.ledgerEntries ++ newLedgerEntries changes := by
  induction changes generalizing db with
  | nil => simp [newLedgerEntries]
  | cons change changes ih =>
    rw [after_cons, ih]
    cases change <;> simp [apply, newLedgerEntries]

/-- The entries of a journal, and those that are added to it. -/
theorem entriesOf_after (changes : List Change) (db : Database) (id : String) :
    (after changes db).entriesOf id =
      db.entriesOf id ++
        (newLedgerEntries changes).filter fun entry => entry.transactionId = id := by
  unfold entriesOf
  rw [ledgerEntries_after, List.filter_append]

/-- Entries are added one after the other. -/
theorem after_insertLedgerEntries (entries : List LedgerEntryRow) (db : Database) :
    after (entries.map .insertLedgerEntry) db =
      { db with ledgerEntries := db.ledgerEntries ++ entries } := by
  induction entries generalizing db with
  | nil => simp
  | cons entry entries ih =>
    rw [List.map_cons, after_cons, ih]
    simp [apply]

/-- The entries of other journals are not touched by those of one. -/
theorem entriesOf_append {db : Database} {entries : List LedgerEntryRow} {journalId id : String}
    (hall : ∀ entry ∈ entries, entry.transactionId = journalId) :
    (db.ledgerEntries ++ entries).filter (fun entry => entry.transactionId = id) =
      db.entriesOf id ++ if journalId = id then entries else [] := by
  rw [List.filter_append]
  congr 1
  split
  · next heq =>
    refine List.filter_eq_self.mpr fun entry hentry => ?_
    simpa using (hall entry hentry).trans heq
  · next hne =>
    refine List.filter_eq_nil_iff.mpr fun entry hentry => ?_
    simpa [hall entry hentry] using hne

/-- A journal is there after some changes when it was there or is new. -/
theorem find?_ledgerTransactions_after (changes : List Change) (db : Database) (id : String) :
    ((after changes db).ledgerTransactions.find? id).isSome ↔
      (db.ledgerTransactions.find? id).isSome ∨
        ∃ row ∈ newLedgerTransactions changes, row.id = id := by
  induction changes generalizing db with
  | nil => simp [newLedgerTransactions]
  | cons change changes ih =>
    rw [after_cons, ih]
    cases change with
    | insertLedgerTransaction row =>
      by_cases h : row.id = id <;> simp [apply, newLedgerTransactions, h]
    | _ => simp [apply, newLedgerTransactions]

/-- A journal that is not there has no entries, as the journals of all entries are there. -/
theorem entriesOf_eq_nil {db : Database}
    (hjournals : ∀ entry ∈ db.ledgerEntries,
      (db.ledgerTransactions.find? entry.transactionId).isSome)
    {id : String} (habsent : db.ledgerTransactions.find? id = none) : db.entriesOf id = [] := by
  unfold entriesOf
  refine List.filter_eq_nil_iff.mpr fun entry hentry => ?_
  have hjournal := hjournals entry hentry
  have hne : entry.transactionId ≠ id := by
    intro heq
    rw [heq, habsent] at hjournal
    cases hjournal
  simpa using hne

/-- A journal is in the table when its id is found. -/
theorem exists_ledgerTransaction {db : Database} {id : String} :
    (∃ journal ∈ db.ledgerTransactions.rows, journal.id = id) ↔
      (db.ledgerTransactions.find? id).isSome := by
  rw [Option.isSome_iff_exists]
  exact exists_congr fun journal => Table.find?_eq_some_iff.symm

/-- The deferred constraints of the engine are those of the tables. -/
theorem isOk_settle {hashtext : String → ℤ} {db : Database} {changes : List Change} :
    ((postgres hashtext).settle db changes).isOk ↔ (settle db changes).isOk := by
  change ((settle db changes).map _).isOk ↔ _
  cases settle db changes <;> rfl

/-- A check of every row passes when each row passes it. -/
theorem isOk_forM {ρ : Type} {rows : List ρ} {check : ρ → Except DbError Unit} :
    (forM rows check).isOk ↔ ∀ row ∈ rows, check row = .ok () := by
  induction rows with
  | nil => exact iff_of_true rfl (by simp)
  | cons row rows ih =>
    rw [List.forM_cons, List.forall_mem_cons, ← ih]
    cases hrow : check row with
    | error e => exact iff_of_false (fun h => by cases h) (fun h => by cases h.1)
    | ok u => exact (and_iff_right rfl).symm

/-- A commit goes through when the trigger passes every new journal. -/
theorem isOk_settle_iff {db : Database} {changes : List Change} :
    (settle db changes).isOk ↔ ∀ row ∈ newLedgerTransactions changes,
      (after changes db).assertLedgerTransactionBalanced row.id = .ok () :=
  isOk_forM

/-- At commit, the new journals are balanced. -/
theorem balances_of_settle {db : Database} {changes : List Change}
    (h : (settle db changes).isOk) {row : LedgerTransactionRow}
    (hrow : row ∈ newLedgerTransactions changes) :
    Balances ((after changes db).entriesOf row.id) :=
  (assertLedgerTransactionBalanced_eq_ok.mp (isOk_settle_iff.mp h row hrow)).1

/-- The entries that are inserted with a journal. -/
theorem newLedgerEntries_journal (journal : LedgerTransactionRow) (entries : List LedgerEntryRow) :
    newLedgerEntries (.insertLedgerTransaction journal :: entries.map .insertLedgerEntry) =
      entries := by
  simp [newLedgerEntries, List.filterMap_map]

/-- The journal is the only new one. -/
theorem newLedgerTransactions_journal (journal : LedgerTransactionRow)
    (entries : List LedgerEntryRow) :
    newLedgerTransactions (.insertLedgerTransaction journal :: entries.map .insertLedgerEntry) =
      [journal] := by
  simp [newLedgerTransactions, List.filterMap_map]

/-- The entries of a new journal are those that are inserted with it. -/
theorem entriesOf_after_journal {db : Database} {journal : LedgerTransactionRow}
    {entries : List LedgerEntryRow} (hnone : db.entriesOf journal.id = [])
    (hall : ∀ entry ∈ entries, entry.transactionId = journal.id) :
    (after (.insertLedgerTransaction journal :: entries.map .insertLedgerEntry) db).entriesOf
      journal.id = entries := by
  rw [entriesOf_after, hnone, newLedgerEntries_journal, List.nil_append, List.filter_eq_self]
  exact fun entry hentry => decide_eq_true (hall entry hentry)

/-- A new journal with its entries goes through at commit when these balance and their totals fit
in the variables of the trigger. -/
theorem isOk_settle_journal {db : Database} {journal : LedgerTransactionRow}
    {entries : List LedgerEntryRow} :
    (settle db (.insertLedgerTransaction journal :: entries.map .insertLedgerEntry)).isOk ↔
      Balances ((after (.insertLedgerTransaction journal :: entries.map .insertLedgerEntry)
        db).entriesOf journal.id) ∧
      total "debit" ((after (.insertLedgerTransaction journal :: entries.map .insertLedgerEntry)
        db).entriesOf journal.id) < 2 ^ 63 := by
  rw [isOk_settle_iff, newLedgerTransactions_journal, List.forall_mem_singleton,
    assertLedgerTransactionBalanced_eq_ok]

/-- What the trigger raises for a new journal, the commit raises. -/
theorem settle_journal_of_error {db : Database} {journal : LedgerTransactionRow}
    {entries : List LedgerEntryRow} {e : DbError}
    (h : (after (.insertLedgerTransaction journal :: entries.map .insertLedgerEntry)
      db).assertLedgerTransactionBalanced journal.id = .error e) :
    settle db (.insertLedgerTransaction journal :: entries.map .insertLedgerEntry) = .error e := by
  unfold settle
  rw [newLedgerTransactions_journal, List.forM_cons, h]
  rfl

/-- After a transaction that commits, a ledger that was balanced is balanced exactly when equal
totals were added to the journals that were there. -/
theorem balanced_after_iff {db : Database} {changes : List Change} (hdb : Balanced db)
    (h : (settle db changes).isOk) :
    Balanced (after changes db) ↔ ∀ journal ∈ db.ledgerTransactions.rows,
      total "debit" ((newLedgerEntries changes).filter fun entry =>
          entry.transactionId = journal.id) =
        total "credit" ((newLedgerEntries changes).filter fun entry =>
          entry.transactionId = journal.id) := by
  constructor
  · intro hafter journal hjournal
    -- The journal is there afterwards too, with equal totals then and before.
    have hfound : ((after changes db).ledgerTransactions.find? journal.id).isSome :=
      (find?_ledgerTransactions_after changes db journal.id).mpr
        (.inl (exists_ledgerTransaction.mp ⟨journal, hjournal, rfl⟩))
    obtain ⟨journal', hjournal', hid⟩ := exists_ledgerTransaction.mpr hfound
    have htotals := (hafter journal' hjournal').totals
    rw [hid, entriesOf_after, total_append, total_append, (hdb journal hjournal).totals] at htotals
    exact add_left_cancel htotals
  · intro hkept journal hjournal
    have hfound := exists_ledgerTransaction.mp ⟨journal, hjournal, rfl⟩
    rcases (find?_ledgerTransactions_after changes db journal.id).mp hfound with hold | hnew
    · -- The journal was there: what it has is still there, and equal totals came.
      obtain ⟨journal', hjournal', hid⟩ := exists_ledgerTransaction.mpr hold
      obtain ⟨⟨debit, hdebit, hdebitSide⟩, ⟨credit, hcredit, hcreditSide⟩, htotals⟩ :=
        hdb journal' hjournal'
      have hadded := hkept journal' hjournal'
      rw [hid] at hdebit hcredit htotals hadded
      rw [entriesOf_after]
      refine ⟨⟨debit, List.mem_append_left _ hdebit, hdebitSide⟩,
        ⟨credit, List.mem_append_left _ hcredit, hcreditSide⟩, ?_⟩
      rw [total_append, total_append, htotals, hadded]
    · obtain ⟨row, hrow, hid⟩ := hnew
      rw [← hid]
      exact balances_of_settle h hrow

/-! ## What statements write to the ledger -/

/-- What the changes of one statement are to the tables of the ledger: none, or a row that its
columns and its references admit. -/
inductive WritesLedger (db : Database) : List Change → Prop where
  | elsewhere {changes : List Change}
      (haccounts : (after changes db).ledgerAccounts = db.ledgerAccounts)
      (hjournals : (after changes db).ledgerTransactions = db.ledgerTransactions)
      (hentries : (after changes db).ledgerEntries = db.ledgerEntries) : WritesLedger db changes
  | account (row : LedgerAccountRow) (habsent : db.ledgerAccounts.find? row.id = none)
      (hid : Storable row.id) (hcurrency : Storable row.currency) :
      WritesLedger db [.insertLedgerAccount row]
  | journal (row : LedgerTransactionRow) (habsent : db.ledgerTransactions.find? row.id = none) :
      WritesLedger db [.insertLedgerTransaction row]
  | entry (row : LedgerEntryRow)
      (hjournal : ∃ journal, db.ledgerTransactions.find? row.transactionId = some journal ∧
        journal.currency = row.currency)
      (haccount : ∃ account, db.ledgerAccounts.find? row.accountId = some account ∧
        account.currency = row.currency) : WritesLedger db [.insertLedgerEntry row]

/-- Every statement that is answered writes so. -/
theorem writesLedger_of_run {db : Database} {s : Statement} {answer : s.Answer}
    {changes : List Change} (h : s.run db = .ok (answer, changes)) : WritesLedger db changes := by
  cases s with
  -- A statement that only reads changes nothing.
  | advisoryXactLock key =>
    obtain ⟨-, rfl⟩ := advisoryXactLock_eq_ok.mp h
    exact .elsewhere rfl rfl rfl
  | selectOperation key =>
    obtain ⟨-, -, rfl⟩ := selectOperation_eq_ok.mp h
    exact .elsewhere rfl rfl rfl
  | selectPaymentForUpdate id =>
    obtain ⟨-, -, rfl⟩ := selectPayment_eq_ok.mp h
    exact .elsewhere rfl rfl rfl
  | selectPayment id =>
    obtain ⟨-, -, rfl⟩ := selectPayment_eq_ok.mp h
    exact .elsewhere rfl rfl rfl
  | selectIdempotencyKey key =>
    obtain ⟨-, -, rfl⟩ := selectIdempotencyKey_eq_ok.mp h
    exact .elsewhere rfl rfl rfl
  -- The other tables are not the ledger.
  | insertPayment payment =>
    obtain ⟨row, -, -, rfl⟩ := insertPayment_eq_ok.mp h
    exact .elsewhere rfl rfl rfl
  | claimIdempotencyKey key fingerprint paymentId =>
    obtain ⟨-, -, ⟨-, -, rfl⟩ | ⟨-, -, -, rfl⟩⟩ := claimIdempotencyKey_eq_ok.mp h
    · exact .elsewhere rfl rfl rfl
    · exact .elsewhere rfl rfl rfl
  | deletePayment id =>
    obtain ⟨-, ⟨-, rfl⟩ | ⟨-, -, rfl⟩⟩ := deletePayment_eq_ok.mp h
    · exact .elsewhere rfl rfl rfl
    · exact .elsewhere rfl rfl rfl
  | updatePaymentStatus id status =>
    obtain ⟨-, ⟨-, rfl⟩ | ⟨-, rfl⟩⟩ := updatePaymentStatus_eq_ok.mp h
    · exact .elsewhere rfl rfl rfl
    · exact .elsewhere rfl rfl rfl
  | authorizePayment id =>
    obtain ⟨-, -, rfl⟩ := authorizePayment_eq_ok.mp h
    split <;> exact .elsewhere rfl rfl rfl
  -- The statements of the ledger, with what they have checked.
  | insertLedgerAccount id name currency =>
    obtain ⟨row, hrow, habsent, rfl⟩ := insertLedgerAccount_eq_ok.mp h
    obtain ⟨hid, -, hstorable, hcurrency⟩ := ledgerAccountRow_eq_ok hrow
    exact .account row habsent (hid ▸ hstorable) hcurrency
  | insertLedgerTransaction id ref currency =>
    obtain ⟨row, -, habsent, rfl⟩ := insertLedgerTransaction_eq_ok.mp h
    exact .journal row habsent
  | insertLedgerEntry transactionId accountId side amount currency now =>
    obtain ⟨row, hrow, hjournal, haccount, rfl⟩ := insertLedgerEntry_eq_ok.mp h
    obtain ⟨hid, haccountId, -⟩ := ledgerEntryRow_eq_ok hrow
    exact .entry row (hid ▸ hjournal) (haccountId ▸ haccount)
  -- The triggers refuse any change to a journal or an entry that is there.
  | mutateLedgerTransactions p =>
    obtain ⟨-, rfl⟩ := mutateLedgerTransactions_eq_ok.mp h
    exact .elsewhere rfl rfl rfl
  | mutateLedgerEntries p =>
    obtain ⟨-, rfl⟩ := mutateLedgerEntries_eq_ok.mp h
    exact .elsewhere rfl rfl rfl
  -- Operations and events have tables of their own.
  | insertPaymentOperation row =>
    obtain ⟨-, -, -, -, rfl⟩ := insertPaymentOperation_eq_ok.mp h
    exact .elsewhere rfl rfl rfl
  | insertOutboxEvent id aggregateType aggregateId eventType payload now =>
    obtain ⟨row, -, -, rfl⟩ := insertOutboxEvent_eq_ok.mp h
    exact .elsewhere rfl rfl rfl
  | selectClaimableEvents now maxAttempts leaseSeconds batchSize skipped =>
    obtain ⟨-, rfl⟩ := pure_pair_eq_ok.mp h
    exact .elsewhere rfl rfl rfl
  | lockEvents ids now =>
    obtain ⟨-, rfl⟩ := pure_pair_eq_ok.mp h
    exact .elsewhere rfl rfl rfl
  | updateUnpublishedEvent id update =>
    obtain ⟨-, rfl | rfl⟩ := updateUnpublishedEvent_eq_ok h
    · exact .elsewhere rfl rfl rfl
    · exact .elsewhere rfl rfl rfl

/-- What PostgreSQL ensures of the ledger: an entry's journal is there, and what was stored of an
account has no NUL. -/
structure LedgerStored (db : Database) : Prop where
  journals : ∀ entry ∈ db.ledgerEntries, (db.ledgerTransactions.find? entry.transactionId).isSome
  accounts : ∀ account ∈ db.ledgerAccounts.rows, Storable account.id ∧ Storable account.currency

namespace LedgerStored

variable {db : Database}

/-- The empty tables are such. -/
theorem of_migrated : LedgerStored migrated := ⟨by simp [migrated], by simp [migrated]⟩

/-- A statement leaves the ledger such. -/
theorem after_writes {changes : List Change} (h : LedgerStored db)
    (hwrites : WritesLedger db changes) : LedgerStored (after changes db) := by
  cases hwrites with
  | elsewhere haccounts hjournals hentries =>
    constructor
    · rw [hjournals, hentries]
      exact h.journals
    · rw [haccounts]
      exact h.accounts
  | account row habsent hid hcurrency =>
    refine ⟨h.journals, fun account haccount => ?_⟩
    rcases Table.mem_rows_of_mem_put haccount with rfl | hold
    · exact ⟨hid, hcurrency⟩
    · exact h.accounts account hold
  | journal row habsent =>
    -- The journals that were there are still found.
    refine ⟨fun entry hentry => ?_, h.accounts⟩
    change ((db.ledgerTransactions.put row).find? entry.transactionId).isSome
    rw [Table.find?_put]
    split
    · rfl
    · exact h.journals entry hentry
  | entry row hjournal haccount =>
    obtain ⟨journal, hfound, -⟩ := hjournal
    refine ⟨List.forall_mem_append.mpr ⟨h.journals, List.forall_mem_singleton.mpr ?_⟩, h.accounts⟩
    change (db.ledgerTransactions.find? row.transactionId).isSome
    rw [hfound]
    rfl

/-- A transaction leaves the ledger such, whatever its program and however it ends. -/
theorem transact {hashtext : String → ℤ} {α : Type} {p : Service α}
    {outcome : Outcome DbError ServiceError α} {db' : Database} (h : LedgerStored db)
    (hend : (postgres hashtext).transact db p = (outcome, db')) : LedgerStored db' := by
  rcases Engine.transact_cases hend with ⟨rfl, -⟩ | ⟨a, changes, held, -, hexec, -, rfl⟩
  · exact h
  · refine Engine.executes_preserves (P := LedgerStored) (fun s view answer first hview hrun => ?_)
      h hexec
    exact hview.after_writes (writesLedger_of_run hrun)

/-- What was stored of an account that is found has no NUL. -/
theorem storable (h : LedgerStored db) {id : String} {account : LedgerAccountRow}
    (hfound : db.ledgerAccounts.find? id = some account) :
    Storable id ∧ Storable account.currency := by
  obtain ⟨hmem, rfl⟩ := Table.find?_eq_some_iff.mp hfound
  exact h.accounts account hmem

end LedgerStored

end Database

/-! ## Any writer -/

/-- A statement on the tables of the ledger. An update or a delete, of the rows that it finds. -/
inductive LedgerWrite where
  | insertTransaction (id reference currency : String)
  | insertEntry (transactionId accountId side : String) (amount : ℤ) (currency : String)
      (now : Timestamp)
  | mutateTransactions (p : LedgerTransactionRow → Bool)
  | mutateEntries (p : LedgerEntryRow → Bool)

namespace LedgerWrite

open Database

/-- The statements, one after the other. -/
def program : List LedgerWrite → Service PUnit
  | [] => .done ⟨⟩
  | .insertTransaction id reference currency :: writes =>
    .call (.insertLedgerTransaction id reference currency) fun _ => program writes
  | .insertEntry transactionId accountId side amount currency now :: writes =>
    .call (.insertLedgerEntry transactionId accountId side amount currency now) fun _ =>
      program writes
  | .mutateTransactions p :: writes => .call (.mutateLedgerTransactions p) fun _ => program writes
  | .mutateEntries p :: writes => .call (.mutateLedgerEntries p) fun _ => program writes

/-- What a statement adds to one side of a journal. -/
def adds (journalId side : String) : LedgerWrite → ℤ
  | insertEntry transactionId _ side' amount _ _ =>
    if transactionId = journalId ∧ side' = side then amount else 0
  | _ => 0

/-- The statements add equal totals to every journal that is there. -/
def KeepsTotals (db : Database) (writes : List LedgerWrite) : Prop :=
  ∀ journal ∈ db.ledgerTransactions.rows,
    (writes.map (adds journal.id "debit")).sum = (writes.map (adds journal.id "credit")).sum

instance (db : Database) (writes : List LedgerWrite) : Decidable (KeepsTotals db writes) :=
  inferInstanceAs (Decidable (∀ journal ∈ db.ledgerTransactions.rows, _))

/-- Transactions of any writers that commit, one after the other, on an empty ledger. -/
def ledger (hashtext : String → ℤ) : Lts Database (List LedgerWrite) where
  init db := db.ledgerTransactions.rows = [] ∧ db.ledgerEntries = []
  step db writes db' := (postgres hashtext).transact db (program writes) = (.returned ⟨⟩, db')

variable {hashtext : String → ℤ}

/-- The entries that a transaction adds to a side of a journal are those of its statements. -/
theorem total_newLedgerEntries {writes : List LedgerWrite} {db : Database}
    {changes : List Change} {held : List Lock} (journalId side : String)
    (h : (postgres hashtext).Executes db (program writes) ⟨⟩ changes held) :
    total side ((newLedgerEntries changes).filter fun entry => entry.transactionId = journalId) =
      (writes.map (adds journalId side)).sum := by
  induction writes generalizing db changes held with
  | nil =>
    obtain ⟨-, rfl, -⟩ := Engine.executes_done.mp h
    rfl
  | cons write writes ih =>
    -- Each statement is one call; an insert of an entry is the only one that counts.
    cases write with
    | insertTransaction id reference currency =>
      obtain ⟨answer, first, rest, locks, hrun, hrest, rfl, -⟩ := Engine.executes_call.mp h
      obtain ⟨row, -, -, rfl⟩ := insertLedgerTransaction_eq_ok.mp hrun
      simpa [adds, newLedgerEntries] using ih hrest
    | insertEntry transactionId accountId side' amount currency now =>
      obtain ⟨answer, first, rest, locks, hrun, hrest, rfl, -⟩ := Engine.executes_call.mp h
      obtain ⟨row, hrow, -, -, rfl⟩ := insertLedgerEntry_eq_ok.mp hrun
      obtain ⟨hid, -, hside, hamount, -, -⟩ := ledgerEntryRow_eq_ok hrow
      have hnew : newLedgerEntries ([.insertLedgerEntry row] ++ rest) =
          row :: newLedgerEntries rest := rfl
      rw [hnew, List.map_cons, List.sum_cons, ← ih hrest, List.filter_cons, hid, adds, ← hside,
        ← hamount]
      by_cases hj : transactionId = journalId
      · simp [hj]
      · simp [hj]
    | mutateTransactions p =>
      obtain ⟨answer, first, rest, locks, hrun, hrest, rfl, -⟩ := Engine.executes_call.mp h
      obtain ⟨-, rfl⟩ := mutateLedgerTransactions_eq_ok.mp hrun
      simpa [adds] using ih hrest
    | mutateEntries p =>
      obtain ⟨answer, first, rest, locks, hrun, hrest, rfl, -⟩ := Engine.executes_call.mp h
      obtain ⟨-, rfl⟩ := mutateLedgerEntries_eq_ok.mp hrun
      simpa [adds] using ih hrest

/-- A transaction that commits on a balanced ledger leaves it balanced exactly when it adds equal
totals to the journals that were there. -/
theorem balanced_step_iff {db db' : Database} {writes : List LedgerWrite} (hdb : Balanced db)
    (h : (ledger hashtext).step db writes db') : Balanced db' ↔ KeepsTotals db writes := by
  obtain ⟨changes, held, hexec, hsettle, rfl⟩ := Engine.transact_eq_returned.mp h
  refine (balanced_after_iff hdb (isOk_settle.mp hsettle)).trans (forall₂_congr fun journal _ => ?_)
  rw [total_newLedgerEntries journal.id "debit" hexec,
    total_newLedgerEntries journal.id "credit" hexec]

/-- In every run of transactions that each add equal totals to the journals that are there, the
ledger is balanced in every state that is reached; and it is balanced after the next transaction
exactly when that one does so as well. -/
theorem ledger_balanced_iff {log : List (List LedgerWrite)} {db : Database}
    (h : ((ledger hashtext).restrict KeepsTotals).Run log db) :
    Balanced db ∧ ∀ writes db', (ledger hashtext).step db writes db' →
      (Balanced db' ↔ KeepsTotals db writes) := by
  have hdb : Balanced db := by
    refine h.invariant (P := Balanced) ?_ fun db writes db' hbefore hstep => ?_
    · rintro db ⟨hrows, -⟩ journal hjournal
      simp [hrows] at hjournal
    · exact (balanced_step_iff hbefore hstep.1).mpr hstep.2
  exact ⟨hdb, fun writes db' hstep => balanced_step_iff hdb hstep⟩

/-- Two accounts, and nothing posted. -/
def twoAccounts : Database :=
  { migrated with
    ledgerAccounts := (Table.empty.put ⟨"cash", "Cash", "MAD", rfl⟩).put
      ⟨"revenue", "Revenue", "MAD", rfl⟩ }

/-- A journal with a debit and a credit. -/
def sale : List LedgerWrite := [
  .insertTransaction "jrn_1" "sale" "MAD",
  .insertEntry "jrn_1" "cash" "debit" 100 "MAD" 0,
  .insertEntry "jrn_1" "revenue" "credit" 100 "MAD" 0]

/-- A debit and a credit more for the same journal. -/
def addition : List LedgerWrite := [
  .insertEntry "jrn_1" "cash" "debit" 7 "MAD" 0,
  .insertEntry "jrn_1" "revenue" "credit" 7 "MAD" 0]

/-- A debit more for the same journal. -/
def strayDebit : List LedgerWrite := [.insertEntry "jrn_1" "cash" "debit" 1 "MAD" 0]

/-- The tables after a transaction. -/
def leaves (db : Database) (writes : List LedgerWrite) : Database :=
  ((postgres fun _ => 0).transact db (program writes)).2

/-- A sale and an addition to it leave the ledger balanced. -/
theorem ledger_balanced_addition :
    Balanced (leaves (leaves twoAccounts sale) addition) ∧
      ∀ writes db',
        (ledger fun _ => 0).step (leaves (leaves twoAccounts sale) addition) writes db' →
        (Balanced db' ↔ KeepsTotals (leaves (leaves twoAccounts sale) addition) writes) :=
  ledger_balanced_iff ⟨twoAccounts, ⟨rfl, rfl⟩,
    .cons ⟨Prod.ext (by rfl) rfl, by decide⟩
      (.cons ⟨Prod.ext (by rfl) rfl, by decide⟩ (.nil _))⟩

/-- A debit that a later transaction adds to a journal is let through, and the journal is not
balanced any more. -/
theorem ledger_unbalanced_strayDebit :
    ¬∀ log db, (ledger fun _ => 0).Run log db → Balanced db := by
  intro h
  have hrun : (ledger fun _ => 0).Run [sale, strayDebit]
      (leaves (leaves twoAccounts sale) strayDebit) :=
    ⟨twoAccounts, ⟨rfl, rfl⟩,
      .cons (Prod.ext (by rfl) rfl) (.cons (Prod.ext (by rfl) rfl) (.nil _))⟩
  have hbalanced := h _ _ hrun
  revert hbalanced
  decide

end LedgerWrite

end AtlasPay
