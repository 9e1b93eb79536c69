import AtlasPay.Payments.Inspection

/-!
# The checks of a journal's balance

That the postings of a journal balance is checked three times: by `_validate_postings` over integers
without bounds, by the trigger `ledger_transaction_balanced` at commit, with `BIGINT` variables, and
by `PostgresReconciler.inspect` over what is stored. The first and the last accept the postings of
`BalancedPostings`; the trigger accepts those of them whose totals fit in its variables.
`checksAgree_iff` says when the three agree, for the whole call of `post`.
-/

namespace AtlasPay

open Database

namespace Ledger

variable {hashtext : String → ℤ} {db : Database} {changes : List Change} {held : List Lock}
  {postings : List LedgerPosting} {entries : List LedgerEntryRow}

/-! ## The check before the call -/

/-- Postings that balance: two or more, of positive amounts, with equal totals. -/
structure BalancedPostings (postings : List LedgerPosting) : Prop where
  length : 2 ≤ postings.length
  amounts : ∀ posting ∈ postings, 0 < posting.amount
  totals : posted "debit" postings = posted "credit" postings

instance (postings : List LedgerPosting) : Decidable (BalancedPostings postings) :=
  decidable_of_iff (2 ≤ postings.length ∧ (∀ posting ∈ postings, 0 < posting.amount) ∧
    posted "debit" postings = posted "credit" postings)
    ⟨fun h => ⟨h.1, h.2.1, h.2.2⟩, fun h => ⟨h.length, h.amounts, h.totals⟩⟩

/-- `_validate_postings` accepts the postings that balance. -/
theorem validatePostings_eq_ok :
    validatePostings postings = .ok () ↔ BalancedPostings postings := by
  unfold validatePostings
  simp only [ite_throw_eq_ok, pure_eq_ok, and_true, not_lt, not_not, Bool.not_eq_true,
    List.any_eq_false, decide_eq_true_eq, not_le]
  exact ⟨fun h => ⟨h.1, h.2.1, h.2.2⟩, fun h => ⟨h.length, h.amounts, h.totals⟩⟩

/-- Postings that balance are not empty. -/
theorem BalancedPostings.ne_nil (h : BalancedPostings postings) : postings ≠ [] := by
  rintro rfl
  exact absurd h.length (by decide)

/-- Whatever `_validate_postings` raises is a `LedgerInvariantError`. -/
theorem validatePostings_eq_error (h : ¬BalancedPostings postings) :
    ∃ message, validatePostings postings = .error (.ledgerInvariant message) := by
  rw [← validatePostings_eq_ok] at h
  unfold validatePostings at h ⊢
  dsimp only at h ⊢
  split_ifs at h ⊢
  · exact ⟨_, rfl⟩
  · exact ⟨_, rfl⟩
  · exact ⟨_, rfl⟩
  · exact absurd rfl h

/-! ## Postings and the entries that record them -/

/-- The entries have the totals of the postings. -/
theorem total_of_records (h : List.Forall₂ Records postings entries) (side : String) :
    total side entries = posted side postings := by
  induction h with
  | nil => rfl
  | @cons posting entry postings entries hrecords _ ih =>
    obtain ⟨-, hside, hamount⟩ := hrecords
    rw [total_cons, ih, hside, hamount]
    unfold posted
    by_cases hposting : posting.side = side <;> simp [hposting]

/-- Stored amounts are positive. -/
theorem amounts_of_records (h : List.Forall₂ Records postings entries) :
    ∀ posting ∈ postings, 0 < posting.amount := by
  induction h with
  | nil => simp
  | @cons posting entry postings entries hrecords _ ih =>
    refine List.forall_mem_cons.mpr ⟨?_, ih⟩
    rw [← hrecords.2.2]
    exact entry.amount_check

/-- Postings balance when the entries that record them do. -/
theorem balancedPostings_iff (h : List.Forall₂ Records postings entries) :
    BalancedPostings postings ↔ Balances entries := by
  have hlength := h.length_eq
  have hdebit := total_of_records h "debit"
  have hcredit := total_of_records h "credit"
  rw [balances_iff, ← hlength, hdebit, hcredit]
  exact ⟨fun hbalanced => ⟨hbalanced.length, hbalanced.totals⟩,
    fun hboth => ⟨hboth.1, amounts_of_records h, hboth.2⟩⟩

end Ledger

/-! ## The report -/

namespace Reconciler

variable {db : Database}

/-- The report finds something wrong with the entries of a journal. -/
def FindsFault (db : Database) (journalId : String) : Prop :=
  ∃ discrepancy ∈ (inspect db).discrepancies, discrepancy.entityId = journalId ∧
    (discrepancy.kind = .journalEntryCountInvalid ∨ discrepancy.kind = .journalUnbalanced)

/-- What is reported of a journal is about this journal, and of one of the two kinds. -/
theorem of_mem_journalDiscrepancies {journal : LedgerTransactionRow}
    {discrepancy : ReconciliationDiscrepancy}
    (h : discrepancy ∈ journalDiscrepancies db journal) : discrepancy.entityId = journal.id ∧
      (discrepancy.kind = .journalEntryCountInvalid ∨ discrepancy.kind = .journalUnbalanced) := by
  unfold journalDiscrepancies at h
  dsimp only at h
  rcases List.mem_append.mp h with hcount | htotals
  · split_ifs at hcount
    · obtain rfl := List.mem_singleton.mp hcount
      exact ⟨rfl, .inl rfl⟩
    · simp at hcount
  · split_ifs at htotals
    · obtain rfl := List.mem_singleton.mp htotals
      exact ⟨rfl, .inr rfl⟩
    · simp at htotals

/-- The other checks report other kinds. -/
theorem kind_of_mem_others {discrepancy : ReconciliationDiscrepancy}
    (h : discrepancy ∈ withoutPayment db ++ withoutJournal db ++ withoutOutbox db ++
      withoutOperation db ++ statusMismatches db) :
    discrepancy.kind ≠ .journalEntryCountInvalid ∧ discrepancy.kind ≠ .journalUnbalanced := by
  simp only [List.mem_append] at h
  rcases h with (((hpayment | hjournal) | houtbox) | hoperation) | hstatus
  · obtain ⟨row, -, rfl⟩ := List.mem_map.mp hpayment
    exact ⟨nofun, nofun⟩
  · obtain ⟨row, -, rfl⟩ := List.mem_map.mp hjournal
    exact ⟨nofun, nofun⟩
  · obtain ⟨row, -, rfl⟩ := List.mem_map.mp houtbox
    exact ⟨nofun, nofun⟩
  -- The last two checks report only where a row is found, of which the kind is read off.
  · obtain ⟨event, -, hevent⟩ := List.mem_filterMap.mp hoperation
    grind
  · obtain ⟨row, -, hrow⟩ := List.mem_filterMap.mp hstatus
    grind

/-- The report finds nothing wrong with a journal exactly when its entries balance. -/
theorem not_findsFault_iff {journal : LedgerTransactionRow}
    (hjournal : journal ∈ db.ledgerTransactions.rows) :
    ¬FindsFault db journal.id ↔ Balances (db.entriesOf journal.id) := by
  rw [← journalDiscrepancies_eq_nil_iff, List.eq_nil_iff_forall_not_mem]
  have hmem : ∀ discrepancy, discrepancy ∈ (inspect db).discrepancies ↔
      discrepancy ∈ withoutPayment db ++ withoutJournal db ++ withoutOutbox db ++
        withoutOperation db ++ statusMismatches db ∨
      ∃ journal ∈ db.ledgerTransactions.rows, discrepancy ∈ journalDiscrepancies db journal := by
    intro discrepancy
    unfold inspect
    rw [List.mem_insertionSort, List.mem_append, List.mem_flatMap]
  constructor
  · intro hnone discrepancy hfound
    obtain ⟨hid, hkind⟩ := of_mem_journalDiscrepancies hfound
    exact hnone ⟨discrepancy, (hmem discrepancy).mpr (.inr ⟨journal, hjournal, hfound⟩), hid, hkind⟩
  · rintro hnone ⟨discrepancy, hreported, hid, hkind⟩
    rcases (hmem discrepancy).mp hreported with hother | ⟨journal', hjournal', hfound⟩
    · obtain ⟨hcount, htotals⟩ := kind_of_mem_others hother
      exact hkind.elim hcount htotals
    · -- Journals have different ids, so it is the same journal.
      have hid' := (of_mem_journalDiscrepancies hfound).1
      obtain rfl := Table.eq_of_key_eq hjournal' hjournal (hid'.symm.trans hid)
      exact hnone discrepancy hfound

end Reconciler

namespace Ledger

variable {hashtext : String → ℤ} {db : Database} {postings : List LedgerPosting}
  {reference currency id drawn : String} {transactionId : Option String} {now : Timestamp}

/-! ## The call -/

/-- The id of the journal: the given one, where there is one. -/
def journalId (transactionId : Option String) (drawn : String) : String :=
  match transactionId with
  | none | some "" => drawn
  | some id => id

/-- The statements of `post`, without the checks before them. -/
def insertJournal (id reference currency : String) (postings : List LedgerPosting)
    (now : Timestamp) : Service String :=
  .call (.insertLedgerTransaction id reference currency) fun _ =>
  insertEntries id currency now postings

/-- `post` of other postings raises at once. -/
theorem post_of_not_balancedPostings (h : ¬BalancedPostings postings) :
    ∃ message, post reference currency postings transactionId drawn now =
      .fail (.ledgerInvariant message) := by
  obtain ⟨message, hmessage⟩ := validatePostings_eq_error h
  unfold post
  rw [hmessage]
  exact ⟨message, rfl⟩

/-- What a call is given: a ledger as PostgreSQL keeps it, postings that are debits and credits of
64-bit amounts on accounts of the currency, and a journal id that is not taken. -/
structure Postable (db : Database) (currency id : String) (postings : List LedgerPosting) :
    Prop where
  stored : LedgerStored db
  sides : ∀ posting ∈ postings, posting.side = "debit" ∨ posting.side = "credit"
  amounts : ∀ posting ∈ postings, -2 ^ 63 ≤ posting.amount ∧ posting.amount < 2 ^ 63
  accounts : ∀ posting ∈ postings, ∃ account,
    db.ledgerAccounts.find? posting.accountId = some account ∧ account.currency = currency
  fresh : db.ledgerTransactions.find? id = none

/-- The currency of an account has three characters and no NUL. -/
theorem Postable.currency_text (h : Postable db currency id postings) (hne : postings ≠ []) :
    currency.length = 3 ∧ Storable currency := by
  obtain ⟨posting, hposting⟩ := List.exists_mem_of_ne_nil postings hne
  obtain ⟨account, haccount, rfl⟩ := h.accounts posting hposting
  exact ⟨account.currency_char, (h.stored.storable haccount).2⟩

/-- `post` of postings that balance performs the statements. -/
theorem Postable.post_eq (h : Postable db (upper currency) (journalId transactionId drawn) postings)
    (hbalanced : BalancedPostings postings) :
    post reference currency postings transactionId drawn now =
      insertJournal (journalId transactionId drawn) reference (upper currency) postings now := by
  have hlength := (h.currency_text hbalanced.ne_nil).1
  unfold post
  rw [validatePostings_eq_ok.mpr hbalanced]
  dsimp only
  rw [if_neg (not_not.mpr hlength)]
  rfl

/-- The entries go in, one for each posting, when the journal is there. -/
theorem returns_insertEntries {journal : LedgerTransactionRow} (h : LedgerStored db)
    (hid : Storable journal.id)
    (hjournal : db.ledgerTransactions.find? journal.id = some journal)
    (hsides : ∀ posting ∈ postings, posting.side = "debit" ∨ posting.side = "credit")
    (hamounts : ∀ posting ∈ postings, 0 < posting.amount ∧ posting.amount < 2 ^ 63)
    (haccounts : ∀ posting ∈ postings, ∃ account,
      db.ledgerAccounts.find? posting.accountId = some account ∧
        account.currency = journal.currency) :
    ∃ entries : List LedgerEntryRow, Returns hashtext db
      (insertEntries journal.id journal.currency now postings) journal.id
      (entries.map .insertLedgerEntry) [] := by
  induction postings generalizing db with
  | nil => exact ⟨[], Engine.executes_done.mpr ⟨rfl, rfl, rfl⟩⟩
  | cons posting postings ih =>
    obtain ⟨account, haccount, hcurrency⟩ := haccounts posting List.mem_cons_self
    obtain ⟨hpos, hlt⟩ := hamounts posting List.mem_cons_self
    obtain ⟨haccountId, hcurrencyText⟩ := h.storable haccount
    rw [hcurrency] at hcurrencyText
    have hside := hsides posting List.mem_cons_self
    let row : LedgerEntryRow := ⟨journal.id, posting.accountId, posting.side, posting.amount,
      journal.currency, now, hside, hlt, hpos, journal.currency_char⟩
    have hrow : ledgerEntryRow journal.id posting.accountId posting.side posting.amount
        journal.currency now = .ok row :=
      ledgerEntryRow_of_length hid haccountId hcurrencyText journal.currency_char hside hlt hpos
    -- The entry leaves the accounts and the journal where they are for the rest.
    have hwrites : WritesLedger db [.insertLedgerEntry row] :=
      .entry row ⟨journal, hjournal, rfl⟩ ⟨account, haccount, hcurrency⟩
    obtain ⟨entries, hentries⟩ := ih (h.after_writes hwrites) hjournal
      (fun other hother => hsides other (List.mem_cons_of_mem _ hother))
      (fun other hother => hamounts other (List.mem_cons_of_mem _ hother))
      (fun other hother => haccounts other (List.mem_cons_of_mem _ hother))
    exact ⟨row :: entries, returns_insertLedgerEntry.mpr ⟨row, entries.map .insertLedgerEntry,
      hrow, ⟨journal, hjournal, rfl⟩, ⟨account, haccount, hcurrency⟩, hentries, rfl⟩⟩

/-- A journal and entries that record what a call posts. -/
structure RecordsJournal (id reference currency : String) (postings : List LedgerPosting)
    (now : Timestamp) (journal : LedgerTransactionRow) (entries : List LedgerEntryRow) : Prop where
  id : journal.id = id
  reference : journal.reference = reference
  currency : journal.currency = currency
  records : List.Forall₂ Records postings entries
  postedIn : ∀ entry ∈ entries, PostedIn journal now entry

/-- The transaction of a program commits one journal with exactly the entries of the postings, and
changes nothing else. -/
def Commits (hashtext : String → ℤ) (db : Database) (program : Service String)
    (id reference currency : String) (postings : List LedgerPosting) (now : Timestamp) : Prop :=
  ∃ journal entries, RecordsJournal id reference currency postings now journal entries ∧
    (postgres hashtext).transact db program =
      (.returned id, { db with ledgerTransactions := db.ledgerTransactions.put journal,
                               ledgerEntries := db.ledgerEntries ++ entries })

/-- After the statements, the entries of the journal are those that were inserted with it. -/
theorem Postable.entriesOf_after {journal : LedgerTransactionRow} {entries : List LedgerEntryRow}
    (h : Postable db currency id postings) (hid : journal.id = id)
    (hall : ∀ entry ∈ entries, PostedIn journal now entry) :
    (after (.insertLedgerTransaction journal :: entries.map .insertLedgerEntry) db).entriesOf
      journal.id = entries := by
  refine entriesOf_after_journal ?_ fun entry hentry => (hall entry hentry).1
  rw [hid]
  exact entriesOf_eq_nil h.stored.journals h.fresh

/-- At commit, the trigger finds the postings in the entries of the new journal. -/
theorem Postable.isOk_settle_iff {journal : LedgerTransactionRow} {entries : List LedgerEntryRow}
    (h : Postable db currency id postings) (hid : journal.id = id)
    (hrecords : List.Forall₂ Records postings entries)
    (hall : ∀ entry ∈ entries, PostedIn journal now entry) :
    (settle db (.insertLedgerTransaction journal :: entries.map .insertLedgerEntry)).isOk ↔
      BalancedPostings postings ∧ posted "debit" postings < 2 ^ 63 := by
  rw [isOk_settle_journal, h.entriesOf_after hid hall, balancedPostings_iff hrecords,
    total_of_records hrecords]

/-- What the statements commit balances, fits in the variables of the trigger, and can be
stored. -/
theorem of_transact_insertJournal {result : String} {db' : Database}
    (h : Postable db currency id postings)
    (hend : (postgres hashtext).transact db (insertJournal id reference currency postings now) =
      (.returned result, db')) :
    BalancedPostings postings ∧ posted "debit" postings < 2 ^ 63 ∧ Storable reference ∧
      Storable id := by
  obtain ⟨changes, held, hexec, hsettle, -⟩ := Engine.transact_eq_returned.mp hend
  obtain ⟨journal, rest, locks, hrow, -, hnext, rfl, -⟩ := returns_insertLedgerTransaction.mp hexec
  obtain ⟨entries, rfl, hrecords, hall⟩ := insertEntries_returns hrow hnext
  obtain ⟨hid, -⟩ := ledgerTransactionRow_eq_ok hrow
  obtain ⟨hidText, hreference⟩ := storable_of_ledgerTransactionRow hrow
  -- The commit has gone through, so the trigger has passed the entries.
  obtain ⟨hbalanced, hlt⟩ := (h.isOk_settle_iff hid hrecords hall).mp (isOk_settle.mp hsettle)
  exact ⟨hbalanced, hlt, hreference, hidText⟩

/-- The statements go through for postings that balance and texts that can be stored, up to the
commit. -/
theorem returns_insertJournal (hashtext : String → ℤ) (now : Timestamp)
    (h : Postable db currency id postings)
    (hbalanced : BalancedPostings postings) (hreference : Storable reference)
    (hid : Storable id) :
    ∃ journal entries held, RecordsJournal id reference currency postings now journal entries ∧
      Returns hashtext db (insertJournal id reference currency postings now) id
        (.insertLedgerTransaction journal :: entries.map .insertLedgerEntry) held := by
  obtain ⟨hlength, hcurrency⟩ := h.currency_text hbalanced.ne_nil
  let journal : LedgerTransactionRow := ⟨id, reference, currency, hlength⟩
  have hrow : ledgerTransactionRow id reference currency = .ok journal :=
    ledgerTransactionRow_of_length hid hreference hcurrency hlength
  have hstored : LedgerStored (db.apply (.insertLedgerTransaction journal)) :=
    h.stored.after_writes (.journal journal h.fresh)
  have hfound : (db.ledgerTransactions.put journal).find? id = some journal := by
    rw [Table.find?_put, if_pos rfl]
  have hamounts : ∀ posting ∈ postings, 0 < posting.amount ∧ posting.amount < 2 ^ 63 :=
    fun posting hposting => ⟨hbalanced.amounts posting hposting, (h.amounts posting hposting).2⟩
  -- The journal first, then its entries, which find it there.
  obtain ⟨entries, hentries⟩ : ∃ entries : List LedgerEntryRow,
      Returns hashtext (db.apply (.insertLedgerTransaction journal))
        (insertEntries journal.id journal.currency now postings) journal.id
        (entries.map .insertLedgerEntry) [] :=
    returns_insertEntries hstored hid hfound h.sides hamounts h.accounts
  obtain ⟨entries', hmap, hrecords, hall⟩ := insertEntries_returns hrow hentries
  obtain rfl : entries = entries' :=
    List.map_injective_iff.mpr (fun _ _ heq => by injection heq) hmap
  exact ⟨journal, entries, _, ⟨rfl, rfl, rfl, hrecords, hall⟩,
    returns_insertLedgerTransaction.mpr ⟨journal, _, _, hrow, h.fresh, hentries, rfl, rfl⟩⟩

/-- The statements commit what balances, fits and can be stored. -/
theorem transact_insertJournal (h : Postable db currency id postings)
    (hbalanced : BalancedPostings postings) (hlt : posted "debit" postings < 2 ^ 63)
    (hreference : Storable reference) (hid : Storable id) :
    Commits hashtext db (insertJournal id reference currency postings now) id reference currency
      postings now := by
  obtain ⟨journal, entries, held, hjournal, hreturns⟩ :=
    returns_insertJournal hashtext now h hbalanced hreference hid
  have hsettle := (h.isOk_settle_iff hjournal.id hjournal.records hjournal.postedIn).mpr
    ⟨hbalanced, hlt⟩
  refine ⟨journal, entries, hjournal,
    Engine.transact_eq_returned.mpr ⟨_, _, hreturns, isOk_settle.mpr hsettle, ?_⟩⟩
  exact (after_insertLedgerEntries entries (db.apply (.insertLedgerTransaction journal))).symm

/-- Postings that balance and do not fit are refused at commit, by an error that is no
`IntegrityError`, which `post` lets through. -/
theorem transact_post_of_large
    (h : Postable db (upper currency) (journalId transactionId drawn) postings)
    (hbalanced : BalancedPostings postings) (hlarge : 2 ^ 63 ≤ posted "debit" postings)
    (hreference : Storable reference) (hid : Storable (journalId transactionId drawn)) :
    (postgres hashtext).transact db
      (post reference currency postings transactionId drawn now) = (.refused .data, db) := by
  obtain ⟨journal, entries, held, hjournal, hreturns⟩ :=
    returns_insertJournal hashtext now h hbalanced hreference hid
  -- The statements go through; the trigger then finds the total that is too large.
  have hentries := h.entriesOf_after hjournal.id hjournal.postedIn
  rw [← total_of_records hjournal.records, ← hentries] at hlarge
  have hsettle := settle_journal_of_error (assertLedgerTransactionBalanced_of_large hlarge)
  rw [h.post_eq hbalanced]
  refine Engine.transact_of_settle_eq_error hreturns ?_
  change (settle db _).map _ = _
  rw [hsettle]
  rfl

/-! ## The three checks -/

/-- The transaction of a program raises a `LedgerInvariantError` and stores nothing. -/
def Refuses (hashtext : String → ℤ) (db : Database) (program : Service String) : Prop :=
  ∃ outcome message, (postgres hashtext).transact db program = (outcome, db) ∧
    postEnded outcome = .error (.ledgerInvariant message)

/-- The checks agree for a call: what `_validate_postings` accepts is committed, and anything else
is refused; the database alone commits the same postings, of which its trigger passes the entries;
and of their entries, stored as one journal, the report finds nothing wrong. -/
structure ChecksAgree (hashtext : String → ℤ) (db : Database) (reference currency : String)
    (postings : List LedgerPosting) (transactionId : Option String) (drawn : String)
    (now : Timestamp) : Prop where
  commits : validatePostings postings = .ok () →
    Commits hashtext db (post reference currency postings transactionId drawn now)
      (journalId transactionId drawn) reference (upper currency) postings now
  refuses : validatePostings postings ≠ .ok () →
    Refuses hashtext db (post reference currency postings transactionId drawn now)
  database : (∃ result db', (postgres hashtext).transact db
      (insertJournal (journalId transactionId drawn) reference (upper currency) postings now) =
        (.returned result, db')) ↔ validatePostings postings = .ok ()
  trigger : ∀ (stored : Database) (id : String),
    List.Forall₂ Records postings (stored.entriesOf id) →
    (stored.assertLedgerTransactionBalanced id = .ok () ↔ validatePostings postings = .ok ())
  reconciler : ∀ stored : Database, ∀ journal ∈ stored.ledgerTransactions.rows,
    List.Forall₂ Records postings (stored.entriesOf journal.id) →
    (¬Reconciler.FindsFault stored journal.id ↔ validatePostings postings = .ok ())

/-- Where the checks agree, postings that balance have totals that fit, and texts that can be
stored. -/
theorem ChecksAgree.fits
    (hagree : ChecksAgree hashtext db reference currency postings transactionId drawn now)
    (h : Postable db (upper currency) (journalId transactionId drawn) postings)
    (hbalanced : BalancedPostings postings) :
    posted "debit" postings < 2 ^ 63 ∧ Storable reference ∧
      Storable (journalId transactionId drawn) := by
  obtain ⟨journal, entries, -, hend⟩ := hagree.commits (validatePostings_eq_ok.mpr hbalanced)
  rw [h.post_eq hbalanced] at hend
  exact (of_transact_insertJournal h hend).2

/-- The checks agree exactly when the totals of postings that balance fit in the variables of the
trigger, and the reference and the id of the journal have no NUL. -/
theorem checksAgree_iff
    (h : Postable db (upper currency) (journalId transactionId drawn) postings) :
    ChecksAgree hashtext db reference currency postings transactionId drawn now ↔
      (BalancedPostings postings → posted "debit" postings < 2 ^ 63 ∧ Storable reference ∧
        Storable (journalId transactionId drawn)) := by
  refine ⟨fun hagree => hagree.fits h, fun hfits => ?_⟩
  -- Each part in terms of the postings that balance.
  constructor
  case commits =>
    intro hvalid
    have hbalanced := validatePostings_eq_ok.mp hvalid
    obtain ⟨hlt, href, hid⟩ := hfits hbalanced
    rw [h.post_eq hbalanced]
    exact transact_insertJournal h hbalanced hlt href hid
  case refuses =>
    intro hinvalid
    obtain ⟨message, hfail⟩ := post_of_not_balancedPostings (mt validatePostings_eq_ok.mpr hinvalid)
    rw [hfail]
    exact ⟨.raised (.ledgerInvariant message), message, rfl, rfl⟩
  case database =>
    rw [validatePostings_eq_ok]
    constructor
    · rintro ⟨result, db', hend⟩
      exact (of_transact_insertJournal h hend).1
    · intro hbalanced
      obtain ⟨hlt, href, hid⟩ := hfits hbalanced
      obtain ⟨journal, entries, -, hend⟩ := transact_insertJournal h hbalanced hlt href hid
      exact ⟨_, _, hend⟩
  case trigger =>
    -- The trigger agrees on all that its variables hold.
    intro stored id hrecords
    rw [assertLedgerTransactionBalanced_eq_ok, validatePostings_eq_ok,
      balancedPostings_iff hrecords, total_of_records hrecords]
    refine and_iff_left_of_imp fun hbalances => ?_
    exact (hfits ((balancedPostings_iff hrecords).mpr hbalances)).1
  case reconciler =>
    intro stored journal hjournal hrecords
    rw [Reconciler.not_findsFault_iff hjournal, validatePostings_eq_ok,
      balancedPostings_iff hrecords]

/-- A debit and a credit of one amount. -/
def pair (amount : ℤ) : List LedgerPosting :=
  [⟨"cash", "debit", amount⟩, ⟨"revenue", "credit", amount⟩]

/-- Debits and credits of 64-bit amounts can be given to a call. -/
theorem postable_pairs {amounts : List ℤ}
    (h : ∀ amount ∈ amounts, -2 ^ 63 ≤ amount ∧ amount < 2 ^ 63) :
    Postable LedgerWrite.twoAccounts (upper "mad") (journalId none "jrn_1")
      (amounts.flatMap pair) := by
  have hpair : ∀ posting ∈ amounts.flatMap pair, ∃ amount ∈ amounts,
      posting = ⟨"cash", "debit", amount⟩ ∨ posting = ⟨"revenue", "credit", amount⟩ := by
    intro posting hposting
    obtain ⟨amount, hamount, hmem⟩ := List.mem_flatMap.mp hposting
    exact ⟨amount, hamount, by simpa [pair] using hmem⟩
  constructor
  case stored => exact ⟨by simp [LedgerWrite.twoAccounts, migrated], by decide⟩
  case sides =>
    intro posting hposting
    obtain ⟨amount, -, rfl | rfl⟩ := hpair posting hposting
    · exact .inl rfl
    · exact .inr rfl
  case amounts =>
    intro posting hposting
    obtain ⟨amount, hamount, rfl | rfl⟩ := hpair posting hposting
    · exact h amount hamount
    · exact h amount hamount
  case accounts =>
    intro posting hposting
    obtain ⟨amount, -, rfl | rfl⟩ := hpair posting hposting
    · exact ⟨⟨"cash", "Cash", "MAD", rfl⟩, rfl, by decide⟩
    · exact ⟨⟨"revenue", "Revenue", "MAD", rfl⟩, rfl, by decide⟩
  case fresh => rfl

/-- The checks agree for a small amount. -/
theorem checksAgree_sale : ChecksAgree (fun _ => 0) LedgerWrite.twoAccounts "sale" "mad"
    ([129].flatMap pair) none "jrn_1" 0 :=
  (checksAgree_iff (postable_pairs (by norm_num))).mpr fun _ =>
    ⟨by decide, by decide, by decide⟩

/-- Two debits and two credits of 2^62 are accepted by `_validate_postings`, and their totals are
too large for the trigger. -/
theorem not_checksAgree_large :
    Postable LedgerWrite.twoAccounts (upper "mad") (journalId none "jrn_1")
        ([2 ^ 62, 2 ^ 62].flatMap pair) ∧
      ¬ChecksAgree (fun _ => 0) LedgerWrite.twoAccounts "sale" "mad"
        ([2 ^ 62, 2 ^ 62].flatMap pair) none "jrn_1" 0 := by
  have hpostable : Postable LedgerWrite.twoAccounts (upper "mad") (journalId none "jrn_1")
      ([2 ^ 62, 2 ^ 62].flatMap pair) := postable_pairs (by norm_num)
  refine ⟨hpostable, fun hagree => ?_⟩
  have hfits := (hagree.fits hpostable (by decide)).1
  revert hfits
  decide

end Ledger

end AtlasPay
