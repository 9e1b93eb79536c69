import AtlasPay.Database.Statements

/-!
# `PostgresLedger`

`create_account` and `post` of `app/ledger.py`, as programs of statements; and what is read of the
entries, by `account_balance` and by the mart `ledger_daily_balance`.
-/

namespace AtlasPay

/-- `LedgerPosting`. -/
structure LedgerPosting where
  accountId : String
  side : String
  amount : ℤ
  deriving DecidableEq, Repr

/-- `LedgerAccount`. -/
structure LedgerAccount where
  id : String
  name : String
  currency : String
  deriving DecidableEq, Repr

namespace Ledger

/-- `create_account`. -/
def createAccount (account : LedgerAccount) : Service LedgerAccount :=
  let currency := upper account.currency
  if currency.length ≠ 3 then
    .fail (.ledgerInvariant "Ledger account currency must be a 3-letter code")
  else
    .call (.insertLedgerAccount account.id account.name currency) fun _ =>
    .done ⟨account.id, account.name, currency⟩

/-- The sum of the amounts that are posted on one side. -/
def posted (side : String) (postings : List LedgerPosting) : ℤ :=
  ((postings.filter fun posting => posting.side = side).map LedgerPosting.amount).sum

/-- `_validate_postings`. -/
def validatePostings (postings : List LedgerPosting) : Except ServiceError Unit :=
  let debits := posted "debit" postings
  let credits := posted "credit" postings
  if postings.length < 2 then
    throw (.ledgerInvariant "A ledger transaction requires at least two postings")
  else if postings.any fun posting => posting.amount ≤ 0 then
    throw (.ledgerInvariant "Ledger posting amounts must be positive")
  else if debits ≠ credits then
    throw (.ledgerInvariant s!"Unbalanced postings: debits={debits}, credits={credits}")
  else pure ()

/-- The entries of a journal, one statement for each. -/
def insertEntries (journalId currency : String) (now : Timestamp) :
    List LedgerPosting → Service String
  | [] => .done journalId
  | posting :: postings =>
    .call (.insertLedgerEntry journalId posting.accountId posting.side posting.amount currency
      now) fun _ =>
    insertEntries journalId currency now postings

/-- `post`, up to the translation of an `IntegrityError`. -/
def post (reference currency : String) (postings : List LedgerPosting)
    (transactionId : Option String) (drawn : String) (now : Timestamp) : Service String :=
  match validatePostings postings with
  | .error e => .fail e
  | .ok _ =>
    let normalized := upper currency
    if normalized.length ≠ 3 then
      .fail (.ledgerInvariant "Ledger transaction currency must be a 3-letter code")
    else
      let journalId := match transactionId with
        | none | some "" => drawn
        | some id => id
      .call (.insertLedgerTransaction journalId reference normalized) fun _ =>
      insertEntries journalId normalized now postings

/-- What `post` returns or raises: an `IntegrityError` becomes a `LedgerInvariantError`. -/
def postEnded : Outcome DbError ServiceError String → Except ServiceError String
  | .refused .notNull => .error (.ledgerInvariantFrom .notNull)
  | .refused .unique => .error (.ledgerInvariantFrom .unique)
  | .refused .check => .error (.ledgerInvariantFrom .check)
  | .refused .foreignKey => .error (.ledgerInvariantFrom .foreignKey)
  | outcome => ended outcome

/-- What an entry counts in the balance of its account. -/
def signedAmount (entry : LedgerEntryRow) : ℤ :=
  if entry.side = "debit" then entry.amount
  else if entry.side = "credit" then -entry.amount
  else 0

/-- `account_balance`. -/
def accountBalance (db : Database) (accountId : String) : Except DbError ℤ := do
  text accountId
  pure ((db.ledgerEntries.filter fun entry => entry.accountId = accountId).map signedAmount).sum

end Ledger

/-! ## The mart -/

/-- A row of `ledger_daily_balance`. -/
structure LedgerDailyBalanceRow (Date : Type) where
  postingDate : Date
  currency : String
  ledgerTransactions : ℕ
  ledgerEntries : ℕ
  debitAmountMinor : Option ℤ
  creditAmountMinor : Option ℤ
  debitCreditDifferenceMinor : ℤ
  deriving DecidableEq, Repr

namespace LedgerDailyBalance

/-- `SUM(le.amount) FILTER (WHERE le.side = ...)`, which is null where nothing is summed. -/
def sumAmount (side : String) (entries : List LedgerEntryRow) : Option ℤ :=
  match entries.filter fun entry => entry.side = side with
  | [] => none
  | found => some (found.map LedgerEntryRow.amount).sum

/-- The row of a group of entries. -/
def row {Date : Type} (group : Date × String) (entries : List LedgerEntryRow) :
    LedgerDailyBalanceRow Date where
  postingDate := group.1
  currency := group.2
  ledgerTransactions := (entries.map LedgerEntryRow.transactionId).dedup.length
  ledgerEntries := entries.length
  debitAmountMinor := sumAmount "debit" entries
  creditAmountMinor := sumAmount "credit" entries
  debitCreditDifferenceMinor :=
    (sumAmount "debit" entries).getD 0 - (sumAmount "credit" entries).getD 0

/-- `GROUP BY le.created_at::date, le.currency`, for any reading of a moment as a date. -/
def groupOf {Date : Type} (date : Timestamp → Date) (entry : LedgerEntryRow) : Date × String :=
  (date entry.createdAt, entry.currency)

/-- `ledger_daily_balance`, in no particular order. -/
def rows {Date : Type} [DecidableEq Date] (date : Timestamp → Date) (db : Database) :
    List (LedgerDailyBalanceRow Date) :=
  (db.ledgerEntries.map (groupOf date)).dedup.map fun group =>
    row group (db.ledgerEntries.filter fun entry => groupOf date entry = group)

end LedgerDailyBalance

end AtlasPay
