import AtlasPay.Payments.Interleaving

/-!
# Conservation of money

A call that commits adds no entries, or those of one new journal: they balance, and have one moment
and one currency (`newEntries_of_returns`). So debits and credits are equal over the entries of any
choice of moments and currencies (`Conserved`), and the days and the currencies of the mart are such
choices. The accounts of a currency are none at first sight; but every entry is on an account that
has its currency (`Accounted`), so that what is summed by account is summed by currency.
-/

namespace AtlasPay

open Database

variable {hashtext : String → ℤ} {sha256 : String → Digest} {db : Database}
  {changes : List Change} {held : List Lock}

/-! ## Entries that cancel out -/

namespace Database

/-- The entries of some moments and currencies. -/
def entriesAt (p : Timestamp → String → Bool) (entries : List LedgerEntryRow) :
    List LedgerEntryRow :=
  entries.filter fun entry => p entry.createdAt entry.currency

/-- Debits and credits are equal, whichever moments and currencies are chosen. -/
def Conserved (entries : List LedgerEntryRow) : Prop :=
  ∀ p, total "debit" (entriesAt p entries) = total "credit" (entriesAt p entries)

/-- Entries of one journal are chosen all or none. -/
theorem entriesAt_of_postedIn {journal : LedgerTransactionRow} {now : Timestamp}
    {entries : List LedgerEntryRow} (hall : ∀ entry ∈ entries, Ledger.PostedIn journal now entry)
    (p : Timestamp → String → Bool) :
    entriesAt p entries = if p now journal.currency then entries else [] := by
  have hsame : entriesAt p entries = entries.filter fun _ => p now journal.currency := by
    refine List.filter_congr fun entry hentry => ?_
    obtain ⟨-, hmoment, hcurrency⟩ := hall entry hentry
    rw [hmoment, hcurrency]
  rw [hsame]
  cases p now journal.currency <;> simp

/-- Entries of one journal that balance are added. -/
theorem Conserved.append {entries posted : List LedgerEntryRow} (h : Conserved entries)
    {journal : LedgerTransactionRow} {now : Timestamp}
    (hall : ∀ entry ∈ posted, Ledger.PostedIn journal now entry) (hbalances : Balances posted) :
    Conserved (entries ++ posted) := by
  intro p
  have hposted : total "debit" (entriesAt p posted) = total "credit" (entriesAt p posted) := by
    rw [entriesAt_of_postedIn hall]
    split
    · exact hbalances.totals
    · rfl
  have hsplit : entriesAt p (entries ++ posted) = entriesAt p entries ++ entriesAt p posted :=
    List.filter_append _ _
  rw [hsplit, total_append, total_append, h p, hposted]

/-! ## Entries and their accounts -/

/-- Every entry is on an account that is there, in the currency of the account. -/
structure Accounted (db : Database) : Prop where
  ids : ∀ account ∈ db.ledgerAccounts.rows, Storable account.id
  entries : ∀ entry ∈ db.ledgerEntries, ∃ account,
    db.ledgerAccounts.find? entry.accountId = some account ∧ account.currency = entry.currency

namespace Accounted

/-- What changes neither accounts nor entries. -/
theorem congr {db' : Database} (h : Accounted db)
    (haccounts : db'.ledgerAccounts = db.ledgerAccounts)
    (hentries : db'.ledgerEntries = db.ledgerEntries) : Accounted db' := by
  constructor
  · rw [haccounts]
    exact h.ids
  · rw [haccounts, hentries]
    exact h.entries

/-- A new account. -/
theorem insertLedgerAccount (h : Accounted db) {row : LedgerAccountRow}
    (habsent : db.ledgerAccounts.find? row.id = none) (hid : Storable row.id) :
    Accounted (db.apply (.insertLedgerAccount row)) := by
  constructor
  case ids =>
    intro account haccount
    rcases Table.mem_rows_of_mem_put haccount with rfl | hold
    · exact hid
    · exact h.ids account hold
  case entries =>
    intro entry hentry
    obtain ⟨account, haccount, hcurrency⟩ := h.entries entry hentry
    have hne : row.id ≠ entry.accountId := by
      intro heq
      rw [heq, haccount] at habsent
      cases habsent
    refine ⟨account, ?_, hcurrency⟩
    rw [apply, Table.find?_put, if_neg hne]
    exact haccount

/-- A new entry. -/
theorem insertLedgerEntry (h : Accounted db) {row : LedgerEntryRow}
    (hrow : ∃ account, db.ledgerAccounts.find? row.accountId = some account ∧
      account.currency = row.currency) :
    Accounted (db.apply (.insertLedgerEntry row)) :=
  ⟨h.ids, List.forall_mem_append.mpr ⟨h.entries, List.forall_mem_singleton.mpr hrow⟩⟩

/-- What one statement does: only an account or an entry that is inserted matters. -/
theorem of_run {s : Statement} {answer : s.Answer} (h : Accounted db)
    (hrun : s.run db = .ok (answer, changes)) : Accounted (after changes db) := by
  cases writesLedger_of_run hrun with
  | elsewhere haccounts hjournals hentries => exact h.congr haccounts hentries
  | account row habsent hid hcurrency => exact h.insertLedgerAccount habsent hid
  | journal row habsent => exact h.congr rfl rfl
  | entry row hjournal haccount => exact h.insertLedgerEntry haccount

/-- What a program does that returns. -/
theorem of_returns {α : Type} {p : Service α} {a : α} (h : Accounted db)
    (hreturns : Returns hashtext db p a changes held) : Accounted (after changes db) := by
  refine Engine.executes_preserves (P := Accounted) (fun s view answer first hview hrun => ?_) h
    hreturns
  have hrun : s.run view = .ok (answer, first) := hrun
  exact hview.of_run hrun

/-- The entries on the accounts of a currency are those of the currency. -/
theorem filter_account_eq (h : Accounted db) (currency : String) :
    (db.ledgerEntries.filter fun entry => (db.ledgerAccounts.find? entry.accountId).any
      fun account => account.currency = currency) =
      entriesAt (fun _ other => other = currency) db.ledgerEntries := by
  refine List.filter_congr fun entry hentry => ?_
  obtain ⟨account, haccount, hcurrency⟩ := h.entries entry hentry
  rw [haccount, Option.any_some, hcurrency]

end Accounted

end Database

/-! ## What a call adds -/

/-- A call that commits adds no entries, or those of one journal, which balance. -/
theorem ServiceCall.newEntries_of_returns {call : ServiceCall} (hdb : Consistent db)
    (h : Returns hashtext db (body sha256 call) ⟨⟩ changes held)
    (hsettle : (settle db changes).isOk) :
    newLedgerEntries changes = [] ∨ ∃ journal now,
      (∀ entry ∈ newLedgerEntries changes, Ledger.PostedIn journal now entry) ∧
        Balances (newLedgerEntries changes) := by
  cases writes_of_returns h with
  | @executed call result changes held hexecutes =>
    cases hexecutes with
    | replayed existing hexisting hsame hresult => exact .inl rfl
    | recorded payment journal debit credit event hdistinct hpayment hstatus hjournal hjournalNew
        hdebit hcredit =>
      obtain ⟨-, -, hdebitSide, hdebitAmount, -⟩ := ledgerEntryRow_eq_ok hdebit
      obtain ⟨-, -, hcreditSide, hcreditAmount, -⟩ := ledgerEntryRow_eq_ok hcredit
      refine .inr ⟨journal, call.now, ?_,
        balances_pair hdebitSide hcreditSide (hdebitAmount.trans hcreditAmount.symm)⟩
      exact List.forall_mem_cons.mpr ⟨Ledger.postedIn_of_rows hjournal hdebit,
        List.forall_mem_singleton.mpr (Ledger.postedIn_of_rows hjournal hcredit)⟩
  | posted journal entries habsent hlock hall =>
    rw [newLedgerEntries_journal]
    exact .inr ⟨journal, _, hall,
      hdb.balances_of_post habsent (fun entry hentry => (hall entry hentry).1) hsettle⟩
  | created hcreates => cases hcreates <;> exact .inl rfl
  | authorized hpending hlock => exact .inl rfl
  | opened row hid habsent hlock => exact .inl rfl
  | nothing => exact .inl rfl
  | updated _ ids update => exact .inl rfl

namespace Database

/-- Money is conserved: the entries cancel out, and each is on an account of its currency. -/
structure ConservesMoney (db : Database) : Prop where
  consistent : Consistent db
  accounted : Accounted db
  conserved : Conserved db.ledgerEntries

/-- Nothing is posted at first. -/
theorem conservesMoney_migrated : ConservesMoney migrated where
  consistent := consistent_migrated
  accounted := ⟨by simp [migrated], by simp [migrated]⟩
  conserved := fun _ => rfl

/-- A call that commits conserves money. -/
theorem ConservesMoney.after_call {call : ServiceCall} (h : ConservesMoney db)
    (hreturns : Returns hashtext db (call.body sha256) ⟨⟩ changes held)
    (hsettle : (settle db changes).isOk) : ConservesMoney (after changes db) := by
  refine ⟨ServiceCall.consistent_after h.consistent hreturns hsettle,
    h.accounted.of_returns hreturns, ?_⟩
  rw [ledgerEntries_after]
  rcases ServiceCall.newEntries_of_returns h.consistent hreturns hsettle with
    hnone | ⟨journal, now, hall, hbalances⟩
  · rw [hnone, List.append_nil]
    exact h.conserved
  · exact h.conserved.append hall hbalances

/-! ## What is summed by account and by day -/

/-- Signed amounts add up to the debits without the credits. -/
theorem sum_signedAmount (entries : List LedgerEntryRow) :
    (entries.map Ledger.signedAmount).sum = total "debit" entries - total "credit" entries := by
  induction entries with
  | nil => rfl
  | cons entry entries ih =>
    rw [List.map_cons, List.sum_cons, ih, total_cons, total_cons, Ledger.signedAmount]
    rcases entry.side_check with hside | hside
    · simp only [hside, if_true, String.reduceEq, if_false]
      omega
    · simp only [hside, String.reduceEq, if_true, if_false]
      omega

/-- The sum over one side is its total, where nothing is summed as well. -/
theorem getD_sumAmount (side : String) (entries : List LedgerEntryRow) :
    (LedgerDailyBalance.sumAmount side entries).getD 0 = total side entries := by
  unfold LedgerDailyBalance.sumAmount total
  cases entries.filter fun entry => entry.side = side <;> rfl

/-- The balances of the accounts of a currency. -/
def accountBalances (db : Database) (currency : String) : Except DbError (List ℤ) :=
  (db.ledgerAccounts.rows.filter fun account => account.currency = currency).mapM fun account =>
    Ledger.accountBalance db account.id

/-- The balances of the accounts of a currency add up to nothing. -/
theorem ConservesMoney.sum_accountBalances (h : ConservesMoney db) (currency : String) :
    ∃ balances, db.accountBalances currency = .ok balances ∧ balances.sum = 0 := by
  have hread : ∀ account ∈ db.ledgerAccounts.rows.filter fun account => account.currency = currency,
      Ledger.accountBalance db account.id = .ok ((db.ledgerEntries.filter fun entry =>
        entry.accountId = account.id).map Ledger.signedAmount).sum := by
    intro account haccount
    have hid := h.accounted.ids account (List.mem_of_mem_filter haccount)
    have htext : text account.id = .ok () := text_eq_ok.mpr hid
    unfold Ledger.accountBalance
    rw [htext]
    rfl
  -- Summed by account, the entries are summed once each: those of the currency.
  refine ⟨_, mapM_eq_ok hread, ?_⟩
  calc _ = ((db.ledgerEntries.filter fun entry => (db.ledgerAccounts.find? entry.accountId).any
          fun account => account.currency = currency).map Ledger.signedAmount).sum :=
        db.ledgerAccounts.sum_references _ LedgerEntryRow.accountId _ db.ledgerEntries
    _ = ((entriesAt (fun _ other => other = currency) db.ledgerEntries).map
          Ledger.signedAmount).sum := by rw [h.accounted.filter_account_eq currency]
    _ = 0 := by rw [sum_signedAmount, h.conserved _, sub_self]

/-- The debits and the credits of a day and a currency are equal. -/
theorem ConservesMoney.difference_eq_zero (h : ConservesMoney db) {Date : Type} [DecidableEq Date]
    (date : Timestamp → Date) {row : LedgerDailyBalanceRow Date}
    (hrow : row ∈ LedgerDailyBalance.rows date db) : row.debitCreditDifferenceMinor = 0 := by
  obtain ⟨group, -, rfl⟩ := List.mem_map.mp hrow
  have hequal := h.conserved fun moment currency => (date moment, currency) = group
  change (LedgerDailyBalance.sumAmount "debit" _).getD 0 -
    (LedgerDailyBalance.sumAmount "credit" _).getD 0 = 0
  rw [getD_sumAmount, getD_sumAmount]
  exact sub_eq_zero.mpr hequal

end Database

/-! ## The sessions -/

/-- The calls that create payments and accounts, and move money. -/
inductive LedgerCall where
  | lifecycle (call : LifecycleCall)
  | post (reference currency : String) (postings : List LedgerPosting)
      (transactionId : Option String) (drawn : String) (now : Timestamp)

namespace LedgerCall

/-- The calls are some of those of the services. -/
def toServiceCall : LedgerCall → ServiceCall
  | lifecycle call => call.toServiceCall
  | post ref currency postings transactionId drawn now =>
    .post ref currency postings transactionId drawn now

/-- The transaction of a call. -/
def body (sha256 : String → Digest) (call : LedgerCall) : Service PUnit :=
  call.toServiceCall.body sha256

/-- The sessions, from the migrated database. -/
def sessions (hashtext : String → ℤ) (sha256 : String → Digest) :
    Lts (Engine.Sessions Statement.Answer Database Change Lock ServiceError PUnit LedgerCall)
      (Option (LedgerCall × Outcome DbError ServiceError PUnit)) :=
  (postgres hashtext).interleaved (body sha256) (· = migrated)

/-- Every call is steady. -/
theorem steady_body (call : LedgerCall) :
    Steady hashtext LifecycleCall.KeepsPayment (· = ·) [] db (body sha256 call) := by
  cases call with
  | lifecycle call => exact LifecycleCall.steady_body call
  | post ref currency postings transactionId drawn now =>
    exact Engine.Steady.forget Ledger.steady_post

/-- What a call commits leaves what others have locked. -/
theorem rely_after {call : LedgerCall} {u : PUnit}
    (h : Returns hashtext db (body sha256 call) u changes held) {locks : Set Lock}
    (hfree : ∀ lock ∈ held, lock ∉ locks) :
    Rely hashtext LifecycleCall.KeepsPayment locks db (after changes db) := by
  cases call with
  | lifecycle call => exact LifecycleCall.rely_after h hfree
  | post ref currency postings transactionId drawn now =>
    obtain ⟨result, h⟩ := Engine.executes_forget.mp h
    exact Ledger.rely_of_post LifecycleCall.keepsPayment_refl LifecycleCall.keepsPayment_trans h
      hfree

/-- The locks of the calls cover what these rely on. -/
theorem covers : (postgres hashtext).Covers (body sha256)
    (Rely hashtext LifecycleCall.KeepsPayment) (· = ·) where
  refl _ := rfl
  trans _ _ _ := Eq.trans
  steady _ call := steady_body call
  guarantee _ _ _ _ _ hexec _ _ hfree := rely_after hexec hfree

/-- What concurrent calls have committed is what they would one after the other. -/
theorem serial_of_sessions
    {log : List (Option (LedgerCall × Outcome DbError ServiceError PUnit))}
    {s : Engine.Sessions Statement.Answer Database Change Lock ServiceError PUnit LedgerCall}
    (h : (sessions hashtext sha256).Run log s) :
    ((postgres hashtext).serial (· = migrated) (body sha256)).Run log.reduceOption s.committed :=
  Engine.serial_of_run covers h

/-- What is committed in a run of concurrent sessions conserves money. -/
theorem conservesMoney_of_run
    {log : List (Option (LedgerCall × Outcome DbError ServiceError PUnit))}
    {s : Engine.Sessions Statement.Answer Database Change Lock ServiceError PUnit LedgerCall}
    (h : (sessions hashtext sha256).Run log s) : ConservesMoney s.committed := by
  refine (serial_of_sessions h).invariant (P := ConservesMoney) ?_ fun db label db' hdb hstep => ?_
  · rintro db rfl
    exact conservesMoney_migrated
  · exact Engine.serial_step_preserves (fun _ _ _ _ _ hbefore hexec hsettle =>
      hbefore.after_call hexec (isOk_settle.mp hsettle)) hdb hstep

/-- In every run of concurrent sessions, whatever is still open and whatever has failed: the
balances of the accounts of every currency add up to nothing, and no row of the mart has a
difference. -/
theorem conservation_of_money
    {log : List (Option (LedgerCall × Outcome DbError ServiceError PUnit))}
    {s : Engine.Sessions Statement.Answer Database Change Lock ServiceError PUnit LedgerCall}
    (h : (sessions hashtext sha256).Run log s) :
    (∀ currency, ∃ balances,
      s.committed.accountBalances currency = .ok balances ∧ balances.sum = 0) ∧
    ∀ (Date : Type) [DecidableEq Date] (date : Timestamp → Date),
      ∀ row ∈ LedgerDailyBalance.rows date s.committed, row.debitCreditDifferenceMinor = 0 := by
  have hmoney := conservesMoney_of_run h
  exact ⟨hmoney.sum_accountBalances, fun _ _ date _ hrow => hmoney.difference_eq_zero date hrow⟩

/-! ## A capture and a sale at once -/

/-- A call in a session of its own. -/
def alone (statements : ℕ) (call : LedgerCall) : List (Engine.Move LedgerCall) :=
  .begin 0 call :: List.replicate statements (.statement 0) ++ [.commit 0]

/-- Two accounts and an authorized payment; its capture, and while this is open a sale on the same
accounts, and a call that raises. -/
def captureAndSale : List (Engine.Move LedgerCall) :=
  [.lifecycle (.createPayment sampleOrder none "pay_1" 0), .lifecycle (.authorize "pay_1"),
   .lifecycle (.createAccount ⟨"acct_cash", "Cash", "MAD"⟩),
   .lifecycle (.createAccount ⟨"acct_merchant", "Merchant", "MAD"⟩)].flatMap (alone 1) ++
  .begin 1 (.lifecycle (.execute ⟨"pay_1", .capture, "acct_cash", "acct_merchant", "capture-1",
    "op_1", "jrn_1", "evt_1", 1⟩)) :: List.replicate 6 (.statement 1) ++
  alone 3 (.post "sale" "mad" [⟨"acct_cash", "debit", 7⟩, ⟨"acct_merchant", "credit", 7⟩] none
    "jrn_2" 2) ++
  [.begin 0 (.post "unbalanced" "mad" [⟨"acct_cash", "debit", 7⟩, ⟨"acct_merchant", "credit", 8⟩]
    none "jrn_3" 3)] ++
  List.replicate 3 (.statement 1) ++ [.commit 1]

/-- The sessions after these moves, with how the transactions ended. -/
def captured : Option
    (Engine.Sessions Statement.Answer Database Change Lock ServiceError PUnit LedgerCall ×
      List (Option (LedgerCall × Outcome DbError ServiceError PUnit))) :=
  Lts.play ((postgres LifecycleCall.hashes).advance (body LifecycleCall.digests)) ⟨migrated, ∅⟩
    captureAndSale

/-- The capture and the sale are committed, on one day, and money is conserved. -/
theorem conservation_of_money_sample : ∃ s log, captured = some (s, log) ∧
    s.committed.ledgerEntries.map LedgerEntryRow.amount = [7, 7, 100, 100] ∧
    (∃ balances, s.committed.accountBalances "MAD" = .ok balances ∧ balances.sum = 0) ∧
    ∀ row ∈ LedgerDailyBalance.rows (· / 86400000000) s.committed,
      row.debitCreditDifferenceMinor = 0 := by
  have hplayed : captured.map (fun result =>
      result.1.committed.ledgerEntries.map LedgerEntryRow.amount) = some [7, 7, 100, 100] := by
    decide
  obtain ⟨⟨s, log⟩, hresult, hentries⟩ := Option.map_eq_some_iff.mp hplayed
  have hrun : (sessions LifecycleCall.hashes LifecycleCall.digests).Run log s :=
    ⟨⟨migrated, ∅⟩, ⟨rfl, rfl⟩, Lts.steps_of_play hresult⟩
  have hmoney := conservation_of_money hrun
  exact ⟨s, log, hresult, hentries, hmoney.1 "MAD", hmoney.2 ℤ (· / 86400000000)⟩

end LedgerCall

end AtlasPay
