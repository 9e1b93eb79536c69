import AtlasPay.Library.Bookkeeping
import AtlasPay.Payments.Permanence

/-!
# The services as a bank

What the tables are for: payments with an amount and a status, accounts with a balance, and events
that change them. `Bank` is this on its own, without keys, locks, rows or rollbacks. The calls of
the services, in any interleaving of their statements, are events of a bank in the order in which
they commit, and a balance that `account_balance` reads is what these events came to
(`refines_bank`).
-/

namespace AtlasPay

open Database

/-! ## The bank -/

/-- A payment of the bank. -/
structure BankPayment where
  amount : ℤ
  currency : String
  status : PaymentStatus

/-- The payments, the currencies of the accounts, and their balances. -/
structure Bank where
  payments : String → Option BankPayment
  accounts : String → Option String
  balances : String → ℤ

/-- What happens to a bank. -/
inductive BankEvent where
  | created (id : String) (amount : ℤ) (currency : String)
  | authorized (id : String)
  | moved (operation : PaymentOperation) (id source destination : String) (amount : ℤ)
  | opened (id currency : String)
  | posted (entries : List (String × ℤ))
  | idle

/-- The entries of an event. -/
def BankEvent.entries : BankEvent → List (String × ℤ)
  | .moved _ _ source destination amount => Bookkeeping.transfer source destination amount
  | .posted entries => entries
  | _ => []

namespace Bank

/-- There is nothing yet. -/
def empty : Bank := ⟨fun _ => none, fun _ => none, fun _ => 0⟩

/-- A payment is set. -/
def setPayment (bank : Bank) (id : String) (payment : BankPayment) : Bank :=
  { bank with payments := Function.update bank.payments id (some payment) }

/-- Entries are added to the balances. -/
def post (bank : Bank) (entries : List (String × ℤ)) : Bank :=
  { bank with balances := fun id => bank.balances id + Bookkeeping.balance entries id }

/-- What each event needs, and what it does. -/
inductive Step (bank : Bank) : BankEvent → Bank → Prop where
  | created {id : String} {amount : ℤ} {currency : String} (hnew : bank.payments id = none)
      (hamount : 0 < amount) :
      Step bank (.created id amount currency) (bank.setPayment id ⟨amount, currency, .pending⟩)
  | authorized {id : String} {payment : BankPayment} (hpayment : bank.payments id = some payment)
      (hstatus : payment.status = .pending) :
      Step bank (.authorized id) (bank.setPayment id { payment with status := .authorized })
  | moved {operation : PaymentOperation} {id source destination : String} {payment : BankPayment}
      (hpayment : bank.payments id = some payment)
      (hstatus : payment.status = operation.transition.1) (hdistinct : source ≠ destination)
      (hsource : bank.accounts source = some payment.currency)
      (hdestination : bank.accounts destination = some payment.currency) :
      Step bank (.moved operation id source destination payment.amount)
        ((bank.setPayment id { payment with status := operation.transition.2 }).post
          (Bookkeeping.transfer source destination payment.amount))
  | opened {id currency : String} (hnew : bank.accounts id = none) :
      Step bank (.opened id currency)
        { bank with accounts := Function.update bank.accounts id (some currency) }
  | posted {entries : List (String × ℤ)} {currency : String}
      (haccounts : ∀ entry ∈ entries, bank.accounts entry.1 = some currency)
      (hbalances : (entries.map Prod.snd).sum = 0) :
      Step bank (.posted entries) (bank.post entries)
  | idle : Step bank .idle bank

/-- The bank, from nothing. -/
def system : Lts Bank BankEvent where
  init := (· = empty)
  step := Step

/-- The operations that moved the amount of a payment, with what they moved. -/
def movesOf (id : String) (events : List BankEvent) : List (PaymentOperation × ℤ) :=
  events.filterMap fun
    | .moved operation id' _ _ amount => if id' = id then some (operation, amount) else none
    | _ => none

/-- A payment that is not there has not been moved. The moves of one that is there are the
operations that led to its status, each for its amount. -/
def Lived (moves : List (PaymentOperation × ℤ)) : Option BankPayment → Prop
  | none => moves = []
  | some payment => ∃ operations, History payment.status operations ∧
      moves = operations.map fun operation => (operation, payment.amount)

/-- What the events say of a bank: the balances are what their entries come to, on accounts that are
there, and together they come to nothing; and what they moved of each payment. -/
structure Told (events : List BankEvent) (bank : Bank) : Prop where
  balances : ∀ id, bank.balances id = Bookkeeping.balance (events.flatMap BankEvent.entries) id
  accounts : ∀ entry ∈ events.flatMap BankEvent.entries, (bank.accounts entry.1).isSome
  nothing : ((events.flatMap BankEvent.entries).map Prod.snd).sum = 0
  moves : ∀ id, Lived (movesOf id events) (bank.payments id)

variable {events : List BankEvent} {event : BankEvent} {bank bank' : Bank}

/-- The payments after one was set. -/
theorem payments_setPayment (bank : Bank) (id : String) (payment : BankPayment) (id' : String) :
    (bank.setPayment id payment).payments id' =
      if id' = id then some payment else bank.payments id' :=
  Function.update_apply bank.payments id (some payment) id'

/-- The moves of events after events. -/
theorem movesOf_append (id : String) (events events' : List BankEvent) :
    movesOf id (events ++ events') = movesOf id events ++ movesOf id events' :=
  List.filterMap_append

/-- Accounts stay. -/
theorem Step.accounts (h : Step bank event bank') {id : String} (hid : (bank.accounts id).isSome) :
    (bank'.accounts id).isSome := by
  cases h with
  | opened hnew =>
    show (Function.update bank.accounts _ _ id).isSome
    rw [Function.update_apply]
    split
    · rfl
    · exact hid
  | created | authorized | moved | posted | idle => exact hid

/-- The entries of an event are on accounts that are there, and come to nothing. -/
theorem Step.entries (h : Step bank event bank') :
    (∀ entry ∈ event.entries, (bank.accounts entry.1).isSome) ∧
      (event.entries.map Prod.snd).sum = 0 := by
  cases h with
  | @moved operation id source destination payment hpayment hstatus hdistinct hsource
      hdestination =>
    refine ⟨List.forall_mem_cons.mpr ⟨?_, List.forall_mem_singleton.mpr ?_⟩,
      Bookkeeping.sum_transfer _ _ _⟩
    · rw [hsource]
      rfl
    · rw [hdestination]
      rfl
  | posted haccounts hbalances =>
    refine ⟨fun entry hentry => ?_, hbalances⟩
    rw [haccounts entry hentry]
    rfl
  | created | authorized | opened | idle => exact ⟨nofun, rfl⟩

/-- An event adds its entries to the balances. -/
theorem Step.balances (h : Step bank event bank') (id : String) :
    bank'.balances id = bank.balances id + Bookkeeping.balance event.entries id := by
  cases h with
  | moved | posted => rfl
  | created | authorized | opened | idle => exact (add_zero _).symm

/-- An event continues the life of each payment. -/
theorem Step.lived (h : Step bank event bank') {id : String}
    {moves : List (PaymentOperation × ℤ)} (hlived : Lived moves (bank.payments id)) :
    Lived (moves ++ movesOf id [event]) (bank'.payments id) := by
  cases h with
  | @created id' amount currency hnew =>
    rw [payments_setPayment]
    show Lived (moves ++ []) _
    rw [List.append_nil]
    split
    case isTrue hid =>
      rw [hid, hnew] at hlived
      exact ⟨[], .pending, hlived⟩
    case isFalse => exact hlived
  | @authorized id' payment hpayment hstatus =>
    rw [payments_setPayment]
    show Lived (moves ++ []) _
    rw [List.append_nil]
    split
    case isTrue hid =>
      rw [hid, hpayment] at hlived
      -- A payment that is pending has had no operation.
      obtain ⟨operations, hhistory, hmoves⟩ := hlived
      rw [hstatus] at hhistory
      have hnone : operations = [] := by
        have hcases := hhistory.cases_of
        simpa using hcases
      exact ⟨[], .authorized, by rw [hmoves, hnone]⟩
    case isFalse => exact hlived
  | @moved operation id' source destination payment hpayment hstatus =>
    show Lived _ ((bank.setPayment id' _).payments id)
    rw [payments_setPayment]
    split
    case isTrue hid =>
      rw [hid, hpayment] at hlived
      obtain ⟨operations, hhistory, hmoves⟩ := hlived
      rw [hstatus] at hhistory
      -- The history of this payment goes on by the operation, and the moves by its amount.
      refine ⟨operations ++ [operation], .operation hhistory, ?_⟩
      have hlast : movesOf id [.moved operation id' source destination payment.amount] =
          [(operation, payment.amount)] := by
        simp [movesOf, hid]
      rw [hlast, hmoves, List.map_append]
      rfl
    case isFalse hid =>
      -- The move is of another payment.
      have hnone : movesOf id [.moved operation id' source destination payment.amount] = [] := by
        simp [movesOf, Ne.symm hid]
      rw [hnone, List.append_nil]
      exact hlived
  | opened | posted | idle =>
    show Lived (moves ++ []) _
    rw [List.append_nil]
    exact hlived

/-- One more event. -/
theorem Told.step (h : Told events bank) (hstep : Step bank event bank') :
    Told (events ++ [event]) bank' := by
  have happend : (events ++ [event]).flatMap BankEvent.entries =
      events.flatMap BankEvent.entries ++ event.entries := by
    rw [List.flatMap_append, List.flatMap_singleton]
  obtain ⟨haccounts, hnothing⟩ := hstep.entries
  constructor
  case balances =>
    intro id
    rw [happend, Bookkeeping.balance_append, hstep.balances, h.balances]
  case accounts =>
    rw [happend]
    -- An account that was opened stays open.
    exact List.forall_mem_append.mpr ⟨fun entry hentry => hstep.accounts (h.accounts entry hentry),
      fun entry hentry => hstep.accounts (haccounts entry hentry)⟩
  case nothing =>
    rw [happend, List.map_append, List.sum_append, h.nothing, hnothing, add_zero]
  case moves =>
    intro id
    rw [movesOf_append]
    exact hstep.lived (h.moves id)

/-- In every run, the events say what the bank is. -/
theorem told_of_run (h : system.Run events bank) : Told events bank := by
  refine h.log_invariant (P := Told) ?_ fun events bank event bank' _ htold hstep =>
    htold.step hstep
  rintro bank rfl
  exact ⟨fun _ => rfl, nofun, rfl, fun _ => rfl⟩

/-- The balances of any accounts that include those of the entries add up to nothing. -/
theorem Told.sum_balances (h : Told events bank) {accounts : Finset String}
    (hall : ∀ id, (bank.accounts id).isSome → id ∈ accounts) :
    ∑ id ∈ accounts, bank.balances id = 0 := by
  calc ∑ id ∈ accounts, bank.balances id
      = ∑ id ∈ accounts, Bookkeeping.balance (events.flatMap BankEvent.entries) id :=
        Finset.sum_congr rfl fun id _ => h.balances id
    _ = ((events.flatMap BankEvent.entries).map Prod.snd).sum :=
        Bookkeeping.sum_balance fun entry hentry => hall entry.1 (h.accounts entry hentry)
    _ = 0 := h.nothing

end Bank

/-! ## The tables as a bank -/

/-- An entry, as the bank has it. -/
def LedgerEntryRow.signed (entry : LedgerEntryRow) : String × ℤ :=
  (entry.accountId, Ledger.signedAmount entry)

/-- A posting, as the bank has it. -/
def LedgerPosting.signed (posting : LedgerPosting) : String × ℤ :=
  (posting.accountId,
    if posting.side = "debit" then posting.amount
    else if posting.side = "credit" then -posting.amount
    else 0)

/-- A row of `payments`, as the bank has it. -/
def PaymentRow.toBank (row : PaymentRow) : Option BankPayment :=
  (PaymentStatus.ofValue? row.status).map fun status => ⟨row.amount, row.currency, status⟩

/-- The bank that the tables hold. -/
def Database.bank (db : Database) : Bank where
  payments id := (db.payments.find? id).bind PaymentRow.toBank
  accounts id := (db.ledgerAccounts.find? id).map LedgerAccountRow.currency
  balances := Bookkeeping.balance (db.ledgerEntries.map LedgerEntryRow.signed)

variable {hashtext : String → ℤ} {sha256 : String → Digest} {db : Database}
  {changes : List Change} {held : List Lock}

/-- A new payment. -/
theorem bank_insertPayment {row : PaymentRow} (hstatus : row.status = PaymentStatus.pending.value) :
    (db.apply (.insertPayment row)).bank =
      db.bank.setPayment row.id ⟨row.amount, row.currency, .pending⟩ := by
  have hrow : row.toBank = some ⟨row.amount, row.currency, .pending⟩ := by
    unfold PaymentRow.toBank
    rw [hstatus, PaymentStatus.ofValue?_value]
    rfl
  have hpayments : (db.apply (.insertPayment row)).bank.payments =
      (db.bank.setPayment row.id ⟨row.amount, row.currency, .pending⟩).payments := by
    funext id
    rw [Bank.payments_setPayment]
    show ((db.payments.put row).find? id).bind _ = _
    rw [Table.find?_put]
    split
    case isTrue hid => rw [if_pos hid.symm, Option.bind_some, hrow]
    case isFalse hid =>
      rw [if_neg (Ne.symm hid)]
      rfl
  show Bank.mk _ _ _ = Bank.mk _ _ _
  congr 1

/-- The status of a payment is set. -/
theorem bank_setPaymentStatus {id : String} {payment : PaymentRow} {status : PaymentStatus}
    (hpayment : db.payments.find? id = some payment) :
    (db.apply (.setPaymentStatus id status.value)).bank =
      db.bank.setPayment id ⟨payment.amount, payment.currency, status⟩ := by
  have hpayments : (db.apply (.setPaymentStatus id status.value)).bank.payments =
      (db.bank.setPayment id ⟨payment.amount, payment.currency, status⟩).payments := by
    funext id'
    rw [Bank.payments_setPayment]
    show ((db.payments.modify (setStatus id status.value)
      (id_setStatus id status.value)).find? id').bind _ = _
    rw [Table.find?_modify]
    split
    case isTrue hid =>
      rw [hid, hpayment, Option.map_some, Option.bind_some]
      -- A status that is one of the enumeration reads as itself.
      have hrow : setStatus id status.value payment = { payment with status := status.value } :=
        if_pos (Table.find?_eq_some_iff.mp hpayment).2
      unfold PaymentRow.toBank
      rw [hrow]
      show (PaymentStatus.ofValue? status.value).map _ = _
      rw [PaymentStatus.ofValue?_value]
      rfl
    case isFalse hid =>
      show _ = (db.payments.find? id').bind _
      cases hrow : db.payments.find? id' with
      | none => rfl
      | some row =>
        have hne : row.id ≠ id := by
          rw [(Table.find?_eq_some_iff.mp hrow).2]
          exact hid
        rw [Option.map_some, setStatus, if_neg hne]
  show Bank.mk _ _ _ = Bank.mk _ _ _
  congr 1

/-- A new account. -/
theorem bank_insertLedgerAccount (row : LedgerAccountRow) :
    (db.apply (.insertLedgerAccount row)).bank =
      { db.bank with accounts := Function.update db.bank.accounts row.id (some row.currency) } := by
  have haccounts : (db.apply (.insertLedgerAccount row)).bank.accounts =
      Function.update db.bank.accounts row.id (some row.currency) := by
    funext id
    rw [Function.update_apply]
    show ((db.ledgerAccounts.put row).find? id).map _ = _
    rw [Table.find?_put]
    split
    case isTrue hid => rw [if_pos hid.symm, Option.map_some]
    case isFalse hid =>
      rw [if_neg (Ne.symm hid)]
      rfl
  show Bank.mk _ _ _ = Bank.mk _ _ _
  congr 1

/-- A new journal with its entries. -/
theorem bank_insertJournal (journal : LedgerTransactionRow) (entries : List LedgerEntryRow) :
    (after (.insertLedgerTransaction journal :: entries.map .insertLedgerEntry) db).bank =
      db.bank.post (entries.map LedgerEntryRow.signed) := by
  rw [after_cons, after_insertLedgerEntries]
  have hbalances : Bookkeeping.balance ((db.ledgerEntries ++ entries).map LedgerEntryRow.signed) =
      (db.bank.post (entries.map LedgerEntryRow.signed)).balances := by
    funext id
    rw [List.map_append, Bookkeeping.balance_append]
    rfl
  show Bank.mk _ _ _ = Bank.mk _ _ _
  congr 1

/-- `account_balance` reads the balance of the bank. -/
theorem accountBalance_eq {id : String} (hid : Storable id) :
    Ledger.accountBalance db id = .ok (db.bank.balances id) := by
  have hentries : ((db.ledgerEntries.map LedgerEntryRow.signed).filter fun entry =>
      entry.1 = id).map Prod.snd =
      (db.ledgerEntries.filter fun entry => entry.accountId = id).map Ledger.signedAmount := by
    rw [List.filter_map, List.map_map]
    rfl
  have hbalance : db.bank.balances id =
      ((db.ledgerEntries.filter fun entry => entry.accountId = id).map Ledger.signedAmount).sum := by
    rw [← hentries]
    rfl
  have htext : text id = .ok () := text_eq_ok.mpr hid
  unfold Ledger.accountBalance
  rw [htext, hbalance]
  rfl

/-! ## One call -/

namespace LedgerCall

/-- How a call and how it ended can look like as an event. A call that raises or is refused is none,
and neither is one whose key was used before. -/
inductive Tells : LedgerCall × Outcome DbError ServiceError PUnit → BankEvent → Prop where
  | raised (call : LedgerCall) (e : ServiceError) : Tells (call, .raised e) .idle
  | refused (call : LedgerCall) (r : DbError) : Tells (call, .refused r) .idle
  | created (request : CreatePaymentRequest) (key : Option String) (id : String) (now : Timestamp)
      (currency : { padded : String // padded.length = 3 })
      (hcurrency : bpchar 3 request.currency = .ok currency) :
      Tells (.lifecycle (.createPayment request key id now), .returned ⟨⟩)
        (.created id request.amount currency.1)
  | answered (request : CreatePaymentRequest) (key : String) (hkey : key ≠ "") (id : String)
      (now : Timestamp) :
      Tells (.lifecycle (.createPayment request (some key) id now), .returned ⟨⟩) .idle
  | authorized (id : String) :
      Tells (.lifecycle (.authorize id), .returned ⟨⟩) (.authorized id)
  | opened (account : LedgerAccount) :
      Tells (.lifecycle (.createAccount account), .returned ⟨⟩)
        (.opened account.id (upper account.currency))
  | moved (call : OperationCall) (amount : ℤ) :
      Tells (.lifecycle (.execute call), .returned ⟨⟩)
        (.moved call.operation call.paymentId call.sourceAccountId call.destinationAccountId amount)
  | replayed (call : OperationCall) : Tells (.lifecycle (.execute call), .returned ⟨⟩) .idle
  | posted (ref currency : String) (postings : List LedgerPosting) (transactionId : Option String)
      (drawn : String) (now : Timestamp) :
      Tells (.post ref currency postings transactionId drawn now, .returned ⟨⟩)
        (.posted (postings.map LedgerPosting.signed))

/-- `create_payment` creates a payment of the bank, or none. -/
theorem tells_of_creates {request : CreatePaymentRequest} {key : Option String} {id : String}
    {now : Timestamp} {result : Except ServiceError Payment}
    (h : PaymentRepository.Creates sha256 db request id now key result changes held) :
    ∃ event, Tells (.lifecycle (.createPayment request key id now), .returned ⟨⟩) event ∧
      Bank.Step db.bank event (after changes db).bank := by
  -- A row that stays is a new payment.
  have hinsert : ∀ row, paymentRow (Payment.new request id now) = .ok row →
      db.payments.find? id = none → ∃ currency, bpchar 3 request.currency = .ok currency ∧
        Bank.Step db.bank (.created id request.amount currency.1)
          (db.apply (.insertPayment row)).bank := by
    intro row hrow habsent
    obtain ⟨hid, hamount, hstatus, -, ⟨currency, hcurrency, hsame⟩, -⟩ := paymentRow_eq_ok hrow
    have hid : row.id = id := hid
    have hamount : row.amount = request.amount := hamount
    have hpositive := row.amount_check
    refine ⟨currency, hcurrency, ?_⟩
    rw [bank_insertPayment hstatus, hid, hamount, hsame]
    rw [hamount] at hpositive
    refine .created ?_ hpositive
    show (db.payments.find? id).bind _ = none
    rw [habsent]
    rfl
  cases h with
  | unkeyed row hkey hrow habsent =>
    obtain ⟨currency, hcurrency, hstep⟩ := hinsert row hrow habsent
    exact ⟨_, .created request key id now currency hcurrency, hstep⟩
  | claimed row hkey hrow habsent =>
    obtain ⟨currency, hcurrency, hstep⟩ := hinsert row hrow habsent
    exact ⟨_, .created request _ id now currency hcurrency, hstep⟩
  | found row existing hkey hrow habsent =>
    rw [PaymentRepository.after_insert_delete hrow habsent]
    exact ⟨_, .answered request _ hkey id now, .idle⟩

/-- An entry that is on a side. -/
theorem signed_of_side {entry : LedgerEntryRow} {posting : LedgerPosting}
    (h : Ledger.Records posting entry) : entry.signed = posting.signed := by
  obtain ⟨haccount, hside, hamount⟩ := h
  unfold LedgerEntryRow.signed LedgerPosting.signed Ledger.signedAmount
  rw [haccount, hside, hamount]

/-- `execute` moves a payment of the bank, or none. -/
theorem tells_of_executes {call : OperationCall} {result : OperationResult}
    (hdb : ConservesMoney db) (haccounted : Accounted (after changes db))
    (h : PaymentOperations.Executes hashtext sha256 db call result changes held) :
    ∃ event, Tells (.lifecycle (.execute call), .returned ⟨⟩) event ∧
      Bank.Step db.bank event (after changes db).bank := by
  cases h with
  | replayed => exact ⟨_, .replayed call, .idle⟩
  | recorded payment journal debit credit event hdistinct hpayment hstatus hjournal hjournalNew
      hdebit hcredit hnew hevent heventNew =>
    refine ⟨_, .moved call payment.amount, ?_⟩
    obtain ⟨-, hdebitAccount, hdebitSide, hdebitAmount, -, _, hdebitPadded, hdebitCurrency⟩ :=
      ledgerEntryRow_eq_ok hdebit
    obtain ⟨-, hcreditAccount, hcreditSide, hcreditAmount, -, _, hcreditPadded, hcreditCurrency⟩ :=
      ledgerEntryRow_eq_ok hcredit
    have hpadded := hdb.consistent.bpchar_currency hpayment
    rw [hpadded] at hdebitPadded hcreditPadded
    cases hdebitPadded
    cases hcreditPadded
    -- The two entries are a transfer from the source to the destination.
    have hentries : [debit, credit].map LedgerEntryRow.signed =
        Bookkeeping.transfer call.sourceAccountId call.destinationAccountId payment.amount := by
      simp [LedgerEntryRow.signed, Ledger.signedAmount, Bookkeeping.transfer, hdebitAccount,
        hdebitSide, hdebitAmount, hcreditAccount, hcreditSide, hcreditAmount]
    -- Both accounts are there, since afterwards the entries refer to them.
    have hthere (entry : LedgerEntryRow) (hentry : entry ∈ [debit, credit]) :
        db.bank.accounts entry.accountId = some entry.currency := by
      have hafter : entry ∈ db.ledgerEntries ++ [debit] ++ [credit] := by
        rw [List.append_assoc]
        exact List.mem_append_right _ hentry
      obtain ⟨account, haccount, hcurrency⟩ := haccounted.entries entry hafter
      have haccount : db.ledgerAccounts.find? entry.accountId = some account := haccount
      show (db.ledgerAccounts.find? entry.accountId).map _ = _
      rw [haccount, Option.map_some, hcurrency]
    have hsource := hthere debit List.mem_cons_self
    have hdestination := hthere credit (List.mem_cons_of_mem _ (List.mem_singleton_self _))
    rw [hdebitAccount, hdebitCurrency] at hsource
    rw [hcreditAccount, hcreditCurrency] at hdestination
    -- What is committed is, as a bank, the payment moved and the transfer posted.
    have hbank : ((after (.insertLedgerTransaction journal ::
        [debit, credit].map .insertLedgerEntry) db).apply
          (.setPaymentStatus call.paymentId call.operation.transition.2.value)).bank =
        (db.bank.setPayment call.paymentId ⟨payment.amount, payment.currency,
          call.operation.transition.2⟩).post
          (Bookkeeping.transfer call.sourceAccountId call.destinationAccountId payment.amount) := by
      have hkept : (after (.insertLedgerTransaction journal ::
          [debit, credit].map .insertLedgerEntry) db).payments.find? call.paymentId =
          some payment := by
        rw [after_cons, after_insertLedgerEntries]
        exact hpayment
      rw [bank_setPaymentStatus hkept, bank_insertJournal, hentries]
      rfl
    have hmoved : db.bank.payments call.paymentId =
        some ⟨payment.amount, payment.currency, call.operation.transition.1⟩ := by
      show (db.payments.find? call.paymentId).bind _ = _
      rw [hpayment, Option.bind_some, PaymentRow.toBank, hstatus]
      rfl
    have hstep := Bank.Step.moved hmoved rfl hdistinct hsource hdestination
    rw [← hbank] at hstep
    -- The operation and its event are nothing to the bank.
    exact hstep

/-- `post` posts the entries of the postings. -/
theorem tells_of_post {ref currency drawn result : String} {postings : List LedgerPosting}
    {transactionId : Option String} {now : Timestamp} (hdb : ConservesMoney db)
    (haccounted : Accounted (after changes db))
    (h : Returns hashtext db (Ledger.post ref currency postings transactionId drawn now) result
      changes held) (hsettle : (settle db changes).isOk) :
    ∃ event, Tells (.post ref currency postings transactionId drawn now, .returned ⟨⟩) event ∧
      Bank.Step db.bank event (after changes db).bank := by
  obtain ⟨journal, entries, habsent, -, rfl, hrecords, hall⟩ := Ledger.post_inserts h
  refine ⟨_, .posted ref currency postings transactionId drawn now, ?_⟩
  have hsame : postings.map LedgerPosting.signed = entries.map LedgerEntryRow.signed := by
    clear h hsettle haccounted hall
    induction hrecords with
    | nil => rfl
    | cons hrecord _ ih => rw [List.map_cons, List.map_cons, signed_of_side hrecord, ih]
  -- The trigger has let the journal through, so it balances, and its signed amounts are nothing in
  -- all.
  have hbalances : Balances entries :=
    hdb.consistent.balances_of_post habsent (fun entry hentry => (hall entry hentry).1) hsettle
  have hnothing : ((entries.map LedgerEntryRow.signed).map Prod.snd).sum = 0 := by
    calc ((entries.map LedgerEntryRow.signed).map Prod.snd).sum
        = (entries.map Ledger.signedAmount).sum := by rw [List.map_map]; rfl
      _ = total "debit" entries - total "credit" entries := sum_signedAmount entries
      _ = 0 := by rw [hbalances.totals, sub_self]
  have hthere (entry : String × ℤ) (hentry : entry ∈ entries.map LedgerEntryRow.signed) :
      db.bank.accounts entry.1 = some journal.currency := by
    obtain ⟨row, hrow, rfl⟩ := List.mem_map.mp hentry
    have hafter : row ∈ (after (.insertLedgerTransaction journal ::
        entries.map .insertLedgerEntry) db).ledgerEntries := by
      rw [after_cons, after_insertLedgerEntries]
      exact List.mem_append_right _ hrow
    obtain ⟨account, haccount, hcurrency⟩ := haccounted.entries row hafter
    rw [after_cons, after_insertLedgerEntries] at haccount
    have haccount : db.ledgerAccounts.find? row.accountId = some account := haccount
    show (db.ledgerAccounts.find? row.accountId).map _ = _
    rw [haccount, Option.map_some, hcurrency, (hall row hrow).2.2]
  rw [bank_insertJournal, hsame]
  exact .posted hthere hnothing

/-- `create_account` opens an account of the bank. -/
theorem tells_of_createAccount {account result : LedgerAccount}
    (h : Returns hashtext db (Ledger.createAccount account) result changes held) :
    ∃ event, Tells (.lifecycle (.createAccount account), .returned ⟨⟩) event ∧
      Bank.Step db.bank event (after changes db).bank := by
  obtain ⟨row, hrow, hlength, habsent, rfl, -⟩ := Ledger.createAccount_inserts h
  refine ⟨_, .opened account, ?_⟩
  have hid : row.id = account.id := (ledgerAccountRow_eq_ok hrow).1
  have hcurrency : row.currency = upper account.currency := by
    unfold ledgerAccountRow at hrow
    simp only [bind_eq_ok, text_eq_ok, pure_eq_ok] at hrow
    obtain ⟨-, -, -, -, -, -, padded, hpadded, rfl⟩ := hrow
    rw [bpchar_of_length hlength] at hpadded
    cases hpadded
    rfl
  rw [after_cons, after_nil, bank_insertLedgerAccount, hid, hcurrency]
  refine .opened ?_
  show (db.ledgerAccounts.find? account.id).map _ = none
  rw [habsent]
  rfl

/-- The step outside authorizes a payment of the bank. -/
theorem tells_of_authorize {id : String} (hpending : db.isPending id = true) :
    Bank.Step db.bank (.authorized id)
      (db.apply (.setPaymentStatus id PaymentStatus.authorized.value)).bank := by
  obtain ⟨payment, hpayment, hstatus⟩ := Option.any_eq_true _ _ |>.mp hpending
  have hstatus : payment.status = PaymentStatus.pending.value := of_decide_eq_true hstatus
  have hfound : db.bank.payments id = some ⟨payment.amount, payment.currency, .pending⟩ := by
    show (db.payments.find? id).bind _ = _
    rw [hpayment, Option.bind_some, PaymentRow.toBank, hstatus, PaymentStatus.ofValue?_value]
    rfl
  rw [bank_setPaymentStatus hpayment]
  exact .authorized hfound rfl

/-- A call that commits is an event of the bank. -/
theorem tells_of_returns {call : LedgerCall} (hdb : ConservesMoney db)
    (h : Returns hashtext db (body sha256 call) ⟨⟩ changes held)
    (hsettle : (settle db changes).isOk) :
    ∃ event, Tells (call, .returned ⟨⟩) event ∧
      Bank.Step db.bank event (after changes db).bank := by
  have haccounted := hdb.accounted.of_returns h
  cases call with
  | lifecycle call =>
    cases call with
    | createPayment request key id now =>
      obtain ⟨result, h⟩ := Engine.executes_forget.mp h
      exact tells_of_creates (PaymentRepository.creates_of_returns h)
    | createAccount account =>
      obtain ⟨result, h⟩ := Engine.executes_forget.mp h
      exact tells_of_createAccount h
    | authorize id =>
      obtain ⟨hpending, rfl, -⟩ := PaymentOperations.authorize_returns h
      exact ⟨_, .authorized id, tells_of_authorize hpending⟩
    | execute call =>
      obtain ⟨result, h⟩ := Engine.executes_forget.mp h
      exact tells_of_executes hdb haccounted (PaymentOperations.executes_of_returns h)
  | post ref currency postings transactionId drawn now =>
    obtain ⟨result, h⟩ := Engine.executes_forget.mp h
    exact tells_of_post hdb haccounted h hsettle

/-! ## Runs -/

/-- A transaction is an event of the bank, whichever way it ends. -/
theorem tells_of_transact {call : LedgerCall} {outcome : Outcome DbError ServiceError PUnit}
    {db' : Database} (hdb : ConservesMoney db)
    (h : (postgres hashtext).transact db (body sha256 call) = (outcome, db')) :
    ∃ event, Tells (call, outcome) event ∧ Bank.Step db.bank event db'.bank := by
  rcases Engine.transact_cases h with ⟨rfl, hnot⟩ | ⟨u, changes, held, rfl, hexec, hsettle, rfl⟩
  · cases outcome with
    | returned u => exact absurd rfl (hnot u)
    | raised e => exact ⟨_, .raised call e, .idle⟩
    | refused r => exact ⟨_, .refused call r, .idle⟩
  · exact tells_of_returns hdb hexec (isOk_settle.mp hsettle)

/-- What has been committed is a bank to which the committed calls have happened, in their order. -/
theorem bank_of_serial {log : List (LedgerCall × Outcome DbError ServiceError PUnit)}
    (h : ((postgres hashtext).serial (· = migrated) (body sha256)).Run log db) :
    ConservesMoney db ∧
      ∃ events, List.Forall₂ Tells log events ∧ Bank.system.Run events db.bank := by
  refine h.log_invariant (P := fun log db => ConservesMoney db ∧
    ∃ events, List.Forall₂ Tells log events ∧ Bank.system.Run events db.bank) ?_ ?_
  · rintro db rfl
    exact ⟨conservesMoney_migrated, [], .nil, Bank.empty, rfl, .nil _⟩
  · rintro log db ⟨call, outcome⟩ db' - ⟨hdb, events, htells, hrun⟩ hstep
    obtain ⟨event, htold, hevent⟩ := tells_of_transact hdb hstep
    refine ⟨?_, events ++ [event], List.rel_append htells (.cons htold .nil),
      Lts.run_concat_iff.mpr ⟨db.bank, hrun, hevent⟩⟩
    exact Engine.serial_step_preserves (fun _ _ _ _ _ hbefore hexec hsettle =>
      hbefore.after_call hexec (isOk_settle.mp hsettle)) hdb hstep

/-- The tables are those of a bank: the calls that have ended are events of it, in the order of
their ends; its balances are those that `account_balance` reads, they are what the events came to,
and together nothing; and each payment has been moved by the operations that led to its status, each
time by its amount. -/
structure KeepsBooks (log : List (LedgerCall × Outcome DbError ServiceError PUnit))
    (db : Database) (events : List BankEvent) : Prop where
  tells : List.Forall₂ Tells log events
  run : Bank.system.Run events db.bank
  balances : ∀ account ∈ db.ledgerAccounts.rows, Ledger.accountBalance db account.id =
    .ok (Bookkeeping.balance (events.flatMap BankEvent.entries) account.id)
  nothing : ∑ id ∈ (db.ledgerAccounts.rows.map LedgerAccountRow.id).toFinset,
    Bookkeeping.balance (events.flatMap BankEvent.entries) id = 0
  moves : ∀ payment ∈ db.payments.rows, ∃ status operations,
    payment.status = status.value ∧ History status operations ∧
      Bank.movesOf payment.id events = operations.map fun operation => (operation, payment.amount)

/-- The calls on payments and on the ledger refine a bank, in every interleaving of their
statements and whichever of them fail. -/
theorem refines_bank {log : List (Option (LedgerCall × Outcome DbError ServiceError PUnit))}
    {s : Engine.Sessions Statement.Answer Database Change Lock ServiceError PUnit LedgerCall}
    (h : (sessions hashtext sha256).Run log s) :
    ∃ events, KeepsBooks log.reduceOption s.committed events := by
  obtain ⟨hmoney, events, htells, hrun⟩ := bank_of_serial (serial_of_sessions h)
  have htold := Bank.told_of_run hrun
  refine ⟨events, htells, hrun, fun account haccount => ?_, ?_, fun payment hpayment => ?_⟩
  · rw [accountBalance_eq (hmoney.accounted.ids account haccount), htold.balances]
  · -- Every account of the bank is a row, so that the sum over the rows leaves none out.
    have hall (id : String) (hid : (s.committed.bank.accounts id).isSome) :
        id ∈ (s.committed.ledgerAccounts.rows.map LedgerAccountRow.id).toFinset := by
      obtain ⟨currency, hcurrency⟩ := Option.isSome_iff_exists.mp hid
      obtain ⟨account, haccount, -⟩ := Option.map_eq_some_iff.mp hcurrency
      obtain ⟨hmem, hkey⟩ := Table.find?_eq_some_iff.mp haccount
      exact List.mem_toFinset.mpr (List.mem_map.mpr ⟨account, hmem, hkey⟩)
    rw [← htold.sum_balances hall]
    exact Finset.sum_congr rfl fun id _ => (htold.balances id).symm
  · obtain ⟨status, -, hstatus, -⟩ := hmoney.consistent.history payment hpayment
    have hfound : s.committed.bank.payments payment.id =
        some ⟨payment.amount, payment.currency, status⟩ := by
      show (s.committed.payments.find? payment.id).bind _ = _
      rw [Table.find?_eq_some_iff.mpr ⟨hpayment, rfl⟩, Option.bind_some, PaymentRow.toBank, hstatus,
        PaymentStatus.ofValue?_value]
      rfl
    have hlived := htold.moves payment.id
    rw [hfound] at hlived
    obtain ⟨operations, hhistory, hmoves⟩ := hlived
    exact ⟨status, operations, hstatus, hhistory, hmoves⟩

/-- The capture and the sale, in which one call raises: the events of the bank are seven. -/
theorem refines_bank_captureAndSale : ∃ s log events, captured = some (s, log) ∧
    KeepsBooks log.reduceOption s.committed events ∧ events.length = 7 := by
  have hplayed : captured.map (fun result => result.2.reduceOption.length) = some 7 := by
    decide
  obtain ⟨⟨s, log⟩, hresult, hlength⟩ := Option.map_eq_some_iff.mp hplayed
  have hrun : (sessions LifecycleCall.hashes LifecycleCall.digests).Run log s :=
    ⟨⟨migrated, ∅⟩, ⟨rfl, rfl⟩, Lts.steps_of_play hresult⟩
  obtain ⟨events, hbooks⟩ := refines_bank hrun
  exact ⟨s, log, events, hresult, hbooks, hbooks.tells.length_eq.symm.trans hlength⟩

end LedgerCall

end AtlasPay
