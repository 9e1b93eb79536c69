import AtlasPay.Database.Steadiness
import AtlasPay.Payments.Services

/-!
# What the services rely on, and what they leave

For each of the programs that run concurrently, that it is steady: its locks cover what it relies
on. And that what it commits is within what the locks of the others leave to it.
-/

namespace AtlasPay

open Database

variable {hashtext : String → ℤ} {sha256 : String → Digest}
  {keeps : PaymentRow → PaymentRow → Prop} {locks : Set Lock} {db : Database}
  {changes : List Change} {held : List Lock}

/-! ## `create_payment` -/

namespace PaymentRepository

/-- The transaction with a key is steady, with whatever is done with its result at the end, as long
as this becomes what it is for a payment that the one that was read may become. -/
theorem steady_createPaymentTransaction {β : Type} {becomes : β → β → Prop} {payment : Payment}
    {fingerprint : Digest} {key : String} {f : Bool × Option Payment → β}
    (hkeeps : ∀ row, keeps row row)
    (hkept : ∀ row row' result, keeps row row' → rowToPayment row = .ok result →
      ∃ result', rowToPayment row' = .ok result' ∧
        becomes (f (false, some result)) (f (false, some result'))) :
    Steady hashtext keeps becomes [] db
      ((createPaymentTransaction payment fingerprint key).bind fun left => .done (f left)) := by
  unfold createPaymentTransaction
  rw [Program.call_bind]
  refine steady_insertPayment hkeeps fun row hrow habsent => ?_
  have hid : row.id = payment.id := (paymentRow_eq_ok hrow).1
  refine steady_claimIdempotencyKey (List.mem_singleton_self _) (fun existing hexisting => ?_)
    fun hunclaimed => .done _
  -- The key is taken: the candidate, which is locked, is deleted, and the key is read.
  refine steady_deletePayment ?_ (steady_selectIdempotencyKey rfl fun stored hstored => ?_)
  · rw [apply, Table.find?_put, if_pos hid]
    rfl
  · unfold readClaimed
    dsimp only
    split
    · exact .done _
    · refine steady_selectPayment rfl (fun row row' hrow hkeep hlive => ?_) fun row hrow => ?_
      · dsimp only at hlive ⊢
        cases hresult : rowToPayment row with
        | error e =>
          rw [hresult] at hlive
          cases hlive
        | ok result =>
          -- The status may have moved on; what is read is then what it becomes.
          obtain ⟨result', hresult', hbecomes⟩ := hkept row row' result hkeep hresult
          rw [hresult']
          exact .done hbecomes
      · dsimp only
        split
        · exact .done _
        · exact .fail _

/-- `create_payment` is steady, whatever is done with its result. -/
theorem steady_createPayment {β : Type} {becomes : β → β → Prop} {request : CreatePaymentRequest}
    {key : Option String} {id : String} {now : Timestamp} {f : Except ServiceError Payment → β}
    (hkeeps : ∀ row, keeps row row)
    (hkept : ∀ row row' result, keeps row row' → rowToPayment row = .ok result →
      ∃ result', rowToPayment row' = .ok result' ∧ becomes (f (.ok result)) (f (.ok result'))) :
    Steady hashtext keeps becomes [] db
      ((createPayment sha256 request key id now).bind fun result => .done (f result)) := by
  unfold createPayment
  dsimp only
  split
  · exact steady_insertPayment hkeeps fun _ _ _ => .done _
  · exact steady_insertPayment hkeeps fun _ _ _ => .done _
  · rw [Program.bind_assoc]
    exact steady_createPaymentTransaction (f := fun left => f (conclude left)) hkeeps hkept

/-- What `create_payment` commits leaves what others have locked. -/
theorem rely_of_creates (hrefl : ∀ row, keeps row row)
    (htrans : ∀ row row' row'', keeps row row' → keeps row' row'' → keeps row row'')
    {request : CreatePaymentRequest} {key : Option String} {id : String} {now : Timestamp}
    {result : Except ServiceError Payment}
    (h : Creates sha256 db request id now key result changes held)
    (hfree : ∀ lock ∈ held, lock ∉ locks) :
    Rely hashtext keeps locks db (after changes db) := by
  have hinsert : ∀ row, paymentRow (Payment.new request id now) = .ok row →
      db.payments.find? id = none → .payment id ∈ held →
      Rely hashtext keeps locks db (db.apply (.insertPayment row)) := by
    intro row hrow habsent hlock
    have hid : row.id = id := (paymentRow_eq_ok hrow).1
    rw [← hid] at habsent hlock
    exact .of_insertPayment hrefl habsent (hfree _ hlock)
  cases h with
  | unkeyed row hkey hrow habsent hlock => exact hinsert row hrow habsent hlock
  | claimed row hkey hrow habsent hunclaimed hlock hkeyLock =>
    exact (hinsert row hrow habsent hlock).trans htrans
      (.of_insertIdempotencyKey hrefl hunclaimed (hfree _ hkeyLock) (hfree _ hlock))
  | found row existing hkey hrow habsent hexisting hresult =>
    have hid : row.id = id := (paymentRow_eq_ok hrow).1
    -- The candidate is gone again.
    have hsame : after [.insertPayment row, .deletePayment id] db = db := by
      rw [after_cons, after_cons, after_nil, ← hid]
      exact apply_insert_delete (by rwa [hid])
    rw [hsame]
    exact .refl hrefl db

end PaymentRepository

/-! ## `execute` and the step outside -/

namespace PaymentOperations

/-- The writes of `execute` are steady on a payment that is there. -/
theorem steady_record {call : OperationCall} {fingerprint : Digest} {current : PaymentStatus}
    {amount : ℤ} {currency : String}
    (hkeeps : ∀ id (status : PaymentStatus) row row', keeps row row' →
      keeps (setStatus id status.value row) (setStatus id status.value row'))
    (hthere : (db.payments.find? call.paymentId).isSome) :
    Steady hashtext keeps (· = ·) held db (record call fingerprint current amount currency) := by
  unfold record
  refine steady_insertLedgerTransaction fun _ _ => ?_
  refine steady_insertLedgerEntry fun _ _ => ?_
  refine steady_insertLedgerEntry fun _ _ => ?_
  refine steady_updatePaymentStatus (hkeeps _ _) hthere ?_
  refine steady_insertPaymentOperation ?_
  exact steady_insertOutboxEvent fun _ _ => .done _

/-- `execute` is steady: the advisory lock covers the operation that it looks for, and the row lock
the payment. -/
theorem steady_execute {call : OperationCall}
    (hkeeps : ∀ id (status : PaymentStatus) row row', keeps row row' →
      keeps (setStatus id status.value row) (setStatus id status.value row')) :
    Steady hashtext keeps (· = ·) [] db (execute sha256 call) := by
  unfold execute
  dsimp only
  split_ifs
  · exact .fail _
  swap
  · exact .fail _
  refine steady_advisoryXactLock (steady_selectOperation (List.mem_singleton_self _) ?_)
  -- Both answers are covered by the advisory lock.
  cases db.paymentOperations.findBy PaymentOperationRow.idempotencyKey call.idempotencyKey with
  | some existing =>
    dsimp only
    unfold replay
    split
    · exact .fail _
    · split
      · exact .done _
      · exact .fail _
  | none =>
    refine steady_selectPaymentForUpdate rfl fun payment hpayment => ?_
    unfold apply
    dsimp only
    split
    · exact .fail _
    · split
      · exact .fail _
      · refine steady_record hkeeps ?_
        rw [hpayment]
        rfl

/-- The step outside is steady. -/
theorem steady_authorize {id : String}
    (hkeeps : ∀ id (status : PaymentStatus) row row', keeps row row' →
      keeps (setStatus id status.value row) (setStatus id status.value row')) :
    Steady hashtext keeps (· = ·) [] db (authorize id) :=
  steady_authorizePayment (hkeeps _ _) rfl (.done _)

/-- What `execute` commits leaves what others have locked. -/
theorem rely_of_executes (hrefl : ∀ row, keeps row row)
    (htrans : ∀ row row' row'', keeps row row' → keeps row' row'' → keeps row row'')
    (hkeeps : ∀ id (status : PaymentStatus) row, keeps row (setStatus id status.value row))
    {call : OperationCall} {result : OperationResult}
    (h : Executes hashtext sha256 db call result changes held)
    (hfree : ∀ lock ∈ held, lock ∉ locks) :
    Rely hashtext keeps locks db (after changes db) := by
  cases h with
  | replayed existing hexisting hsame hresult => exact .refl hrefl db
  | recorded payment journal debit credit event hdistinct hpayment hstatus hjournal hjournalNew
      hdebit hcredit hnew hevent heventNew hlocks =>
    have hunlocked := fun lock hlock => hfree lock (hlocks lock hlock)
    simp only [List.forall_mem_cons] at hunlocked
    obtain ⟨hadvisory, hpaymentFree, hjournalFree, hidFree, hkeyFree, hjournalKeyFree, heventFree,
      -⟩ := hunlocked
    obtain ⟨hjournalId, -⟩ := ledgerTransactionRow_eq_ok hjournal
    obtain ⟨heventId, -⟩ := outboxEventRow_eq_ok hevent
    obtain ⟨hnewId, -, -⟩ := operationExists_eq_false.mp hnew
    rw [← hjournalId] at hjournalNew hjournalFree
    rw [← heventId] at heventNew heventFree
    have hoperation : ∀ db' : Database, db'.paymentOperations = db.paymentOperations →
        Rely hashtext keeps locks db' (db'.apply (.insertPaymentOperation
          (operationRow call (fingerprint sha256 call) call.operation.transition.1))) := by
      intro db' hsame
      rw [← hsame] at hnewId
      exact .of_insertPaymentOperation hrefl hnewId hidFree hkeyFree hadvisory hjournalKeyFree
        hpaymentFree
    -- One change after the other: each is of a new row, or of one whose lock `execute` holds.
    refine (Rely.of_insertLedgerTransaction hrefl hjournalNew hjournalFree).trans htrans ?_
    refine (Rely.of_insertLedgerEntry hrefl debit).trans htrans ?_
    refine (Rely.of_insertLedgerEntry hrefl credit).trans htrans ?_
    refine (Rely.of_setPaymentStatus hrefl (hkeeps call.paymentId call.operation.transition.2)
      hpaymentFree).trans htrans ?_
    refine Rely.trans htrans (hoperation _ ?_) ?_
    · rfl
    · exact .of_insertOutboxEvent hrefl heventNew heventFree

end PaymentOperations

/-! ## The ledger -/

namespace Ledger

/-- `create_account` is steady. -/
theorem steady_createAccount {account : LedgerAccount} :
    Steady hashtext keeps (· = ·) [] db (createAccount account) := by
  unfold createAccount
  dsimp only
  split
  · exact .fail _
  · exact steady_insertLedgerAccount fun _ _ => .done _

/-- The entries of `post` are steady: their journal and their accounts stay. -/
theorem steady_insertEntries {journalId currency : String} {now : Timestamp}
    {postings : List LedgerPosting} :
    Steady hashtext keeps (· = ·) held db (insertEntries journalId currency now postings) := by
  induction postings generalizing db held with
  | nil => exact .done journalId
  | cons posting postings ih => exact steady_insertLedgerEntry fun _ _ => ih

/-- `post` is steady. -/
theorem steady_post {ref currency drawn : String} {postings : List LedgerPosting}
    {transactionId : Option String} {now : Timestamp} :
    Steady hashtext keeps (· = ·) [] db (post ref currency postings transactionId drawn now) := by
  unfold post
  split
  · exact .fail _
  · dsimp only
    split
    · exact .fail _
    · exact steady_insertLedgerTransaction fun _ _ => steady_insertEntries

/-- What `create_account` commits leaves what others have locked. -/
theorem rely_of_createAccount (hrefl : ∀ row, keeps row row) {account result : LedgerAccount}
    (h : Returns hashtext db (createAccount account) result changes held)
    (hfree : ∀ lock ∈ held, lock ∉ locks) :
    Rely hashtext keeps locks db (after changes db) := by
  obtain ⟨row, hid, habsent, rfl, hlock⟩ := createAccount_returns h
  rw [← hid] at habsent hlock
  exact .of_insertLedgerAccount hrefl habsent (hfree _ hlock)

/-- What `post` commits leaves what others have locked. -/
theorem rely_of_post (hrefl : ∀ row, keeps row row)
    (htrans : ∀ row row' row'', keeps row row' → keeps row' row'' → keeps row row'')
    {ref currency drawn result : String} {postings : List LedgerPosting}
    {transactionId : Option String} {now : Timestamp}
    (h : Returns hashtext db (post ref currency postings transactionId drawn now) result changes
      held)
    (hfree : ∀ lock ∈ held, lock ∉ locks) :
    Rely hashtext keeps locks db (after changes db) := by
  obtain ⟨journal, entries, habsent, hlock, rfl, -⟩ := post_returns h
  have hentries : ∀ db, Rely hashtext keeps locks db
      (after (entries.map .insertLedgerEntry) db) := by
    intro db
    rw [after_insertLedgerEntries]
    exact { Rely.refl hrefl db with }
  rw [after_cons]
  exact (Rely.of_insertLedgerTransaction hrefl habsent (hfree _ hlock)).trans htrans (hentries _)

end Ledger

end AtlasPay
