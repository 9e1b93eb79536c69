import AtlasPay.Database.Isolation
import AtlasPay.Library.ReadCommitted

/-!
# Statements that answer the same

For each statement, when a program that starts with it is steady: whatever the locks that it holds
leave to others, the statement is answered the same, takes the same locks, and the rest is steady.
A statement whose answer is not protected by a lock may only be one after which the program raises,
or cannot tell the answers apart.
-/

namespace AtlasPay

namespace Database

variable {hashtext : String → ℤ} {keeps : PaymentRow → PaymentRow → Prop} {db : Database}
  {held : List Lock} {α : Type} {becomes : α → α → Prop}

/-- A program is steady on PostgreSQL, against what its locks leave to others. -/
abbrev Steady (hashtext : String → ℤ) (keeps : PaymentRow → PaymentRow → Prop)
    (becomes : α → α → Prop) (held : List Lock) (db : Database) (p : Service α) : Prop :=
  (postgres hashtext).Steady (Rely hashtext keeps) becomes held db p

/-- A program that starts with a statement is steady when the statement is answered the same, with
the same locks, and the rest is steady. -/
theorem steady_call {s : Statement} {next : s.Answer → Service α}
    (hsame : ∀ answer changes, s.run db = .ok (answer, changes) → (next answer).isFail = false →
      ∀ locks db', (∀ lock ∈ held, lock ∈ locks) → (∀ lock ∈ s.locks hashtext db, lock ∈ locks) →
        Rely hashtext keeps locks db db' →
        s.run db' = .ok (answer, changes) ∧ s.locks hashtext db' = s.locks hashtext db ∧
          Rely hashtext keeps locks (after changes db) (after changes db'))
    (hnext : ∀ answer changes, s.run db = .ok (answer, changes) → (next answer).isFail = false →
      Steady hashtext keeps becomes (held ++ s.locks hashtext db) (after changes db) (next answer)) :
    Steady hashtext keeps becomes held db (.call s next) := by
  refine .call (fun answer changes hrun hlive locks db' hlocks hrely => ?_) hnext
  obtain ⟨hheld, htaken⟩ := List.forall_mem_append.mp hlocks
  obtain ⟨hrun', hsub, hafter⟩ := hsame answer changes hrun hlive locks db' hheld htaken hrely
  refine ⟨⟨answer, hrun', .same _⟩, ?_, hafter⟩
  change s.locks hashtext db' ⊆ s.locks hashtext db
  rw [hsub]
  exact List.Subset.refl _

/-- A program that starts with an insert is steady when what the insert needs stays so under its
locks, and the rest is steady. -/
theorem Inserts.steady {s : Statement} {u : s.Answer} {ρ : Type} {ready : Database → ρ → Prop}
    {change : ρ → Change} {locks : List Lock} (h : Inserts hashtext s u ready change locks)
    {next : s.Answer → Service α}
    (hstays : ∀ row, ready db row → ∀ others db', (∀ lock ∈ held, lock ∈ others) →
      (∀ lock ∈ locks, lock ∈ others) → Rely hashtext keeps others db db' →
      ready db' row ∧ Rely hashtext keeps others (db.apply (change row)) (db'.apply (change row)))
    (hnext : ∀ row, ready db row →
      Steady hashtext keeps becomes (held ++ locks) (db.apply (change row)) (next u)) :
    Steady hashtext keeps becomes held db (.call s next) := by
  refine steady_call (fun answer changes hrun hlive others db' hheld htaken hrely => ?_)
    fun answer changes hrun hlive => ?_
  -- The insert goes through again with the same row.
  · obtain ⟨row, hready, rfl, rfl⟩ := (h.run db answer changes).mp hrun
    rw [h.locks db row hready] at htaken ⊢
    obtain ⟨hready', hafter⟩ := hstays row hready others db' hheld htaken hrely
    exact ⟨(h.run db' answer _).mpr ⟨row, hready', rfl, rfl⟩, h.locks db' row hready', hafter⟩
  · obtain ⟨row, hready, rfl, rfl⟩ := (h.run db answer changes).mp hrun
    rw [h.locks db row hready]
    exact hnext row hready

/-! ## Statements that read -/

/-- An advisory lock. -/
theorem steady_advisoryXactLock {key : String} {next : Unit → Service α}
    (hnext : Steady hashtext keeps becomes (held ++ [.advisory (hashtext key)]) db (next ())) :
    Steady hashtext keeps becomes held db (.call (.advisoryXactLock key) next) := by
  refine steady_call (fun answer changes h hlive locks db' hheld htaken hrely => ?_)
    fun answer changes h hlive => ?_
  · obtain ⟨-, rfl⟩ := advisoryXactLock_eq_ok.mp h
    exact ⟨h, rfl, hrely⟩
  · obtain ⟨-, rfl⟩ := advisoryXactLock_eq_ok.mp h
    exact hnext

/-- An operation by its key, under the advisory lock of the key. -/
theorem steady_selectOperation {key : String} {next : Option PaymentOperationRow → Service α}
    (hlock : .advisory (hashtext key) ∈ held)
    (hnext : Steady hashtext keeps becomes held db
      (next (db.paymentOperations.findBy PaymentOperationRow.idempotencyKey key))) :
    Steady hashtext keeps becomes held db (.call (.selectOperation key) next) := by
  refine steady_call (fun answer changes h hlive locks db' hheld htaken hrely => ?_)
    fun answer changes h hlive => ?_
  · obtain ⟨hkey, rfl, rfl⟩ := selectOperation_eq_ok.mp h
    have hsame := hrely.operationKeys key (.inr (hheld _ hlock))
    exact ⟨selectOperation_eq_ok.mpr ⟨hkey, hsame.symm, rfl⟩, rfl, hrely⟩
  · obtain ⟨hkey, rfl, rfl⟩ := selectOperation_eq_ok.mp h
    change Steady hashtext keeps becomes (held ++ []) db _
    rw [List.append_nil]
    exact hnext

/-- A payment that is locked, by a program that raises where there is none. -/
theorem steady_selectPaymentForUpdate {id : String} {next : Option PaymentRow → Service α}
    (hmissing : (next none).isFail = true)
    (hnext : ∀ payment, db.payments.find? id = some payment →
      Steady hashtext keeps becomes (held ++ [.payment id]) db (next (some payment))) :
    Steady hashtext keeps becomes held db (.call (.selectPaymentForUpdate id) next) := by
  have hfound : ∀ answer changes,
      (Statement.selectPaymentForUpdate id).run db = .ok (answer, changes) →
      (next answer).isFail = false → Storable id ∧ changes = [] ∧
        ∃ payment, db.payments.find? id = some payment ∧ answer = some payment := by
    intro answer changes h hlive
    obtain ⟨hid, rfl, rfl⟩ := selectPayment_eq_ok.mp h
    cases hfind : db.payments.find? id with
    | none =>
      rw [hfind, hmissing] at hlive
      cases hlive
    | some payment => exact ⟨hid, rfl, payment, rfl, rfl⟩
  have hlocks : ∀ {db : Database} {payment : PaymentRow}, db.payments.find? id = some payment →
      (Statement.selectPaymentForUpdate id).locks hashtext db = [.payment id] := by
    intro db payment hfind
    simp [Statement.locks, hfind]
  refine steady_call (fun answer changes h hlive locks db' hheld htaken hrely => ?_)
    fun answer changes h hlive => ?_
  · obtain ⟨hid, rfl, payment, hfind, rfl⟩ := hfound answer changes h hlive
    rw [hlocks hfind] at htaken ⊢
    -- The lock that the statement takes keeps the row.
    have hfind' : db'.payments.find? id = some payment :=
      (hrely.payments.same id (htaken _ List.mem_cons_self)).trans hfind
    exact ⟨selectPayment_eq_ok.mpr ⟨hid, hfind'.symm, rfl⟩, hlocks hfind', hrely⟩
  · obtain ⟨hid, rfl, payment, hfind, rfl⟩ := hfound answer changes h hlive
    rw [hlocks hfind]
    exact hnext payment hfind

/-- A payment that is not locked, by a program that raises where there is none, and that ends with a
result which becomes that of what the row may have become. -/
theorem steady_selectPayment {id : String} {next : Option PaymentRow → Service α}
    (hmissing : (next none).isFail = true)
    (hkept : ∀ payment payment', db.payments.find? id = some payment → keeps payment payment' →
      (next (some payment)).isFail = false →
        (next (some payment)).Becomes becomes (next (some payment')))
    (hnext : ∀ payment, db.payments.find? id = some payment →
      Steady hashtext keeps becomes held db (next (some payment))) :
    Steady hashtext keeps becomes held db (.call (.selectPayment id) next) := by
  have hfound : ∀ answer changes, (Statement.selectPayment id).run db = .ok (answer, changes) →
      (next answer).isFail = false → Storable id ∧ changes = [] ∧
        ∃ payment, db.payments.find? id = some payment ∧ answer = some payment := by
    intro answer changes h hlive
    obtain ⟨hid, rfl, rfl⟩ := selectPayment_eq_ok.mp h
    cases hfind : db.payments.find? id with
    | none =>
      rw [hfind, hmissing] at hlive
      cases hlive
    | some payment => exact ⟨hid, rfl, payment, rfl, rfl⟩
  refine .call (fun answer changes h hlive locks db' hlocks hrely => ?_)
    fun answer changes h hlive => ?_
  · obtain ⟨hid, rfl, payment, hfind, rfl⟩ := hfound answer changes h hlive
    obtain ⟨payment', hfind', hkeep⟩ := hrely.payments.stays id payment hfind
    exact ⟨⟨some payment', selectPayment_eq_ok.mpr ⟨hid, hfind'.symm, rfl⟩,
      hkept payment payment' hfind hkeep hlive⟩, List.Subset.refl _, hrely⟩
  · obtain ⟨hid, rfl, payment, hfind, rfl⟩ := hfound answer changes h hlive
    change Steady hashtext keeps becomes (held ++ []) db (next (some payment))
    rw [List.append_nil]
    exact hnext payment hfind

/-- A key, by a program that raises where there is none. -/
theorem steady_selectIdempotencyKey {key : String} {next : Option IdempotencyKeyRow → Service α}
    (hmissing : (next none).isFail = true)
    (hnext : ∀ row, db.idempotencyKeys.find? key = some row →
      Steady hashtext keeps becomes held db (next (some row))) :
    Steady hashtext keeps becomes held db (.call (.selectIdempotencyKey key) next) := by
  have hfound : ∀ answer changes,
      (Statement.selectIdempotencyKey key).run db = .ok (answer, changes) →
      (next answer).isFail = false → Storable key ∧ changes = [] ∧
        ∃ row, db.idempotencyKeys.find? key = some row ∧ answer = some row := by
    intro answer changes h hlive
    obtain ⟨hkey, rfl, rfl⟩ := selectIdempotencyKey_eq_ok.mp h
    cases hfind : db.idempotencyKeys.find? key with
    | none =>
      rw [hfind, hmissing] at hlive
      cases hlive
    | some row => exact ⟨hkey, rfl, row, rfl, rfl⟩
  refine steady_call (fun answer changes h hlive locks db' hheld htaken hrely => ?_)
    fun answer changes h hlive => ?_
  · obtain ⟨hkey, rfl, row, hfind, rfl⟩ := hfound answer changes h hlive
    obtain ⟨row', hfind', rfl⟩ := hrely.idempotencyKeys.stays key row hfind
    exact ⟨selectIdempotencyKey_eq_ok.mpr ⟨hkey, hfind'.symm, rfl⟩, rfl, hrely⟩
  · obtain ⟨hkey, rfl, row, hfind, rfl⟩ := hfound answer changes h hlive
    change Steady hashtext keeps becomes (held ++ []) db _
    rw [List.append_nil]
    exact hnext row hfind

/-! ## Statements that write -/

/-- A new payment. -/
theorem steady_insertPayment (hkeeps : ∀ row, keeps row row) {payment : Payment}
    {next : Unit → Service α}
    (hnext : ∀ row, paymentRow payment = .ok row → db.payments.find? payment.id = none →
      Steady hashtext keeps becomes (held ++ [.payment payment.id]) (db.apply (.insertPayment row))
        (next ())) :
    Steady hashtext keeps becomes held db (.call (.insertPayment payment) next) := by
  refine (inserts_payment payment).steady
    (fun row hready others db' hheld htaken hrely => ?_) fun row hready => ?_
  · obtain ⟨hrow, habsent⟩ := hready
    have habsent' : db'.payments.find? _ = none :=
      (hrely.payments.same _ (htaken _ List.mem_cons_self)).trans habsent
    exact ⟨⟨hrow, habsent'⟩, hrely.insertPayment hkeeps row⟩
  · exact hnext row hready.1 hready.2

/-- A key, for a payment that is locked. That it is taken stays so; that it is not is locked. -/
theorem steady_claimIdempotencyKey {key paymentId : String} {requestFingerprint : Digest}
    {next : Option String → Service α} (hlock : .payment paymentId ∈ held)
    (htaken : ∀ row, db.idempotencyKeys.find? key = some row →
      Steady hashtext keeps becomes held db (next none))
    (hclaimed : db.idempotencyKeys.find? key = none →
      Steady hashtext keeps becomes (held ++ [.idempotencyKey key])
        (db.apply (.insertIdempotencyKey ⟨key, requestFingerprint, paymentId⟩))
        (next (some paymentId))) :
    Steady hashtext keeps becomes held db
      (.call (.claimIdempotencyKey key requestFingerprint paymentId) next) := by
  have hfound : ∀ {db : Database}, (db.idempotencyKeys.find? key).isSome →
      (Statement.claimIdempotencyKey key requestFingerprint paymentId).locks hashtext db = [] := by
    intro db hthere
    rw [Statement.locks, if_pos hthere]
  have hfree : ∀ {db : Database}, db.idempotencyKeys.find? key = none →
      (Statement.claimIdempotencyKey key requestFingerprint paymentId).locks hashtext db =
        [.idempotencyKey key] := by
    intro db habsent
    simp [Statement.locks, habsent]
  refine steady_call (fun answer changes h hlive locks db' hheld hlocks hrely => ?_)
    fun answer changes h hlive => ?_
  -- A key that is taken stays so; one that is free is locked, as is the payment that it refers to.
  · obtain ⟨hkey, hid, ⟨hthere, rfl, rfl⟩ | ⟨habsent, hpayment, rfl, rfl⟩⟩ :=
      claimIdempotencyKey_eq_ok.mp h
    · obtain ⟨row, hrow⟩ := Option.isSome_iff_exists.mp hthere
      obtain ⟨row', hrow', -⟩ := hrely.idempotencyKeys.stays key row hrow
      have hthere' : (db'.idempotencyKeys.find? key).isSome :=
        Option.isSome_iff_exists.mpr ⟨row', hrow'⟩
      rw [hfound hthere, hfound hthere']
      exact ⟨claimIdempotencyKey_eq_ok.mpr ⟨hkey, hid, .inl ⟨hthere', rfl, rfl⟩⟩, rfl, hrely⟩
    · rw [hfree habsent] at hlocks ⊢
      have hlocked : Lock.idempotencyKey key ∈ locks := hlocks _ List.mem_cons_self
      have habsent' : db'.idempotencyKeys.find? key = none :=
        (hrely.idempotencyKeys.same key hlocked).trans habsent
      have hpayment' : (db'.payments.find? paymentId).isSome := by
        rw [hrely.payments.same paymentId (hheld _ hlock)]
        exact hpayment
      exact ⟨claimIdempotencyKey_eq_ok.mpr ⟨hkey, hid, .inr ⟨habsent', hpayment', rfl, rfl⟩⟩,
        hfree habsent', hrely.insertIdempotencyKey hlocked habsent⟩
  · obtain ⟨hkey, hid, ⟨hthere, rfl, rfl⟩ | ⟨habsent, hpayment, rfl, rfl⟩⟩ :=
      claimIdempotencyKey_eq_ok.mp h
    · rw [hfound hthere, List.append_nil]
      obtain ⟨row, hrow⟩ := Option.isSome_iff_exists.mp hthere
      exact htaken row hrow
    · rw [hfree habsent]
      exact hclaimed habsent

/-- A payment that is there is deleted: what refers to it is protected by its lock. -/
theorem steady_deletePayment {id : String} {next : Unit → Service α}
    (hthere : (db.payments.find? id).isSome)
    (hnext : Steady hashtext keeps becomes (held ++ [.payment id]) (db.apply (.deletePayment id))
      (next ())) :
    Steady hashtext keeps becomes held db (.call (.deletePayment id) next) := by
  have hdeleted : ∀ answer changes,
      (Statement.deletePayment id).run db = .ok (answer, changes) →
      Storable id ∧ ¬db.Referenced id ∧ changes = [.deletePayment id] := by
    intro answer changes h
    obtain ⟨hid, ⟨hnone, -⟩ | ⟨-, hfree, rfl⟩⟩ := deletePayment_eq_ok.mp h
    · simp [hnone] at hthere
    · exact ⟨hid, hfree, rfl⟩
  refine steady_call (fun answer changes h hlive locks db' hheld htaken hrely => ?_)
    fun answer changes h hlive => ?_
  · obtain ⟨hid, hfree, rfl⟩ := hdeleted answer changes h
    rw [locks_deletePayment hthere] at htaken ⊢
    have hlocked : Lock.payment id ∈ locks := htaken _ List.mem_cons_self
    have hthere' : (db'.payments.find? id).isSome := by
      rw [hrely.payments.same id hlocked]
      exact hthere
    -- While the payment is locked nothing comes to refer to it.
    have hfree' : ¬db'.Referenced id := by
      rw [hrely.references id hlocked]
      exact hfree
    exact ⟨deletePayment_eq_ok.mpr ⟨hid, .inr ⟨hthere', hfree', rfl⟩⟩,
      locks_deletePayment hthere', hrely.deletePayment id⟩
  · obtain ⟨-, -, rfl⟩ := hdeleted answer changes h
    rw [locks_deletePayment hthere]
    exact hnext

/-- The status of a payment that is there is set. -/
theorem steady_updatePaymentStatus {id : String} {status : PaymentStatus}
    {next : Unit → Service α}
    (hkeeps : ∀ row row', keeps row row' →
      keeps (setStatus id status.value row) (setStatus id status.value row'))
    (hthere : (db.payments.find? id).isSome)
    (hnext : Steady hashtext keeps becomes (held ++ [.payment id])
      (db.apply (.setPaymentStatus id status.value)) (next ())) :
    Steady hashtext keeps becomes held db (.call (.updatePaymentStatus id status) next) := by
  have hset : ∀ answer changes,
      (Statement.updatePaymentStatus id status).run db = .ok (answer, changes) →
      Storable id ∧ changes = [.setPaymentStatus id status.value] := by
    intro answer changes h
    obtain ⟨hid, ⟨hnone, -⟩ | ⟨-, rfl⟩⟩ := updatePaymentStatus_eq_ok.mp h
    · simp [hnone] at hthere
    · exact ⟨hid, rfl⟩
  refine steady_call (fun answer changes h hlive locks db' hheld htaken hrely => ?_)
    fun answer changes h hlive => ?_
  · obtain ⟨hid, rfl⟩ := hset answer changes h
    rw [locks_updatePaymentStatus hthere] at htaken ⊢
    have hthere' : (db'.payments.find? id).isSome := by
      rw [hrely.payments.same id (htaken _ List.mem_cons_self)]
      exact hthere
    exact ⟨updatePaymentStatus_eq_ok.mpr ⟨hid, .inr ⟨hthere', rfl⟩⟩,
      locks_updatePaymentStatus hthere', hrely.setPaymentStatus hkeeps⟩
  · obtain ⟨-, rfl⟩ := hset answer changes h
    rw [locks_updatePaymentStatus hthere]
    exact hnext

/-- A pending payment is authorized, by a program that raises where it is not pending. -/
theorem steady_authorizePayment {id : String} {next : Bool → Service α}
    (hkeeps : ∀ row row', keeps row row' →
      keeps (setStatus id PaymentStatus.authorized.value row)
        (setStatus id PaymentStatus.authorized.value row'))
    (hmissing : (next false).isFail = true)
    (hnext : Steady hashtext keeps becomes (held ++ [.payment id])
      (db.apply (.setPaymentStatus id PaymentStatus.authorized.value)) (next true)) :
    Steady hashtext keeps becomes held db (.call (.authorizePayment id) next) := by
  have hlocks : ∀ {db : Database}, db.isPending id = true →
      (Statement.authorizePayment id).locks hashtext db = [.payment id] := by
    intro db hpending
    rw [Statement.locks, if_pos hpending]
  -- Only a payment that is pending lets the program go on.
  have hset : ∀ answer changes, (Statement.authorizePayment id).run db = .ok (answer, changes) →
      (next answer).isFail = false → Storable id ∧ db.isPending id = true ∧ answer = true ∧
        changes = [.setPaymentStatus id PaymentStatus.authorized.value] := by
    intro answer changes h hlive
    obtain ⟨hid, rfl, rfl⟩ := authorizePayment_eq_ok.mp h
    cases hpending : db.isPending id with
    | false =>
      rw [hpending, hmissing] at hlive
      cases hlive
    | true => exact ⟨hid, rfl, rfl, rfl⟩
  refine steady_call (fun answer changes h hlive locks db' hheld htaken hrely => ?_)
    fun answer changes h hlive => ?_
  · obtain ⟨hid, hpending, rfl, rfl⟩ := hset answer changes h hlive
    rw [hlocks hpending] at htaken ⊢
    -- The lock keeps the row, so the payment is pending there too.
    have hpending' : db'.isPending id = true := by
      unfold isPending
      rw [hrely.payments.same id (htaken _ List.mem_cons_self)]
      exact hpending
    refine ⟨authorizePayment_eq_ok.mpr ⟨hid, hpending'.symm, ?_⟩, hlocks hpending',
      hrely.setPaymentStatus hkeeps⟩
    rw [if_pos hpending']
  · obtain ⟨-, hpending, rfl, rfl⟩ := hset answer changes h hlive
    rw [hlocks hpending]
    exact hnext

/-- A new account. -/
theorem steady_insertLedgerAccount {id name currency : String} {next : Unit → Service α}
    (hnext : ∀ row, ledgerAccountRow id name currency = .ok row →
      Steady hashtext keeps becomes (held ++ [.ledgerAccount id])
        (db.apply (.insertLedgerAccount row)) (next ())) :
    Steady hashtext keeps becomes held db (.call (.insertLedgerAccount id name currency) next) := by
  refine (inserts_ledgerAccount id name currency).steady
    (fun row hready others db' hheld htaken hrely => ?_) fun row hready => ?_
  · obtain ⟨hrow, habsent⟩ := hready
    have habsent' : db'.ledgerAccounts.find? _ = none :=
      (hrely.ledgerAccounts.same _ (htaken _ List.mem_cons_self)).trans habsent
    exact ⟨⟨hrow, habsent'⟩, hrely.insertLedgerAccount row⟩
  · exact hnext row hready.1

/-- A new journal. -/
theorem steady_insertLedgerTransaction {id reference currency : String} {next : Unit → Service α}
    (hnext : ∀ row, ledgerTransactionRow id reference currency = .ok row →
      Steady hashtext keeps becomes (held ++ [.ledgerTransaction id])
        (db.apply (.insertLedgerTransaction row)) (next ())) :
    Steady hashtext keeps becomes held db
      (.call (.insertLedgerTransaction id reference currency) next) := by
  refine (inserts_ledgerTransaction id reference currency).steady
    (fun row hready others db' hheld htaken hrely => ?_) fun row hready => ?_
  · obtain ⟨hrow, habsent⟩ := hready
    have habsent' : db'.ledgerTransactions.find? _ = none :=
      (hrely.ledgerTransactions.same _ (htaken _ List.mem_cons_self)).trans habsent
    exact ⟨⟨hrow, habsent'⟩, hrely.insertLedgerTransaction row⟩
  · exact hnext row hready.1

/-- A new entry: its journal and its account stay. -/
theorem steady_insertLedgerEntry {transactionId accountId side currency : String} {amount : ℤ}
    {now : Timestamp} {next : Unit → Service α}
    (hnext : ∀ row, ledgerEntryRow transactionId accountId side amount currency now = .ok row →
      Steady hashtext keeps becomes held (db.apply (.insertLedgerEntry row)) (next ())) :
    Steady hashtext keeps becomes held db
      (.call (.insertLedgerEntry transactionId accountId side amount currency now) next) := by
  refine (inserts_ledgerEntry transactionId accountId side amount currency now).steady
    (fun row hready others db' hheld htaken hrely => ?_) fun row hready => ?_
  · obtain ⟨hrow, ⟨journal, hjournal, hsame⟩, account, haccount, hsame'⟩ := hready
    obtain ⟨journal, hjournal, rfl⟩ := hrely.ledgerTransactions.stays _ _ hjournal
    obtain ⟨account, haccount, rfl⟩ := hrely.ledgerAccounts.stays _ _ haccount
    exact ⟨⟨hrow, ⟨_, hjournal, hsame⟩, _, haccount, hsame'⟩, hrely.insertLedgerEntry row⟩
  · rw [List.append_nil]
    exact hnext row hready.1

/-- A new operation: its payment and its journal stay. -/
theorem steady_insertPaymentOperation {row : PaymentOperationRow} {next : Unit → Service α}
    (hnext : Steady hashtext keeps becomes
      (held ++ [.operation row.id, .operationKey row.idempotencyKey,
        .operationJournal row.journalTransactionId])
      (db.apply (.insertPaymentOperation row)) (next ())) :
    Steady hashtext keeps becomes held db (.call (.insertPaymentOperation row) next) := by
  refine (inserts_paymentOperation row).steady
    (fun inserted hready others db' hheld htaken hrely => ?_) fun inserted hready => ?_
  · obtain ⟨rfl, htexts, hnew, hpayment, hjournal⟩ := hready
    obtain ⟨hid, hkey, hunused⟩ := operationExists_eq_false.mp hnew
    have hlocked : Lock.operation inserted.id ∈ others := htaken _ (by simp)
    -- The three locks keep its id, its key and its journal unused.
    have hnew' : db'.operationExists inserted = false := by
      refine operationExists_eq_false.mpr ⟨?_, ?_, ?_⟩
      · rw [hrely.paymentOperations.same inserted.id hlocked]
        exact hid
      · rw [hrely.operationKeys inserted.idempotencyKey (.inl (htaken _ (by simp)))]
        exact hkey
      · rw [hrely.operationJournals inserted.journalTransactionId (htaken _ (by simp))]
        exact hunused
    -- What it refers to is not locked, but payments and journals are not deleted.
    have hpayment' : (db'.payments.find? inserted.paymentId).isSome := by
      obtain ⟨payment, hpayment⟩ := Option.isSome_iff_exists.mp hpayment
      obtain ⟨payment', hpayment', -⟩ := hrely.payments.stays _ _ hpayment
      exact Option.isSome_iff_exists.mpr ⟨payment', hpayment'⟩
    have hjournal' : (db'.ledgerTransactions.find? inserted.journalTransactionId).isSome := by
      obtain ⟨journal, hjournal⟩ := Option.isSome_iff_exists.mp hjournal
      obtain ⟨journal', hjournal', -⟩ := hrely.ledgerTransactions.stays _ _ hjournal
      exact Option.isSome_iff_exists.mpr ⟨journal', hjournal'⟩
    exact ⟨⟨rfl, htexts, hnew', hpayment', hjournal'⟩, hrely.insertPaymentOperation hlocked hid⟩
  · obtain ⟨rfl, -⟩ := hready
    exact hnext

/-- A new event. -/
theorem steady_insertOutboxEvent {id aggregateType aggregateId eventType : String}
    {payload : JsonObject} {now : Timestamp} {next : Unit → Service α}
    (hnext : ∀ row, outboxEventRow id aggregateType aggregateId eventType payload now = .ok row →
      Steady hashtext keeps becomes (held ++ [.outboxEvent id]) (db.apply (.insertOutboxEvent row))
        (next ())) :
    Steady hashtext keeps becomes held db
      (.call (.insertOutboxEvent id aggregateType aggregateId eventType payload now) next) := by
  refine (inserts_outboxEvent id aggregateType aggregateId eventType payload now).steady
    (fun row hready others db' hheld htaken hrely => ?_) fun row hready => ?_
  · obtain ⟨hrow, habsent⟩ := hready
    have habsent' : db'.outboxEvents.find? _ = none :=
      (hrely.outboxEvents.same _ (htaken _ List.mem_cons_self)).trans habsent
    exact ⟨⟨hrow, habsent'⟩, hrely.insertOutboxEvent row⟩
  · exact hnext row hready.1

end Database

end AtlasPay
