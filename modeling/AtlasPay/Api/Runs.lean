import AtlasPay.Api.Handlers
import AtlasPay.Payments.InMemory
import AtlasPay.Payments.Permanence

/-!
# The API and what runs behind it

Requests of any number of clients, while operations are executed, accounts are opened and journals
are posted behind the API, with the statements of the transactions in any order that PostgreSQL
admits. What is committed is what the calls would commit one after the other, and their answers are
what they would be but for the status of a payment, which may have moved since it was read
(`exists_serial_of_run`).
-/

namespace AtlasPay

open Database
open Relation (ReflTransGen)

namespace Api

/-! ## The requests -/

/-- A payment as it is later: its status may have moved. -/
structure Later (payment payment' : Payment) : Prop where
  same : payment' = { payment with status := payment'.status }
  status : ReflTransGen StatusMove payment.status.value payment'.status.value

/-- A payment is as it is. -/
theorem Later.refl (payment : Payment) : Later payment payment := ⟨rfl, .refl⟩

/-- A payment as it is later than later. -/
theorem Later.trans {payment payment' payment'' : Payment} (h : Later payment payment')
    (h' : Later payment' payment'') : Later payment payment'' := by
  refine ⟨?_, h.status.trans h'.status⟩
  rw [h'.same, h.same]

/-- The requests that create payments, with what a new payment draws, and the calls behind the
API. -/
inductive Call where
  | createPayment (request : CreatePaymentRequest) (idempotencyKey : Option String) (id : String)
      (now : Timestamp)
  | authorize (paymentId : String)
  | createAccount (account : LedgerAccount)
  | execute (call : OperationCall)
  | post (reference currency : String) (postings : List LedgerPosting)
      (transactionId : Option String) (drawn : String) (now : Timestamp)

/-- The calls are some of those of the services. -/
def Call.toServiceCall : Call → ServiceCall
  | createPayment request idempotencyKey id now => .createPayment request idempotencyKey id now
  | authorize paymentId => .authorize paymentId
  | execute call => .execute call
  | createAccount account => .createAccount account
  | post reference currency postings transactionId drawn now =>
    .post reference currency postings transactionId drawn now

/-- What a call returns: nothing behind the API. -/
abbrev Answer := Option (Except ServiceError Payment)

/-- An answer and what it would be later. -/
inductive AnswerLater : Answer → Answer → Prop where
  | same (answer : Answer) : AnswerLater answer answer
  | later {payment payment' : Payment} (h : Later payment payment') :
      AnswerLater (some (.ok payment)) (some (.ok payment'))

/-- An answer that would be another one later, and this still another one. -/
theorem AnswerLater.trans (a b c : Answer) (h : AnswerLater a b) (h' : AnswerLater b c) :
    AnswerLater a c := by
  cases h with
  | same => exact h'
  | later hfirst =>
    cases h' with
    | same => exact .later hfirst
    | later hnext => exact .later (hfirst.trans hnext)

/-- The transaction of a call. -/
def Call.body (sha256 : String → Digest) : Call → Service Answer
  | createPayment request idempotencyKey id now =>
    (PaymentRepository.createPayment sha256 request idempotencyKey id now).bind fun created =>
      .done (some created)
  | authorize paymentId => (PaymentOperations.authorize paymentId).bind fun _ => .done none
  | execute call => (PaymentOperations.execute sha256 call).bind fun _ => .done none
  | createAccount account => (Ledger.createAccount account).bind fun _ => .done none
  | post reference currency postings transactionId drawn now =>
    (Ledger.post reference currency postings transactionId drawn now).bind fun _ => .done none

/-- How a call ends. -/
abbrev Ended := Outcome DbError ServiceError Answer

/-- What the client is answered that asked to create a payment. -/
def answerOf (outcome : Ended) : Option (Except Raised Payment) :=
  match ended outcome with
  | .ok created => created.map createPayment
  | .error e => some (createPayment (.error e))

/-- The open transactions on the tables. -/
abbrev Sessions := Engine.Sessions Statement.Answer Database Change Lock ServiceError Answer Call

/-- What can be seen: a call ends, or a statement of one is executed; a payment is asked for; the
operational snapshot is asked for, when its reader would return or raise something. -/
inductive Event (α : Type) where
  | session (label : Option (Call × Ended))
  | got (paymentId : String) (answer : Except Raised Payment)
  | asked (authorization : Option HeaderValue) (read answer : Except Raised α)

/-- The API, on the migrated database, with snapshots of some type. A payment is read by one
statement, on what is committed. -/
def server (hashtext : String → ℤ) (sha256 : String → Digest) (token : Option String) (α : Type) :
    Lts Sessions (Event α) where
  init s := s.committed = migrated ∧ s.active = ∅
  step s event s' :=
    match event with
    | .session label =>
      ((postgres hashtext).interleaved (Call.body sha256) (· = migrated)).step s label s'
    | .got paymentId answer => s' = s ∧ answer = getPayment (ended
        ((postgres hashtext).transact s.committed (PaymentRepository.get paymentId)).1)
    | .asked authorization read answer =>
      s' = s ∧ answer = getOperationalSnapshot token authorization read

variable {α : Type}

/-- The labels of the transactions. -/
def labels (log : List (Event α)) : List (Option (Call × Ended)) :=
  log.filterMap fun
    | .session label => some label
    | _ => none

/-- The calls that have ended, in the order in which they did. -/
def calls (log : List (Event α)) : List (Call × Ended) := (labels log).reduceOption

/-! ## One call after the other -/

variable {hashtext : String → ℤ} {sha256 : String → Digest} {db db' : Database}
  {changes : List Change} {held : List Lock} {token : Option String}

/-- The status of a payment may be set before and after. -/
theorem continues_setStatus (id : String) (status : PaymentStatus) (row row' : PaymentRow)
    (h : row.Continues row') :
    (setStatus id status.value row).Continues (setStatus id status.value row') := by
  unfold setStatus
  rw [h.id]
  split
  case isTrue => exact ⟨rfl, h.amount, h.currency, h.merchantReference, h.createdAt, .refl⟩
  case isFalse => exact h

/-- A status that is read is one after it has moved. -/
theorem isSome_ofValue?_of_moves {status status' : String}
    (h : ReflTransGen StatusMove status status')
    (hstatus : (PaymentStatus.ofValue? status).isSome) :
    (PaymentStatus.ofValue? status').isSome := by
  cases h with
  | refl => exact hstatus
  | tail _ hlast =>
    cases hlast with
    | authorized => rw [PaymentStatus.ofValue?_value]; rfl
    | operation operation => rw [PaymentStatus.ofValue?_value]; rfl

/-- A payment that is read is what its row says. -/
theorem rowToPayment_eq_ok {row : PaymentRow} {payment : Payment} :
    PaymentRepository.rowToPayment row = .ok payment ↔
      ∃ status, PaymentStatus.ofValue? row.status = some status ∧
        payment = ⟨row.id, row.amount, row.currency, row.merchantReference, status,
          row.createdAt⟩ := by
  unfold PaymentRepository.rowToPayment
  cases PaymentStatus.ofValue? row.status with
  | none => exact ⟨nofun, nofun⟩
  | some status =>
    constructor
    · intro h
      exact ⟨status, rfl, (Except.ok.inj h).symm⟩
    · rintro ⟨status', hstatus, rfl⟩
      cases hstatus
      rfl

/-- A row that stays but for its status is read as the payment later. -/
theorem later_of_continues {row row' : PaymentRow} {payment : Payment} (h : row.Continues row')
    (hpayment : PaymentRepository.rowToPayment row = .ok payment) :
    ∃ payment', PaymentRepository.rowToPayment row' = .ok payment' ∧ Later payment payment' := by
  obtain ⟨status, hstatus, rfl⟩ := rowToPayment_eq_ok.mp hpayment
  have hsome : (PaymentStatus.ofValue? row.status).isSome := by
    rw [hstatus]
    rfl
  obtain ⟨status', hstatus'⟩ := Option.isSome_iff_exists.mp (isSome_ofValue?_of_moves h.status hsome)
  refine ⟨_, rowToPayment_eq_ok.mpr ⟨status', hstatus', rfl⟩, ?_, ?_⟩
  · rw [h.id, h.amount, h.currency, h.merchantReference, h.createdAt]
  · rw [PaymentStatus.value_of_ofValue? hstatus, PaymentStatus.value_of_ofValue? hstatus']
    exact h.status

/-- Every call is steady, but for the status in its answer: the payment that a key points to is read
without a lock on its row. -/
theorem steady_body (call : Call) :
    Steady hashtext PaymentRow.Continues AnswerLater [] db (call.body sha256) := by
  cases call with
  | createPayment request key id now =>
    refine PaymentRepository.steady_createPayment PaymentRow.Continues.refl
      fun _ _ _ hcontinues hresult => ?_
    obtain ⟨result', hresult', hlater⟩ := later_of_continues hcontinues hresult
    exact ⟨result', hresult', .later hlater⟩
  | authorize id =>
    exact (PaymentOperations.steady_authorize continues_setStatus).bind_done _
      fun _ _ _ => .same none
  | createAccount account =>
    exact Ledger.steady_createAccount.bind_done _ fun _ _ _ => .same none
  | execute call =>
    exact (PaymentOperations.steady_execute continues_setStatus).bind_done _
      fun _ _ _ => .same none
  | post ref currency postings transactionId drawn now =>
    exact Ledger.steady_post.bind_done _ fun _ _ _ => .same none

/-- What a call changes does not depend on its answer. -/
theorem returns_toServiceCall {call : Call} {answer : Answer}
    (h : Returns hashtext db (call.body sha256) answer changes held) :
    Returns hashtext db (call.toServiceCall.body sha256) ⟨⟩ changes held := by
  cases call with
  | authorize id =>
    obtain ⟨u, h, -⟩ := Engine.executes_bind_done.mp h
    exact h
  | createPayment | createAccount | execute | post =>
    obtain ⟨a, h, -⟩ := Engine.executes_bind_done.mp h
    exact Engine.executes_forget.mpr ⟨a, h⟩

/-- A payment that is there stays, in a later state. -/
theorem rely_of_extends {locks : Set Lock}
    (h : Rely hashtext (fun _ _ => True) locks db db') (hlater : Extends db db') :
    Rely hashtext PaymentRow.Continues locks db db' := by
  refine { h with payments := ⟨h.payments.same, fun id row hrow => ?_⟩ }
  obtain ⟨hmem, hid⟩ := Table.find?_eq_some_iff.mp hrow
  obtain ⟨row', hmem', hcontinues⟩ := hlater.payments.exists_mem hmem
  exact ⟨row', Table.find?_eq_some_iff.mpr ⟨hmem', hcontinues.id.trans hid⟩, hcontinues⟩

/-- What a call commits leaves what others have locked. -/
theorem rely_after {call : Call} {answer : Answer}
    (h : Returns hashtext db (call.body sha256) answer changes held) {locks : Set Lock}
    (hfree : ∀ lock ∈ held, lock ∉ locks) :
    Rely hashtext PaymentRow.Continues locks db (after changes db) := by
  refine rely_of_extends ?_ (ServiceCall.extends_after (returns_toServiceCall h))
  cases call with
  | createPayment request key id now =>
    obtain ⟨created, h, -⟩ := Engine.executes_bind_done.mp h
    exact PaymentRepository.rely_of_creates (fun _ => trivial) (fun _ _ _ _ _ => trivial)
      (PaymentRepository.creates_of_returns h) hfree
  | authorize id =>
    obtain ⟨u, h, -⟩ := Engine.executes_bind_done.mp h
    obtain ⟨hpending, rfl, hlock⟩ := PaymentOperations.authorize_returns h
    exact .of_setPaymentStatus (fun _ => trivial) (fun _ => trivial) (hfree _ hlock)
  | createAccount account =>
    obtain ⟨u, h, -⟩ := Engine.executes_bind_done.mp h
    exact Ledger.rely_of_createAccount (fun _ => trivial) h hfree
  | execute call =>
    obtain ⟨result, h, -⟩ := Engine.executes_bind_done.mp h
    exact PaymentOperations.rely_of_executes (fun _ => trivial) (fun _ _ _ _ _ => trivial)
      (fun _ _ _ => trivial) (PaymentOperations.executes_of_returns h) hfree
  | post ref currency postings transactionId drawn now =>
    obtain ⟨result, h, -⟩ := Engine.executes_bind_done.mp h
    exact Ledger.rely_of_post (fun _ => trivial) (fun _ _ _ _ _ => trivial) h hfree

/-- Requests that only read leave the transactions as they are. -/
theorem interleaved_of_run {log : List (Event α)} {s : Sessions}
    (h : (server hashtext sha256 token α).Run log s) :
    ((postgres hashtext).interleaved (Call.body sha256) (· = migrated)).Run (labels log) s := by
  refine h.log_invariant (P := fun log s =>
    ((postgres hashtext).interleaved (Call.body sha256) (· = migrated)).Run (labels log) s)
    (fun s hinit => ⟨s, hinit, .nil s⟩) fun log s event s' _ ih hstep => ?_
  unfold labels at ih ⊢
  rw [List.filterMap_append]
  cases event with
  | session label => exact Lts.run_concat_iff.mpr ⟨s, ih, hstep⟩
  | got paymentId answer =>
    obtain ⟨rfl, -⟩ := hstep
    rwa [List.filterMap_cons_none rfl, List.filterMap_nil, List.append_nil]
  | asked authorization read answer =>
    obtain ⟨rfl, -⟩ := hstep
    rwa [List.filterMap_cons_none rfl, List.filterMap_nil, List.append_nil]

/-- The locks of the calls cover what these rely on, but for the status of a payment that is read
for an answer. -/
theorem covers : (postgres hashtext).Covers (Call.body sha256)
    (Rely hashtext PaymentRow.Continues) AnswerLater where
  refl := .same
  trans := .trans
  steady _ call := steady_body call
  guarantee _ _ _ _ _ hexec _ _ hfree := rely_after hexec hfree

/-- What concurrent calls have committed is what they would one after the other, and their answers
are what they would be but for the status of a payment, which they may have read earlier. -/
theorem exists_serial_of_run {log : List (Event α)} {s : Sessions}
    (h : (server hashtext sha256 token α).Run log s) :
    ∃ serial, ((postgres hashtext).serial (· = migrated) (Call.body sha256)).Run serial
        s.committed ∧
      List.Forall₂ (Outcome.EndBecomes AnswerLater) (calls log) serial :=
  Engine.exists_serial_of_run covers (interleaved_of_run h)

end Api

end AtlasPay
