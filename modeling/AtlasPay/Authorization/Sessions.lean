import AtlasPay.Authorization.Decisions
import AtlasPay.Library.Interference

/-!
# Concurrent calls of `AuthorizationService`

Two calls with one key may both find no decision. What they have seen may then be outdated, so their
runs are not runs of whole transactions: `Progress` says what each has seen and written instead. Its
insert waits for the place of the key in the unique index; the one that comes second is refused and
rolled back. So there is one decision for a key, with one event, and all calls with the key that
return normally return it (`oneDecision_of_run`).

The column of the payment id keeps 128 characters, and spaces beyond them are dropped, while the
response of the call that decides and its event have the payment id as it was given. So this holds
of the runs in which no decision is committed for such a payment id.
-/

namespace AtlasPay

open AuthorizationController (AuthorizationResponse)

/-! ## The places of a decision in the indexes -/

namespace AuthorizationTables

variable {tables : AuthorizationTables}

/-- A decision that is new locks its id and its key. -/
theorem locks_insertDecision {decisionId : Uuid} {key status reason : String}
    {request : AuthorizationController.AuthorizationRequest} {row : AuthorizationDecisionRow}
    (hrow : decisionRow decisionId key request status reason = .ok row)
    (hnew : tables.decisionExists row = false) :
    (AuthorizationStatement.insertDecision decisionId key request status reason).locks tables =
      [.decision row.decisionId, .decisionKey row.key] := by
  unfold AuthorizationStatement.locks
  simp [hrow, hnew]

/-- An event that is new locks its id. -/
theorem locks_insertOutboxEvent {id aggregateType aggregateId eventType : String}
    {payload : JsonObject} {now : Timestamp} (hnew : tables.outboxEvents.find? id = none) :
    (AuthorizationStatement.insertOutboxEvent id aggregateType aggregateId eventType payload
      now).locks tables = [.outboxEvent id] := by
  unfold AuthorizationStatement.locks
  simp [hnew]

/-- A row is new, and its places in the unique indexes are locked. -/
structure Reserves (tables : AuthorizationTables) (row : AuthorizationDecisionRow)
    (held : List AuthorizationLock) : Prop where
  new : tables.decisionExists row = false
  decision : .decision row.decisionId ∈ held
  key : .decisionKey row.key ∈ held

/-- More locks may be taken. -/
theorem Reserves.append {row : AuthorizationDecisionRow} {held : List AuthorizationLock}
    (h : tables.Reserves row held) (more : List AuthorizationLock) :
    tables.Reserves row (held ++ more) :=
  ⟨h.new, List.mem_append_left _ h.decision, List.mem_append_left _ h.key⟩

/-- A row whose places are locked stays new when another one is committed. -/
theorem Reserves.of_commit {row row' : AuthorizationDecisionRow} {event : OutboxEventRow}
    {held held' : List AuthorizationLock} (h : tables.Reserves row held)
    (h' : tables.Reserves row' held') (hdisjoint : List.Disjoint held held') :
    Reserves ⟨tables.decisions.put row, tables.outboxEvents.put event⟩ row' held' := by
  obtain ⟨habsent, -⟩ := decisionExists_eq_false.mp h.new
  obtain ⟨habsent', hkey'⟩ := decisionExists_eq_false.mp h'.new
  have hid : row.decisionId ≠ row'.decisionId := by
    intro heq
    have hlock := h.decision
    rw [heq] at hlock
    exact hdisjoint hlock h'.decision
  have hkey : row.key ≠ row'.key := by
    intro heq
    have hlock := h.key
    rw [heq] at hlock
    exact hdisjoint hlock h'.key
  refine ⟨decisionExists_eq_false.mpr ⟨?_, ?_⟩, h'.decision, h'.key⟩
  · rw [Table.find?_put, if_neg hid]
    exact habsent'
  · have hkeys := hasKey_insertDecision habsent row'.key
    exact fun hthere => (hkeys.mp hthere).elim hkey' hkey

end AuthorizationTables

namespace AuthorizationService

variable {tables : AuthorizationTables} {call : AuthorizeCall}

/-! ## One call -/

/-- What is left of a call, what it has written and what it has locked: it may have found a
decision, which is still there, or no decision, which may be outdated. -/
inductive Progress (tables : AuthorizationTables) (call : AuthorizeCall) :
    Program AuthorizationStatement.Answer Empty AuthorizationResponse →
      List AuthorizationChange → List AuthorizationLock → Prop where
  | looking : Progress tables call (authorize call) [] []
  | found {held : List AuthorizationLock} (row : AuthorizationDecisionRow)
      (hrow : row ∈ tables.decisions.rows) (hkey : row.key = call.key) :
      Progress tables call (.done row.response) [] held
  | deciding : Progress tables call (recordDecision call) [] []
  | recorded {held : List AuthorizationLock} (row : AuthorizationDecisionRow)
      (hrow : AuthorizationTables.decisionRow call.decisionId call.key call.request
        (status call.request) (reason (status call.request)) = .ok row)
      (hreserves : tables.Reserves row held) :
      Progress tables call (recordEvent call) [.insertDecision row] held
  | announced {held : List AuthorizationLock} (row : AuthorizationDecisionRow)
      (event : OutboxEventRow) (hdecides : Decides call row event)
      (hreserves : tables.Reserves row held)
      (heventNew : tables.outboxEvents.find? event.id = none)
      (heventLock : .outboxEvent event.id ∈ held) :
      Progress tables call (.done (decided call)) [.insertDecision row, .insertOutboxEvent event]
        held

/-- A statement takes a call further. -/
theorem Progress.statement
    {rest : Program AuthorizationStatement.Answer Empty AuthorizationResponse}
    {changes more : List AuthorizationChange} {held : List AuthorizationLock}
    {s : AuthorizationStatement} {answer : s.Answer}
    {next : s.Answer → Program AuthorizationStatement.Answer Empty AuthorizationResponse}
    (h : Progress tables call rest changes held) (hrest : rest = .call s next)
    (hrun : s.run (authorizationPostgres.after changes tables) = .ok (answer, more)) :
    Progress tables call (next answer) (changes ++ more)
      (held ++ s.locks (authorizationPostgres.after changes tables)) := by
  cases h with
  | looking =>
    cases hrest
    obtain ⟨-, rfl, rfl⟩ := AuthorizationTables.selectDecisions_eq_ok.mp hrun
    have hview : authorizationPostgres.after [] tables = tables := rfl
    rw [hview]
    -- The first row with the key is the decision; without one the call decides.
    cases hfound : tables.decisions.rows.filter fun row => row.key = call.key with
    | nil => exact .deciding
    | cons row others =>
      have hmem : row ∈ tables.decisions.rows.filter fun row => row.key = call.key := by
        rw [hfound]
        exact List.mem_cons_self
      obtain ⟨hrow, hkey⟩ := List.mem_filter.mp hmem
      exact .found row hrow (by simpa using hkey)
  | found row hrow hkey => cases hrest
  | deciding =>
    cases hrest
    obtain ⟨row, hrow, hnew, rfl⟩ := AuthorizationTables.insertDecision_eq_ok.mp hrun
    have hnew : tables.decisionExists row = false := hnew
    have hlocks := AuthorizationTables.locks_insertDecision hrow hnew
    have hheld : [] ++ AuthorizationStatement.locks (authorizationPostgres.after [] tables)
        (.insertDecision call.decisionId call.key call.request (status call.request)
          (reason (status call.request))) =
        [.decision row.decisionId, .decisionKey row.key] := hlocks
    rw [hheld]
    exact .recorded row hrow ⟨hnew, by simp, by simp⟩
  | recorded row hrow hreserves =>
    cases hrest
    obtain ⟨event, hevent, heventNew, rfl⟩ :=
      AuthorizationTables.insertOutboxEvent_eq_ok.mp hrun
    have hid : event.id = call.eventId := (Database.outboxEventRow_eq_ok hevent).1
    have heventNew : tables.outboxEvents.find? event.id = none := heventNew
    -- The decision and its event go into the tables together, under both locks.
    refine .announced row event ⟨hrow, hevent⟩ (hreserves.append _) heventNew ?_
    rw [hid] at heventNew ⊢
    have hlocks : AuthorizationStatement.locks
        (authorizationPostgres.after [.insertDecision row] tables)
        (.insertOutboxEvent call.eventId "payment" call.request.paymentId "authorization.decided"
          (authorizationPayload (status call.request)) call.now) = [.outboxEvent call.eventId] :=
      AuthorizationTables.locks_insertOutboxEvent heventNew
    rw [hlocks]
    exact List.mem_append_right _ List.mem_cons_self
  | announced row event hdecides hreserves heventNew heventLock => cases hrest

/-- What another call commits leaves a call where it is. -/
theorem Progress.others {other : AuthorizeCall} {response : AuthorizationResponse}
    {rest : Program AuthorizationStatement.Answer Empty AuthorizationResponse}
    {changes changes' : List AuthorizationChange} {held held' : List AuthorizationLock}
    (h : Progress tables call (.done response) changes held)
    (h' : Progress tables other rest changes' held') (hdisjoint : List.Disjoint held held') :
    Progress (authorizationPostgres.after changes tables) other rest changes' held' := by
  cases h with
  | found row hrow hkey => exact h'
  | announced row event hdecides hreserves heventNew heventLock =>
    change Progress ⟨tables.decisions.put row, tables.outboxEvents.put event⟩ other rest changes'
      held'
    obtain ⟨habsent, -⟩ := AuthorizationTables.decisionExists_eq_false.mp hreserves.new
    cases h' with
    | looking => exact .looking
    | found row' hrow' hkey' =>
      refine .found row' ?_ hkey'
      rw [Table.rows_put_of_absent habsent]
      exact List.mem_append_left _ hrow'
    | deciding => exact .deciding
    | recorded row' hrow' hreserves' =>
      exact .recorded row' hrow' (hreserves.of_commit hreserves' hdisjoint)
    | announced row' event' hdecides' hreserves' heventNew' heventLock' =>
      -- The id of its event is locked by the call, and was new for the other.
      have hid : event.id ≠ event'.id := by
        intro heq
        rw [heq] at heventLock
        exact hdisjoint heventLock heventLock'
      refine .announced row' event' hdecides' (hreserves.of_commit hreserves' hdisjoint) ?_
        heventLock'
      rw [Table.find?_put, if_neg hid]
      exact heventNew'

/-! ## What is committed -/

/-- An event announces a decision. -/
structure AnnouncesDecision (row : AuthorizationDecisionRow) (event : OutboxEventRow) : Prop where
  eventType : event.eventType = "authorization.decided"
  paymentId : event.aggregateId = row.paymentId.1
  status : Json.text? event.payload "status" = some row.status.1

/-- The decisions have different keys and an event each, and the calls that returned have returned
the decision for their key, as far as the column keeps it. -/
structure Decided (log : List (Option (AuthorizeCall × Ended))) (tables : AuthorizationTables) :
    Prop where
  keys : (tables.decisions.rows.map AuthorizationDecisionRow.key).Nodup
  events : List.Forall₂ AnnouncesDecision tables.decisions.rows tables.outboxEvents.rows
  returned : ∀ call response, some (call, .returned response) ∈ log →
    ∃ row ∈ tables.decisions.rows, row.key = keptText 128 call.key ∧
      row.response = response

/-- The payment id of a call is stored as it was given, where it can be stored. -/
def KeepsPaymentId (call : AuthorizeCall) : Prop :=
  ∀ kept, varchar 128 call.request.paymentId = .ok kept → kept.1 = call.request.paymentId

/-- A call that ends either finds a decision under its key, or has a payment id that is stored as it
was given. -/
def FindsOrKeeps (tables : AuthorizationTables) (label : Option (AuthorizeCall × Ended)) : Prop :=
  ∀ call outcome, label = some (call, outcome) → tables.HasKey call.key ∨ KeepsPaymentId call

/-- The row of a decision has what was decided, and its event announces it. -/
theorem Decides.announces {row : AuthorizationDecisionRow} {event : OutboxEventRow}
    (h : Decides call row event) (hkeeps : KeepsPaymentId call) :
    row.response = decided call ∧ AnnouncesDecision row event := by
  obtain ⟨hid, -, hpaymentId, hstatus, hreason⟩ :=
    AuthorizationTables.decisionRow_eq_ok h.row_eq
  have hkept : row.paymentId.1 = call.request.paymentId := hkeeps row.paymentId hpaymentId
  obtain ⟨-, -, haggregateId, heventType, hpayload⟩ := Database.outboxEventRow_eq_ok h.event_eq
  obtain ⟨hkeptStatus, hkeptReason⟩ := keptText_decided call.request
  rw [hkeptStatus] at hstatus
  rw [hkeptReason] at hreason
  constructor
  · unfold AuthorizationDecisionRow.response decided
    rw [hid, hkept, hstatus, hreason]
  · refine ⟨heventType, haggregateId.trans hkept.symm, ?_⟩
    rw [hpayload, hstatus]
    rfl

/-- A call that ends without returning changes nothing. -/
theorem Decided.skip {log : List (Option (AuthorizeCall × Ended))} (h : Decided log tables)
    {label : Option (AuthorizeCall × Ended)}
    (hlabel : ∀ call response, label ≠ some (call, .returned response)) :
    Decided (log ++ [label]) tables := by
  refine ⟨h.keys, h.events, fun call response hmem => ?_⟩
  rcases List.mem_append.mp hmem with hold | hnew
  · exact h.returned call response hold
  · exact absurd (List.mem_singleton.mp hnew).symm (hlabel call response)

/-- A call that commits has found its decision, or adds a new one with its event. -/
theorem Decided.commit {log : List (Option (AuthorizeCall × Ended))} (h : Decided log tables)
    {response : AuthorizationResponse} {changes : List AuthorizationChange}
    {held : List AuthorizationLock} (hprogress : Progress tables call (.done response) changes held)
    (hallowed : FindsOrKeeps tables (some (call, .returned response))) :
    Decided (log ++ [some (call, .returned response)])
      (authorizationPostgres.after changes tables) := by
  have hlast : ∀ other response', some (other, .returned response') ∈
      log ++ [some (call, .returned response)] →
        some (other, .returned response') ∈ log ∨ other = call ∧ response' = response := by
    intro other response' hmem
    rcases List.mem_append.mp hmem with hold | hnew
    · exact .inl hold
    · cases List.mem_singleton.mp hnew
      exact .inr ⟨rfl, rfl⟩
  cases hprogress with
  | found row hrow hkey =>
    refine ⟨h.keys, h.events, fun other response' hmem => ?_⟩
    rcases hlast other response' hmem with hold | ⟨rfl, rfl⟩
    · exact h.returned other response' hold
    · -- The key that was found is as long as the column, so nothing is cut off.
      have hkept : keptText 128 other.key = other.key := by
        rw [← hkey]
        exact keptText_of_length row.length_key_le
      exact ⟨row, hrow, hkey.trans hkept.symm, rfl⟩
  | announced row event hdecides hreserves heventNew heventLock =>
    obtain ⟨habsent, hkeyNew⟩ := AuthorizationTables.decisionExists_eq_false.mp hreserves.new
    have hrowKey : row.key = keptText 128 call.key :=
      (AuthorizationTables.decisionRow_eq_ok hdecides.row_eq).2.1
    -- The key was not there, so the payment id is stored as it was given.
    have hkeeps : KeepsPaymentId call := by
      refine (hallowed call _ rfl).resolve_left fun hthere => hkeyNew ?_
      rw [hrowKey, keptText_of_length hthere.length_le]
      exact hthere
    obtain ⟨hresponse, hannounces⟩ := hdecides.announces hkeeps
    have hdecisions : (tables.decisions.put row).rows = tables.decisions.rows ++ [row] :=
      Table.rows_put_of_absent habsent
    have hevents : (tables.outboxEvents.put event).rows = tables.outboxEvents.rows ++ [event] :=
      Table.rows_put_of_absent heventNew
    constructor
    case keys =>
      change ((tables.decisions.put row).rows.map _).Nodup
      rw [hdecisions, List.map_append, List.map_singleton, ← List.concat_eq_append]
      -- The constraint on the keys let the row in.
      refine h.keys.concat fun hmem => hkeyNew ?_
      obtain ⟨other, hother, heq⟩ := List.mem_map.mp hmem
      exact ⟨other, hother, heq⟩
    case events =>
      change List.Forall₂ AnnouncesDecision (tables.decisions.put row).rows
        (tables.outboxEvents.put event).rows
      rw [hdecisions, hevents]
      exact List.rel_append h.events (.cons hannounces .nil)
    case returned =>
      intro other response' hmem
      change ∃ found ∈ (tables.decisions.put row).rows, _
      rw [hdecisions]
      rcases hlast other response' hmem with hold | ⟨rfl, rfl⟩
      · obtain ⟨found, hfound, hkey⟩ := h.returned other response' hold
        exact ⟨found, List.mem_append_left _ hfound, hkey⟩
      · exact ⟨row, List.mem_append_right _ List.mem_cons_self, hrowKey, hresponse⟩

/-! ## Runs -/

/-- The sessions of the service, from the migrated tables. -/
def sessions :
    Lts (Engine.Sessions AuthorizationStatement.Answer AuthorizationTables AuthorizationChange
      AuthorizationLock Empty AuthorizationResponse AuthorizeCall)
      (Option (AuthorizeCall × Ended)) :=
  authorizationPostgres.interleaved authorize (· = .migrated)

/-- The calls do not interfere. -/
theorem interferenceFree :
    Engine.InterferenceFree authorizationPostgres authorize (· = .migrated) FindsOrKeeps Decided
      fun tables session => Progress tables session.call session.rest session.changes session.held
    where
  start := by
    rintro tables rfl
    exact ⟨List.nodup_nil, .nil, by simp⟩
  skip _ _ _ h hlabel := h.skip hlabel
  begin _ _ := .looking
  statement _ _ _ _ _ _ _ _ _ _ hprogress hrun := hprogress.statement rfl hrun
  commit _ _ _ _ _ _ h hprogress _ hallowed := h.commit hprogress hallowed
  others _ _ _ _ _ _ _ _ hprogress hother hdisjoint := hprogress.others hother hdisjoint

/-- There is one decision for a key, with one event for its payment and its status, and all calls
with the key that return normally return it. -/
structure OneDecision (log : List (Option (AuthorizeCall × Ended)))
    (tables : AuthorizationTables) : Prop where
  keys : (tables.decisions.rows.map AuthorizationDecisionRow.key).Nodup
  events : tables.outboxEvents.rows.countP (fun event =>
      event.eventType = "authorization.decided") = tables.decisions.rows.length
  matching : ∀ paymentId status, tables.outboxEvents.rows.countP (fun event =>
      event.eventType = "authorization.decided" ∧ event.aggregateId = paymentId ∧
        Json.text? event.payload "status" = some status) =
    tables.decisions.rows.countP fun row => row.paymentId.1 = paymentId ∧ row.status.1 = status
  returned : ∀ call response, some (call, .returned response) ∈ log →
    ∃ row ∈ tables.decisions.rows, row.key = keptText 128 call.key ∧
      row.response = response
  same : ∀ call response call' response', some (call, .returned response) ∈ log →
    some (call', .returned response') ∈ log → call.key = call'.key → response = response'

/-- Decisions and their events are as many, of whatever kind. -/
theorem countP_of_announces {rows : List AuthorizationDecisionRow} {events : List OutboxEventRow}
    (h : List.Forall₂ AnnouncesDecision rows events) {p : OutboxEventRow → Bool}
    {q : AuthorizationDecisionRow → Bool}
    (hpq : ∀ row event, AnnouncesDecision row event → p event = q row) :
    events.countP p = rows.countP q := by
  induction h with
  | nil => rfl
  | cons hannounces _ ih =>
    rw [List.countP_cons, List.countP_cons, ih, hpq _ _ hannounces]

/-- Where the calls that returned have returned the decision for their key, there is one. -/
theorem Decided.oneDecision {log : List (Option (AuthorizeCall × Ended))} (h : Decided log tables) :
    OneDecision log tables where
  keys := h.keys
  events := by
    have hall := countP_of_announces h.events (p := fun event =>
      event.eventType = "authorization.decided") (q := fun _ => true)
      fun row event hannounces => by simp [hannounces.eventType]
    rw [hall, List.countP_true]
  matching paymentId status := by
    refine countP_of_announces h.events fun row event hannounces => ?_
    rw [hannounces.eventType, hannounces.paymentId, hannounces.status]
    simp
  returned := h.returned
  same call response call' response' hmem hmem' hkey := by
    obtain ⟨row, hrow, hrowKey, rfl⟩ := h.returned call response hmem
    obtain ⟨row', hrow', hrowKey', rfl⟩ := h.returned call' response' hmem'
    -- The rows have one key, so they are one row.
    have heq : row = row' := by
      refine List.inj_on_of_nodup_map h.keys hrow hrow' ?_
      rw [hrowKey, hrowKey', hkey]
    rw [heq]

/-- In every run of the sessions in which the calls that end have found a decision under their key,
or have payment ids that are stored as they were given, there is one decision for each key. -/
theorem oneDecision_of_run {log : List (Option (AuthorizeCall × Ended))}
    {s : Engine.Sessions AuthorizationStatement.Answer AuthorizationTables AuthorizationChange
      AuthorizationLock Empty AuthorizationResponse AuthorizeCall}
    (h : (sessions.restrict fun s label => FindsOrKeeps s.committed label).Run log s) :
    OneDecision log s.committed :=
  (interferenceFree.holds h).committed.oneDecision

/-! ## Two calls at once -/

/-- A payment id of at most 128 characters is stored as it is. -/
theorem keepsPaymentId_of_length (h : call.request.paymentId.length ≤ 128) :
    KeepsPaymentId call := by
  intro kept hkept
  rw [(varchar_eq_ok.mp hkept).2, keptText_of_length h]

/-- What the sessions do after some moves, with how the calls ended. -/
def played (moves : List (Engine.Move AuthorizeCall)) :
    Option (Engine.Sessions AuthorizationStatement.Answer AuthorizationTables AuthorizationChange
      AuthorizationLock Empty AuthorizationResponse AuthorizeCall ×
        List (Option (AuthorizeCall × Ended))) :=
  Lts.play (authorizationPostgres.advance authorize) ⟨.migrated, ∅⟩ moves

/-- Two calls with one key that both find no decision. The second one is refused when the first one
has committed, and is made again. -/
def race : List (Engine.Move AuthorizeCall) :=
  [.begin 0 ⟨"idem-1", ⟨"pay-1", "issuer-1", 1000, "EUR"⟩, 1, "evt-1", 0⟩,
   .begin 1 ⟨"idem-1", ⟨"pay-1", "issuer-1", 1000, "EUR"⟩, 2, "evt-2", 1⟩,
   .statement 0, .statement 1, .statement 0, .statement 0, .commit 0, .statement 1,
   .begin 1 ⟨"idem-1", ⟨"pay-1", "issuer-1", 1000, "EUR"⟩, 3, "evt-3", 2⟩,
   .statement 1, .commit 1]

/-- The call that is made again returns the decision of the first one. -/
theorem oneDecision_race : ∃ s log, played race = some (s, log) ∧
    log.reduceOption.map Prod.snd =
      [.returned ⟨1, "pay-1", "approved", "issuer_approved"⟩, .refused .unique,
       .returned ⟨1, "pay-1", "approved", "issuer_approved"⟩] ∧
    OneDecision log s.committed := by
  have hplayed : (played race).map (fun result => (result.2.reduceOption.map Prod.snd,
      result.2.all fun label => label.all fun ended => ended.1.request.paymentId.length ≤ 128)) =
      some ([.returned ⟨1, "pay-1", "approved", "issuer_approved"⟩, .refused .unique,
        .returned ⟨1, "pay-1", "approved", "issuer_approved"⟩], true) := by decide
  obtain ⟨⟨s, log⟩, hresult, hlog⟩ := Option.map_eq_some_iff.mp hplayed
  obtain ⟨houtcomes, hlengths⟩ := Prod.mk.inj hlog
  have hkeeps : ∀ label ∈ log, ∀ s : Engine.Sessions AuthorizationStatement.Answer
      AuthorizationTables AuthorizationChange AuthorizationLock Empty AuthorizationResponse
      AuthorizeCall, FindsOrKeeps s.committed label := by
    rintro label hlabel s call outcome rfl
    have hlength := List.all_eq_true.mp hlengths _ hlabel
    exact .inr (keepsPaymentId_of_length (by simpa using hlength))
  have hsteps : sessions.Steps ⟨.migrated, ∅⟩ log s := Lts.steps_of_play hresult
  exact ⟨s, log, hresult, houtcomes,
    oneDecision_of_run ⟨⟨.migrated, ∅⟩, ⟨rfl, rfl⟩, hsteps.restrict hkeeps⟩⟩

/-- A call with a payment id of 128 characters and a space. -/
def padded : AuthorizeCall :=
  ⟨"idem-1", ⟨String.ofList (List.replicate 128 'x' ++ [' ']), "issuer-1", 1000, "EUR"⟩, 1, "evt-1",
    0⟩

set_option maxRecDepth 100000 in
/-- The call returns its payment id as it was given, which is not that of the decision. -/
theorem not_oneDecision_padded :
    ¬∀ log s, sessions.Run log s → OneDecision log s.committed := by
  intro h
  have hplayed : (played [.begin 0 padded, .statement 0, .statement 0, .statement 0,
      .commit 0]).map (fun result => result.2.getLast?) =
      some (some (some (padded, .returned (decided padded)))) := by decide
  obtain ⟨⟨s, log⟩, hresult, hlast⟩ := Option.map_eq_some_iff.mp hplayed
  have hrun : sessions.Run log s := ⟨⟨.migrated, ∅⟩, ⟨rfl, rfl⟩, Lts.steps_of_play hresult⟩
  have hmem : some (padded, .returned (decided padded)) ∈ log := List.mem_of_getLast? hlast
  obtain ⟨row, -, -, hresponse⟩ := (h log s hrun).returned padded (decided padded) hmem
  have hpaymentId : row.paymentId.1 = padded.request.paymentId :=
    congrArg AuthorizationResponse.paymentId hresponse
  have hlength := row.paymentId.2
  rw [hpaymentId] at hlength
  revert hlength
  decide

end AuthorizationService

end AtlasPay
