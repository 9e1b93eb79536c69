import AtlasPay.Network.Raising
import AtlasPay.Network.Timeouts

/-!
# What telemetry and history say of a call

Telemetry counts a call when it ends, the history records it only when `_exchange` has returned. So
the two tell the same story of a call exactly when `_exchange` returns; of one that raises,
telemetry counts a failure whose delivery is known, whatever the transport reported, and the history
has nothing. `Returns` says when a call returns, by what the transport answers and what the
coordinator and the registry hold (`tellsOneStory_iff`).
-/

namespace AtlasPay

/-- The labels of an observation. -/
def NetworkObservation.labels {T : Type} [LE T] [Zero T] (observation : NetworkObservation T) :
    OutcomeLabels where
  route := observation.route.name
  issuer := observation.route.issuerId
  transportOutcome := observation.transportOutcome.value
  disposition := match observation.disposition with
    | some disposition => disposition.value
    | none => "none"
  deliveryUnknown := if observation.deliveryUnknown then "true" else "false"

namespace AuthorizationNetworkFlow

variable {T : Type} [LinearOrder T] [Zero T]

/-! ## When `_exchange` returns -/

section Returns

variable (self : AuthorizationNetworkFlow T) (attempt : NetworkAttempt T) (completedAt : T)
  (answers : Answers)

/-- What `_exchange` needs to return. A failure needs its attempt pending; a timeout needs its
attempt to be the only one overdue, and a reversal that can be linked; a response needs a
correlation, and at most one overdue attempt when there is a sweep. -/
inductive Returns : Prop where
  | cancelled (hfails : self.Fails attempt answers)
      (hpending : attempt.correlation ∈ self.coordinator.pending)
  | planned (htimesOut : self.TimesOut attempt answers) (hdue : attempt.deadline ≤ completedAt)
      (honly : ∀ other, self.coordinator.Overdue completedAt other ↔ other = attempt.correlation)
      (hlink : self.CanLink attempt answers)
  | handled {response : ISO8583Message} (hresponds : self.Responds attempt answers response)
      (hsweeps : attempt.deadline ≤ completedAt →
        {key | self.coordinator.Overdue completedAt key}.Subsingleton)
      (hkey : ∃ key, correlationKey response = .ok key)

end Returns

variable {self self' : AuthorizationNetworkFlow T} {attempt : NetworkAttempt T} {completedAt : T}
  {answers : Answers}

/-- What has raised has not returned. -/
theorem not_returns_error {α : Type} (e : PyError) :
    ¬∃ a : α, (Except.error e : Py α) = .ok a := by
  rintro ⟨a, h⟩
  cases h

variable (self) in
/-- The end of a failure returns when the attempt is pending. -/
theorem returns_settleFailure_iff (hkey : correlationKey attempt.request = .ok attempt.correlation)
    (result : ISO8583ExchangeResult) :
    (∃ flowResult, (self.settleFailure attempt result).1 = .ok flowResult) ↔
      attempt.correlation ∈ self.coordinator.pending := by
  by_cases hpending : attempt.correlation ∈ self.coordinator.pending
  · obtain ⟨flowResult, hsettle⟩ := settleFailure_of_pending self result hkey hpending
    exact iff_of_true ⟨flowResult, congrArg Prod.fst hsettle⟩ hpending
  · obtain ⟨e, hsettle⟩ := settleFailure_of_not_pending self result hkey hpending
    rw [hsettle]
    exact iff_of_false (not_returns_error e) hpending

variable (self) in
/-- The end of a timeout returns when the attempt alone is overdue and its reversal can be
planned. -/
theorem returns_settleTimeout_iff (result : ISO8583ExchangeResult) :
    (∃ flowResult,
        (self.settleTimeout attempt completedAt answers.reversal result).1 = .ok flowResult) ↔
      attempt.deadline ≤ completedAt ∧
        (∀ other, self.coordinator.Overdue completedAt other ↔ other = attempt.correlation) ∧
        self.CanLink attempt answers := by
  rcases lt_or_ge completedAt attempt.deadline with hearly | hdue
  · obtain ⟨e, hsettle⟩ := settleTimeout_of_early self result hearly answers.reversal
    rw [hsettle]
    exact iff_of_false (not_returns_error e) fun h => not_le.mpr hearly h.1
  rw [and_iff_right hdue]
  rcases hexpire : self.coordinator.expire completedAt with ⟨e | expired, swept⟩
  · obtain ⟨e', hsettle⟩ := settleTimeout_of_raised self result hdue hexpire answers.reversal
    rw [hsettle]
    -- A sweep that raises has found several transactions.
    refine iff_of_false (not_returns_error e') fun h => ?_
    cases NetworkTransactionCoordinator.expire_spec hexpire with
    | raised _ hlength =>
      rw [NetworkTransactionCoordinator.overdue_eq_singleton_iff.mpr h.1] at hlength
      exact absurd hlength (Nat.lt_irrefl 1)
  · obtain ⟨-, hraises⟩ := settleTimeout_raises_iff answers hdue hexpire result
    -- A sweep that returns has at most one transaction, so the attempt is in it when it alone is
    -- overdue.
    have hmem : attempt.correlation ∈ expired ↔
        ∀ other, self.coordinator.Overdue completedAt other ↔ other = attempt.correlation := by
      rcases NetworkTransactionCoordinator.expire_eq_ok hexpire with ⟨rfl, -, hnone⟩ |
        ⟨only, rfl, -, honly⟩
      · exact iff_of_false List.not_mem_nil fun h => hnone _ ((h _).mpr rfl)
      · rw [List.mem_singleton]
        constructor
        · rintro rfl
          exact honly
        · exact fun h => (honly _).mp ((h _).mpr rfl)
    rw [← hmem, ← not_iff_not, not_and_or, ← hraises]
    cases (self.settleTimeout attempt completedAt answers.reversal result).1 with
    | error e => exact iff_of_true (not_returns_error e) ⟨e, rfl⟩
    | ok flowResult => exact iff_of_false (not_not.mpr ⟨flowResult, rfl⟩) nofun

variable (self) in
/-- The end of a response returns when the response has a correlation, and a sweep before it finds
at most one attempt overdue. -/
theorem returns_settleResponse_iff (response : ISO8583Message) :
    (∃ flowResult, (self.settleResponse attempt completedAt response).1 = .ok flowResult) ↔
      (attempt.deadline ≤ completedAt →
        {key | self.coordinator.Overdue completedAt key}.Subsingleton) ∧
        ∃ key, correlationKey response = .ok key := by
  -- Once there is no sweep left that could raise, the response decides.
  have hhandled : ∀ {coordinator swept : NetworkTransactionCoordinator T} {handled},
      swept.handleResponse attempt.request response completedAt = (handled, coordinator) →
        ((∃ flowResult, handled.map (responseResult attempt) = .ok flowResult) ↔
          ∃ key, correlationKey response = .ok key) := by
    intro coordinator swept handled hhandle
    have hkeyed : (∃ key, correlationKey response = .ok key) ↔ ¬∃ e, handled = .error e := by
      rw [NetworkTransactionCoordinator.handleResponse_raises_iff hhandle, not_forall_not]
    rw [hkeyed]
    cases handled with
    | error e => exact iff_of_false (not_returns_error e) (not_not.mpr ⟨e, rfl⟩)
    | ok disposition => exact iff_of_true ⟨_, rfl⟩ nofun
  rcases lt_or_ge completedAt attempt.deadline with hearly | hdue
  · rcases hhandle : self.coordinator.handleResponse attempt.request response completedAt with
      ⟨handled, coordinator⟩
    rw [settleResponse_of_early self hearly hhandle, hhandled hhandle]
    exact (and_iff_right fun hdue => absurd hdue (not_le.mpr hearly)).symm
  rw [← NetworkTransactionCoordinator.length_overdue_le_one_iff]
  simp only [hdue, true_imp_iff]
  rcases hexpire : self.coordinator.expire completedAt with ⟨e | expired, swept⟩
  · rw [settleResponse_of_raised self hdue hexpire]
    refine iff_of_false (not_returns_error e) fun h => ?_
    cases NetworkTransactionCoordinator.expire_spec hexpire with
    | raised _ hlength => exact absurd h.1 (not_le.mpr hlength)
  · rcases hhandle : swept.handleResponse attempt.request response completedAt with
      ⟨handled, coordinator⟩
    rw [settleResponse_of_swept self hdue hexpire hhandle, hhandled hhandle]
    refine (and_iff_right ?_).symm
    cases NetworkTransactionCoordinator.expire_spec hexpire with
    | nothing hoverdue => simp [hoverdue]
    | expired hoverdue => simp [hoverdue]

/-- `_exchange` returns exactly when `Returns` says so. -/
theorem returns_settle_iff (hkey : correlationKey attempt.request = .ok attempt.correlation)
    (htimeoutSeconds : 0 < attempt.timeoutSeconds) :
    (∃ flowResult, (self.settle attempt completedAt answers).1 = .ok flowResult) ↔
      self.Returns attempt completedAt answers := by
  have hends := settle_ends self completedAt answers htimeoutSeconds
  generalize self.settle attempt completedAt answers = settled at hends
  cases hends with
  | raised hfails htimesOut hresponds e adapter =>
    refine iff_of_false (not_returns_error e) ?_
    rintro (⟨h, _⟩ | ⟨h, _, _, _⟩ | ⟨h, _, _⟩)
    · exact hfails h
    · exact htimesOut h
    · exact hresponds _ h
  | failure hfails adapter result =>
    refine (returns_settleFailure_iff { self with adapter } hkey result).trans ?_
    constructor
    · exact fun hpending => .cancelled hfails hpending
    · rintro (⟨_, hpending⟩ | ⟨h, _, _, _⟩ | ⟨h, _, _⟩)
      · exact hpending
      · exact absurd h hfails.not_timesOut
      · exact absurd h (hfails.not_responds _)
  | timeout htimesOut adapter result =>
    refine (returns_settleTimeout_iff { self with adapter } result).trans ?_
    constructor
    · exact fun ⟨hdue, honly, hlink⟩ => .planned htimesOut hdue honly hlink
    · rintro (⟨h, _⟩ | ⟨_, hdue, honly, hlink⟩ | ⟨h, _, _⟩)
      · exact absurd htimesOut h.not_timesOut
      · exact ⟨hdue, honly, hlink⟩
      · exact absurd h (htimesOut.not_responds _)
  | response hresponds adapter =>
    refine (returns_settleResponse_iff { self with adapter } _).trans ?_
    constructor
    · exact fun ⟨hsweeps, hkey⟩ => .handled hresponds hsweeps hkey
    · rintro (⟨h, _⟩ | ⟨h, _, _, _⟩ | ⟨h, hsweeps, hkey⟩)
      · exact absurd hresponds (h.not_responds _)
      · exact absurd hresponds (h.not_responds _)
      · cases hresponds.eq h
        exact ⟨hsweeps, hkey⟩

/-! ## One call -/

/-- The transport is invoked for a request that encodes. -/
theorem sent_settle_iff (htimeoutSeconds : 0 < attempt.timeoutSeconds)
    {outcome : Py NetworkFlowResult}
    (h : self.settle attempt completedAt answers = (outcome, self')) :
    self'.adapter.sent ≠ self.adapter.sent ↔ self.Encodes attempt := by
  obtain ⟨result, hadapter⟩ := adapter_settle h
  cases hencode : self.adapter.codec.encode attempt.request with
  | error e =>
    have hnot : ¬self.Encodes attempt := by
      rintro ⟨payload, hok⟩
      cases hencode.symm.trans hok
    generalize self'.adapter = adapter at hadapter ⊢
    cases ISO8583NetworkAdapter.exchange_spec hadapter with
    | invalid hle _ => exact absurd hle (not_le.mpr htimeoutSeconds)
    | unencodable _ => exact iff_of_false (not_not.mpr rfl) hnot
    | unanswered hok _ | answered hok _ _ => cases hencode.symm.trans hok
  | ok payload =>
    rw [ISO8583NetworkAdapter.exchange_of_encode _ htimeoutSeconds hencode] at hadapter
    rw [← (Prod.mk.inj hadapter).2]
    exact iff_of_true (by simp) ⟨payload, hencode⟩

/-- Whatever `_exchange` returns after a timeout has its delivery unknown. -/
theorem deliveryUnknown_of_timesOut (htimeoutSeconds : 0 < attempt.timeoutSeconds)
    (htimesOut : self.TimesOut attempt answers) {result : NetworkFlowResult}
    (h : self.settle attempt completedAt answers = (.ok result, self')) :
    result.deliveryUnknown = true := by
  have hends := settle_ends self completedAt answers htimeoutSeconds
  rw [h] at hends
  generalize hsettled : (Except.ok result, self') = settled at hends
  cases hends with
  | raised _ _ _ e _ => cases hsettled
  | failure hfails _ _ => exact absurd htimesOut hfails.not_timesOut
  | timeout _ _ _ => exact (hasReversal_of_settleTimeout hsettled.symm).1
  | response hresponds _ => exact absurd hresponds (htimesOut.not_responds _)

/-- `_exchange` does not count. -/
theorem telemetry_settle {outcome : Py NetworkFlowResult}
    (h : self.settle attempt completedAt answers = (outcome, self')) :
    self'.telemetry = self.telemetry := by
  cases settle_spec h <;> rfl

section Record

variable [Sub T] [Mul T] [NatCast T] {telemetry : NetworkTelemetry}
  {observations : List (NetworkObservation T)}

/-- Of a call that returns, telemetry counts and the history records the same. -/
theorem recorded_of_returns {settled : AuthorizationNetworkFlow T} {result : NetworkFlowResult}
    (hsettle : self.settle attempt completedAt answers = (.ok result, settled))
    (htelemetry : settled.telemetry = some telemetry)
    (hhistory : settled.history = some observations) (hwritten : answers.history = .ok ()) :
    ∃ observation, (self.exchange attempt completedAt answers).2.telemetry =
        some (telemetry.observeExchange attempt.route (.ok result)) ∧
      (self.exchange attempt completedAt answers).2.history =
        some (observations ++ [observation]) ∧
      (telemetry.observeExchange attempt.route (.ok result)).outcomes =
        telemetry.outcomes ++ [observation.labels] := by
  unfold exchange record
  simp only [hsettle, hhistory, hwritten, htelemetry, Option.map_some]
  exact ⟨_, rfl, rfl, rfl⟩

/-- Of a call that raises, telemetry counts a failure, and the history has nothing. -/
theorem recorded_of_raises {settled : AuthorizationNetworkFlow T} {e : PyError}
    (hsettle : self.settle attempt completedAt answers = (.error e, settled))
    (htelemetry : settled.telemetry = some telemetry) :
    (self.exchange attempt completedAt answers).2.telemetry =
        some (telemetry.observeExchange attempt.route (.error e)) ∧
      (self.exchange attempt completedAt answers).2.history = settled.history := by
  unfold exchange
  simp only [hsettle, htelemetry, Option.map_some, and_self]

end Record

/-! ## Runs -/

/-- The history writer does not fail, if it is asked. -/
def Writes : Event T → Prop
  | .start _ _ _ _ _ => True
  | .exchange _ _ answers _ => answers.history = .ok ()
  | .lateResponse _ _ _ answers _ => answers.history = .ok ()

/-- A flow with telemetry and history. -/
def Recorded (flow : AuthorizationNetworkFlow T) : Prop :=
  flow.telemetry.isSome ∧ flow.history.isSome

/-- Of an exchange for which the transport is invoked, telemetry counts and the history records one
and the same outcome; and when the transport reports a timeout, telemetry does not count a failure
whose delivery is known. -/
structure TellsOneStory (session : Session T) (event : Event T) (session' : Session T) : Prop where
  same : ∀ attempt completedAt answers outcome,
    event = .exchange attempt completedAt answers outcome →
      session'.flow.adapter.sent ≠ session.flow.adapter.sent →
        ∃ telemetry telemetry' observations observation,
          session.flow.telemetry = some telemetry ∧ session'.flow.telemetry = some telemetry' ∧
          session.flow.history = some observations ∧
          telemetry'.outcomes = telemetry.outcomes ++ [observation.labels] ∧
          session'.flow.history = some (observations ++ [observation])
  timedOut : ∀ attempt completedAt answers outcome,
    event = .exchange attempt completedAt answers outcome →
      session.flow.TimesOut attempt answers →
        ∀ telemetry telemetry' labels, session.flow.telemetry = some telemetry →
          session'.flow.telemetry = some telemetry' →
            telemetry'.outcomes = telemetry.outcomes ++ [labels] →
              ¬(labels.transportOutcome = TransportOutcome.failure.value ∧
                labels.deliveryUnknown = "false")

/-- An exchange returns, or the transport is not invoked for it. -/
def ReturnsIfSent (session : Session T) : Event T → Prop
  | .exchange attempt completedAt answers _ =>
    session.flow.Encodes attempt → session.flow.Returns attempt completedAt answers
  | _ => True

variable [Sub T] [Mul T] [NatCast T] [Add T]

variable (T) in
/-- New flows with telemetry and history, and the calls on them during which the history writer does
not fail. -/
def recorded : Lts (Session T) (Event T) where
  init s := ∃ router codec, s = ⟨new router codec true true, []⟩
  step s event s' := (lts T).step s event s' ∧ Writes event

/-- A run of such a flow is a run of a flow. -/
theorem run_of_recorded {log : List (Event T)} {session : Session T}
    (h : (recorded T).Run log session) : (lts T).Run log session := by
  refine h.mono ?_ fun _ _ _ hstep => And.left hstep
  rintro _ ⟨router, codec, rfl⟩
  exact ⟨router, codec, true, true, rfl⟩

/-- A call keeps the telemetry and the history. -/
theorem Recorded.step {session session' : Session T} {event : Event T}
    (h : session.flow.Recorded) (hstep : (recorded T).step session event session') :
    session'.flow.Recorded := by
  obtain ⟨telemetry, htelemetry⟩ := Option.isSome_iff_exists.mp h.1
  obtain ⟨observations, hhistory⟩ := Option.isSome_iff_exists.mp h.2
  obtain ⟨hstep, hwrites⟩ := hstep
  cases event with
  | start canonical request now timeoutSeconds outcome =>
    rcases start_spec hstep.1 with ⟨e, -, hflow⟩ | ⟨attempt, coordinator, -, hflow, -⟩ <;>
      rw [hflow] <;> exact h
  | exchange attempt completedAt answers outcome =>
    obtain ⟨-, hexchange, -⟩ := hstep
    have hflow : session'.flow = (session.flow.exchange attempt completedAt answers).2 := by
      rw [hexchange]
    rcases hsettle : session.flow.settle attempt completedAt answers with ⟨e | result, settled⟩
    · -- An exchange that raises is counted, and not written.
      obtain ⟨hcounted, hkept⟩ := recorded_of_raises hsettle
        ((telemetry_settle hsettle).trans htelemetry)
      rw [hflow, Recorded, hcounted, hkept, history_settle hsettle]
      exact ⟨rfl, h.2⟩
    · -- One that returns is counted and written.
      obtain ⟨observation, hcounted, hgrown, -⟩ := recorded_of_returns hsettle
        ((telemetry_settle hsettle).trans htelemetry) ((history_settle hsettle).trans hhistory)
        hwrites
      rw [hflow, Recorded, hcounted, hgrown]
      exact ⟨rfl, rfl⟩
  | lateResponse attempt response now answers outcome =>
    obtain ⟨-, hlate, -⟩ := hstep
    have hflow : session'.flow =
        (session.flow.handleLateResponse attempt response now answers).2 := by
      rw [hlate]
    have hwritten : answers.history = .ok () := hwrites
    rcases hhandle : session.flow.coordinator.handleResponse attempt.request response now with
      ⟨e | disposition, coordinator⟩
    · rw [hflow]
      simp only [handleLateResponse, hhandle]
      exact h
    · rw [hflow]
      simp only [handleLateResponse, record, hhandle, hhistory, hwritten, htelemetry]
      exact ⟨rfl, rfl⟩

/-- Every flow of such a run has both. -/
theorem recorded_of_run {log : List (Event T)} {session : Session T}
    (h : (recorded T).Run log session) : session.flow.Recorded := by
  refine h.invariant (P := fun session => session.flow.Recorded) ?_
    fun _ _ _ hrecorded hstep => Recorded.step hrecorded hstep
  rintro _ ⟨router, codec, rfl⟩
  exact ⟨rfl, rfl⟩

section Exchange

variable {session session' : Session T} {telemetry : NetworkTelemetry}
  {observations : List (NetworkObservation T)} {settled : AuthorizationNetworkFlow T}
  {outcome : Py NetworkFlowResult}

omit [Add T] in
/-- Of an exchange that returns, both tell one story. -/
theorem tellsOneStory_of_returns (htelemetry : session.flow.telemetry = some telemetry)
    (hhistory : session.flow.history = some observations) (hwrites : answers.history = .ok ())
    (hflow : session'.flow = (session.flow.exchange attempt completedAt answers).2)
    (htimeoutSeconds : 0 < attempt.timeoutSeconds) {result : NetworkFlowResult}
    (hsettle : session.flow.settle attempt completedAt answers = (.ok result, settled)) :
    TellsOneStory session (.exchange attempt completedAt answers outcome) session' := by
  obtain ⟨observation, hcounted, hgrown, hlabels⟩ :=
    recorded_of_returns hsettle ((telemetry_settle hsettle).trans htelemetry)
      ((history_settle hsettle).trans hhistory) hwrites
  rw [← hflow] at hcounted hgrown
  refine ⟨?_, ?_⟩
  · rintro _ _ _ _ ⟨⟩ -
    exact ⟨telemetry, _, observations, observation, htelemetry, hcounted, hhistory, hlabels,
      hgrown⟩
  · rintro _ _ _ _ ⟨⟩ htimesOut before after labels hbefore hafter hadded
    cases htelemetry.symm.trans hbefore
    cases hcounted.symm.trans hafter
    have hlast := List.append_cancel_left hadded
    have hunknown := deliveryUnknown_of_timesOut htimeoutSeconds htimesOut hsettle
    rw [← (List.cons.inj hlast).1]
    simp [hunknown]

omit [Add T] in
/-- Of an exchange that raises, they tell one story only when it is not sent. -/
theorem tellsOneStory_iff_of_raises (htelemetry : session.flow.telemetry = some telemetry)
    (hflow : session'.flow = (session.flow.exchange attempt completedAt answers).2)
    (hsent : session'.flow.adapter.sent ≠ session.flow.adapter.sent ↔
      session.flow.Encodes attempt) {e : PyError}
    (hsettle : session.flow.settle attempt completedAt answers = (.error e, settled)) :
    TellsOneStory session (.exchange attempt completedAt answers outcome) session' ↔
      ¬session.flow.Encodes attempt := by
  have hkept : session'.flow.history = session.flow.history := by
    rw [hflow, ← history_settle hsettle]
    exact (recorded_of_raises hsettle ((telemetry_settle hsettle).trans htelemetry)).2
  constructor
  · intro htells hencodes
    obtain ⟨_, _, before, observation, -, -, hbefore, -, hafter⟩ :=
      htells.same _ _ _ _ rfl (hsent.mpr hencodes)
    exact ne_of_grown hbefore hafter hkept
  · intro hnot
    refine ⟨?_, ?_⟩
    · rintro _ _ _ _ ⟨⟩ hinvoked
      exact absurd (hsent.mp hinvoked) hnot
    · rintro _ _ _ _ ⟨⟩ htimesOut
      exact absurd htimesOut.1 hnot

end Exchange

/-- Telemetry and history tell one story of a call exactly when it returns, if it is sent. -/
theorem tellsOneStory_step_iff {session session' : Session T} {event : Event T}
    (hwf : session.WellFormed) (hrecorded : session.flow.Recorded)
    (hstep : (recorded T).step session event session') :
    TellsOneStory session event session' ↔ ReturnsIfSent session event := by
  obtain ⟨telemetry, htelemetry⟩ := Option.isSome_iff_exists.mp hrecorded.1
  obtain ⟨observations, hhistory⟩ := Option.isSome_iff_exists.mp hrecorded.2
  obtain ⟨hstep, hwrites⟩ := hstep
  cases event with
  | start canonical request now timeoutSeconds outcome =>
    -- Neither this nor a late response is an exchange.
    exact iff_of_true ⟨by rintro _ _ _ _ ⟨⟩, by rintro _ _ _ _ ⟨⟩⟩ trivial
  | lateResponse attempt response now answers outcome =>
    exact iff_of_true ⟨by rintro _ _ _ _ ⟨⟩, by rintro _ _ _ _ ⟨⟩⟩ trivial
  | exchange attempt completedAt answers outcome =>
    obtain ⟨hmem, hexchange, -⟩ := hstep
    have htimeoutSeconds := hwf.timeoutSeconds attempt hmem
    have hreturns : (∃ flowResult,
        (session.flow.settle attempt completedAt answers).1 = .ok flowResult) ↔
          session.flow.Returns attempt completedAt answers :=
      returns_settle_iff (hwf.correlation attempt hmem) htimeoutSeconds
    have hflow : session'.flow = (session.flow.exchange attempt completedAt answers).2 := by
      rw [hexchange]
    obtain ⟨settledOutcome, settled, hsettle, hsame, -⟩ := exchange_spec hexchange
    cases settledOutcome with
    | error e =>
      -- It raises: if the request was sent, telemetry has counted what the history does not have.
      have hsent := sent_settle_iff htimeoutSeconds hsettle
      rw [← hsame.adapter] at hsent
      have hraises : ¬session.flow.Returns attempt completedAt answers := by
        rw [← hreturns, hsettle]
        exact not_returns_error e
      rw [tellsOneStory_iff_of_raises htelemetry hflow hsent hsettle]
      exact ⟨fun hnot hencodes => absurd hencodes hnot,
        fun hsends hencodes => hraises (hsends hencodes)⟩
    | ok result =>
      exact iff_of_true
        (tellsOneStory_of_returns htelemetry hhistory hwrites hflow htimeoutSeconds hsettle)
        fun _ => hreturns.mp ⟨result, by rw [hsettle]⟩

/-- In every run of a flow with telemetry and a history whose writer does not fail, the two tell one
story of every exchange exactly when every exchange for which the transport is invoked returns. -/
theorem tellsOneStory_iff (log : List (Event T)) (session : Session T) :
    (∀ s event s', (recorded T).Passes log session s event s' → TellsOneStory s event s') ↔
      ∀ s event s', (recorded T).Passes log session s event s' → ReturnsIfSent s event :=
  Lts.forall_passes_congr
    (fun _ _ _ _ hrun hstep => tellsOneStory_step_iff (wellFormed_of_run (run_of_recorded hrun))
      (recorded_of_run hrun) hstep) log session

/-- A flow with both has started two attempts with one deadline. The transport reports a timeout for
the first one at the deadline, and the sweep raises, since it finds two: telemetry counts a failure
whose delivery is known, and the history has nothing. -/
theorem timeout_counted_failure :
    ∃ (log : List (Event ℤ)) (session session' : Session ℤ) (answers : Answers) (e : PyError),
      (recorded ℤ).Run log session ∧
        (recorded ℤ).step session (.exchange sampleAttempt 5 answers (.error e)) session' ∧
        answers.transport = .ok { outcome := .timeout, deliveryUnknown := true } ∧
        session'.flow.telemetry.map NetworkTelemetry.outcomes =
          some [⟨"issuer-a", "issuer-bank-a", "failure", "none", "false"⟩] ∧
        session'.flow.history.map List.length = some 0 ∧
        ¬∀ s event s', (recorded ℤ).Passes
          (log ++ [.exchange sampleAttempt 5 answers (.error e)]) session' s event s' →
            TellsOneStory s event s' := by
  let otherAttempt : NetworkAttempt ℤ := ⟨sampleRoute, otherRequest, otherCorrelation, 1, 5, 4⟩
  let first : Session ℤ :=
    ⟨((new sampleRouter defaultCodec true true).start (sampleCanonical sampleCorrelation)
      sampleRequest 0 5).2, [sampleAttempt]⟩
  let both : Session ℤ :=
    ⟨(first.flow.start (sampleCanonical otherCorrelation) otherRequest 1 4).2,
      [sampleAttempt, otherAttempt]⟩
  let answers := timesOutWith (.ok sampleReversal)
  let after := both.flow.exchange sampleAttempt 5 answers
  have hfirst : (recorded ℤ).step ⟨new sampleRouter defaultCodec true true, []⟩
      (.start (sampleCanonical sampleCorrelation) sampleRequest 0 5 (.ok sampleAttempt)) first :=
    ⟨⟨rfl, rfl⟩, trivial⟩
  have hboth : (recorded ℤ).step first
      (.start (sampleCanonical otherCorrelation) otherRequest 1 4 (.ok otherAttempt)) both :=
    ⟨⟨rfl, rfl⟩, trivial⟩
  have hstarted : (recorded ℤ).Run
      [.start (sampleCanonical sampleCorrelation) sampleRequest 0 5 (.ok sampleAttempt),
        .start (sampleCanonical otherCorrelation) otherRequest 1 4 (.ok otherAttempt)] both :=
    ⟨_, ⟨_, _, rfl⟩, .cons hfirst (.cons hboth (.nil _))⟩
  -- Both are due at 5, so the sweep raises.
  obtain ⟨e, hraised⟩ : ∃ e, after.1 = .error e := ⟨_, rfl⟩
  have hexchanged : (recorded ℤ).step both (.exchange sampleAttempt 5 answers (.error e))
      ⟨after.2, both.attempts⟩ := ⟨⟨List.mem_cons_self, Prod.ext hraised rfl, rfl⟩, rfl⟩
  refine ⟨_, both, ⟨after.2, both.attempts⟩, answers, e, hstarted, hexchanged, rfl, rfl, rfl,
    fun htells => ?_⟩
  -- A story of both would have an observation in the history.
  obtain ⟨_, _, _, _, -, -, -, -, hhistory⟩ :=
    (htells _ _ _ ⟨_, [], rfl, hstarted, hexchanged, .nil _⟩).same _ _ _ _ rfl
      (List.cons_ne_nil _ _)
  have hnone : after.2.history = some [] := rfl
  rw [hnone] at hhistory
  simp at hhistory

end AuthorizationNetworkFlow

end AtlasPay
