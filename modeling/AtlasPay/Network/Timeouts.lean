import AtlasPay.Network.Ends

/-!
# What is recorded of a timeout

A timeout that the transport reports is returned and recorded with delivery unknown, and with the
reversal that is planned for it. The coordinator has a second way to say that a transaction timed
out: a correlated response that finds it pending after its deadline. This comes with delivery
known, and without a reversal, so a run keeps the promise exactly when no response is handled in
this way (`timeoutsUnknown_iff`).
-/

namespace AtlasPay

namespace AuthorizationNetworkFlow

variable {T : Type} [LinearOrder T] [Zero T]

/-- The attempt that a call is about. -/
def concerns : Event T → Option (NetworkAttempt T)
  | .exchange attempt _ _ _ => some attempt
  | .lateResponse attempt _ _ _ _ => some attempt
  | .start _ _ _ _ _ => none

/-- The registry holds a reversal for the attempt. -/
def HasReversal (flow : AuthorizationNetworkFlow T) (attempt : NetworkAttempt T) : Prop :=
  ∃ link, flow.reversals.forOriginal attempt.correlation = some link

/-- What a call has to keep: when it returns or records that an attempt timed out, delivery is
unknown and the registry holds its reversal. -/
structure KeepsUnknown (session : Session T) (event : Event T) (session' : Session T) : Prop where
  returned : ∀ attempt completedAt answers result,
    event = .exchange attempt completedAt answers (.ok result) →
      result.disposition = some .timedOut →
        result.deliveryUnknown = true ∧ session'.flow.HasReversal attempt
  recorded : ∀ observations observation, session.flow.history = some observations →
    session'.flow.history = some (observations ++ [observation]) →
      observation.disposition = some .timedOut →
        observation.deliveryUnknown = true ∧
          ∃ attempt, concerns event = some attempt ∧ session'.flow.HasReversal attempt

/-- A response is handled, and returned or recorded, that finds its transaction pending after its
deadline. In `exchange` this takes a transaction with an earlier deadline than the attempt, since
the sweep comes first. -/
def FindsOverdue (session : Session T) : Event T → Prop
  | .start _ _ _ _ _ => False
  | .exchange attempt completedAt answers _ =>
    completedAt < attempt.deadline ∧
      session.flow.coordinator.Overdue completedAt attempt.correlation ∧
      (∃ response, session.flow.Responds attempt answers response ∧
        correlatesResponse attempt.request response = .ok true) ∧
      (session.flow.history = none ∨ answers.history = .ok ())
  | .lateResponse attempt response now answers _ =>
    session.flow.coordinator.Overdue now attempt.correlation ∧
      correlatesResponse attempt.request response = .ok true ∧
      session.flow.history ≠ none ∧ answers.history = .ok ()

/-! ## One call -/

variable {self self' : AuthorizationNetworkFlow T} {attempt : NetworkAttempt T} {completedAt : T}
  {answers : Answers}

/-- A timeout that is returned is planned. -/
theorem hasReversal_of_settleTimeout {reversal : Py NetworkCorrelation}
    {result : ISO8583ExchangeResult} {flowResult : NetworkFlowResult}
    (h : self.settleTimeout attempt completedAt reversal result = (.ok flowResult, self')) :
    flowResult.deliveryUnknown = true ∧ self'.HasReversal attempt := by
  unfold settleTimeout at h
  split at h
  · cases h
  · split at h
    · cases h
    · split at h
      · cases h
      · split at h
        · cases h
        · split at h
          · cases h
          · next link reversals hlink =>
            cases h
            refine ⟨rfl, ?_⟩
            cases ReversalRegistry.link_spec hlink with
            | linked _ _ _ => exact ⟨_, AList.lookup_insert _⟩

/-- A failure is not returned as a timeout. -/
theorem disposition_settleFailure {result : ISO8583ExchangeResult} {flowResult : NetworkFlowResult}
    (h : self.settleFailure attempt result = (.ok flowResult, self')) :
    flowResult.disposition = none := by
  unfold settleFailure at h
  split at h
  · cases h
  · cases h
  · cases h
    rfl

variable (self) in
/-- A response is returned as a timeout, with delivery known, when its transaction has a deadline
that has come, and the attempt has a later one. -/
theorem settleResponse_timedOut_iff (hwf : self.coordinator.WellFormed)
    (hkey : correlationKey attempt.request = .ok attempt.correlation)
    (response : ISO8583Message) :
    (∃ flowResult flow, self.settleResponse attempt completedAt response = (.ok flowResult, flow) ∧
        flowResult.disposition = some .timedOut) ↔
      completedAt < attempt.deadline ∧
        self.coordinator.Overdue completedAt attempt.correlation ∧
        correlatesResponse attempt.request response = .ok true := by
  rcases lt_or_ge completedAt attempt.deadline with hearly | hdue
  · rcases hhandle : self.coordinator.handleResponse attempt.request response completedAt with
      ⟨handled, coordinator⟩
    have hiff := NetworkTransactionCoordinator.handleResponse_timedOut_iff hwf hkey response
      completedAt
    rw [hhandle] at hiff
    rw [settleResponse_of_early self hearly hhandle, and_iff_right hearly, and_comm, ← hiff]
    constructor
    · rintro ⟨flowResult, flow, heq, hdisposition⟩
      cases handled with
      | error e => cases heq
      | ok disposition =>
        cases heq
        exact congrArg Except.ok (Option.some.inj hdisposition)
    · rintro rfl
      exact ⟨_, _, rfl, rfl⟩
  · refine iff_of_false ?_ fun h => absurd h.1 (not_lt.mpr hdue)
    rintro ⟨flowResult, flow, heq, hdisposition⟩
    rcases hexpire : self.coordinator.expire completedAt with ⟨_ | expired, swept⟩
    · rw [settleResponse_of_raised self hdue hexpire] at heq
      cases heq
    · -- From the deadline on, a sweep comes first and leaves nothing overdue.
      have hwfSwept : swept.WellFormed := hwf.sweep hexpire
      rcases hhandle : swept.handleResponse attempt.request response completedAt with
        ⟨handled, coordinator⟩
      rw [settleResponse_of_swept self hdue hexpire hhandle] at heq
      cases handled with
      | error e => cases heq
      | ok disposition =>
        cases heq
        have htimedOut : (swept.handleResponse attempt.request response completedAt).1 =
            .ok .timedOut := by
          rw [hhandle]
          exact congrArg Except.ok (Option.some.inj hdisposition)
        exact NetworkTransactionCoordinator.not_overdue_of_expire hwf hexpire _
          ((NetworkTransactionCoordinator.handleResponse_timedOut_iff hwfSwept hkey response
            completedAt).mp htimedOut).2

/-- What `_exchange` returns as a timeout is planned, or it is a response that found its transaction
overdue. -/
theorem settle_timedOut (hwf : self.coordinator.WellFormed)
    (hkey : correlationKey attempt.request = .ok attempt.correlation)
    (htimeoutSeconds : 0 < attempt.timeoutSeconds) {flowResult : NetworkFlowResult}
    (h : self.settle attempt completedAt answers = (.ok flowResult, self'))
    (hdisposition : flowResult.disposition = some .timedOut) :
    (flowResult.deliveryUnknown = true ∧ self'.HasReversal attempt) ∨
      completedAt < attempt.deadline ∧
        self.coordinator.Overdue completedAt attempt.correlation ∧
        ∃ response, self.Responds attempt answers response ∧
          correlatesResponse attempt.request response = .ok true := by
  have hends := settle_ends self completedAt answers htimeoutSeconds
  generalize hsettle : self.settle attempt completedAt answers = settled at hends h
  cases hends with
  | raised _ _ _ _ _ => cases h
  | failure _ _ _ =>
    have hnone := disposition_settleFailure h
    rw [hnone] at hdisposition
    cases hdisposition
  | timeout _ _ _ => exact Or.inl (hasReversal_of_settleTimeout h)
  | response hresponds adapter =>
    -- The attempt is not due yet, but the coordinator holds an earlier deadline for its
    -- correlation.
    obtain ⟨hearly, hoverdue, hcorrelates⟩ := (settleResponse_timedOut_iff { self with adapter }
      hwf hkey _).mp ⟨flowResult, self', h, hdisposition⟩
    exact Or.inr ⟨hearly, hoverdue, _, hresponds, hcorrelates⟩

/-- A response that finds its transaction overdue is returned as a timeout, with delivery known. -/
theorem settle_of_findsOverdue (hwf : self.coordinator.WellFormed)
    (hkey : correlationKey attempt.request = .ok attempt.correlation)
    (htimeoutSeconds : 0 < attempt.timeoutSeconds) {response : ISO8583Message}
    (hearly : completedAt < attempt.deadline)
    (hoverdue : self.coordinator.Overdue completedAt attempt.correlation)
    (hresponds : self.Responds attempt answers response)
    (hcorrelates : correlatesResponse attempt.request response = .ok true) :
    ∃ flowResult settled, self.settle attempt completedAt answers = (.ok flowResult, settled) ∧
      flowResult.disposition = some .timedOut ∧ flowResult.deliveryUnknown = false := by
  have hends := settle_ends self completedAt answers htimeoutSeconds
  generalize self.settle attempt completedAt answers = settled at hends
  cases hends with
  | raised _ _ hnot _ _ => exact absurd hresponds (hnot response)
  | failure hfails _ _ => exact absurd hresponds (hfails.not_responds response)
  | timeout htimesOut _ _ => exact absurd hresponds (htimesOut.not_responds response)
  | response hresponds' adapter =>
    cases hresponds.eq hresponds'
    have htimedOut := (NetworkTransactionCoordinator.handleResponse_timedOut_iff hwf hkey response
      completedAt).mpr ⟨hcorrelates, hoverdue⟩
    rcases hhandle : self.coordinator.handleResponse attempt.request response completedAt with
      ⟨handled, coordinator⟩
    rw [hhandle] at htimedOut
    cases htimedOut
    exact ⟨_, _, settleResponse_of_early { self with adapter } hearly hhandle, rfl, rfl⟩

variable [Sub T] [Mul T] [NatCast T]

omit [Sub T] [Mul T] [NatCast T] in
/-- A history that has grown is not what it was. -/
theorem ne_of_grown {before after : Option (List (NetworkObservation T))}
    {observations : List (NetworkObservation T)} {observation : NetworkObservation T}
    (hbefore : before = some observations)
    (hafter : after = some (observations ++ [observation])) : after ≠ before := by
  rintro hsame
  rw [hsame, hbefore] at hafter
  simp at hafter

omit [Sub T] [Mul T] [NatCast T] in
/-- A history grows by one observation only. -/
theorem eq_of_grown {before after : Option (List (NetworkObservation T))}
    {observations observations' : List (NetworkObservation T)}
    {observation observation' : NetworkObservation T} (hbefore : before = some observations)
    (hafter : after = some (observations ++ [observation]))
    (hbefore' : before = some observations')
    (hafter' : after = some (observations' ++ [observation'])) : observation' = observation := by
  cases hbefore.symm.trans hbefore'
  have hsame := List.append_cancel_left (Option.some_inj.mp (hafter.symm.trans hafter'))
  exact (List.cons.inj hsame).1.symm

/-- `_record` appends an observation with what it is given, if there is a history and the writer
does not raise. -/
theorem history_record {transportOutcome : TransportOutcome}
    {disposition : Option TransactionDisposition} {deliveryUnknown : Bool}
    {reason : Option ReversalReason} {written outcome : Py Unit}
    (h : self.record attempt transportOutcome disposition deliveryUnknown completedAt reason
      written = (outcome, self')) :
    (self'.history = self.history ∧ (self.history = none ∨ written ≠ .ok ())) ∨
      ∃ observations observation, self.history = some observations ∧ written = .ok () ∧
        self'.history = some (observations ++ [observation]) ∧
        observation.disposition = disposition ∧
        observation.deliveryUnknown = deliveryUnknown := by
  unfold record at h
  split at h
  · next hnone =>
    cases h
    exact Or.inl ⟨rfl, Or.inl hnone⟩
  · next observations hsome =>
    split at h
    · cases h
      exact Or.inl ⟨rfl, Or.inr nofun⟩
    · cases h
      exact Or.inr ⟨observations, _, hsome, rfl, rfl, rfl, rfl⟩

/-- `exchange` records what it returns, and only that. -/
theorem history_exchange {outcome : Py NetworkFlowResult}
    (h : self.exchange attempt completedAt answers = (outcome, self')) :
    self'.history = self.history ∨
      ∃ result observations observation, outcome = .ok result ∧
        self'.history = some (observations ++ [observation]) ∧
        self.history = some observations ∧ observation.disposition = result.disposition ∧
        observation.deliveryUnknown = result.deliveryUnknown := by
  rcases hsettle : self.settle attempt completedAt answers with ⟨settledOutcome, settled⟩
  have hsettled := history_settle hsettle
  unfold exchange at h
  rw [hsettle] at h
  cases settledOutcome with
  | error e =>
    cases h
    exact Or.inl hsettled
  | ok result =>
    simp only at h
    split at h
    · next e recorded hrecord =>
      cases h
      rcases history_record hrecord with ⟨hsame, -⟩ | ⟨observations, observation, -, hwritten, -⟩
      · exact Or.inl (hsame.trans hsettled)
      -- The writer has not raised, so neither has the record.
      · obtain ⟨-, hok⟩ := record_spec hrecord
        cases hok.mpr (Or.inr hwritten)
    · next recorded hrecord =>
      cases h
      rcases history_record hrecord with ⟨hsame, -⟩ | ⟨observations, observation, hhistory, -,
        hgrown, hdisposition, hunknown⟩
      · exact Or.inl (hsame.trans hsettled)
      · exact Or.inr ⟨result, observations, observation, rfl, hgrown,
          hsettled.symm.trans hhistory, hdisposition, hunknown⟩

/-- `handle_late_response` records the disposition of the response, with delivery known. -/
theorem history_handleLateResponse {response : ISO8583Message} {now : T}
    {outcome : Py TransactionDisposition}
    (h : self.handleLateResponse attempt response now answers = (outcome, self')) :
    (self'.history = self.history ∧
      ((∀ disposition, (self.coordinator.handleResponse attempt.request response now).1 ≠
        .ok disposition) ∨ self.history = none ∨ answers.history ≠ .ok ())) ∨
      ∃ disposition observations observation,
        (self.coordinator.handleResponse attempt.request response now).1 = .ok disposition ∧
        self.history = some observations ∧ answers.history = .ok () ∧
        self'.history = some (observations ++ [observation]) ∧
        observation.disposition = some disposition ∧ observation.deliveryUnknown = false := by
  rcases hhandle : self.coordinator.handleResponse attempt.request response now with
    ⟨handled, coordinator⟩
  unfold handleLateResponse at h
  rw [hhandle] at h
  cases handled with
  | error e =>
    cases h
    exact Or.inl ⟨rfl, Or.inl nofun⟩
  | ok disposition =>
    simp only at h
    split at h
    all_goals
      next hrecord =>
      cases h
      -- With telemetry or without, the record is what the history gets.
      rcases history_record hrecord with ⟨hsame, hor⟩ | ⟨observations, observation, hhistory,
        hwritten, hgrown, hdisposition, hunknown⟩
      · exact Or.inl ⟨hsame, Or.inr hor⟩
      · exact Or.inr ⟨disposition, observations, observation, rfl, hhistory, hwritten, hgrown,
          hdisposition, hunknown⟩

omit [Sub T] [Mul T] [NatCast T] in
/-- The registry of a flow decides which reversals it holds. -/
theorem HasReversal.congr (h : self.HasReversal attempt)
    (hsame : self'.reversals = self.reversals) : self'.HasReversal attempt := by
  obtain ⟨link, hlink⟩ := h
  exact ⟨link, by rw [hsame, hlink]⟩

/-! ## Runs -/

variable [Add T] {session session' : Session T}

/-- What `exchange` returns as a timeout is planned, unless it finds its transaction overdue. -/
theorem hasReversal_of_exchange {outcome : Py NetworkFlowResult} (hwf : session.WellFormed)
    (hstep : (lts T).step session (.exchange attempt completedAt answers outcome) session')
    (hnot : ¬FindsOverdue session (.exchange attempt completedAt answers outcome))
    {result : NetworkFlowResult} (hreturned : outcome = .ok result)
    (hdisposition : result.disposition = some .timedOut) :
    result.deliveryUnknown = true ∧ session'.flow.HasReversal attempt := by
  obtain ⟨hmem, hexchange, -⟩ := hstep
  obtain ⟨settledOutcome, settled, hsettle, hsame, hok⟩ := exchange_spec hexchange
  obtain ⟨rfl, hwritten⟩ := (hok result).mp hreturned
  rcases settle_timedOut hwf.coordinator (hwf.correlation attempt hmem)
    (hwf.timeoutSeconds attempt hmem) hsettle hdisposition with ⟨hunknown, hreversal⟩ |
    ⟨hearly, hoverdue, hresponds⟩
  · exact ⟨hunknown, hreversal.congr hsame.reversals⟩
  · exact absurd ⟨hearly, hoverdue, hresponds, hwritten⟩ hnot

/-- A start records nothing. -/
theorem keepsUnknown_start {canonical : AuthorizationRequest} {request : ISO8583Message}
    {now timeoutSeconds : T} {outcome : Py (NetworkAttempt T)}
    (hstep : (lts T).step session (.start canonical request now timeoutSeconds outcome) session') :
    KeepsUnknown session (.start canonical request now timeoutSeconds outcome) session' := by
  refine ⟨?_, fun observations observation hbefore hafter => ?_⟩
  · rintro attempt completedAt answers result ⟨⟩
  obtain ⟨hstart, -⟩ := hstep
  have hsame : session'.flow.history = session.flow.history := by
    rcases start_spec hstart with ⟨e, -, hflow⟩ | ⟨attempt, coordinator, -, hflow, -⟩ <;>
      rw [hflow]
  exact absurd hsame (ne_of_grown hbefore hafter)

/-- An exchange keeps what it has to unless it finds its transaction overdue. -/
theorem keepsUnknown_exchange_iff {outcome : Py NetworkFlowResult} (hwf : session.WellFormed)
    (hstep : (lts T).step session (.exchange attempt completedAt answers outcome) session') :
    KeepsUnknown session (.exchange attempt completedAt answers outcome) session' ↔
      ¬FindsOverdue session (.exchange attempt completedAt answers outcome) := by
  constructor
  -- The result is returned only when the history could be written, which is part of
  -- `FindsOverdue`.
  · rintro hkeeps ⟨hearly, hoverdue, ⟨response, hresponds, hcorrelates⟩, hwritten⟩
    obtain ⟨hmem, hexchange, -⟩ := hstep
    obtain ⟨settledOutcome, settled, hsettle, -, hok⟩ := exchange_spec hexchange
    obtain ⟨result, _, hreturned, hdisposition, hknown⟩ := settle_of_findsOverdue
      hwf.coordinator (hwf.correlation attempt hmem) (hwf.timeoutSeconds attempt hmem) hearly
      hoverdue hresponds hcorrelates
    cases hsettle.symm.trans hreturned
    have hunknown := (hkeeps.returned attempt completedAt answers result
      (by rw [(hok result).mpr ⟨rfl, hwritten⟩]) hdisposition).1
    rw [hknown] at hunknown
    cases hunknown
  · intro hnot
    constructor
    -- What is recorded is what is returned, so one argument serves both halves.
    · rintro _ _ _ result ⟨⟩ hdisposition
      exact hasReversal_of_exchange hwf hstep hnot rfl hdisposition
    · intro observations observation hbefore hafter hdisposition
      rcases history_exchange hstep.2.1 with hsame | ⟨result, observations', observation', rfl,
        hgrown, hbefore', hrecorded, hunknown⟩
      · exact absurd hsame (ne_of_grown hbefore hafter)
      · obtain rfl := eq_of_grown hbefore hafter hbefore' hgrown
        rw [hrecorded] at hdisposition
        have hkept := hasReversal_of_exchange hwf hstep hnot rfl hdisposition
        exact ⟨hunknown.trans hkept.1, _, rfl, hkept.2⟩

/-- The handling of a late response keeps what it has to unless it finds its transaction overdue. -/
theorem keepsUnknown_lateResponse_iff {response : ISO8583Message} {now : T}
    {outcome : Py TransactionDisposition} (hwf : session.WellFormed)
    (hstep : (lts T).step session (.lateResponse attempt response now answers outcome) session') :
    KeepsUnknown session (.lateResponse attempt response now answers outcome) session' ↔
      ¬FindsOverdue session (.lateResponse attempt response now answers outcome) := by
  have hlate := history_handleLateResponse hstep.2.1
  have hiff := NetworkTransactionCoordinator.handleResponse_timedOut_iff hwf.coordinator
    (hwf.correlation attempt hstep.1) response now
  constructor
  -- A late response is always recorded with delivery known.
  · rintro hkeeps ⟨hoverdue, hcorrelates, hhistory, hwritten⟩
    have htimedOut := hiff.mpr ⟨hcorrelates, hoverdue⟩
    rcases hlate with ⟨-, hraised | hnone | hunwritten⟩ | ⟨disposition, observations, observation,
      hhandled, hbefore, -, hgrown, hdisposition, hknown⟩
    · exact hraised _ htimedOut
    · exact hhistory hnone
    · exact hunwritten hwritten
    · cases htimedOut.symm.trans hhandled
      have hunknown := (hkeeps.recorded _ _ hbefore hgrown hdisposition).1
      rw [hknown] at hunknown
      cases hunknown
  · intro hnot
    refine ⟨?_, fun observations observation hbefore hafter hdisposition => ?_⟩
    · rintro attempt completedAt answers result ⟨⟩
    rcases hlate with ⟨hsame, -⟩ | ⟨disposition, observations', observation', hhandled, hbefore',
      hwritten, hgrown, hrecorded, -⟩
    · exact absurd hsame (ne_of_grown hbefore hafter)
    · obtain rfl := eq_of_grown hbefore hafter hbefore' hgrown
      cases hrecorded.symm.trans hdisposition
      obtain ⟨hcorrelates, hoverdue⟩ := hiff.mp hhandled
      exact absurd ⟨hoverdue, hcorrelates, by simp [hbefore], hwritten⟩ hnot

/-- A call keeps what it has to unless it finds a transaction overdue. -/
theorem keepsUnknown_iff {event : Event T} (hwf : session.WellFormed)
    (hstep : (lts T).step session event session') :
    KeepsUnknown session event session' ↔ ¬FindsOverdue session event := by
  cases event with
  | start canonical request now timeoutSeconds outcome =>
    exact iff_of_true (keepsUnknown_start hstep) fun h => h
  | exchange attempt completedAt answers outcome => exact keepsUnknown_exchange_iff hwf hstep
  | lateResponse attempt response now answers outcome =>
    exact keepsUnknown_lateResponse_iff hwf hstep

/-- In every run, what is returned or recorded as a timeout has delivery unknown, and a reversal,
exactly when no call handles a response that finds its transaction overdue. -/
theorem timeoutsUnknown_iff (log : List (Event T)) (session : Session T) :
    (∀ s event s', (lts T).Passes log session s event s' → KeepsUnknown s event s') ↔
      ∀ s event s', (lts T).Passes log session s event s' → ¬FindsOverdue s event :=
  Lts.forall_passes_congr
    (fun _ _ _ _ hrun hstep => keepsUnknown_iff (wellFormed_of_run hrun) hstep) log session

/-- The bytes of the response for the other correlation. -/
def otherPayload : Bytes :=
  [48, 50, 49, 48, 0, 32, 0, 0, 8, 0, 0, 0, 49, 50, 51, 52, 53, 55, 65, 66, 67, 49, 50, 51, 52, 53,
    54, 55, 56, 57]

/-- The session of an attempt on a flow with a history. -/
def recordedSession : Session ℤ :=
  ⟨((new sampleRouter defaultCodec false true).start
    (sampleCanonical sampleCorrelation) sampleRequest 0 5).2, [sampleAttempt]⟩

/-- An attempt is answered by the response of another one, and then, at its deadline and before any
sweep, by its own: this is recorded as a timeout with delivery known. -/
theorem timeout_recorded_known :
    ∃ (log : List (Event ℤ)) (session : Session ℤ), (lts ℤ).Run log session ∧
      (∀ before attempt response now answers outcome after,
        log = before ++ .lateResponse attempt response now answers outcome :: after →
          ∃ completedAt answers' result,
            .exchange attempt completedAt answers' (.ok result) ∈ before) ∧
      ¬∀ s event s', (lts ℤ).Passes log session s event s' → KeepsUnknown s event s' := by
  let started : Event ℤ :=
    .start (sampleCanonical sampleCorrelation) sampleRequest 0 5 (.ok sampleAttempt)
  let answers : Answers :=
    ⟨.ok { outcome := .response, responsePayload := some otherPayload }, .ok sampleReversal, .ok ()⟩
  let exchanged := recordedSession.flow.exchange sampleAttempt 3 answers
  let late := exchanged.2.handleLateResponse sampleAttempt sampleResponse 5 answers
  have hstarted : (lts ℤ).Run [started] recordedSession :=
    ⟨_, ⟨sampleRouter, defaultCodec, false, true, rfl⟩,
      .cons ⟨rfl, rfl⟩ (.nil _)⟩
  have hexchanged : (lts ℤ).step recordedSession (.exchange sampleAttempt 3 answers exchanged.1)
      ⟨exchanged.2, [sampleAttempt]⟩ := ⟨List.mem_singleton_self _, rfl, rfl⟩
  have hlate : (lts ℤ).step ⟨exchanged.2, [sampleAttempt]⟩
      (.lateResponse sampleAttempt sampleResponse 5 answers late.1) ⟨late.2, [sampleAttempt]⟩ :=
    ⟨List.mem_singleton_self _, rfl, rfl⟩
  have hrun := Lts.run_concat_iff.mpr ⟨recordedSession, hstarted, hexchanged⟩
  obtain ⟨result, hresult⟩ : ∃ result, exchanged.1 = .ok result := ⟨_, rfl⟩
  refine ⟨_, ⟨late.2, [sampleAttempt]⟩, Lts.run_concat_iff.mpr ⟨_, hrun, hlate⟩, ?_, fun h => ?_⟩
  · intro before attempt response now answers' outcome after hlog
    -- The log has one late response, the third event, and the exchange is the second.
    match before, hlog with
    | [], hlog => exact absurd (List.cons.inj hlog).1 nofun
    | [_], hlog => exact absurd (List.cons.inj (List.cons.inj hlog).2).1 nofun
    | [_, second], hlog =>
      obtain ⟨hsecond, hrest⟩ := List.cons.inj (List.cons.inj hlog).2
      cases (List.cons.inj hrest).1
      exact ⟨3, answers, result, by simp [← hsecond, ← hresult]⟩
    | _ :: _ :: _ :: rest, hlog =>
      have hnil := (List.cons.inj (List.cons.inj (List.cons.inj hlog).2).2).2
      simp at hnil
  · refine (timeoutsUnknown_iff _ _).mp h _ _ _ ⟨_, [], rfl, hrun, hlate, .nil _⟩ ?_
    exact ⟨⟨⟨sampleCorrelation, 5⟩, rfl, le_rfl⟩, rfl, nofun, rfl⟩

end AuthorizationNetworkFlow

end AtlasPay
