import AtlasPay.Network.FlowRuns

/-!
# What an exchange settles

Two promises about one exchange in a run. A timeout leaves a reversal plan exactly when the attempt
is the only overdue one (`timeout_planned_iff`): the sweep for several overdue attempts raises. And
the correlation is freed for a retry exactly when delivery is known not to have happened, for all
requests that encode and all responses that the codec does not reject (`retry_free_iff`).
-/

namespace AtlasPay

namespace AuthorizationNetworkFlow

variable {T : Type} [LinearOrder T] [Zero T]

/-! ## Timeouts -/

/-- The call returned that the attempt timed out, with delivery unknown and the reversal that the
registry has for the attempt. -/
def PlansReversal (attempt : NetworkAttempt T) (outcome : Py NetworkFlowResult)
    (flow : AuthorizationNetworkFlow T) : Prop :=
  ∃ result link, outcome = .ok result ∧ result.disposition = some .timedOut ∧
    result.deliveryUnknown = true ∧ result.reversal = some link ∧
    flow.reversals.forOriginal attempt.correlation = some link

/-- A timeout that is settled with a plan has swept the attempt alone. -/
theorem overdue_of_settle {self self' : AuthorizationNetworkFlow T} {attempt : NetworkAttempt T}
    {completedAt : T} {answers : Answers} {result : NetworkFlowResult} {link : ReversalLink}
    (h : self.settle attempt completedAt answers = (.ok result, self'))
    (hlink : result.reversal = some link) :
    self.coordinator.overdue completedAt = [attempt.correlation] ∧
      ∃ reversal, answers.reversal = .ok reversal := by
  cases settle_spec h with
  | planned _ _ _ hexpire hexpired hreversal _ _ =>
    refine ⟨?_, _, hreversal⟩
    cases NetworkTransactionCoordinator.expire_spec hexpire with
    | nothing _ => cases hexpired
    | expired hoverdue => rw [hoverdue, List.mem_singleton.mp hexpired]
  | failed _ _ _ houtcome =>
    obtain ⟨-, rfl⟩ := houtcome result rfl
    cases hlink
  | @handled _ _ _ _ _ _ _ _ _ handled _ _ houtcome =>
    cases handled with
    | error e => cases houtcome
    | ok disposition =>
      cases houtcome
      cases hlink

/-- A timeout at or after the deadline links the attempt with what the provider returns when the
attempt is the only overdue one. -/
theorem settle_of_overdue {self self' : AuthorizationNetworkFlow T} {attempt : NetworkAttempt T}
    {completedAt : T} {answers : Answers} {outcome : Py NetworkFlowResult} {payload : Bytes}
    {exchange : TransportExchange} {reversal : NetworkCorrelation}
    (h : self.settle attempt completedAt answers = (outcome, self'))
    (htimeoutSeconds : 0 < attempt.timeoutSeconds)
    (hencode : self.adapter.codec.encode attempt.request = .ok payload)
    (hanswer : answers.transport = .ok exchange) (htimeout : exchange.outcome = .timeout)
    (hdeadline : attempt.deadline ≤ completedAt)
    (hoverdue : self.coordinator.overdue completedAt = [attempt.correlation])
    (hreversal : answers.reversal = .ok reversal) :
    ∃ linked,
      self.reversals.link attempt.correlation reversal .timeout = (linked, self'.reversals) ∧
      self'.issued = self.issued ++ [reversal] ∧
      ∀ link, linked = .ok link → ∃ result, outcome = .ok result ∧
        result.disposition = some .timedOut ∧ result.deliveryUnknown = true ∧
        result.reversal = some link := by
  have hclassified : self.adapter.exchange answers.transport attempt.request
      attempt.timeoutSeconds =
      (.ok { outcome := .timeout, error := exchange.error, deliveryUnknown := true },
        { self.adapter with sent := self.adapter.sent ++ [payload] }) := by
    rw [ISO8583NetworkAdapter.exchange_of_encode _ htimeoutSeconds hencode, hanswer]
    exact congrArg (·, _) (ISO8583Codec.classify_of_timeout htimeout)
  -- The timeout, its deadline and the one overdue attempt leave only the last of the ends.
  cases settle_spec h with
  | raised hadapter =>
    rw [hclassified] at hadapter
    cases hadapter
  | failed hadapter hresult _ _ | unhandled hadapter hresult _ | handled hadapter hresult _ _ _ _ =>
    rw [hclassified] at hadapter
    cases hadapter
    cases hresult
  | early _ _ hearly _ => exact absurd hearly (not_lt.mpr hdeadline)
  | unswept _ _ _ hexpire hexpired _ =>
    cases NetworkTransactionCoordinator.expire_spec hexpire with
    | raised _ hmany =>
      rw [hoverdue] at hmany
      exact absurd hmany (by simp)
    | nothing hnone =>
      rw [hoverdue] at hnone
      cases hnone
    | expired hone =>
      rw [hoverdue] at hone
      cases hone
      exact absurd (List.mem_singleton_self _) (hexpired _ rfl)
  | unplanned _ _ _ _ _ hraised =>
    rw [hreversal] at hraised
    cases hraised
  | planned _ _ _ _ _ hreturned hlink houtcome =>
    rw [hreversal] at hreturned
    cases hreturned
    refine ⟨_, hlink, rfl, ?_⟩
    rintro link rfl
    exact ⟨_, houtcome, rfl, rfl, rfl⟩

/-- The payload was handed to the transport only if the request encodes. -/
theorem encode_of_sent {self self' : AuthorizationNetworkFlow T} {attempt : NetworkAttempt T}
    {completedAt : T} {answers : Answers} {outcome : Py NetworkFlowResult}
    (h : self.settle attempt completedAt answers = (outcome, self'))
    (hsent : self'.adapter.sent ≠ self.adapter.sent) :
    ∃ payload, self.adapter.codec.encode attempt.request = .ok payload := by
  obtain ⟨result, hadapter⟩ := adapter_settle h
  generalize self'.adapter = adapter at hadapter hsent
  cases ISO8583NetworkAdapter.exchange_spec hadapter with
  | invalid _ _ | unencodable _ => exact absurd rfl hsent
  | unanswered hencode _ | answered hencode _ _ => exact ⟨_, hencode⟩

variable [Add T] [Sub T] [Mul T] [NatCast T]

/-- In every run in which the attempts have distinct correlations and are exchanged at most once,
and the provider of reversals returns no correlation twice and none of an attempt: when the
transport reports a timeout for an attempt at or after its deadline, a reversal is planned exactly
when the attempt is the only overdue one, the provider returns a correlation and the history, if
any, is written. -/
theorem timeout_planned_iff {log : List (Event T)} {session session' : Session T}
    {attempt : NetworkAttempt T} {completedAt : T} {answers : Answers}
    {outcome : Py NetworkFlowResult} {exchange : TransportExchange}
    (hrun : (lts T).Run log session)
    (hstep : (lts T).step session (.exchange attempt completedAt answers outcome) session')
    (hdistinct : (session.attempts.map NetworkAttempt.correlation).Nodup)
    (honce : (log.filterMap exchanged ++ [attempt]).Nodup)
    (hissued : session'.flow.issued.Nodup)
    (hfresh : ∀ key ∈ session'.flow.issued, ∀ other ∈ session'.attempts, key ≠ other.correlation)
    (hsent : session'.flow.adapter.sent ≠ session.flow.adapter.sent)
    (hanswer : answers.transport = .ok exchange) (htimeout : exchange.outcome = .timeout)
    (hdeadline : attempt.deadline ≤ completedAt) :
    PlansReversal attempt outcome session'.flow ↔
      session.flow.coordinator.overdue completedAt = [attempt.correlation] ∧
        (∃ reversal, answers.reversal = .ok reversal) ∧
        (session.flow.history = none ∨ answers.history = .ok ()) := by
  obtain ⟨hmem, hexchange, hattempts⟩ := hstep
  obtain ⟨settledOutcome, settled, hsettle, hsame, hok⟩ := exchange_spec hexchange
  have hwf := wellFormed_of_run hrun
  have haccounts := accounts_of_run hrun
  constructor
  · rintro ⟨result, link, hresult, -, -, hlink, -⟩
    obtain ⟨rfl, hhistory⟩ := (hok result).mp hresult
    obtain ⟨hoverdue, hreversal⟩ := overdue_of_settle hsettle hlink
    exact ⟨hoverdue, hreversal, hhistory⟩
  · rintro ⟨hoverdue, ⟨reversal, hreversal⟩, hhistory⟩
    rw [hsame.adapter] at hsent
    obtain ⟨payload, hencode⟩ := encode_of_sent hsettle hsent
    obtain ⟨linked, hlink, hissuedEq, hreturns⟩ := settle_of_overdue hsettle
      (hwf.timeoutSeconds attempt hmem) hencode hanswer htimeout hdeadline hoverdue hreversal
    rw [hsame.issued, hissuedEq] at hissued hfresh
    have hreversalMem : reversal ∈ session.flow.issued ++ [reversal] :=
      List.mem_append_right _ (List.mem_singleton_self _)
    -- No link has one of the two correlations: the attempt was not exchanged before, and the
    -- provider has not returned the other one.
    have hne : attempt.correlation ≠ reversal := fun heq =>
      hfresh reversal hreversalMem attempt (hattempts ▸ hmem) heq.symm
    have hnotIssued : reversal ∉ session.flow.issued := fun hin =>
      (List.nodup_append.mp hissued).2.2 reversal hin reversal (List.mem_singleton_self _) rfl
    have horiginal : attempt.correlation ∉ session.flow.reversals.byOriginal := by
      intro hin
      obtain ⟨other, hother, heq⟩ := haccounts.linked _ hin
      have hsameAttempt : other = attempt :=
        List.inj_on_of_nodup_map hdistinct (haccounts.started other hother) hmem heq
      exact (List.nodup_append.mp honce).2.2 other hother attempt (List.mem_singleton_self _)
        hsameAttempt
    generalize hregistry : settled.reversals = registry at hlink
    cases ReversalRegistry.link_spec hlink with
    | raised _ hor =>
      rcases hor with heq | hin | hin
      · exact absurd heq hne
      · exact absurd hin horiginal
      · exact absurd (hwf.reversalKeys reversal hin) hnotIssued
    | linked _ _ _ =>
      obtain ⟨result, hresult, hdisposition, hunknown, hreversalLink⟩ := hreturns _ rfl
      refine ⟨result, _, (hok result).mpr ⟨hresult, hhistory⟩, hdisposition, hunknown,
        hreversalLink, ?_⟩
      rw [hsame.reversals, hregistry]
      exact AList.lookup_insert _

/-- A single overdue attempt gets a reversal plan. -/
theorem timeout_planned_single :
    ∃ (session' : Session ℤ) (outcome : Py NetworkFlowResult),
      PlansReversal sampleAttempt outcome session'.flow := by
  let answers : Answers :=
    ⟨.ok { outcome := .timeout, deliveryUnknown := true }, .ok sampleReversal, .ok ()⟩
  let after := sampleSession.flow.exchange sampleAttempt 5 answers
  have hstep : (lts ℤ).step sampleSession (.exchange sampleAttempt 5 answers after.1)
      ⟨after.2, sampleSession.attempts⟩ := ⟨List.mem_singleton_self _, rfl, rfl⟩
  have hissued : after.2.issued = [sampleReversal] := rfl
  refine ⟨_, _, (timeout_planned_iff run_sampleSession hstep (List.nodup_singleton _)
    (List.nodup_singleton _) ?_ ?_ ?_ rfl rfl le_rfl).mpr ⟨rfl, ⟨_, rfl⟩, Or.inl rfl⟩⟩
  · rw [hissued]
    exact List.nodup_singleton _
  · rw [hissued]
    decide
  · exact List.cons_ne_nil _ _

/-- Two attempts that are overdue at the same time: the transport reports a timeout for the first at
its deadline, and the exchange raises instead of planning its reversal. -/
theorem timeout_unplanned_two_overdue :
    ∃ (log : List (Event ℤ)) (session session' : Session ℤ) (attempt : NetworkAttempt ℤ)
      (completedAt : ℤ) (answers : Answers) (outcome : Py NetworkFlowResult)
      (exchange : TransportExchange),
      (lts ℤ).Run log session ∧
        (lts ℤ).step session (.exchange attempt completedAt answers outcome) session' ∧
        (session.attempts.map NetworkAttempt.correlation).Nodup ∧
        (∀ event ∈ log, ∃ canonical request now timeoutSeconds outcome,
          event = .start canonical request now timeoutSeconds outcome) ∧
        session'.flow.issued.Nodup ∧
        (∀ key ∈ session'.flow.issued, ∀ other ∈ session'.attempts, key ≠ other.correlation) ∧
        session'.flow.adapter.sent ≠ session.flow.adapter.sent ∧
        answers.transport = .ok exchange ∧ exchange.outcome = .timeout ∧
        attempt.deadline ≤ completedAt ∧ ¬PlansReversal attempt outcome session'.flow := by
  let otherRequest := correlatedMessage "0200" "123457" "ABC123456789"
  let otherAttempt : NetworkAttempt ℤ := ⟨sampleRoute, otherRequest, otherCorrelation, 1, 5, 4⟩
  let session : Session ℤ :=
    ⟨(sampleSession.flow.start (sampleCanonical otherCorrelation) otherRequest 1 4).2,
      [sampleAttempt, otherAttempt]⟩
  have hrun := Lts.run_concat_iff.mpr ⟨sampleSession, run_sampleSession, (show (lts ℤ).step
    sampleSession (.start (sampleCanonical otherCorrelation) otherRequest 1 4 (.ok otherAttempt))
    session from ⟨rfl, rfl⟩)⟩
  let answers : Answers :=
    ⟨.ok { outcome := .timeout, deliveryUnknown := true }, .ok sampleReversal, .ok ()⟩
  let after := session.flow.exchange sampleAttempt 5 answers
  -- The sweep at 5 finds both, and cannot order them.
  have hraised : ∃ message, after.1 = .error (.typeError message) := ⟨_, rfl⟩
  have hissued : after.2.issued = [] := rfl
  refine ⟨_, session, ⟨after.2, session.attempts⟩, sampleAttempt, 5, answers, after.1, _, hrun,
    ⟨List.mem_cons_self, rfl, rfl⟩, by decide, ?_, ?_, ?_, List.cons_ne_nil _ _, rfl, rfl, le_rfl,
    ?_⟩
  · simp
  · rw [hissued]
    exact List.nodup_nil
  · rw [hissued]
    simp
  · rintro ⟨result, link, hresult, -⟩
    obtain ⟨message, hraised⟩ := hraised
    rw [hraised] at hresult
    cases hresult

/-! ## Retries -/

omit [Add T] [Sub T] [Mul T] [NatCast T] in
/-- `_exchange` forgets a pending correlation exactly when the adapter returns a failure. -/
theorem not_knows_settle {self self' : AuthorizationNetworkFlow T} {attempt : NetworkAttempt T}
    {completedAt : T} {answers : Answers} {outcome : Py NetworkFlowResult}
    (hwf : self.coordinator.WellFormed)
    (hkey : correlationKey attempt.request = .ok attempt.correlation)
    (hpending : attempt.correlation ∈ self.coordinator.pending)
    (h : self.settle attempt completedAt answers = (outcome, self')) :
    ¬self'.coordinator.Knows attempt.correlation ↔
      ∃ result, (self.adapter.exchange answers.transport attempt.request
        attempt.timeoutSeconds).1 = .ok result ∧ result.outcome = .failure := by
  have hknows : self.coordinator.Knows attempt.correlation := Or.inl hpending
  have hexpire : ∀ {expired coordinator},
      self.coordinator.expire completedAt = (expired, coordinator) →
        coordinator.Knows attempt.correlation := fun hexpire =>
    (NetworkTransactionCoordinator.knows_expire hexpire _).mpr hknows
  -- Only the failed end cancels; the others sweep or handle a response, which forgets nothing.
  cases settle_spec h with
  | raised hadapter => simp [hadapter, hknows]
  | failed hadapter hresult hcancel _ =>
    refine ⟨fun _ => ⟨_, by rw [hadapter], hresult⟩, fun _ => ?_⟩
    exact (NetworkTransactionCoordinator.not_knows_cancel hwf hkey hpending hcancel).2
  | early hadapter hresult _ _ => simp [hadapter, hresult, hknows]
  | unswept hadapter hresult _ hswept _ _ | unplanned hadapter hresult _ hswept _ _
  | planned hadapter hresult _ hswept _ _ _ _ | unhandled hadapter hresult hswept =>
    simp [hadapter, hresult, hexpire hswept]
  | @handled _ _ hadapter hresult _ _ swept _ hswept _ hhandle _ _ =>
    have hsweptKnows : swept.Knows attempt.correlation := by
      rcases hswept with rfl | ⟨expired, hswept⟩
      · exact hknows
      · exact hexpire hswept
    have hafter := (NetworkTransactionCoordinator.knows_handleResponse hhandle _).mpr hsweptKnows
    simp [hadapter, hresult, hafter]

/-- In every run, after an exchange of a pending attempt its correlation is free exactly when
delivery is known not to have happened, that is, the transport was not handed the request or
reported a failure, if and only if the request encodes and the transport did not answer with bytes
that the codec rejects. -/
theorem retry_free_iff {log : List (Event T)} {session session' : Session T}
    {attempt : NetworkAttempt T} {completedAt : T} {answers : Answers}
    {outcome : Py NetworkFlowResult} (hrun : (lts T).Run log session)
    (hstep : (lts T).step session (.exchange attempt completedAt answers outcome) session')
    (hpending : attempt.correlation ∈ session.flow.coordinator.pending) :
    (¬session'.flow.coordinator.Knows attempt.correlation ↔
        session'.flow.adapter.sent = session.flow.adapter.sent ∨
          ∃ exchange, answers.transport = .ok exchange ∧ exchange.outcome = .failure) ↔
      (∃ payload, session.flow.adapter.codec.encode attempt.request = .ok payload) ∧
        ∀ exchange, answers.transport = .ok exchange →
          ¬session.flow.adapter.codec.Rejects exchange := by
  obtain ⟨hmem, hexchange, -⟩ := hstep
  obtain ⟨settledOutcome, settled, hsettle, hsame, -⟩ := exchange_spec hexchange
  have hwf := wellFormed_of_run hrun
  rw [hsame.coordinator, hsame.adapter,
    not_knows_settle hwf.coordinator (hwf.correlation attempt hmem) hpending hsettle]
  obtain ⟨result, hadapter⟩ := adapter_settle hsettle
  have hpositive := hwf.timeoutSeconds attempt hmem
  generalize settled.adapter = adapter at hadapter ⊢
  rw [hadapter]
  cases hencode : session.flow.adapter.codec.encode attempt.request with
  | error e =>
    -- Nothing was handed over, and nothing is cancelled.
    cases ISO8583NetworkAdapter.exchange_spec hadapter with
    | invalid hle _ => exact absurd hle (not_le.mpr hpositive)
    | unencodable _ => simp
    | unanswered hok _ | answered hok _ _ =>
      rw [hencode] at hok
      cases hok
  | ok payload =>
    rw [ISO8583NetworkAdapter.exchange_of_encode _ hpositive hencode] at hadapter
    cases hadapter
    have hhanded : session.flow.adapter.sent ++ [payload] ≠ session.flow.adapter.sent := by simp
    cases hanswer : answers.transport with
    | error e => simp [hhanded, bind, Except.bind]
    | ok exchange =>
      have hclassify := session.flow.adapter.codec.classify_failure_iff exchange
      -- Bytes that are rejected come with a response, which is not a failure of the transport.
      have hexclusive : session.flow.adapter.codec.Rejects exchange →
          exchange.outcome ≠ .failure := by
        rintro ⟨hresponse, -⟩ hfailure
        rw [hresponse] at hfailure
        cases hfailure
      simp only [bind, Except.bind, hclassify, hhanded, false_or, Except.ok.injEq,
        exists_eq_left', exists_eq', true_and, forall_eq']
      tauto

/-- A failure of the transport frees the correlation for a retry. -/
theorem retry_free_failure :
    ∃ session' : Session ℤ, ¬session'.flow.coordinator.Knows sampleCorrelation := by
  let answers : Answers := ⟨.ok { outcome := .failure }, .ok sampleReversal, .ok ()⟩
  let after := sampleSession.flow.exchange sampleAttempt 3 answers
  have hstep : (lts ℤ).step sampleSession (.exchange sampleAttempt 3 answers after.1)
      ⟨after.2, sampleSession.attempts⟩ := ⟨List.mem_singleton_self _, rfl, rfl⟩
  refine ⟨_, ((retry_free_iff run_sampleSession hstep (by decide)).mpr ⟨⟨_, rfl⟩, ?_⟩).mpr
    (Or.inr ⟨_, rfl, rfl⟩)⟩
  rintro exchange hanswer ⟨hresponse, -⟩
  cases hanswer
  cases hresponse

/-- A response that the codec rejects frees the correlation, although it was delivered. -/
theorem retry_freed_by_rejected_response :
    ∃ (log : List (Event ℤ)) (session session' : Session ℤ) (attempt : NetworkAttempt ℤ)
      (completedAt : ℤ) (answers : Answers) (outcome : Py NetworkFlowResult)
      (exchange : TransportExchange),
      (lts ℤ).Run log session ∧
        (lts ℤ).step session (.exchange attempt completedAt answers outcome) session' ∧
        attempt.correlation ∈ session.flow.coordinator.pending ∧
        session'.flow.adapter.sent ≠ session.flow.adapter.sent ∧
        answers.transport = .ok exchange ∧ exchange.outcome = .response ∧
        ¬session'.flow.coordinator.Knows attempt.correlation := by
  let answers : Answers :=
    ⟨.ok { outcome := .response, responsePayload := some [0x6E, 0x6F] }, .ok sampleReversal,
      .ok ()⟩
  let after := sampleSession.flow.exchange sampleAttempt 3 answers
  have hcoordinator : after.2.coordinator = .new := rfl
  refine ⟨_, sampleSession, ⟨after.2, sampleSession.attempts⟩, sampleAttempt, 3, answers, after.1,
    _, run_sampleSession, ⟨List.mem_singleton_self _, rfl, rfl⟩, by decide, List.cons_ne_nil _ _,
    rfl, rfl, ?_⟩
  rw [hcoordinator]
  rintro (h | h | h)
  · exact absurd h (by decide)
  · exact absurd h (by decide)
  · exact absurd h (by decide)

end AuthorizationNetworkFlow

end AtlasPay
