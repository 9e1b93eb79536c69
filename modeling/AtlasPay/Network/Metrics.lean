import AtlasPay.Network.Privacy
import AtlasPay.Network.Recording

/-!
# The metrics of a flow add up

What `app/network_observability.py` counts over a run of a flow. Every attempt that is observed ends
in one outcome; the outcomes that are timeouts are those whose delivery is unknown and those for
which a reversal was planned, one by one; and there are as many planned reversals as the registry
has links.
-/

namespace AtlasPay

namespace NetworkTelemetry

/-- The outcome of an exchange, not of a late response. -/
def isFinal (labels : OutcomeLabels) : Bool := labels.transportOutcome ≠ "async_response"

/-- The outcome of an exchange that timed out. -/
def isTimeout (labels : OutcomeLabels) : Bool :=
  labels.transportOutcome = TransportOutcome.timeout.value

/-- The labels that attempts are counted with. -/
def routeLabels (labels : OutcomeLabels) : String × String := (labels.route, labels.issuer)

/-- The counters agree with one another, and with a registry. -/
structure Reconciles (telemetry : NetworkTelemetry) (registry : ReversalRegistry) : Prop where
  attempts : (telemetry.outcomes.filter isFinal).map routeLabels = telemetry.attempts
  reversals : telemetry.reversals = (telemetry.outcomes.filter isTimeout).map fun labels =>
    (labels.route, labels.issuer, ReversalReason.timeout.value)
  timeouts : ∀ labels ∈ telemetry.outcomes, isTimeout labels = true →
    labels.disposition = TransactionDisposition.timedOut.value
  unknown : ∀ labels ∈ telemetry.outcomes,
    labels.deliveryUnknown = if isTimeout labels then "true" else "false"
  links : telemetry.reversals.length = registry.byOriginal.keys.length

/-- What one exchange adds: an attempt and its outcome, and a reversal when it timed out. -/
structure Adds (telemetry : NetworkTelemetry) (route : IssuerRoute) (planned : Bool)
    (after : NetworkTelemetry) : Prop where
  attempts : after.attempts = telemetry.attempts ++ [(route.name, route.issuerId)]
  outcomes : ∃ labels, after.outcomes = telemetry.outcomes ++ [labels] ∧
    routeLabels labels = (route.name, route.issuerId) ∧ isFinal labels = true ∧
    isTimeout labels = planned ∧
    (planned = true → labels.disposition = TransactionDisposition.timedOut.value) ∧
    labels.deliveryUnknown = if planned then "true" else "false"
  reversals : after.reversals = telemetry.reversals ++
    if planned then [(route.name, route.issuerId, ReversalReason.timeout.value)] else []

/-- An exchange whose reversal is linked, when it plans one, keeps the counters in agreement. -/
theorem Reconciles.adds {self after : NetworkTelemetry} {registry registry' : ReversalRegistry}
    {route : IssuerRoute} {planned : Bool} (h : self.Reconciles registry)
    (hadds : self.Adds route planned after)
    (hlinks : registry'.byOriginal.keys.length =
      registry.byOriginal.keys.length + if planned then 1 else 0) :
    after.Reconciles registry' := by
  obtain ⟨labels, houtcomes, hroute, hfinal, htimeout, htimedOut, hunknown⟩ := hadds.outcomes
  have hlabels : (labels.route, labels.issuer) = (route.name, route.issuerId) := hroute
  obtain ⟨hname, hissuer⟩ := Prod.mk.inj hlabels
  refine ⟨?_, ?_, ?_, ?_, ?_⟩
  · rw [houtcomes, hadds.attempts, ← h.attempts]
    simp [hfinal, hroute]
  · rw [houtcomes, hadds.reversals, h.reversals]
    cases planned <;> simp [htimeout, hname, hissuer]
  · rw [houtcomes]
    refine List.forall_mem_append.mpr ⟨h.timeouts, List.forall_mem_singleton.mpr fun hlast => ?_⟩
    exact htimedOut (htimeout.symm.trans hlast)
  · rw [houtcomes]
    refine List.forall_mem_append.mpr ⟨h.unknown, List.forall_mem_singleton.mpr ?_⟩
    rw [hunknown, htimeout]
  · rw [hadds.reversals, List.length_append, h.links, hlinks]
    cases planned <;> rfl

/-- A late response is counted as an outcome only. -/
theorem Reconciles.recordLateResponse {self : NetworkTelemetry} {registry : ReversalRegistry}
    (h : self.Reconciles registry) (route : IssuerRoute) (disposition : TransactionDisposition) :
    (self.recordLateResponse route disposition).Reconciles registry := by
  refine ⟨?_, ?_, ?_, ?_, h.links⟩
  · change _ = self.attempts
    rw [← h.attempts]
    simp [NetworkTelemetry.recordLateResponse, isFinal]
  · change self.reversals = _
    rw [h.reversals]
    simp [NetworkTelemetry.recordLateResponse, isTimeout, TransportOutcome.value]
  · refine List.forall_mem_append.mpr ⟨h.timeouts, List.forall_mem_singleton.mpr fun hlate => ?_⟩
    simp [isTimeout, TransportOutcome.value] at hlate
  · exact List.forall_mem_append.mpr ⟨h.unknown, List.forall_mem_singleton.mpr rfl⟩

end NetworkTelemetry

namespace AuthorizationNetworkFlow

/-- A call that plans no reversal is counted without one. -/
theorem adds_unplanned (telemetry : NetworkTelemetry) (route : IssuerRoute)
    {outcome : Py NetworkFlowResult} (h : ∀ result, outcome = .ok result →
      result.transportOutcome ≠ .timeout ∧ result.deliveryUnknown = false ∧
        result.reversal = none) :
    telemetry.Adds route false (telemetry.observeExchange route outcome) := by
  cases outcome with
  | error e =>
    exact ⟨rfl, ⟨_, rfl, rfl, rfl, rfl, nofun, rfl⟩, (List.append_nil _).symm⟩
  | ok result =>
    obtain ⟨houtcome, hunknown, hreversal⟩ := h result rfl
    refine ⟨rfl, ⟨_, rfl, rfl, ?_, ?_, nofun, ?_⟩, ?_⟩
    · cases hresult : result.transportOutcome <;>
        simp [NetworkTelemetry.isFinal, hresult, TransportOutcome.value]
    · cases hresult : result.transportOutcome with
      | timeout => exact absurd hresult houtcome
      | response | failure =>
        simp [NetworkTelemetry.isTimeout, hresult, TransportOutcome.value]
    · simp [hunknown]
    · simp [NetworkTelemetry.observeExchange, hreversal]

/-- A call that raises is counted without a reversal. -/
theorem adds_raised (telemetry : NetworkTelemetry) (route : IssuerRoute) (e : PyError) :
    telemetry.Adds route false (telemetry.observeExchange route (.error e)) :=
  adds_unplanned telemetry route fun _ h => by cases h

/-- A planned reversal is counted with its timeout. -/
theorem adds_planned (telemetry : NetworkTelemetry) (route : IssuerRoute) {link : ReversalLink}
    (hreason : link.reason = .timeout) (error : Option String) :
    telemetry.Adds route true (telemetry.observeExchange route (.ok {
      route := route
      transportOutcome := .timeout
      disposition := some .timedOut
      deliveryUnknown := true
      reversal := some link
      error := error })) :=
  ⟨rfl, ⟨_, rfl, rfl, rfl, rfl, fun _ => rfl, rfl⟩, by
    simp [NetworkTelemetry.observeExchange, hreason]⟩

variable {T : Type} [LinearOrder T] [Zero T] {self self' : AuthorizationNetworkFlow T}
  {attempt : NetworkAttempt T} {completedAt : T} {answers : Answers}

/-- What `_exchange` is counted as: a planned reversal is linked, and no other end links. -/
theorem adds_settle {outcome : Py NetworkFlowResult}
    (h : self.settle attempt completedAt answers = (outcome, self')) (telemetry : NetworkTelemetry) :
    ∃ planned : Bool,
      telemetry.Adds attempt.route planned (telemetry.observeExchange attempt.route outcome) ∧
      self'.reversals.byOriginal.keys.length =
        self.reversals.byOriginal.keys.length + if planned then 1 else 0 := by
  cases settle_spec h with
  | @raised e _ _ => exact ⟨false, adds_raised telemetry attempt.route e, rfl⟩
  | failed _ _ _ houtcome =>
    refine ⟨false, adds_unplanned _ _ fun result hresult => ?_, rfl⟩
    rw [(houtcome result hresult).2]
    exact ⟨nofun, rfl, rfl⟩
  | early _ _ _ e => exact ⟨false, adds_raised telemetry attempt.route _, rfl⟩
  | unswept _ _ _ _ _ e => exact ⟨false, adds_raised telemetry attempt.route _, rfl⟩
  | unplanned _ _ _ _ _ _ => exact ⟨false, adds_raised telemetry attempt.route _, rfl⟩
  -- A reversal is counted as planned exactly when it is linked.
  | planned _ _ _ _ _ _ hlink houtcome =>
    cases ReversalRegistry.link_spec hlink with
    | raised e _ =>
      rw [houtcome]
      exact ⟨false, adds_raised _ _ _, rfl⟩
    | linked _ horiginal _ =>
      rw [houtcome]
      refine ⟨true, adds_planned _ _ rfl _, ?_⟩
      rw [AList.keys_insert, List.length_cons, List.erase_of_not_mem horiginal]
      rfl
  | unhandled _ _ _ => exact ⟨false, adds_raised telemetry attempt.route _, rfl⟩
  | @handled _ _ _ _ _ _ _ _ _ handled _ _ houtcome =>
    refine ⟨false, adds_unplanned _ _ fun result hresult => ?_, rfl⟩
    rw [houtcome] at hresult
    cases handled with
    | error e => cases hresult
    | ok disposition =>
      cases hresult
      exact ⟨nofun, rfl, rfl⟩

variable [Sub T] [Mul T] [NatCast T]

/-- The history is no business of the telemetry. -/
theorem telemetry_record (transportOutcome : TransportOutcome)
    (disposition : Option TransactionDisposition) (deliveryUnknown : Bool)
    (reason : Option ReversalReason) (written : Py Unit) :
    (self.record attempt transportOutcome disposition deliveryUnknown completedAt reason
      written).2.telemetry = self.telemetry := by
  unfold record
  split
  · rfl
  · split <;> rfl

/-- Telemetry observes what `_exchange` returns or raises. -/
theorem telemetry_exchange {outcome : Py NetworkFlowResult}
    (h : self.settle attempt completedAt answers = (outcome, self')) :
    (self.exchange attempt completedAt answers).2.telemetry = self.telemetry.map fun telemetry =>
      telemetry.observeExchange attempt.route outcome := by
  rw [← telemetry_settle h]
  unfold exchange
  rw [h]
  cases outcome with
  | error e => rfl
  | ok result =>
    dsimp only
    split <;> rename_i hrecord <;> rw [← congrArg (·.2.telemetry) hrecord] <;>
      exact telemetry_record _ _ _ _ _

/-- Telemetry observes a late response once the coordinator has handled it. -/
theorem telemetry_handleLateResponse (self : AuthorizationNetworkFlow T)
    (attempt : NetworkAttempt T) (response : ISO8583Message) (now : T) (answers : Answers) :
    (self.handleLateResponse attempt response now answers).2.telemetry = self.telemetry ∨
      ∃ disposition, (self.handleLateResponse attempt response now answers).2.telemetry =
        self.telemetry.map fun telemetry =>
          telemetry.recordLateResponse attempt.route disposition := by
  unfold handleLateResponse
  split
  · exact .inl rfl
  · next disposition coordinator hhandle =>
    refine .inr ⟨disposition, ?_⟩
    dsimp only
    split <;> rename_i hrecord <;> rw [← congrArg (·.2.telemetry) hrecord] <;>
      exact telemetry_record _ _ _ _ _

/-- In every run of a flow, also through calls that raise, the metrics add up: each exchange counts
one attempt and one outcome for its route; the timeouts among the outcomes are those of unknown
delivery, and each counts one planned reversal for its route; and there are as many of these as
reversals in the registry. -/
theorem metrics_of_run [Add T] {log : List (Event T)} {session : Session T}
    {telemetry : NetworkTelemetry} (h : (lts T).Run log session)
    (htelemetry : session.flow.telemetry = some telemetry) :
    telemetry.Reconciles session.flow.reversals ∧
      telemetry.attempts = (log.filterMap exchanged).map fun attempt =>
        (attempt.route.name, attempt.route.issuerId) := by
  suffices hall : ∀ telemetry, session.flow.telemetry = some telemetry →
      telemetry.Reconciles session.flow.reversals ∧
        telemetry.attempts = (log.filterMap exchanged).map fun attempt =>
          (attempt.route.name, attempt.route.issuerId) from hall telemetry htelemetry
  clear htelemetry
  refine Lts.Run.log_invariant (P := fun log session => ∀ telemetry,
    session.flow.telemetry = some telemetry → telemetry.Reconciles session.flow.reversals ∧
      telemetry.attempts = (log.filterMap exchanged).map fun attempt =>
        (attempt.route.name, attempt.route.issuerId)) ?_ ?_ h
  · rintro _ ⟨router, codec, observed, recorded, rfl⟩ telemetry htelemetry
    cases observed with
    | false => cases htelemetry
    | true =>
      cases htelemetry
      exact ⟨⟨rfl, rfl, by simp, by simp, rfl⟩, rfl⟩
  · rintro log session event session' - ih hstep telemetry htelemetry
    have hlog := exchanged_concat log event
    cases event with
    | start canonical request now timeoutSeconds outcome =>
      obtain ⟨hstart, -⟩ := hstep
      have hnone : exchanged (.start canonical request now timeoutSeconds outcome) = none := rfl
      rw [hlog, hnone, Option.toList_none, List.append_nil]
      -- A start touches neither the metrics nor the registry.
      rcases start_spec hstart with ⟨e, -, hflow⟩ | ⟨attempt, coordinator, -, hflow, -⟩
      · rw [hflow] at htelemetry ⊢
        exact ih telemetry htelemetry
      · rw [hflow] at htelemetry ⊢
        exact ih telemetry htelemetry
    | exchange attempt completedAt answers outcome =>
      obtain ⟨-, hexchange, -⟩ := hstep
      obtain ⟨settledOutcome, settled, hsettle, hsame, -⟩ := exchange_spec hexchange
      have hobserved := telemetry_exchange hsettle
      rw [hexchange, htelemetry] at hobserved
      obtain ⟨before, hbefore, rfl⟩ := Option.map_eq_some_iff.mp hobserved.symm
      obtain ⟨hreconciles, hattempts⟩ := ih before hbefore
      -- An exchange counts once, and once more where it has planned a reversal.
      obtain ⟨planned, hadds, hlinks⟩ := adds_settle hsettle before
      refine ⟨hreconciles.adds hadds (by rw [hsame.reversals, hlinks]), ?_⟩
      rw [hadds.attempts, hattempts, hlog, exchanged, Option.toList_some, List.map_append,
        List.map_singleton]
    | lateResponse attempt response now answers outcome =>
      obtain ⟨-, hlate, -⟩ := hstep
      obtain ⟨handled, coordinator, -, hsame⟩ := handleLateResponse_spec hlate
      have hnone : exchanged (.lateResponse attempt response now answers outcome) = none := rfl
      rw [hlog, hnone, Option.toList_none, List.append_nil, hsame.reversals]
      have hobserved := telemetry_handleLateResponse session.flow attempt response now answers
      rw [hlate, htelemetry] at hobserved
      -- A late response is counted apart, and only when it is answered.
      rcases hobserved with hkept | ⟨disposition, hrecorded⟩
      · exact ih telemetry hkept.symm
      · obtain ⟨before, hbefore, rfl⟩ := Option.map_eq_some_iff.mp hrecorded.symm
        obtain ⟨hreconciles, hattempts⟩ := ih before hbefore
        exact ⟨hreconciles.recordLateResponse attempt.route disposition, hattempts⟩

/-- A timeout and the late response to it count one attempt, two outcomes and one reversal. -/
theorem metrics_of_late_response : ∃ log session telemetry,
    (lts ℤ).Run log session ∧ session.flow.telemetry = some telemetry ∧
      telemetry.Reconciles session.flow.reversals ∧ telemetry.attempts.length = 1 ∧
      telemetry.outcomes.length = 2 ∧ telemetry.reversals.length = 1 := by
  obtain ⟨played, hplayed, hcounts⟩ : ∃ played, Lts.play advance
      ⟨new sampleRouter defaultCodec true true, []⟩
      (lateCalls sampleCorrelation sampleRequest sampleResponse) = some played ∧
      ∃ telemetry, played.1.flow.telemetry = some telemetry ∧ telemetry.attempts.length = 1 ∧
        telemetry.outcomes.length = 2 ∧ telemetry.reversals.length = 1 :=
    ⟨_, rfl, _, rfl, rfl, rfl, rfl⟩
  obtain ⟨telemetry, htelemetry, hattempts, houtcomes, hreversals⟩ := hcounts
  have hrun : (lts ℤ).Run played.2 played.1 := run_iff_play.mpr ⟨_, _, _, _, _, hplayed⟩
  exact ⟨_, _, telemetry, hrun, htelemetry, (metrics_of_run hrun htelemetry).1, hattempts,
    houtcomes, hreversals⟩

end AuthorizationNetworkFlow

end AtlasPay
