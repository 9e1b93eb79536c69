import AtlasPay.Network.Flow

/-!
# Runs of the flow

Any sequence of calls on a new flow, where `exchange` and `handle_late_response` are given attempts
that `start` returned. The invariants are those of the coordinator, that an attempt has the
correlation of its request, and that the registry holds links for exchanged attempts only, to
correlations that the provider has returned.
-/

namespace AtlasPay

namespace AuthorizationNetworkFlow

variable {T : Type} [LinearOrder T] [Zero T]

/-- A call on a flow, with what it returned or raised. -/
inductive Event (T : Type) where
  | start (canonical : AuthorizationRequest) (request : ISO8583Message) (now timeoutSeconds : T)
      (outcome : Py (NetworkAttempt T))
  | exchange (attempt : NetworkAttempt T) (completedAt : T) (answers : Answers)
      (outcome : Py NetworkFlowResult)
  | lateResponse (attempt : NetworkAttempt T) (response : ISO8583Message) (now : T)
      (answers : Answers) (outcome : Py TransactionDisposition)

/-- A flow, and the attempts that its `start` has returned. -/
structure Session (T : Type) [LE T] [Zero T] where
  /-- The flow. -/
  flow : AuthorizationNetworkFlow T
  /-- The attempts, in the order in which they were started. -/
  attempts : List (NetworkAttempt T)

/-- A new flow. -/
def new (router : NetworkRouter) (codec : ISO8583Codec) (observed recorded : Bool) :
    AuthorizationNetworkFlow T where
  router := router
  adapter := ⟨codec, []⟩
  coordinator := .new
  reversals := .new
  issued := []
  telemetry := if observed then some ⟨[], [], []⟩ else none
  history := if recorded then some [] else none

/-- A new flow and the calls on it. -/
def lts (T : Type) [LinearOrder T] [Zero T] [Add T] [Sub T] [Mul T] [NatCast T] :
    Lts (Session T) (Event T) where
  init s := ∃ router codec observed recorded, s = ⟨new router codec observed recorded, []⟩
  step s event s' :=
    match event with
    | .start canonical request now timeoutSeconds outcome =>
      s.flow.start canonical request now timeoutSeconds = (outcome, s'.flow) ∧
        s'.attempts = match outcome with
          | .ok attempt => s.attempts ++ [attempt]
          | .error _ => s.attempts
    | .exchange attempt completedAt answers outcome =>
      attempt ∈ s.attempts ∧ s.flow.exchange attempt completedAt answers = (outcome, s'.flow) ∧
        s'.attempts = s.attempts
    | .lateResponse attempt response now answers outcome =>
      attempt ∈ s.attempts ∧
        s.flow.handleLateResponse attempt response now answers = (outcome, s'.flow) ∧
        s'.attempts = s.attempts

/-- The attempt that an event exchanges. -/
def exchanged : Event T → Option (NetworkAttempt T)
  | .exchange attempt _ _ _ => some attempt
  | _ => none

/-- What every session of a run keeps. -/
structure Session.WellFormed (session : Session T) : Prop where
  coordinator : session.flow.coordinator.WellFormed
  correlation : ∀ attempt ∈ session.attempts,
    correlationKey attempt.request = .ok attempt.correlation
  timeoutSeconds : ∀ attempt ∈ session.attempts, 0 < attempt.timeoutSeconds
  reversalKeys : ∀ key ∈ session.flow.reversals.reversalKeys, key ∈ session.flow.issued

/-- What the log says of the attempts and the links: what was exchanged was started, and only what
was exchanged has a reversal. -/
structure Session.Accounts (session : Session T) (log : List (Event T)) : Prop where
  started : ∀ attempt ∈ log.filterMap exchanged, attempt ∈ session.attempts
  linked : ∀ key ∈ session.flow.reversals.byOriginal,
    ∃ attempt ∈ log.filterMap exchanged, attempt.correlation = key

/-! ## What a call leaves -/

/-- A call keeps the parts of the flow that only `_exchange` changes. -/
structure SameCore (before after : AuthorizationNetworkFlow T) : Prop where
  adapter : after.adapter = before.adapter
  coordinator : after.coordinator = before.coordinator
  reversals : after.reversals = before.reversals
  issued : after.issued = before.issued

variable [Sub T] [Mul T] [NatCast T]

/-- `_record` writes to the history only, and raises only when the writer does. -/
theorem record_spec {self self' : AuthorizationNetworkFlow T} {attempt : NetworkAttempt T}
    {transportOutcome : TransportOutcome} {disposition : Option TransactionDisposition}
    {deliveryUnknown : Bool} {completedAt : T} {reason : Option ReversalReason}
    {written outcome : Py Unit}
    (h : self.record attempt transportOutcome disposition deliveryUnknown completedAt reason
      written = (outcome, self')) :
    self.SameCore self' ∧ (outcome = .ok () ↔ self.history = none ∨ written = .ok ()) := by
  unfold record at h
  split at h
  · next hnone =>
    cases h
    exact ⟨⟨rfl, rfl, rfl, rfl⟩, by simp [hnone, pure, Except.pure]⟩
  · next observations hsome =>
    split at h
    · next e =>
      cases h
      exact ⟨⟨rfl, rfl, rfl, rfl⟩, by simp [hsome]⟩
    · cases h
      exact ⟨⟨rfl, rfl, rfl, rfl⟩, by simp [pure, Except.pure]⟩

omit [Sub T] [Mul T] [NatCast T] in
/-- `_exchange` does not write to the history. -/
theorem history_settle {self self' : AuthorizationNetworkFlow T} {attempt : NetworkAttempt T}
    {completedAt : T} {answers : Answers} {outcome : Py NetworkFlowResult}
    (h : self.settle attempt completedAt answers = (outcome, self')) :
    self'.history = self.history := by
  cases settle_spec h <;> rfl

/-- `exchange` leaves what `_exchange` leaves, but for telemetry and history, and returns what
`_exchange` returns unless the history writer raises. -/
theorem exchange_spec {self self' : AuthorizationNetworkFlow T} {attempt : NetworkAttempt T}
    {completedAt : T} {answers : Answers} {outcome : Py NetworkFlowResult}
    (h : self.exchange attempt completedAt answers = (outcome, self')) :
    ∃ settledOutcome settled, self.settle attempt completedAt answers = (settledOutcome, settled) ∧
      settled.SameCore self' ∧
      ∀ result, outcome = .ok result ↔
        settledOutcome = .ok result ∧ (self.history = none ∨ answers.history = .ok ()) := by
  rcases hsettle : self.settle attempt completedAt answers with ⟨settledOutcome, settled⟩
  have hhistory := history_settle hsettle
  refine ⟨settledOutcome, settled, rfl, ?_⟩
  -- The history is written after `_exchange` has returned, and only then.
  unfold exchange at h
  rw [hsettle] at h
  cases settledOutcome with
  | error e =>
    cases h
    exact ⟨⟨rfl, rfl, rfl, rfl⟩, fun result => by simp⟩
  | ok settledResult =>
    simp only at h
    split at h
    · next e recorded hrecord =>
      obtain ⟨hsame, hok⟩ := record_spec hrecord
      cases h
      refine ⟨⟨hsame.adapter, hsame.coordinator, hsame.reversals, hsame.issued⟩, fun result => ?_⟩
      rw [← hhistory]
      have hraised : ¬(settled.history = none ∨ answers.history = .ok ()) := fun hor => by
        cases hok.mpr hor
      simp [hraised]
    · next recorded hrecord =>
      obtain ⟨hsame, hok⟩ := record_spec hrecord
      cases h
      refine ⟨⟨hsame.adapter, hsame.coordinator, hsame.reversals, hsame.issued⟩, fun result => ?_⟩
      rw [← hhistory]
      have hwritten : settled.history = none ∨ answers.history = .ok () := hok.mp rfl
      rw [pure_eq_ok, Except.ok.injEq]
      exact (and_iff_left hwritten).symm

/-- `handle_late_response` changes the coordinator as the response says. -/
theorem handleLateResponse_spec {self self' : AuthorizationNetworkFlow T}
    {attempt : NetworkAttempt T} {response : ISO8583Message} {now : T} {answers : Answers}
    {outcome : Py TransactionDisposition}
    (h : self.handleLateResponse attempt response now answers = (outcome, self')) :
    ∃ handled coordinator,
      self.coordinator.handleResponse attempt.request response now = (handled, coordinator) ∧
        { self with coordinator }.SameCore self' := by
  rcases hhandle : self.coordinator.handleResponse attempt.request response now with
    ⟨handled, coordinator⟩
  refine ⟨handled, coordinator, rfl, ?_⟩
  unfold handleLateResponse at h
  rw [hhandle] at h
  cases handled with
  | error e =>
    cases h
    exact ⟨rfl, rfl, rfl, rfl⟩
  | ok disposition =>
    simp only at h
    split at h
    · next e recorded hrecord =>
      obtain ⟨hsame, -⟩ := record_spec hrecord
      cases h
      exact ⟨hsame.adapter, hsame.coordinator, hsame.reversals, hsame.issued⟩
    · next recorded hrecord =>
      obtain ⟨hsame, -⟩ := record_spec hrecord
      cases h
      exact ⟨hsame.adapter, hsame.coordinator, hsame.reversals, hsame.issued⟩

omit [Sub T] [Mul T] [NatCast T] in
/-- `start` registers the request, and the attempt that it returns has what was registered. -/
theorem start_spec [Add T] {self self' : AuthorizationNetworkFlow T}
    {canonical : AuthorizationRequest} {request : ISO8583Message} {now timeoutSeconds : T}
    {outcome : Py (NetworkAttempt T)}
    (h : self.start canonical request now timeoutSeconds = (outcome, self')) :
    (∃ e, outcome = .error e ∧ self' = self) ∨
      ∃ attempt coordinator, outcome = .ok attempt ∧ self' = { self with coordinator } ∧
        self.coordinator.register request now timeoutSeconds =
          (.ok attempt.correlation, coordinator) ∧
        attempt.request = request ∧ attempt.timeoutSeconds = timeoutSeconds ∧
        attempt.deadline = now + timeoutSeconds := by
  unfold start at h
  split at h
  · cases h
    exact Or.inl ⟨_, rfl, rfl⟩
  · split at h
    · cases h
      exact Or.inl ⟨_, rfl, rfl⟩
    · split at h
      · cases h
        exact Or.inl ⟨_, rfl, rfl⟩
      · split at h
        · next e coordinator hregister =>
          cases h
          cases NetworkTransactionCoordinator.register_spec hregister
          exact Or.inl ⟨_, rfl, rfl⟩
        · next correlation coordinator hregister =>
          cases h
          exact Or.inr ⟨_, coordinator, rfl, rfl, hregister, rfl, rfl, rfl⟩

/-! ## Invariants -/

section Settle

variable {self self' : AuthorizationNetworkFlow T} {attempt : NetworkAttempt T} {completedAt : T}
  {answers : Answers} {outcome : Py NetworkFlowResult}

omit [Sub T] [Mul T] [NatCast T] in
/-- `_exchange` asks the adapter once, and leaves it as that leaves it. -/
theorem adapter_settle (h : self.settle attempt completedAt answers = (outcome, self')) :
    ∃ result, self.adapter.exchange answers.transport attempt.request attempt.timeoutSeconds =
      (result, self'.adapter) := by
  cases settle_spec h with
  | raised hadapter | early hadapter _ _ _ | failed hadapter _ _ _ | unswept hadapter _ _ _ _ _
  | unplanned hadapter _ _ _ _ _ | planned hadapter _ _ _ _ _ _ _ | unhandled hadapter _ _
  | handled hadapter _ _ _ _ _ => exact ⟨_, hadapter⟩

omit [Sub T] [Mul T] [NatCast T] in
/-- `_exchange` keeps the coordinator well formed. -/
theorem wellFormed_settle [Add T] (hwf : self.coordinator.WellFormed)
    (h : self.settle attempt completedAt answers = (outcome, self')) :
    self'.coordinator.WellFormed := by
  have hexpire : ∀ {expired coordinator},
      self.coordinator.expire completedAt = (expired, coordinator) → coordinator.WellFormed :=
    fun {expired coordinator} hstep => hwf.step (show
      (NetworkTransactionCoordinator.lts T).step _ (.expire completedAt expired) coordinator
      from hstep)
  cases settle_spec h with
  | raised _ | early _ _ _ _ => exact hwf
  | failed _ _ hcancel _ =>
    exact hwf.step (show (NetworkTransactionCoordinator.lts T).step _ (.cancel _ _) _ from hcancel)
  | unswept _ _ _ hswept _ _ | unplanned _ _ _ hswept _ _ | planned _ _ _ hswept _ _ _ _
  | unhandled _ _ hswept => exact hexpire hswept
  | @handled _ _ _ _ _ _ swept _ hswept _ hhandle _ _ =>
    have hwf' : swept.WellFormed := by
      rcases hswept with rfl | ⟨expired, hswept⟩
      · exact hwf
      · exact hexpire hswept
    exact hwf'.step
      (show (NetworkTransactionCoordinator.lts T).step _ (.handleResponse _ _ _ _) _ from hhandle)

omit [Sub T] [Mul T] [NatCast T] in
/-- `_exchange` links only the attempt's correlation, and only to what the provider returns. -/
theorem registry_settle (h : self.settle attempt completedAt answers = (outcome, self')) :
    (∀ key ∈ self'.reversals.byOriginal,
        key = attempt.correlation ∨ key ∈ self.reversals.byOriginal) ∧
      ((∀ key ∈ self.reversals.reversalKeys, key ∈ self.issued) →
        ∀ key ∈ self'.reversals.reversalKeys, key ∈ self'.issued) := by
  cases settle_spec h with
  | raised _ | early _ _ _ _ | failed _ _ _ _ | unswept _ _ _ _ _ _ | unplanned _ _ _ _ _ _
  | unhandled _ _ _ | handled _ _ _ _ _ _ => exact ⟨fun key hkey => Or.inr hkey, id⟩
  | planned _ _ _ _ _ _ hlink _ =>
    cases ReversalRegistry.link_spec hlink with
    | raised _ _ =>
      exact ⟨fun key hkey => Or.inr hkey, fun hkeys key hkey =>
        List.mem_append_left _ (hkeys key hkey)⟩
    | linked _ _ _ =>
      refine ⟨fun key hkey => (AList.mem_insert _).mp hkey, fun hkeys key hkey => ?_⟩
      rcases Finset.mem_insert.mp hkey with rfl | hkey
      · exact List.mem_append_right _ (List.mem_singleton_self _)
      · exact List.mem_append_left _ (hkeys key hkey)

end Settle

/-- A call keeps a session well formed. -/
theorem Session.WellFormed.step [Add T] {session session' : Session T} {event : Event T}
    (h : session.WellFormed) (hstep : (lts T).step session event session') :
    session'.WellFormed := by
  cases event with
  | start canonical request now timeoutSeconds outcome =>
    obtain ⟨hstart, hattempts⟩ := hstep
    rcases start_spec hstart with ⟨e, rfl, hflow⟩ | ⟨attempt, coordinator, rfl, hflow, hregister,
      hrequest, htimeout, -⟩
    · exact ⟨hflow ▸ h.coordinator, hattempts ▸ h.correlation, hattempts ▸ h.timeoutSeconds,
        hflow ▸ h.reversalKeys⟩
    -- The new attempt has the correlation and the timeout that were registered.
    · have hwf : coordinator.WellFormed := h.coordinator.step
        (show (NetworkTransactionCoordinator.lts T).step _ (.register _ _ _ _) _ from hregister)
      cases NetworkTransactionCoordinator.register_spec hregister with
      | registered hkey hpositive _ _ _ =>
        refine ⟨hflow ▸ hwf, ?_, ?_, hflow ▸ h.reversalKeys⟩
        · intro attempt' hattempt'
          rw [hattempts, List.mem_append, List.mem_singleton] at hattempt'
          rcases hattempt' with hattempt' | rfl
          · exact h.correlation attempt' hattempt'
          · rw [hrequest]
            exact hkey
        · intro attempt' hattempt'
          rw [hattempts, List.mem_append, List.mem_singleton] at hattempt'
          rcases hattempt' with hattempt' | rfl
          · exact h.timeoutSeconds attempt' hattempt'
          · rw [htimeout]
            exact not_le.mp hpositive
  | exchange attempt completedAt answers outcome =>
    obtain ⟨-, hexchange, hattempts⟩ := hstep
    obtain ⟨settledOutcome, settled, hsettle, hsame, -⟩ := exchange_spec hexchange
    refine ⟨hsame.coordinator ▸ wellFormed_settle h.coordinator hsettle,
      hattempts ▸ h.correlation, hattempts ▸ h.timeoutSeconds, ?_⟩
    rw [hsame.reversals, hsame.issued]
    exact (registry_settle hsettle).2 h.reversalKeys
  | lateResponse attempt response now answers outcome =>
    obtain ⟨-, hlate, hattempts⟩ := hstep
    obtain ⟨handled, coordinator, hhandle, hsame⟩ := handleLateResponse_spec hlate
    have hwf : coordinator.WellFormed := h.coordinator.step
      (show (NetworkTransactionCoordinator.lts T).step _ (.handleResponse _ _ _ _) _ from hhandle)
    refine ⟨hsame.coordinator ▸ hwf, hattempts ▸ h.correlation, hattempts ▸ h.timeoutSeconds, ?_⟩
    rw [hsame.reversals, hsame.issued]
    exact h.reversalKeys

/-- Every session of a run is well formed. -/
theorem wellFormed_of_run [Add T] {log : List (Event T)} {session : Session T}
    (h : (lts T).Run log session) : session.WellFormed := by
  refine h.invariant ?_ fun _ _ _ hwf hstep => hwf.step hstep
  rintro _ ⟨router, codec, observed, recorded, rfl⟩
  exact ⟨NetworkTransactionCoordinator.wellFormed_new, by simp, by simp,
    by simp [new, ReversalRegistry.new]⟩

omit [LinearOrder T] [Zero T] [Sub T] [Mul T] [NatCast T] in
/-- The last event exchanges its attempt after all the others. -/
theorem exchanged_concat (log : List (Event T)) (event : Event T) :
    (log ++ [event]).filterMap exchanged =
      log.filterMap exchanged ++ (exchanged event).toList := by
  rw [List.filterMap_append]
  cases h : exchanged event <;> simp [h]

/-- In every run, what was exchanged was started, and only what was exchanged has a reversal. -/
theorem accounts_of_run [Add T] {log : List (Event T)} {session : Session T}
    (h : (lts T).Run log session) : session.Accounts log := by
  refine Lts.Run.log_invariant (P := fun log session => Session.Accounts session log) ?_ ?_ h
  · rintro _ ⟨router, codec, observed, recorded, rfl⟩
    exact ⟨by simp, by simp [new, ReversalRegistry.new]⟩
  · rintro log session event session' - ⟨hstarted, hlinked⟩ hstep
    cases event with
    | start canonical request now timeoutSeconds outcome =>
      obtain ⟨hstart, hattempts⟩ := hstep
      have hlog := (exchanged_concat log
        (.start canonical request now timeoutSeconds outcome)).trans (List.append_nil _)
      rcases start_spec hstart with ⟨e, rfl, hflow⟩ | ⟨attempt, coordinator, rfl, hflow, -⟩
      · exact ⟨by rwa [hlog, hattempts], by rwa [hlog, hflow]⟩
      · refine ⟨?_, by rwa [hlog, hflow]⟩
        rw [hlog, hattempts]
        exact fun attempt' hattempt' => List.mem_append_left _ (hstarted attempt' hattempt')
    | exchange attempt completedAt answers outcome =>
      obtain ⟨hmem, hexchange, hattempts⟩ := hstep
      obtain ⟨settledOutcome, settled, hsettle, hsame, -⟩ := exchange_spec hexchange
      have hlog := exchanged_concat log (.exchange attempt completedAt answers outcome)
      rw [exchanged, Option.toList_some] at hlog
      refine ⟨?_, ?_⟩
      · intro attempt' hattempt'
        rw [hlog, List.mem_append, List.mem_singleton] at hattempt'
        rw [hattempts]
        rcases hattempt' with hattempt' | rfl
        · exact hstarted attempt' hattempt'
        · exact hmem
      · intro key hkey
        rw [hlog]
        rw [hsame.reversals] at hkey
        -- A new link is that of the attempt that is exchanged.
        rcases (registry_settle hsettle).1 key hkey with rfl | hkey
        · exact ⟨attempt, List.mem_append_right _ (List.mem_singleton_self _), rfl⟩
        · obtain ⟨attempt', hattempt', heq⟩ := hlinked key hkey
          exact ⟨attempt', List.mem_append_left _ hattempt', heq⟩
    | lateResponse attempt response now answers outcome =>
      obtain ⟨-, hlate, hattempts⟩ := hstep
      obtain ⟨handled, coordinator, -, hsame⟩ := handleLateResponse_spec hlate
      have hlog := (exchanged_concat log
        (.lateResponse attempt response now answers outcome)).trans (List.append_nil _)
      exact ⟨by rwa [hlog, hattempts], by rwa [hlog, hsame.reversals]⟩

/-! ## The flow of the tests -/

/-- The only route. -/
def sampleRoute : IssuerRoute where
  name := "issuer-a"
  acquirerId := "atlas-acquirer"
  issuerId := "issuer-bank-a"
  panPrefix := "411111"
  currencies := {"MAD"}
  name_ne := by decide
  ids_ne := by decide
  panPrefix_digits := by decide
  currencies_ne := Finset.singleton_nonempty _
  currencies_upper currency h := by
    rw [Finset.mem_singleton.mp h]
    decide +kernel

/-- A canonical request with a correlation. -/
def sampleCanonical (correlation : NetworkCorrelation) : AuthorizationRequest where
  amountMinor := 12500
  currency := "MAD"
  merchantId := "MERCHANT0000001"
  terminalId := "TERM0001"
  instrument := { pan := "4111111111111111", pan_valid := by decide, iccData_ne := by decide }
  correlation := correlation
  amountMinor_pos := by decide
  currency_valid := by decide
  currency_upper := by decide +kernel
  merchantId_ne := by decide
  terminalId_ne := by decide

/-- A new flow with that route and the default profile. -/
def sampleFlow : AuthorizationNetworkFlow ℤ :=
  new ⟨[sampleRoute], List.cons_ne_nil _ _⟩ defaultCodec false false

/-- The router of that flow. -/
def sampleRouter : NetworkRouter := ⟨[sampleRoute], List.cons_ne_nil _ _⟩

/-- The answers of a transport that times out, with what the provider of reversals answers. -/
def timesOutWith (reversal : Py NetworkCorrelation) : Answers :=
  ⟨.ok { outcome := .timeout, deliveryUnknown := true }, reversal, .ok ()⟩

/-- An attempt, started at time zero with a timeout of five. -/
def sampleAttempt : NetworkAttempt ℤ := ⟨sampleRoute, sampleRequest, sampleCorrelation, 0, 5, 5⟩

/-- The session that has started it. -/
def sampleSession : Session ℤ :=
  ⟨(sampleFlow.start (sampleCanonical sampleCorrelation) sampleRequest 0 5).2, [sampleAttempt]⟩

/-- The run of that session. -/
theorem run_sampleSession : (lts ℤ).Run
    [.start (sampleCanonical sampleCorrelation) sampleRequest 0 5 (.ok sampleAttempt)]
    sampleSession :=
  ⟨⟨sampleFlow, []⟩, ⟨_, _, _, _, rfl⟩, .cons ⟨rfl, rfl⟩ (.nil _)⟩

end AuthorizationNetworkFlow

end AtlasPay
