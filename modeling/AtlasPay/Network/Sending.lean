import AtlasPay.Network.FlowRuns

/-!
# What the transport is handed

`exchange` hands the request to the transport before it asks the coordinator whether the attempt is
still pending. So a request is handed over only while its correlation is pending, and never again
once it is finished, in those runs in which `exchange` is called only for attempts that are pending
(`neverSentAgain_iff`).
-/

namespace AtlasPay

namespace NetworkTransactionCoordinator

variable {T : Type} {self self' : NetworkTransactionCoordinator T} {key : NetworkCorrelation}

/-- `cancel` adds nothing to what is pending. -/
theorem pending_of_cancel {request : ISO8583Message} {outcome : Py Bool}
    (h : self.cancel request = (outcome, self')) (hkey : key ∈ self'.pending) :
    key ∈ self.pending := by
  cases cancel_spec h with
  | raised _ => exact hkey
  | cancelled _ => exact (AList.mem_erase.mp hkey).2

/-- `expire` adds nothing to what is pending. -/
theorem pending_of_expire [LE T] [DecidableLE T] {now : T} {outcome : Py (List NetworkCorrelation)}
    (h : self.expire now = (outcome, self')) (hkey : key ∈ self'.pending) : key ∈ self.pending := by
  cases expire_spec h with
  | raised _ _ | nothing _ => exact hkey
  | expired _ => exact (AList.mem_erase.mp hkey).2

/-- `handle_response` adds nothing to what is pending. -/
theorem pending_of_handleResponse [LE T] [DecidableLE T] {request response : ISO8583Message}
    {now : T}
    {outcome : Py TransactionDisposition}
    (h : self.handleResponse request response now = (outcome, self')) (hkey : key ∈ self'.pending) :
    key ∈ self.pending := by
  cases handleResponse_spec h with
  | raised _ | uncorrelated _ _ | duplicate _ _ _ | unknown _ _ _ _ _ | late _ _ _ _ => exact hkey
  | timedOut _ _ _ _ _ _ | accepted _ _ _ _ _ _ => exact (AList.mem_erase.mp hkey).2

end NetworkTransactionCoordinator

namespace AuthorizationNetworkFlow

variable {T : Type} [LinearOrder T] [Zero T]

/-! ## One call -/

/-- `_exchange` adds nothing to what is pending. -/
theorem pending_of_settle {self self' : AuthorizationNetworkFlow T} {attempt : NetworkAttempt T}
    {completedAt : T} {answers : Answers} {outcome : Py NetworkFlowResult}
    {key : NetworkCorrelation}
    (h : self.settle attempt completedAt answers = (outcome, self'))
    (hkey : key ∈ self'.coordinator.pending) : key ∈ self.coordinator.pending := by
  cases settle_spec h with
  | raised _ | early _ _ _ _ => exact hkey
  | failed _ _ hcancel _ => exact NetworkTransactionCoordinator.pending_of_cancel hcancel hkey
  | unswept _ _ _ hexpire _ _ | unplanned _ _ _ hexpire _ _ | planned _ _ _ hexpire _ _ _ _
  | unhandled _ _ hexpire => exact NetworkTransactionCoordinator.pending_of_expire hexpire hkey
  | handled _ _ _ hswept hhandle _ =>
    have hkey' := NetworkTransactionCoordinator.pending_of_handleResponse hhandle hkey
    rcases hswept with rfl | ⟨expired, hexpire⟩
    -- Before the deadline there is no sweep.
    · exact hkey'
    · exact NetworkTransactionCoordinator.pending_of_expire hexpire hkey'

/-- The call starts an attempt with the correlation. -/
def starts (key : NetworkCorrelation) : Event T → Prop
  | .start _ _ _ _ (.ok attempt) => attempt.correlation = key
  | _ => False

variable [Add T] [Sub T] [Mul T] [NatCast T]

/-- A correlation that is not pending stays so until an attempt is started with it. -/
theorem not_pending_step {session session' : Session T} {event : Event T}
    {key : NetworkCorrelation} (hstep : (lts T).step session event session')
    (hnot : key ∉ session.flow.coordinator.pending) (hstarts : ¬starts key event) :
    key ∉ session'.flow.coordinator.pending := by
  intro hkey
  cases event with
  | start canonical request now timeoutSeconds outcome =>
    obtain ⟨hstart, -⟩ := hstep
    rcases start_spec hstart with ⟨e, rfl, hflow⟩ | ⟨attempt, coordinator, rfl, hflow, hregister, -⟩
    · exact hnot (hflow ▸ hkey)
    · rw [hflow] at hkey
      cases NetworkTransactionCoordinator.register_spec hregister with
      | registered _ _ _ _ _ =>
        -- `register` adds the correlation of the attempt alone.
        rcases (AList.mem_insert _).mp hkey with rfl | hkey
        · exact hstarts rfl
        · exact hnot hkey
  | exchange attempt completedAt answers outcome =>
    obtain ⟨-, hexchange, -⟩ := hstep
    obtain ⟨settledOutcome, settled, hsettle, hsame, -⟩ := exchange_spec hexchange
    exact hnot (pending_of_settle hsettle (hsame.coordinator ▸ hkey))
  | lateResponse attempt response now answers outcome =>
    obtain ⟨-, hlate, -⟩ := hstep
    obtain ⟨handled, coordinator, hhandle, hsame⟩ := handleLateResponse_spec hlate
    rw [hsame.coordinator] at hkey
    exact hnot (NetworkTransactionCoordinator.pending_of_handleResponse hhandle hkey)

/-- A correlation that is not pending stays so along a run that starts no attempt with it. -/
theorem not_pending_steps {session session' : Session T} {log : List (Event T)}
    {key : NetworkCorrelation} (hsteps : (lts T).Steps session log session')
    (hnot : key ∉ session.flow.coordinator.pending) (hstarts : ∀ event ∈ log, ¬starts key event) :
    key ∉ session'.flow.coordinator.pending := by
  induction hsteps with
  | nil _ => exact hnot
  | cons head _ ih =>
    obtain ⟨hfirst, hrest⟩ := List.forall_mem_cons.mp hstarts
    exact ih (not_pending_step head hnot hfirst) hrest

/-- Only `exchange` hands anything to the transport, and this is the encoding of the request. -/
theorem sent_step {session session' : Session T} {event : Event T}
    (hstep : (lts T).step session event session') :
    session'.flow.adapter.sent = session.flow.adapter.sent ∨
      ∃ attempt completedAt answers outcome payload,
        event = .exchange attempt completedAt answers outcome ∧
        session.flow.adapter.codec.encode attempt.request = .ok payload ∧
        session'.flow.adapter.sent = session.flow.adapter.sent ++ [payload] := by
  cases event with
  | start canonical request now timeoutSeconds outcome =>
    obtain ⟨hstart, -⟩ := hstep
    rcases start_spec hstart with ⟨e, -, hflow⟩ | ⟨attempt, coordinator, -, hflow, -⟩
    · exact Or.inl (by rw [hflow])
    · exact Or.inl (by rw [hflow])
  | exchange attempt completedAt answers outcome =>
    obtain ⟨-, hexchange, -⟩ := hstep
    obtain ⟨settledOutcome, settled, hsettle, hsame, -⟩ := exchange_spec hexchange
    obtain ⟨result, hadapter⟩ := adapter_settle hsettle
    rw [hsame.adapter]
    generalize settled.adapter = adapter at hadapter
    cases ISO8583NetworkAdapter.exchange_spec hadapter with
    | invalid _ _ | unencodable _ => exact Or.inl rfl
    | unanswered hencode _ | answered hencode _ _ =>
      exact Or.inr ⟨attempt, completedAt, answers, outcome, _, rfl, hencode, rfl⟩
  | lateResponse attempt response now answers outcome =>
    obtain ⟨-, hlate, -⟩ := hstep
    obtain ⟨handled, coordinator, -, hsame⟩ := handleLateResponse_spec hlate
    exact Or.inl (by rw [hsame.adapter])

/-- `exchange` hands over what encodes. -/
theorem sent_of_exchange {log : List (Event T)} {session session' : Session T}
    {attempt : NetworkAttempt T} {completedAt : T} {answers : Answers}
    {outcome : Py NetworkFlowResult} (hrun : (lts T).Run log session)
    (hstep : (lts T).step session (.exchange attempt completedAt answers outcome) session')
    {payload : Bytes} (hencode : session.flow.adapter.codec.encode attempt.request = .ok payload) :
    session'.flow.adapter.sent ≠ session.flow.adapter.sent := by
  obtain ⟨hmem, hexchange, -⟩ := hstep
  obtain ⟨settledOutcome, settled, hsettle, hsame, -⟩ := exchange_spec hexchange
  obtain ⟨result, hadapter⟩ := adapter_settle hsettle
  rw [ISO8583NetworkAdapter.exchange_of_encode _
    ((wellFormed_of_run hrun).timeoutSeconds attempt hmem) hencode] at hadapter
  rw [hsame.adapter, ← (Prod.mk.inj hadapter).2]
  simp

/-! ## Runs -/

/-- What a run has to keep of what it hands to the transport. -/
structure NeverSentAgain (log : List (Event T)) (session : Session T) : Prop where
  /-- It is the encoding of a request whose correlation is pending. -/
  pending : ∀ s event s', (lts T).Passes log session s event s' →
    s'.flow.adapter.sent ≠ s.flow.adapter.sent →
      ∃ attempt completedAt answers outcome payload,
        event = .exchange attempt completedAt answers outcome ∧
        s.flow.adapter.codec.encode attempt.request = .ok payload ∧
        s'.flow.adapter.sent = s.flow.adapter.sent ++ [payload] ∧
        attempt.correlation ∈ s.flow.coordinator.pending
  /-- Once a correlation is not pending, its requests are not handed over until an attempt is
  started with it. -/
  finished : ∀ before middle attempt completedAt answers outcome after s₁ s₂ s₃,
    log = before ++ (middle ++ .exchange attempt completedAt answers outcome :: after) →
    (lts T).Run before s₁ → (lts T).Steps s₁ middle s₂ →
    (lts T).step s₂ (.exchange attempt completedAt answers outcome) s₃ →
    (lts T).Steps s₃ after session →
    attempt.correlation ∉ s₁.flow.coordinator.pending →
    (∀ event ∈ middle, ¬starts attempt.correlation event) →
      s₃.flow.adapter.sent = s₂.flow.adapter.sent

/-- In every run, requests are handed over only while they are pending, and never again once they
are finished, exactly when `exchange` is called only for attempts that are pending or do not
encode. -/
theorem neverSentAgain_iff {log : List (Event T)} (session : Session T) :
    NeverSentAgain log session ↔
      ∀ s attempt completedAt answers outcome s',
        (lts T).Passes log session s (.exchange attempt completedAt answers outcome) s' →
          (∃ payload, s.flow.adapter.codec.encode attempt.request = .ok payload) →
            attempt.correlation ∈ s.flow.coordinator.pending := by
  constructor
  · rintro h s attempt completedAt answers outcome s' hpasses ⟨payload, hencode⟩
    obtain ⟨before, after, hlog, hbefore, hstep, hafter⟩ := id hpasses
    obtain ⟨_, _, _, _, _, heq, -, -, hpending⟩ :=
      h.pending s _ s' hpasses (sent_of_exchange hbefore hstep hencode)
    cases heq
    exact hpending
  · intro h
    have hpending : ∀ s event s', (lts T).Passes log session s event s' →
        s'.flow.adapter.sent ≠ s.flow.adapter.sent →
          ∃ attempt completedAt answers outcome payload,
            event = .exchange attempt completedAt answers outcome ∧
            s.flow.adapter.codec.encode attempt.request = .ok payload ∧
            s'.flow.adapter.sent = s.flow.adapter.sent ++ [payload] ∧
            attempt.correlation ∈ s.flow.coordinator.pending := by
      intro s event s' hpasses hsent
      obtain ⟨before, after, hlog, hbefore, hstep, hafter⟩ := id hpasses
      rcases sent_step hstep with hsame | ⟨attempt, completedAt, answers, outcome, payload, rfl,
        hencode, hgrown⟩
      · exact absurd hsame hsent
      · exact ⟨attempt, completedAt, answers, outcome, payload, rfl, hencode, hgrown,
          h s attempt completedAt answers outcome s' hpasses ⟨payload, hencode⟩⟩
    refine ⟨hpending, ?_⟩
    intro before middle attempt completedAt answers outcome after s₁ s₂ s₃ hlog hbefore hmiddle
      hstep hafter hnot hstarts
    -- What is handed over in spite of this has its correlation pending, by the first half.
    by_contra hsent
    have hpasses : (lts T).Passes log session s₂ (.exchange attempt completedAt answers outcome)
        s₃ :=
      ⟨before ++ middle, after, by rw [hlog, List.append_assoc],
        Lts.run_append_iff.mpr ⟨s₁, hbefore, hmiddle⟩, hstep, hafter⟩
    obtain ⟨_, _, _, _, _, heq, -, -, hmem⟩ := hpending s₂ _ s₃ hpasses hsent
    cases heq
    exact not_pending_steps hmiddle hnot hstarts hmem

/-! ## An attempt that is exchanged twice -/

/-- Exchanged once more, the request of an attempt that has timed out is handed over again. -/
theorem sentAgain_timedOut :
    ∃ (log : List (Event ℤ)) (session : Session ℤ), (lts ℤ).Run log session ∧
      ¬NeverSentAgain log session := by
  let timesOut : Answers :=
    ⟨.ok { outcome := .timeout, deliveryUnknown := true }, .ok sampleReversal, .ok ()⟩
  let fails : Answers := ⟨.ok { outcome := .failure }, .ok sampleReversal, .ok ()⟩
  let first := sampleSession.flow.exchange sampleAttempt 5 timesOut
  let second := first.2.exchange sampleAttempt 6 fails
  have hfirst : (lts ℤ).step sampleSession (.exchange sampleAttempt 5 timesOut first.1)
      ⟨first.2, [sampleAttempt]⟩ := ⟨List.mem_singleton_self _, rfl, rfl⟩
  have hsecond : (lts ℤ).step ⟨first.2, [sampleAttempt]⟩
      (.exchange sampleAttempt 6 fails second.1) ⟨second.2, [sampleAttempt]⟩ :=
    ⟨List.mem_singleton_self _, rfl, rfl⟩
  have hrun := Lts.run_concat_iff.mpr ⟨sampleSession, run_sampleSession, hfirst⟩
  refine ⟨_, ⟨second.2, [sampleAttempt]⟩, Lts.run_concat_iff.mpr ⟨_, hrun, hsecond⟩, fun h => ?_⟩
  have hpending := (neverSentAgain_iff _).mp h _ _ _ _ _ _
    ⟨_, [], rfl, hrun, hsecond, .nil _⟩ ⟨_, rfl⟩
  -- The timeout has moved the only attempt out of the pending ones.
  have hcoordinator : first.2.coordinator.pending = ∅ := rfl
  rw [hcoordinator] at hpending
  exact absurd hpending (by decide)

end AuthorizationNetworkFlow

end AtlasPay
