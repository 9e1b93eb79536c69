import AtlasPay.Network.Coordinator
import AtlasPay.Python.Floats

/-!
# Runs of the coordinator

Any sequence of calls on a new coordinator, each with what it returned or raised. The three
collections stay disjoint, a completed correlation stays completed, and each correlation is settled,
by an accepted or a late response, at most once in the whole run (`at_most_once`). A response is
accepted as long as `deadline <= now` is false. That is before the deadline, but for not-a-number,
of which `register` makes a deadline that never comes (`accepted_nan`).
-/

namespace AtlasPay

namespace NetworkTransactionCoordinator

variable {T : Type}

/-- A call on a coordinator, with what it returned or raised. -/
inductive Event (T : Type) where
  | register (request : ISO8583Message) (now timeout : T) (outcome : Py NetworkCorrelation)
  | cancel (request : ISO8583Message) (outcome : Py Bool)
  | expire (now : T) (outcome : Py (List NetworkCorrelation))
  | handleResponse (request response : ISO8583Message) (now : T)
      (outcome : Py TransactionDisposition)

/-- The coordinator and the calls on it. -/
def lts (T : Type) [LE T] [DecidableLE T] [Zero T] [Add T] :
    Lts (NetworkTransactionCoordinator T) (Event T) where
  init self := self = new
  step self event self' :=
    match event with
    | .register request now timeout outcome => self.register request now timeout = (outcome, self')
    | .cancel request outcome => self.cancel request = (outcome, self')
    | .expire now outcome => self.expire now = (outcome, self')
    | .handleResponse request response now outcome =>
      self.handleResponse request response now = (outcome, self')

/-- The collections are disjoint, and a pending entry is stored under its own correlation. -/
structure WellFormed (coordinator : NetworkTransactionCoordinator T) : Prop where
  pending_completed : ∀ key ∈ coordinator.pending, key ∉ coordinator.completed
  pending_timedOut : ∀ key ∈ coordinator.pending, key ∉ coordinator.timedOut
  completed_timedOut : ∀ key ∈ coordinator.completed, key ∉ coordinator.timedOut
  own_correlation : ∀ key transaction, coordinator.pending.lookup key = some transaction →
    transaction.correlation = key

/-- The event gives the correlation an accepted or a late response. -/
def settles (key : NetworkCorrelation) : Event T → Bool
  | .handleResponse _ response _ (.ok .accepted) => correlationKey response = .ok key
  | .handleResponse _ response _ (.ok .late) => correlationKey response = .ok key
  | _ => false

/-- The correlation is in one of the collections, and so cannot be registered. -/
def Knows (coordinator : NetworkTransactionCoordinator T) (key : NetworkCorrelation) : Prop :=
  key ∈ coordinator.pending ∨ key ∈ coordinator.completed ∨ key ∈ coordinator.timedOut

/-! ## One call -/

/-- Adding a free correlation keeps the collections apart. -/
theorem WellFormed.insert_pending {self : NetworkTransactionCoordinator T} (h : self.WellFormed)
    {key : NetworkCorrelation} {deadline : T} (hcompleted : key ∉ self.completed)
    (htimedOut : key ∉ self.timedOut) :
    WellFormed { self with pending := self.pending.insert key ⟨key, deadline⟩ } where
  pending_completed key' hkey' := by
    rcases (AList.mem_insert _).mp hkey' with rfl | hkey'
    · exact hcompleted
    · exact h.pending_completed key' hkey'
  pending_timedOut key' hkey' := by
    rcases (AList.mem_insert _).mp hkey' with rfl | hkey'
    · exact htimedOut
    · exact h.pending_timedOut key' hkey'
  completed_timedOut := h.completed_timedOut
  own_correlation key' transaction hlookup := by
    by_cases heq : key' = key
    · subst heq
      rw [AList.lookup_insert, Option.some.injEq] at hlookup
      rw [← hlookup]
    · rw [AList.lookup_insert_ne heq] at hlookup
      exact h.own_correlation key' transaction hlookup

/-- Dropping a pending entry keeps the collections apart. -/
theorem WellFormed.erase_pending {self : NetworkTransactionCoordinator T} (h : self.WellFormed)
    (key : NetworkCorrelation) : WellFormed { self with pending := self.pending.erase key } where
  pending_completed key' hkey' := h.pending_completed key' (AList.mem_erase.mp hkey').2
  pending_timedOut key' hkey' := h.pending_timedOut key' (AList.mem_erase.mp hkey').2
  completed_timedOut := h.completed_timedOut
  own_correlation key' transaction hlookup := by
    have hne : key' ≠ key := by
      rintro rfl
      rw [AList.lookup_erase] at hlookup
      cases hlookup
    rw [AList.lookup_erase_ne hne] at hlookup
    exact h.own_correlation key' transaction hlookup

/-- Moving a correlation to the timed-out ones keeps the collections apart. -/
theorem WellFormed.time_out {self : NetworkTransactionCoordinator T} (h : self.WellFormed)
    {key : NetworkCorrelation} (hcompleted : key ∉ self.completed) :
    WellFormed { self with
      pending := self.pending.erase key, timedOut := insert key self.timedOut } where
  pending_completed := (h.erase_pending key).pending_completed
  pending_timedOut key' hkey' := by
    obtain ⟨hne, hkey'⟩ := AList.mem_erase.mp hkey'
    rw [Finset.mem_insert, not_or]
    exact ⟨hne, h.pending_timedOut key' hkey'⟩
  completed_timedOut key' hkey' := by
    rw [Finset.mem_insert, not_or]
    exact ⟨fun heq => hcompleted (heq ▸ hkey'), h.completed_timedOut key' hkey'⟩
  own_correlation := (h.erase_pending key).own_correlation

/-- Completing a pending correlation keeps the collections apart. -/
theorem WellFormed.complete {self : NetworkTransactionCoordinator T} (h : self.WellFormed)
    {key : NetworkCorrelation} (htimedOut : key ∉ self.timedOut) :
    WellFormed { self with
      pending := self.pending.erase key, completed := insert key self.completed } where
  pending_completed key' hkey' := by
    obtain ⟨hne, hkey'⟩ := AList.mem_erase.mp hkey'
    rw [Finset.mem_insert, not_or]
    exact ⟨hne, h.pending_completed key' hkey'⟩
  pending_timedOut := (h.erase_pending key).pending_timedOut
  completed_timedOut key' hkey' := by
    rcases Finset.mem_insert.mp hkey' with rfl | hkey'
    · exact htimedOut
    · exact h.completed_timedOut key' hkey'
  own_correlation := (h.erase_pending key).own_correlation

/-- Completing a timed-out correlation keeps the collections apart. -/
theorem WellFormed.complete_late {self : NetworkTransactionCoordinator T} (h : self.WellFormed)
    {key : NetworkCorrelation} (hkey : key ∈ self.timedOut) :
    WellFormed { self with
      timedOut := self.timedOut.erase key, completed := insert key self.completed } where
  pending_completed key' hkey' := by
    rw [Finset.mem_insert, not_or]
    exact ⟨fun heq => h.pending_timedOut key' hkey' (heq ▸ hkey), h.pending_completed key' hkey'⟩
  pending_timedOut key' hkey' hmem :=
    h.pending_timedOut key' hkey' (Finset.mem_of_mem_erase hmem)
  completed_timedOut key' hkey' hmem := by
    obtain ⟨hne, hmem⟩ := Finset.mem_erase.mp hmem
    rcases Finset.mem_insert.mp hkey' with rfl | hkey'
    · exact hne rfl
    · exact h.completed_timedOut key' hkey' hmem
  own_correlation := h.own_correlation

/-- A new coordinator has nothing in its collections. -/
theorem wellFormed_new : (new : NetworkTransactionCoordinator T).WellFormed where
  pending_completed _ _ := by simp [new]
  pending_timedOut _ _ := by simp [new]
  completed_timedOut _ h := by simp [new] at h
  own_correlation key transaction h := by simp [new] at h

variable [LE T] [DecidableLE T]

/-- The states of a run keep the collections apart. -/
theorem WellFormed.step [Zero T] [Add T] {self self' : NetworkTransactionCoordinator T}
    {event : Event T} (h : self.WellFormed) (hstep : (lts T).step self event self') :
    self'.WellFormed := by
  cases event with
  | register request now timeout outcome =>
    cases register_spec hstep with
    | raised e => exact h
    | registered _ _ _ hcompleted htimedOut => exact h.insert_pending hcompleted htimedOut
  | cancel request outcome =>
    cases cancel_spec hstep with
    | raised _ => exact h
    | cancelled _ => exact h.erase_pending _
  | expire now outcome =>
    cases expire_spec hstep with
    | raised e _ => exact h
    | nothing _ => exact h
    | @expired key hoverdue =>
      obtain ⟨transaction, hlookup, -⟩ :=
        mem_overdue.mp (hoverdue ▸ List.mem_singleton_self key : key ∈ self.overdue now)
      exact h.time_out (h.pending_completed key (AList.lookup_isSome.mp (by simp [hlookup])))
  | handleResponse request response now outcome =>
    cases handleResponse_spec hstep with
    | raised _ | uncorrelated _ _ | duplicate _ _ _ | unknown _ _ _ _ _ => exact h
    | late _ _ _ htimedOut => exact h.complete_late htimedOut
    | timedOut _ _ hcompleted _ _ _ => exact h.time_out hcompleted
    | accepted _ _ _ htimedOut _ _ => exact h.complete htimedOut

/-- A completed correlation stays completed. -/
theorem completed_step [Zero T] [Add T] {self self' : NetworkTransactionCoordinator T}
    {event : Event T} (hstep : (lts T).step self event self') :
    self.completed ⊆ self'.completed := by
  cases event with
  | register request now timeout outcome => cases register_spec hstep <;> rfl
  | cancel request outcome => cases cancel_spec hstep <;> rfl
  | expire now outcome => cases expire_spec hstep <;> rfl
  | handleResponse request response now outcome =>
    cases handleResponse_spec hstep with
    | raised _ | uncorrelated _ _ | duplicate _ _ _ | unknown _ _ _ _ _ | timedOut _ _ _ _ _ _ =>
      rfl
    | late _ _ _ _ | accepted _ _ _ _ _ _ => exact Finset.subset_insert _ _

/-- `expire` forgets no correlation and learns none. -/
theorem knows_expire {self self' : NetworkTransactionCoordinator T} {now : T}
    {outcome : Py (List NetworkCorrelation)} (h : self.expire now = (outcome, self'))
    (key : NetworkCorrelation) : self'.Knows key ↔ self.Knows key := by
  cases expire_spec h with
  | raised _ _ | nothing _ => rfl
  | @expired overdueKey hoverdue =>
    obtain ⟨transaction, hlookup, -⟩ := mem_overdue.mp
      (hoverdue ▸ List.mem_singleton_self overdueKey : overdueKey ∈ self.overdue now)
    -- The overdue correlation moves from the pending ones to those that timed out.
    have hpending : overdueKey ∈ self.pending := AList.lookup_isSome.mp (by simp [hlookup])
    simp only [Knows, AList.mem_erase, Finset.mem_insert]
    by_cases heq : key = overdueKey
    · simp [heq, hpending]
    · simp [heq]

/-- `handle_response` forgets no correlation and learns none. -/
theorem knows_handleResponse {self self' : NetworkTransactionCoordinator T}
    {request response : ISO8583Message} {now : T} {outcome : Py TransactionDisposition}
    (h : self.handleResponse request response now = (outcome, self')) (key : NetworkCorrelation) :
    self'.Knows key ↔ self.Knows key := by
  cases handleResponse_spec h with
  | raised _ | uncorrelated _ _ | duplicate _ _ _ | unknown _ _ _ _ _ => rfl
  | @late responseKey _ _ _ htimedOut =>
    simp only [Knows, Finset.mem_insert, Finset.mem_erase]
    by_cases heq : key = responseKey
    · simp [heq, htimedOut]
    · simp [heq]
  | @timedOut responseKey _ _ _ _ _ hlookup _ | @accepted responseKey _ _ _ _ _ hlookup _ =>
    have hpending : responseKey ∈ self.pending := AList.lookup_isSome.mp (by simp [hlookup])
    simp only [Knows, AList.mem_erase, Finset.mem_insert]
    by_cases heq : key = responseKey
    · simp [heq, hpending]
    · simp [heq]

omit [LE T] [DecidableLE T] in
/-- `cancel` forgets the pending correlation of its request. -/
theorem not_knows_cancel {self self' : NetworkTransactionCoordinator T} (hwf : self.WellFormed)
    {request : ISO8583Message} {key : NetworkCorrelation} {outcome : Py Bool}
    (hkey : correlationKey request = .ok key) (hpending : key ∈ self.pending)
    (h : self.cancel request = (outcome, self')) : outcome = .ok true ∧ ¬self'.Knows key := by
  cases cancel_spec h with
  | raised he =>
    rw [hkey] at he
    cases he
  | @cancelled key' hkey' =>
    rw [hkey, Except.ok.injEq] at hkey'
    subst hkey'
    refine ⟨by rw [decide_eq_true hpending], ?_⟩
    simp only [Knows, AList.mem_erase, not_or]
    exact ⟨fun hmem => hmem.1 rfl, hwf.pending_completed key hpending,
      hwf.pending_timedOut key hpending⟩

/-- An event that settles a correlation completes it, and it was not completed before. -/
theorem settles_step [Zero T] [Add T] {self self' : NetworkTransactionCoordinator T}
    {event : Event T} {key : NetworkCorrelation} (hstep : (lts T).step self event self')
    (hsettles : settles key event = true) : key ∉ self.completed ∧ key ∈ self'.completed := by
  cases event with
  | register _ _ _ _ | cancel _ _ | expire _ _ => exact absurd hsettles Bool.false_ne_true
  | handleResponse request response now outcome =>
    cases handleResponse_spec hstep with
    | raised _ | uncorrelated _ _ | duplicate _ _ _ | unknown _ _ _ _ _ | timedOut _ _ _ _ _ _ =>
      exact absurd hsettles Bool.false_ne_true
    | late hkey _ hcompleted _ | accepted hkey _ hcompleted _ _ _ =>
      rw [settles, hkey, decide_eq_true_eq, Except.ok.injEq] at hsettles
      exact ⟨hsettles ▸ hcompleted, hsettles ▸ Finset.mem_insert_self _ _⟩

/-- Every state of a run is well formed. -/
theorem wellFormed_of_run [Zero T] [Add T] {self : NetworkTransactionCoordinator T}
    {log : List (Event T)} (h : (lts T).Run log self) : self.WellFormed :=
  h.invariant (fun _ hnew => hnew ▸ wellFormed_new) fun _ _ _ hwf hstep => hwf.step hstep

/-- `register` refuses a completed correlation. -/
theorem register_of_completed [Zero T] [Add T] {self : NetworkTransactionCoordinator T}
    {request : ISO8583Message} {key : NetworkCorrelation} (now timeout : T)
    (hkey : correlationKey request = .ok key) (hcompleted : key ∈ self.completed) :
    ∃ e, self.register request now timeout = (.error e, self) := by
  rcases hr : self.register request now timeout with ⟨outcome, self'⟩
  cases register_spec hr with
  | raised e => exact ⟨e, rfl⟩
  | @registered key' hkey' _ _ hfree _ =>
    rw [hkey, Except.ok.injEq] at hkey'
    exact absurd (hkey' ▸ hcompleted) hfree

/-- A correlated response for a completed correlation is a duplicate. -/
theorem handleResponse_of_completed {self : NetworkTransactionCoordinator T}
    {request response : ISO8583Message} {key : NetworkCorrelation} (now : T)
    (hkey : correlationKey response = .ok key)
    (hcorrelates : correlatesResponse request response = .ok true)
    (hcompleted : key ∈ self.completed) :
    self.handleResponse request response now = (.ok .duplicate, self) := by
  simp only [handleResponse, hkey, hcorrelates, if_pos hcompleted]
  rfl

/-- A response is accepted only for a pending correlation whose deadline has not come, and late only
for a timed-out one. -/
theorem settled_before (self : NetworkTransactionCoordinator T)
    (request response : ISO8583Message) (now : T) :
    ((self.handleResponse request response now).1 = .ok .accepted →
      ∃ key transaction, correlationKey response = .ok key ∧
        self.pending.lookup key = some transaction ∧ ¬transaction.deadline ≤ now) ∧
    ((self.handleResponse request response now).1 = .ok .late →
      ∃ key, correlationKey response = .ok key ∧ key ∈ self.timedOut) := by
  rcases hr : self.handleResponse request response now with ⟨outcome, self'⟩
  cases handleResponse_spec hr with
  | raised _ | uncorrelated _ _ | duplicate _ _ _ | unknown _ _ _ _ _ | timedOut _ _ _ _ _ _ =>
    exact ⟨nofun, nofun⟩
  | @late key hkey _ _ htimedOut => exact ⟨nofun, fun _ => ⟨key, hkey, htimedOut⟩⟩
  | @accepted key transaction hkey _ _ _ hpending hdeadline =>
    exact ⟨fun _ => ⟨key, transaction, hkey, hpending, hdeadline⟩, nofun⟩

/-- A run settles each correlation at most once, since no event settles a completed one. -/
theorem countP_settles_le [Zero T] [Add T] {self : NetworkTransactionCoordinator T}
    {log : List (Event T)} (h : (lts T).Run log self) (key : NetworkCorrelation) :
    log.countP (settles key) ≤ 1 := by
  obtain ⟨_, -, hsteps⟩ := h
  exact (hsteps.countP_le (fun _ _ _ hstep hsettles => settles_step hstep hsettles)
    fun _ _ _ hspent hstep => completed_step hstep hspent).1

/-- After every run of calls, at any times, the collections are disjoint and pending entries are
stored under their own correlations; the run settles each correlation at most once; the next
response is accepted only for a pending correlation whose deadline has not come, which is before its
deadline unless one of the two times is not-a-number, and late only for a timed-out one; and a
completed correlation stays so after any further calls, cannot be registered, and its responses are
duplicates. -/
theorem at_most_once {R : Type} [LinearOrder R] [Zero R] [Add (PyFloat R)]
    {self : NetworkTransactionCoordinator (PyFloat R)} {log : List (Event (PyFloat R))}
    (h : (lts (PyFloat R)).Run log self) :
    self.WellFormed ∧ (∀ key, log.countP (settles key) ≤ 1) ∧
      (∀ request response now,
        ((self.handleResponse request response now).1 = .ok .accepted →
          ∃ key transaction, correlationKey response = .ok key ∧
            self.pending.lookup key = some transaction ∧ ¬transaction.deadline ≤ now ∧
            (transaction.deadline ≠ .nan → now ≠ .nan → now < transaction.deadline)) ∧
        ((self.handleResponse request response now).1 = .ok .late →
          ∃ key, correlationKey response = .ok key ∧ key ∈ self.timedOut)) ∧
      ∀ key ∈ self.completed, ∀ log' self', (lts (PyFloat R)).Steps self log' self' →
        key ∈ self'.completed ∧
        (∀ request now timeout, correlationKey request = .ok key →
          ∃ e, self'.register request now timeout = (.error e, self')) ∧
        ∀ request response now, correlationKey response = .ok key →
          correlatesResponse request response = .ok true →
          self'.handleResponse request response now = (.ok .duplicate, self') := by
  refine ⟨wellFormed_of_run h, countP_settles_le h, fun request response now => ?_,
    fun key hkey log' self' hsteps => ?_⟩
  · obtain ⟨haccepted, hlate⟩ := settled_before self request response now
    refine ⟨fun hresult => ?_, hlate⟩
    obtain ⟨key, transaction, hkey, hpending, hdeadline⟩ := haccepted hresult
    refine ⟨key, transaction, hkey, hpending, hdeadline, fun hdue hnow => ?_⟩
    -- The code asks whether the deadline is at most now, which not-a-number fails.
    rcases PyFloat.not_le_iff.mp hdeadline with hlt | hnan | hnan
    · exact hlt
    · exact absurd hnan hdue
    · exact absurd hnan hnow
  · have hstays : key ∈ self'.completed :=
      hsteps.preserves (fun _ _ _ hs hstep => completed_step hstep hs) hkey
    exact ⟨hstays, fun request now timeout hreq => register_of_completed now timeout hreq hstays,
      fun request response now hres hcorr => handleResponse_of_completed now hres hcorr hstays⟩

/-- A response accepted before its deadline completes its correlation for good. -/
theorem at_most_once_accepted :
    ∃ self : NetworkTransactionCoordinator (PyFloat ℤ), self.WellFormed ∧
      sampleCorrelation ∈ self.completed ∧
      (∃ e, self.register sampleRequest (.number 4) (.number 5) = (.error e, self)) ∧
      self.handleResponse sampleRequest sampleResponse (.number 4) = (.ok .duplicate, self) := by
  let registered := ((new : NetworkTransactionCoordinator (PyFloat ℤ)).register sampleRequest
    (.number 0) (.number 5)).2
  let accepted := (registered.handleResponse sampleRequest sampleResponse (.number 3)).2
  have hrun : (lts (PyFloat ℤ)).Run
      [.register sampleRequest (.number 0) (.number 5) (.ok sampleCorrelation),
        .handleResponse sampleRequest sampleResponse (.number 3) (.ok .accepted)] accepted := by
    refine ⟨new, rfl, .cons (show (lts (PyFloat ℤ)).step new _ registered from rfl) ?_⟩
    exact .cons (show (lts (PyFloat ℤ)).step registered _ accepted from rfl) (.nil _)
  obtain ⟨hwf, -, -, hforever⟩ := at_most_once hrun
  have hcompleted : sampleCorrelation ∈ accepted.completed := Finset.mem_insert_self _ _
  obtain ⟨-, hregister, hduplicate⟩ := hforever _ hcompleted [] accepted (.nil _)
  exact ⟨accepted, hwf, hcompleted, hregister _ _ _ rfl, hduplicate _ _ _ rfl rfl⟩

/-- A timeout that is not-a-number is registered, with a deadline that is none; and then a response
is accepted at a time that is not before the deadline. -/
theorem accepted_nan : ¬∀ (log : List (Event (PyFloat ℤ)))
    (self : NetworkTransactionCoordinator (PyFloat ℤ)), (lts (PyFloat ℤ)).Run log self →
      ∀ request response now, (self.handleResponse request response now).1 = .ok .accepted →
        ∃ key transaction, correlationKey response = .ok key ∧
          self.pending.lookup key = some transaction ∧ now < transaction.deadline := by
  intro h
  let registered := ((new : NetworkTransactionCoordinator (PyFloat ℤ)).register sampleRequest
    (.number 0) .nan).2
  have hrun : (lts (PyFloat ℤ)).Run
      [.register sampleRequest (.number 0) .nan (.ok sampleCorrelation)] registered :=
    ⟨new, rfl, .cons (show (lts (PyFloat ℤ)).step new _ registered from rfl) (.nil _)⟩
  obtain ⟨key, transaction, hkey, hpending, hlt⟩ :=
    h _ _ hrun sampleRequest sampleResponse (.number 1) rfl
  cases hkey
  cases hpending
  exact hlt

/-- A coordinator with one pending transaction. -/
def pendingOne : NetworkTransactionCoordinator ℤ := (new.register sampleRequest 0 5).2

/-- The run that registers one request. -/
theorem run_pendingOne :
    (lts ℤ).Run [.register sampleRequest 0 5 (.ok sampleCorrelation)] pendingOne :=
  ⟨new, rfl, .cons (show (lts ℤ).step new _ pendingOne from rfl) (.nil _)⟩

end NetworkTransactionCoordinator

end AtlasPay
