import AtlasPay.Codec.Errors
import AtlasPay.Network.Expiry
import AtlasPay.Network.Routing
import AtlasPay.Network.Transport
import Mathlib.Logic.Embedding.Basic

/-!
# The collaborators of a flow under a renaming of the correlations

The coordinator and the registry do nothing with a correlation but compare it with others, and the
adapter does not look at it at all. So when the correlations are renamed injectively, each call
raises or returns as before, and leaves the renamed state. Two states are related when they say the
same of each correlation and of its new name; of other data elements than DE11 and DE37 nothing is
asked here.
-/

namespace AtlasPay

/-- Two calls both raise, or return what is related. -/
inductive Alike {α β : Type*} (R : α → β → Prop) : Py α → Py β → Prop where
  | ok {a : α} {b : β} (h : R a b) : Alike R (.ok a) (.ok b)
  | error (e e' : PyError) : Alike R (.error e) (.error e')

variable (ρ : NetworkCorrelation ↪ NetworkCorrelation)

/-- The second message has the MTI of the first, and its correlation renamed, if it has one. -/
structure ISO8583Message.Renames (message message' : ISO8583Message) : Prop where
  mti : message'.mti = message.mti
  key : Alike (fun key key' => key' = ρ key) (correlationKey message) (correlationKey message')

/-- The second coordinator has the collections of the first, renamed. -/
structure NetworkTransactionCoordinator.Renames {T : Type}
    (coordinator renamed : NetworkTransactionCoordinator T) : Prop where
  pending : ∀ key, (renamed.pending.lookup (ρ key)).map PendingTransaction.deadline =
    (coordinator.pending.lookup key).map PendingTransaction.deadline
  /-- It has no other pending correlations. -/
  range : ∀ key ∈ renamed.pending, ∃ old, ρ old = key
  completed : ∀ key, ρ key ∈ renamed.completed ↔ key ∈ coordinator.completed
  timedOut : ∀ key, ρ key ∈ renamed.timedOut ↔ key ∈ coordinator.timedOut

/-- The second registry has the correlations of the first, renamed. -/
structure ReversalRegistry.Renames (registry renamed : ReversalRegistry) : Prop where
  byOriginal : ∀ key, ρ key ∈ renamed.byOriginal ↔ key ∈ registry.byOriginal
  reversalKeys : ∀ key, ρ key ∈ renamed.reversalKeys ↔ key ∈ registry.reversalKeys

variable {ρ}

/-- A response correlates when it has the MTI that is expected and the key of the request. -/
theorem correlatesResponse_true_iff {request response : ISO8583Message} :
    correlatesResponse request response = .ok true ↔ responseMti request.mti = some response.mti ∧
      ∃ key, correlationKey request = .ok key ∧ correlationKey response = .ok key := by
  constructor
  · intro h
    refine ⟨?_, correlationKey_of_correlatesResponse h⟩
    unfold correlatesResponse at h
    split at h
    · cases h
    · next expectedMti hexpected =>
      split at h
      · cases h
      · next heq => rw [hexpected, not_not.mp heq]
  · rintro ⟨hmti, key, hrequest, hresponse⟩
    simp only [correlatesResponse, hmti, hrequest, hresponse, ne_eq, not_true_eq_false, if_false,
      bind, Except.bind, pure, Except.pure, decide_true]

/-- A message has a correlation when its renaming has the new name. -/
theorem ISO8583Message.Renames.key_iff {message message' : ISO8583Message}
    (h : message.Renames ρ message') (key : NetworkCorrelation) :
    correlationKey message' = .ok (ρ key) ↔ correlationKey message = .ok key := by
  have hkey := h.key
  generalize correlationKey message = x, correlationKey message' = x' at hkey
  cases hkey with
  | ok heq =>
    rw [heq, Except.ok.injEq, Except.ok.injEq]
    exact ρ.injective.eq_iff
  | error e e' => exact iff_of_false nofun nofun

/-- A response correlates with a request when their renamings do. -/
theorem correlatesResponse_renames {request request' response response' : ISO8583Message}
    (hrequest : request.Renames ρ request') (hresponse : response.Renames ρ response') :
    correlatesResponse request' response' = correlatesResponse request response := by
  have hiff : correlatesResponse request' response' = .ok true ↔
      correlatesResponse request response = .ok true := by
    rw [correlatesResponse_true_iff, correlatesResponse_true_iff, hrequest.mti, hresponse.mti]
    refine and_congr_right fun _ => ?_
    constructor
    · rintro ⟨key', hkey', hother'⟩
      -- The request has a key, of which the shared one is the new name.
      have hkey := hrequest.key
      rw [hkey'] at hkey
      generalize hx : correlationKey request = x at hkey
      cases hkey with
      | ok heq =>
        rw [heq] at hother'
        exact ⟨_, rfl, (hresponse.key_iff _).mp hother'⟩
    · rintro ⟨key, hkey, hother⟩
      exact ⟨ρ key, (hrequest.key_iff key).mpr hkey, (hresponse.key_iff key).mpr hother⟩
  obtain ⟨b, hb⟩ := correlatesResponse_isOk request response
  obtain ⟨b', hb'⟩ := correlatesResponse_isOk request' response'
  rw [hb, hb', Except.ok.injEq, Except.ok.injEq] at hiff
  rw [hb, hb', Bool.eq_iff_iff.mpr hiff]

/-! ## The coordinator -/

namespace NetworkTransactionCoordinator

/-- Collections to which a correlation and its new name are added are related. -/
theorem mem_insert_renames {s s' : Finset NetworkCorrelation} (h : ∀ key, ρ key ∈ s' ↔ key ∈ s)
    (added key : NetworkCorrelation) : ρ key ∈ insert (ρ added) s' ↔ key ∈ insert added s := by
  rw [Finset.mem_insert, Finset.mem_insert, ρ.injective.eq_iff, h]

/-- Collections from which a correlation and its new name are dropped are related. -/
theorem mem_erase_renames {s s' : Finset NetworkCorrelation} (h : ∀ key, ρ key ∈ s' ↔ key ∈ s)
    (dropped key : NetworkCorrelation) : ρ key ∈ s'.erase (ρ dropped) ↔ key ∈ s.erase dropped := by
  rw [Finset.mem_erase, Finset.mem_erase, ρ.injective.ne_iff, h]

variable {T : Type} {self self' : NetworkTransactionCoordinator T}

/-- A new coordinator is the renaming of another. -/
theorem renames_new : (new : NetworkTransactionCoordinator T).Renames ρ new := by
  refine ⟨fun key => rfl, fun key h => ?_, fun key => ?_, fun key => ?_⟩
  · exact absurd h (AList.notMem_empty key)
  · simp [new]
  · simp [new]

/-- A correlation is pending when its new name is. -/
theorem Renames.mem_pending (h : self.Renames ρ self') (key : NetworkCorrelation) :
    ρ key ∈ self'.pending ↔ key ∈ self.pending := by
  have hlookup := congrArg Option.isSome (h.pending key)
  rw [Option.isSome_map, Option.isSome_map] at hlookup
  rw [← AList.lookup_isSome, ← AList.lookup_isSome, hlookup]

/-- Adding a correlation and its new name, with one deadline, keeps the relation. -/
theorem Renames.insert_pending (h : self.Renames ρ self') (key : NetworkCorrelation)
    (deadline : T) :
    Renames ρ { self with pending := self.pending.insert key ⟨key, deadline⟩ }
      { self' with pending := self'.pending.insert (ρ key) ⟨ρ key, deadline⟩ } where
  pending other := by
    by_cases heq : other = key
    · rw [heq, AList.lookup_insert, AList.lookup_insert]
      rfl
    · rw [AList.lookup_insert_ne heq, AList.lookup_insert_ne (ρ.injective.ne heq), h.pending]
  range other hother := by
    rcases (AList.mem_insert _).mp hother with rfl | hother
    · exact ⟨key, rfl⟩
    · exact h.range other hother
  completed := h.completed
  timedOut := h.timedOut

/-- Dropping a correlation and its new name keeps the relation of what is pending. -/
theorem Renames.lookup_erase (h : self.Renames ρ self') (dropped key : NetworkCorrelation) :
    ((self'.pending.erase (ρ dropped)).lookup (ρ key)).map PendingTransaction.deadline =
      ((self.pending.erase dropped).lookup key).map PendingTransaction.deadline := by
  by_cases heq : key = dropped
  · rw [heq, AList.lookup_erase, AList.lookup_erase]
  · rw [AList.lookup_erase_ne heq, AList.lookup_erase_ne (ρ.injective.ne heq), h.pending]

/-- Moving a correlation and its new name out of the pending ones keeps the relation. -/
theorem Renames.move (h : self.Renames ρ self') (key : NetworkCorrelation)
    {completed completed' timedOut timedOut' : Finset NetworkCorrelation}
    (hcompleted : ∀ other, ρ other ∈ completed' ↔ other ∈ completed)
    (htimedOut : ∀ other, ρ other ∈ timedOut' ↔ other ∈ timedOut) :
    Renames ρ ⟨self.pending.erase key, completed, timedOut⟩
      ⟨self'.pending.erase (ρ key), completed', timedOut'⟩ where
  pending := h.lookup_erase key
  range other hother := h.range other (AList.mem_erase.mp hother).2
  completed := hcompleted
  timedOut := htimedOut

/-- `cancel` answers as before. -/
theorem cancel_renames (h : self.Renames ρ self') {request request' : ISO8583Message}
    (hrequest : request.Renames ρ request') :
    Alike Eq (self.cancel request).1 (self'.cancel request').1 ∧
      (self.cancel request).2.Renames ρ (self'.cancel request').2 := by
  have hkey := hrequest.key
  unfold cancel
  generalize correlationKey request = x, correlationKey request' = x' at hkey
  cases hkey with
  | error e e' => exact ⟨.error e e', h⟩
  | @ok key key' heq =>
    subst heq
    refine ⟨.ok ?_, h.move key h.completed h.timedOut⟩
    exact (decide_eq_decide.mpr (h.mem_pending key)).symm

variable [LE T] [DecidableLE T]

/-- `register` returns the new name. -/
theorem register_renames [Zero T] [Add T] (h : self.Renames ρ self')
    {request request' : ISO8583Message} (hrequest : request.Renames ρ request') (now timeout : T) :
    Alike (fun key key' => key' = ρ key) (self.register request now timeout).1
        (self'.register request' now timeout).1 ∧
      (self.register request now timeout).2.Renames ρ (self'.register request' now timeout).2 := by
  have hkey := hrequest.key
  unfold register
  by_cases htimeout : timeout ≤ 0
  · simp only [if_pos htimeout]
    exact ⟨.error _ _, h⟩
  simp only [if_neg htimeout]
  generalize correlationKey request = x, correlationKey request' = x' at hkey
  cases hkey with
  | error e e' => exact ⟨.error e e', h⟩
  | @ok key key' heq =>
    subst heq
    simp only [h.mem_pending, h.completed, h.timedOut]
    split
    · exact ⟨.error _ _, h⟩
    · exact ⟨.ok rfl, h.insert_pending key _⟩

omit [DecidableLE T] in
/-- A correlation is overdue when its new name is. -/
theorem Renames.overdue_iff (h : self.Renames ρ self') (now : T) (key : NetworkCorrelation) :
    self'.Overdue now (ρ key) ↔ self.Overdue now key := by
  have hdeadlines : ∀ {coordinator : NetworkTransactionCoordinator T} {other},
      coordinator.Overdue now other ↔ ∃ deadline,
        (coordinator.pending.lookup other).map PendingTransaction.deadline = some deadline ∧
          deadline ≤ now := by
    intro coordinator other
    simp only [Overdue, Option.map_eq_some_iff]
    constructor
    · rintro ⟨transaction, hlookup, hle⟩
      exact ⟨_, ⟨transaction, hlookup, rfl⟩, hle⟩
    · rintro ⟨_, ⟨transaction, hlookup, rfl⟩, hle⟩
      exact ⟨transaction, hlookup, hle⟩
  rw [hdeadlines, hdeadlines, h.pending]

/-- The overdue correlations are renamed, in some order. -/
theorem Renames.overdue_perm (h : self.Renames ρ self') (now : T) :
    (self'.overdue now).Perm ((self.overdue now).map ρ) := by
  refine (List.perm_ext_iff_of_nodup (nodup_overdue self' now)
    ((nodup_overdue self now).map ρ.injective)).mpr fun key => ?_
  -- Every pending correlation of the second coordinator is a new name (`range`), the overdue too.
  simp only [List.mem_map, mem_overdue_iff]
  constructor
  · intro hoverdue
    obtain ⟨transaction, hlookup, -⟩ := id hoverdue
    obtain ⟨old, rfl⟩ := h.range key (AList.lookup_isSome.mp (by simp [hlookup]))
    exact ⟨old, (h.overdue_iff now old).mp hoverdue, rfl⟩
  · rintro ⟨old, hoverdue, rfl⟩
    exact (h.overdue_iff now old).mpr hoverdue

/-- `expire` returns the new names. -/
theorem expire_renames (h : self.Renames ρ self') (now : T) :
    Alike (fun expired expired' => expired' = expired.map ρ) (self.expire now).1
        (self'.expire now).1 ∧
      (self.expire now).2.Renames ρ (self'.expire now).2 := by
  have hperm := h.overdue_perm now
  match hoverdue : self.overdue now with
  | [] =>
    rw [hoverdue] at hperm
    rw [expire_of_overdue_nil hoverdue, expire_of_overdue_nil hperm.eq_nil]
    exact ⟨.ok rfl, h⟩
  | [key] =>
    rw [hoverdue] at hperm
    rw [expire_of_overdue_singleton hoverdue,
      expire_of_overdue_singleton (List.perm_singleton.mp hperm)]
    exact ⟨.ok rfl, h.move key h.completed (mem_insert_renames h.timedOut key)⟩
  | _ :: _ :: _ =>
    have hlength : 1 < (self.overdue now).length := by simp [hoverdue]
    have hlength' : 1 < (self'.overdue now).length := by
      rwa [hperm.length_eq, List.length_map]
    obtain ⟨e, hraised⟩ := expire_of_length_overdue hlength
    obtain ⟨e', hraised'⟩ := expire_of_length_overdue hlength'
    rw [hraised, hraised']
    exact ⟨.error e e', h⟩

/-- `handle_response` answers as before. -/
theorem handleResponse_renames (h : self.Renames ρ self')
    {request request' response response' : ISO8583Message} (hrequest : request.Renames ρ request')
    (hresponse : response.Renames ρ response') (now : T) :
    Alike Eq (self.handleResponse request response now).1
        (self'.handleResponse request' response' now).1 ∧
      (self.handleResponse request response now).2.Renames ρ
        (self'.handleResponse request' response' now).2 := by
  have hkey := hresponse.key
  have hcorrelates := correlatesResponse_renames hrequest hresponse
  obtain ⟨correlates, heq⟩ := correlatesResponse_isOk request response
  unfold handleResponse
  rw [hcorrelates, heq]
  generalize correlationKey response = x, correlationKey response' = x' at hkey
  cases hkey with
  | error e e' => exact ⟨.error e e', h⟩
  | @ok key key' heq =>
    subst heq
    cases correlates with
    | false => exact ⟨.ok rfl, h⟩
    | true =>
      -- All three collections have the new name exactly when they have the old one.
      have hpending := h.pending key
      simp only [h.completed, h.timedOut]
      split
      · exact ⟨.ok rfl, h⟩
      · split
        · refine ⟨.ok rfl, h.pending, h.range, ?_, ?_⟩
          · exact mem_insert_renames h.completed key
          · exact mem_erase_renames h.timedOut key
        · generalize self.pending.lookup key = entry, self'.pending.lookup (ρ key) = entry'
            at hpending
          cases entry with
          | none =>
            rw [Option.map_none, Option.map_eq_none_iff] at hpending
            subst hpending
            exact ⟨.ok rfl, h⟩
          | some transaction =>
            -- The deadline is the same, so both are late or both are accepted.
            obtain ⟨transaction', rfl, hdeadline⟩ := Option.map_eq_some_iff.mp hpending
            simp only [hdeadline]
            split
            · exact ⟨.ok rfl, h.move key h.completed (mem_insert_renames h.timedOut key)⟩
            · exact ⟨.ok rfl, h.move key (mem_insert_renames h.completed key) h.timedOut⟩

end NetworkTransactionCoordinator

/-! ## The registry -/

namespace ReversalRegistry

/-- A new registry is the renaming of another. -/
theorem renames_new : new.Renames ρ new :=
  ⟨fun _ => iff_of_false (AList.notMem_empty _) (AList.notMem_empty _), fun _ => by simp [new]⟩

/-- `link` links the new names. -/
theorem link_renames {self self' : ReversalRegistry} (h : self.Renames ρ self')
    (original reversal : NetworkCorrelation) (reason : ReversalReason) :
    Alike (fun link link' => link'.reason = link.reason) (self.link original reversal reason).1
        (self'.link (ρ original) (ρ reversal) reason).1 ∧
      (self.link original reversal reason).2.Renames ρ
        (self'.link (ρ original) (ρ reversal) reason).2 := by
  unfold link
  simp only [ρ.injective.eq_iff, h.byOriginal, h.reversalKeys]
  split
  · exact ⟨.error _ _, h⟩
  split
  · exact ⟨.error _ _, h⟩
  split
  · exact ⟨.error _ _, h⟩
  · refine ⟨.ok rfl, fun key => ?_, ?_⟩
    · rw [AList.mem_insert, AList.mem_insert, ρ.injective.eq_iff, h.byOriginal]
    · exact NetworkTransactionCoordinator.mem_insert_renames h.reversalKeys reversal

end ReversalRegistry

end AtlasPay
