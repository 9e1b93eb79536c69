import AtlasPay.Library.Lts
import AtlasPay.Network.Adapter
import Mathlib.Data.Finset.Basic

/-!
# The network transaction coordinator

The model of `app/network_coordinator.py`. A method takes the coordinator and returns what the call
returns or raises, and the coordinator as the call leaves it. Times are any type with the comparison
that the code makes and with an addition. Nothing is assumed of either, so that rounding is covered,
and not-a-number, with which every comparison is false.

`expire` sorts the expired correlations, and `NetworkCorrelation` has no order: `sorted` returns a
list of at most one element without comparing, and raises on any longer one.
-/

namespace AtlasPay

/-- `TransactionDisposition`. -/
inductive TransactionDisposition where
  | accepted
  | mismatched
  | timedOut
  | late
  | duplicate
  deriving DecidableEq, Repr

/-- `PendingTransaction`. -/
structure PendingTransaction (T : Type) where
  /-- The correlation of the request. -/
  correlation : NetworkCorrelation
  /-- The time from which the request counts as timed out. -/
  deadline : T

/-- `NetworkTransactionCoordinator`. -/
structure NetworkTransactionCoordinator (T : Type) where
  /-- `_pending`. -/
  pending : AList fun _ : NetworkCorrelation => PendingTransaction T
  /-- `_completed`. -/
  completed : Finset NetworkCorrelation
  /-- `_timed_out`. -/
  timedOut : Finset NetworkCorrelation

/-- `sorted`, on correlations. -/
def sortedCorrelations : List NetworkCorrelation → Py (List NetworkCorrelation)
  | [] => pure []
  | [key] => pure [key]
  | _ => throw (.typeError
      "'<' not supported between instances of 'NetworkCorrelation' and 'NetworkCorrelation'")

namespace NetworkTransactionCoordinator

variable {T : Type} [LE T] [DecidableLE T]

/-- A new coordinator. -/
def new : NetworkTransactionCoordinator T := ⟨∅, ∅, ∅⟩

/-- `register`. -/
def register [Zero T] [Add T] (self : NetworkTransactionCoordinator T) (request : ISO8583Message)
    (now timeout : T) : Py NetworkCorrelation × NetworkTransactionCoordinator T :=
  if timeout ≤ 0 then (throw (.valueError "timeout must be greater than zero"), self)
  else
    match correlationKey request with
    | .error e => (throw e, self)
    | .ok key =>
      if key ∈ self.pending ∨ key ∈ self.completed ∨ key ∈ self.timedOut then
        (throw (.valueError "correlation key is already in use"), self)
      else (pure key, { self with pending := self.pending.insert key ⟨key, now + timeout⟩ })

/-- `cancel`. -/
def cancel (self : NetworkTransactionCoordinator T) (request : ISO8583Message) :
    Py Bool × NetworkTransactionCoordinator T :=
  match correlationKey request with
  | .error e => (throw e, self)
  | .ok key =>
    (pure (decide (key ∈ self.pending)), { self with pending := self.pending.erase key })

/-- The keys of the pending transactions whose deadline has come. -/
def overdue (self : NetworkTransactionCoordinator T) (now : T) : List NetworkCorrelation :=
  (self.pending.entries.filter fun entry => entry.2.deadline ≤ now).map Sigma.fst

/-- `expire`. -/
def expire (self : NetworkTransactionCoordinator T) (now : T) :
    Py (List NetworkCorrelation) × NetworkTransactionCoordinator T :=
  match sortedCorrelations (self.overdue now) with
  | .error e => (throw e, self)
  | .ok expired =>
    (pure expired,
      expired.foldl (fun coordinator key =>
        { coordinator with
          pending := coordinator.pending.erase key
          timedOut := insert key coordinator.timedOut }) self)

/-- `handle_response`. -/
def handleResponse (self : NetworkTransactionCoordinator T) (request response : ISO8583Message)
    (now : T) : Py TransactionDisposition × NetworkTransactionCoordinator T :=
  match correlationKey response with
  | .error e => (throw e, self)
  | .ok key =>
    match correlatesResponse request response with
    | .error e => (throw e, self)
    | .ok false => (pure .mismatched, self)
    | .ok true =>
      if key ∈ self.completed then (pure .duplicate, self)
      else if key ∈ self.timedOut then
        (pure .late,
          { self with timedOut := self.timedOut.erase key, completed := insert key self.completed })
      else
        match self.pending.lookup key with
        | none => (pure .mismatched, self)
        | some transaction =>
          if transaction.deadline ≤ now then
            (pure .timedOut,
              { self with
                pending := self.pending.erase key
                timedOut := insert key self.timedOut })
          else
            (pure .accepted,
              { self with
                pending := self.pending.erase key
                completed := insert key self.completed })

/-! ## What a call does -/

/-- A correlation is overdue when it is pending with a deadline that has come. -/
theorem mem_overdue {self : NetworkTransactionCoordinator T} {now : T} {key : NetworkCorrelation} :
    key ∈ self.overdue now ↔
      ∃ transaction, self.pending.lookup key = some transaction ∧ transaction.deadline ≤ now := by
  simp only [overdue, List.mem_map, List.mem_filter, decide_eq_true_eq]
  constructor
  · rintro ⟨⟨key', transaction⟩, ⟨hmem, hle⟩, rfl⟩
    exact ⟨transaction, AList.mem_lookup_iff.mpr hmem, hle⟩
  · rintro ⟨transaction, hlookup, hle⟩
    exact ⟨⟨key, transaction⟩, ⟨AList.mem_lookup_iff.mp hlookup, hle⟩, rfl⟩

section Specifications

variable (self : NetworkTransactionCoordinator T)

/-- What `register` may do: it raises and changes nothing, or it adds a free correlation with its
deadline. -/
inductive Registers [Zero T] [Add T] (request : ISO8583Message) (now timeout : T) :
    Py NetworkCorrelation × NetworkTransactionCoordinator T → Prop where
  | raised (e : PyError) : Registers request now timeout (.error e, self)
  | registered {key : NetworkCorrelation} (hkey : correlationKey request = .ok key)
      (htimeout : ¬timeout ≤ 0) (hpending : key ∉ self.pending) (hcompleted : key ∉ self.completed)
      (htimedOut : key ∉ self.timedOut) :
      Registers request now timeout
        (.ok key, { self with pending := self.pending.insert key ⟨key, now + timeout⟩ })

/-- What `cancel` may do. -/
inductive Cancels (request : ISO8583Message) :
    Py Bool × NetworkTransactionCoordinator T → Prop where
  | raised {e : PyError} (hkey : correlationKey request = .error e) :
      Cancels request (.error e, self)
  | cancelled {key : NetworkCorrelation} (hkey : correlationKey request = .ok key) :
      Cancels request
        (.ok (decide (key ∈ self.pending)), { self with pending := self.pending.erase key })

/-- What `expire` may do: it moves the only overdue transaction to the timed-out ones, does nothing
when there is none, and raises when there are several. -/
inductive Expires (now : T) :
    Py (List NetworkCorrelation) × NetworkTransactionCoordinator T → Prop where
  | raised (e : PyError) (hoverdue : 1 < (self.overdue now).length) : Expires now (.error e, self)
  | nothing (hoverdue : self.overdue now = []) : Expires now (.ok [], self)
  | expired {key : NetworkCorrelation} (hoverdue : self.overdue now = [key]) :
      Expires now (.ok [key],
        { self with pending := self.pending.erase key, timedOut := insert key self.timedOut })

/-- What `handle_response` may do. -/
inductive Handles (request response : ISO8583Message) (now : T) :
    Py TransactionDisposition × NetworkTransactionCoordinator T → Prop where
  | raised {e : PyError} (hkey : correlationKey response = .error e) :
      Handles request response now (.error e, self)
  | uncorrelated {key : NetworkCorrelation} (hkey : correlationKey response = .ok key)
      (hcorrelates : correlatesResponse request response = .ok false) :
      Handles request response now (.ok .mismatched, self)
  | duplicate {key : NetworkCorrelation} (hkey : correlationKey response = .ok key)
      (hcorrelates : correlatesResponse request response = .ok true)
      (hcompleted : key ∈ self.completed) : Handles request response now (.ok .duplicate, self)
  | late {key : NetworkCorrelation} (hkey : correlationKey response = .ok key)
      (hcorrelates : correlatesResponse request response = .ok true)
      (hcompleted : key ∉ self.completed) (htimedOut : key ∈ self.timedOut) :
      Handles request response now (.ok .late,
        { self with timedOut := self.timedOut.erase key, completed := insert key self.completed })
  | unknown {key : NetworkCorrelation} (hkey : correlationKey response = .ok key)
      (hcorrelates : correlatesResponse request response = .ok true)
      (hcompleted : key ∉ self.completed) (htimedOut : key ∉ self.timedOut)
      (hpending : self.pending.lookup key = none) :
      Handles request response now (.ok .mismatched, self)
  | timedOut {key : NetworkCorrelation} {transaction : PendingTransaction T}
      (hkey : correlationKey response = .ok key)
      (hcorrelates : correlatesResponse request response = .ok true)
      (hcompleted : key ∉ self.completed) (htimedOut : key ∉ self.timedOut)
      (hpending : self.pending.lookup key = some transaction)
      (hdeadline : transaction.deadline ≤ now) :
      Handles request response now (.ok .timedOut,
        { self with pending := self.pending.erase key, timedOut := insert key self.timedOut })
  | accepted {key : NetworkCorrelation} {transaction : PendingTransaction T}
      (hkey : correlationKey response = .ok key)
      (hcorrelates : correlatesResponse request response = .ok true)
      (hcompleted : key ∉ self.completed) (htimedOut : key ∉ self.timedOut)
      (hpending : self.pending.lookup key = some transaction)
      (hdeadline : ¬transaction.deadline ≤ now) :
      Handles request response now (.ok .accepted,
        { self with pending := self.pending.erase key, completed := insert key self.completed })

end Specifications

variable {self self' : NetworkTransactionCoordinator T}

/-- `register` does what `Registers` says. -/
theorem register_spec [Zero T] [Add T] {request : ISO8583Message} {now timeout : T}
    {outcome : Py NetworkCorrelation}
    (h : self.register request now timeout = (outcome, self')) :
    self.Registers request now timeout (outcome, self') := by
  rw [← h]
  unfold register
  split
  · exact .raised _
  · next htimeout =>
    split
    · exact .raised _
    · next key hkey =>
      split
      · exact .raised _
      · next hfree =>
        simp only [not_or] at hfree
        exact .registered hkey htimeout hfree.1 hfree.2.1 hfree.2.2

omit [LE T] [DecidableLE T] in
/-- `cancel` does what `Cancels` says. -/
theorem cancel_spec {request : ISO8583Message} {outcome : Py Bool}
    (h : self.cancel request = (outcome, self')) : self.Cancels request (outcome, self') := by
  rw [← h]
  unfold cancel
  split
  · next e he => exact .raised he
  · next key hkey => exact .cancelled hkey

/-- `expire` does what `Expires` says. -/
theorem expire_spec {now : T} {outcome : Py (List NetworkCorrelation)}
    (h : self.expire now = (outcome, self')) : self.Expires now (outcome, self') := by
  rw [← h]
  unfold expire
  match hoverdue : self.overdue now with
  | [] => exact .nothing hoverdue
  | [key] => exact .expired hoverdue
  | _ :: _ :: _ => exact .raised _ (by simp [hoverdue])

/-- `handle_response` does what `Handles` says. -/
theorem handleResponse_spec {request response : ISO8583Message} {now : T}
    {outcome : Py TransactionDisposition}
    (h : self.handleResponse request response now = (outcome, self')) :
    self.Handles request response now (outcome, self') := by
  rw [← h]
  unfold handleResponse
  split
  · next e he => exact .raised he
  · next key hkey =>
    split
    · next e he =>
      obtain ⟨b, hb⟩ := correlatesResponse_isOk request response
      rw [he] at hb
      cases hb
    · next hcorrelates => exact .uncorrelated hkey hcorrelates
    · next hcorrelates =>
      split
      · next hcompleted => exact .duplicate hkey hcorrelates hcompleted
      · next hcompleted =>
        split
        · next htimedOut => exact .late hkey hcorrelates hcompleted htimedOut
        · next htimedOut =>
          split
          · next hnone => exact .unknown hkey hcorrelates hcompleted htimedOut hnone
          · next transaction hsome =>
            split
            · next hle => exact .timedOut hkey hcorrelates hcompleted htimedOut hsome hle
            · next hlater => exact .accepted hkey hcorrelates hcompleted htimedOut hsome hlater

end NetworkTransactionCoordinator

end AtlasPay
