import Mathlib.Data.List.AList
import AtlasPay.Library.Lts
import AtlasPay.Payments.Outbox

/-!
# The consumers

`consume_once` of `app/outbox.py`. A call inserts the name of its consumer and the id of the event
into `consumed_events`, and runs its handler while this transaction is open; the row waits for the
commit, and other calls with the same name and id wait for the row. The handler is given the event
only, so its effect does not wait: it stays, also where the transaction is rolled back.
-/

namespace AtlasPay

/-- A row of `consumed_events`. -/
structure ConsumedEventRow where
  consumerName : String
  eventId : String
  deriving DecidableEq

/-- The primary key of `consumed_events`. -/
def ConsumedEventRow.key (row : ConsumedEventRow) : String × String :=
  (row.consumerName, row.eventId)

/-- An open transaction: the row that it has inserted, and once the handler has ended, whether it
had its effect. -/
structure Consuming where
  row : ConsumedEventRow
  handled : Option Bool
  deriving DecidableEq

/-- What is committed, and the calls that are in progress, by worker. -/
structure Consumers where
  consumedEvents : Table ConsumedEventRow.key
  active : AList fun _ : ℕ => Consuming

/-- What may happen next: a worker calls `consume_once`, its handler ends, it commits and returns,
or it gives up, since its handler has raised, its commit has failed or it has crashed. -/
inductive ConsumerMove where
  | consume (worker : ℕ) (consumerName eventId : String)
  | handle (worker : ℕ) (applied : Bool)
  | finish (worker : ℕ)
  | abort (worker : ℕ)

/-- What can be seen of a step. -/
inductive ConsumerStep where
  | rejected (worker : ℕ) (e : ServiceError)
  | duplicate (worker : ℕ) (key : String × String)
  | claimed (worker : ℕ) (key : String × String)
  | handled (worker : ℕ) (key : String × String) (applied : Bool)
  | finished (worker : ℕ) (key : String × String)
  | aborted (worker : ℕ) (key : String × String) (applied : Bool)
  deriving DecidableEq

namespace Consumers

/-- `INSERT INTO consumed_events ... ON CONFLICT DO NOTHING`, up to the conflict: the row, where its
values can be stored. -/
def consumedEventRow (consumerName eventId : String) : Except ServiceError ConsumedEventRow :=
  if ¬isNotBlank consumerName then throw (.valueError "consumer_name must not be empty")
  else if ¬(Storable consumerName ∧ Storable eventId) then throw (.database .data)
  else pure ⟨consumerName, eventId⟩

/-- Another call has inserted the row, and has not ended yet. -/
def isLocked (s : Consumers) (row : ConsumedEventRow) : Bool :=
  s.active.entries.any fun entry => entry.2.row = row

/-- One move, where it is possible, and what can be seen of it. -/
def advance (s : Consumers) : ConsumerMove → Option (Consumers × ConsumerStep)
  | .consume worker consumerName eventId =>
    match s.active.lookup worker with
    | some _ => none
    | none =>
      match consumedEventRow consumerName eventId with
      | .error e => some (s, .rejected worker e)
      | .ok row =>
        if s.isLocked row then none
        else if (s.consumedEvents.find? row.key).isSome then some (s, .duplicate worker row.key)
        else some (⟨s.consumedEvents, s.active.insert worker ⟨row, none⟩⟩, .claimed worker row.key)
  | .handle worker applied =>
    match s.active.lookup worker with
    | some ⟨row, none⟩ =>
      some (⟨s.consumedEvents, s.active.insert worker ⟨row, some applied⟩⟩,
        .handled worker row.key applied)
    | _ => none
  | .finish worker =>
    match s.active.lookup worker with
    | some ⟨row, some _⟩ =>
      some (⟨s.consumedEvents.put row, s.active.erase worker⟩, .finished worker row.key)
    | _ => none
  | .abort worker =>
    match s.active.lookup worker with
    | some ⟨row, handled⟩ =>
      some (⟨s.consumedEvents, s.active.erase worker⟩,
        .aborted worker row.key (handled.getD false))
    | none => none

/-- The consumers, with nothing consumed yet. -/
def consumers : Lts Consumers ConsumerStep :=
  .ofMoves (fun s => s.consumedEvents = .empty ∧ s.active = ∅) advance

/-- The effect of the handler is applied for a consumer and an event. -/
def isEffect (key : String × String) : ConsumerStep → Bool
  | .handled _ handled applied => applied && handled = key
  | _ => false

/-- A call is given up after that. -/
def isLoss (key : String × String) : ConsumerStep → Bool
  | .aborted _ aborted applied => applied && aborted = key
  | _ => false

/-- How often the effect of the handler was applied for a consumer and an event. -/
def effects (key : String × String) (log : List ConsumerStep) : ℕ := log.countP (isEffect key)

/-- How often a call was given up after that. -/
def losses (key : String × String) (log : List ConsumerStep) : ℕ := log.countP (isLoss key)

/-- No more than one call has the key, and what was applied for it is committed, lost, or in
progress. -/
structure Applied (key : String × String) (log : List ConsumerStep) (s : Consumers) : Prop where
  alone : ∀ i j claim claim', s.active.lookup i = some claim → s.active.lookup j = some claim' →
    claim.row.key = key → claim'.row.key = key → i = j
  committed : (s.consumedEvents.find? key).isSome →
    ∀ i claim, s.active.lookup i = some claim → claim.row.key ≠ key
  applied : effects key log ≤ losses key log ∨
    effects key log ≤ losses key log + 1 ∧ ((s.consumedEvents.find? key).isSome ∨
      ∃ i row, s.active.lookup i = some ⟨row, some true⟩ ∧ row.key = key)

variable {key : String × String} {log : List ConsumerStep} {s s' : Consumers} {step : ConsumerStep}
  {worker : ℕ} {row : ConsumedEventRow}

/-! ## One step -/

/-- What a step does. -/
inductive Happens (s : Consumers) : ConsumerStep → Consumers → Prop where
  | rejected (worker : ℕ) (e : ServiceError) : Happens s (.rejected worker e) s
  | duplicate (worker : ℕ) (key : String × String) : Happens s (.duplicate worker key) s
  | claimed (worker : ℕ) (row : ConsumedEventRow) (hidle : s.active.lookup worker = none)
      (hunlocked : ∀ i consuming, s.active.lookup i = some consuming → consuming.row.key ≠ row.key)
      (hnew : s.consumedEvents.find? row.key = none) :
      Happens s (.claimed worker row.key)
        ⟨s.consumedEvents, s.active.insert worker ⟨row, none⟩⟩
  | handled (worker : ℕ) (row : ConsumedEventRow) (applied : Bool)
      (hconsuming : s.active.lookup worker = some ⟨row, none⟩) :
      Happens s (.handled worker row.key applied)
        ⟨s.consumedEvents, s.active.insert worker ⟨row, some applied⟩⟩
  | finished (worker : ℕ) (row : ConsumedEventRow) (applied : Bool)
      (hconsuming : s.active.lookup worker = some ⟨row, some applied⟩) :
      Happens s (.finished worker row.key) ⟨s.consumedEvents.put row, s.active.erase worker⟩
  | aborted (worker : ℕ) (row : ConsumedEventRow) (handled : Option Bool)
      (hconsuming : s.active.lookup worker = some ⟨row, handled⟩) :
      Happens s (.aborted worker row.key (handled.getD false))
        ⟨s.consumedEvents, s.active.erase worker⟩

/-- Rows are told apart by their keys. -/
theorem key_injective : Function.Injective ConsumedEventRow.key := by
  rintro ⟨consumerName, eventId⟩ ⟨consumerName', eventId'⟩ h
  cases h
  rfl

/-- A row that is not locked is that of no open transaction. -/
theorem isLocked_eq_false {row : ConsumedEventRow} (h : s.isLocked row = false) (i : ℕ)
    (consuming : Consuming) (hi : s.active.lookup i = some consuming) :
    consuming.row.key ≠ row.key := by
  have hentry := AList.mem_lookup_iff.mp hi
  have hne := List.any_eq_false.mp h ⟨i, consuming⟩ hentry
  intro heq
  exact hne (decide_eq_true (key_injective heq))

/-- Every step is one of these. -/
theorem happens_of_step (h : consumers.step s step s') : Happens s step s' := by
  obtain ⟨move, hmove⟩ := h
  unfold advance at hmove
  cases move with
  | consume worker consumerName eventId =>
    simp only at hmove
    split at hmove
    · cases hmove
    · next hidle =>
      split at hmove
      · next e _ =>
        cases hmove
        exact .rejected worker e
      · next row _ =>
        -- A key that is locked lets nobody go on; one that is there has been handled.
        split_ifs at hmove with hlocked hthere
        · cases hmove
          exact .duplicate worker row.key
        · cases hmove
          exact .claimed worker row hidle (isLocked_eq_false (Bool.not_eq_true _ ▸ hlocked))
            (Option.not_isSome_iff_eq_none.mp hthere)
  | handle worker applied =>
    simp only at hmove
    split at hmove
    · next row hconsuming =>
      cases hmove
      exact .handled worker row applied hconsuming
    · cases hmove
  | finish worker =>
    simp only at hmove
    split at hmove
    · next row applied hconsuming =>
      cases hmove
      exact .finished worker row applied hconsuming
    · cases hmove
  | abort worker =>
    simp only at hmove
    split at hmove
    · next row handled hconsuming =>
      cases hmove
      exact .aborted worker row handled hconsuming
    · cases hmove

/-! ## Runs -/

/-- One more step, counted. -/
theorem effects_concat (key : String × String) (log : List ConsumerStep) (step : ConsumerStep) :
    effects key (log ++ [step]) = effects key log + if isEffect key step then 1 else 0 := by
  unfold effects
  rw [List.countP_append, List.countP_singleton]

/-- One more step, counted. -/
theorem losses_concat (key : String × String) (log : List ConsumerStep) (step : ConsumerStep) :
    losses key (log ++ [step]) = losses key log + if isLoss key step then 1 else 0 := by
  unfold losses
  rw [List.countP_append, List.countP_singleton]

/-- A step that neither applies nor loses an effect is kept when what is open or committed says
so. -/
theorem Applied.of_quiet (h : Applied key log s) (heffect : isEffect key step = false)
    (hloss : isLoss key step = false)
    (halone : ∀ i j claim claim', s'.active.lookup i = some claim →
      s'.active.lookup j = some claim' → claim.row.key = key → claim'.row.key = key → i = j)
    (hcommitted : (s'.consumedEvents.find? key).isSome →
      ∀ i claim, s'.active.lookup i = some claim → claim.row.key ≠ key)
    (happlied : ((s.consumedEvents.find? key).isSome ∨
        ∃ i row, s.active.lookup i = some ⟨row, some true⟩ ∧ row.key = key) →
      (s'.consumedEvents.find? key).isSome ∨
        ∃ i row, s'.active.lookup i = some ⟨row, some true⟩ ∧ row.key = key) :
    Applied key (log ++ [step]) s' := by
  refine ⟨halone, hcommitted, ?_⟩
  rw [effects_concat, losses_concat, heffect, hloss]
  exact h.applied.imp id fun hone => ⟨hone.1, happlied hone.2⟩

/-- Transactions that go on with the rows that they had stay alone with their keys. -/
theorem Applied.alone_of_rows (h : Applied key log s)
    (hrows : ∀ i claim, s'.active.lookup i = some claim →
      ∃ before, s.active.lookup i = some before ∧ before.row = claim.row) :
    ∀ i j claim claim', s'.active.lookup i = some claim → s'.active.lookup j = some claim' →
      claim.row.key = key → claim'.row.key = key → i = j := by
  intro i j claim claim' hi hj hkey hkey'
  obtain ⟨before, hi, hrow⟩ := hrows i claim hi
  obtain ⟨before', hj, hrow'⟩ := hrows j claim' hj
  exact h.alone i j before before' hi hj (hrow ▸ hkey) (hrow' ▸ hkey')

/-- Transactions that go on with the rows that they had do not have a key that is committed. -/
theorem Applied.committed_of_rows (h : Applied key log s)
    (hrows : ∀ i claim, s'.active.lookup i = some claim →
      ∃ before, s.active.lookup i = some before ∧ before.row = claim.row)
    (hthere : (s.consumedEvents.find? key).isSome) :
    ∀ i claim, s'.active.lookup i = some claim → claim.row.key ≠ key := by
  intro i claim hi
  obtain ⟨before, hi, hrow⟩ := hrows i claim hi
  exact hrow ▸ h.committed hthere i before hi

/-- An effect that is in progress stays so, when a worker moves who has not had it. -/
theorem progress_of_others (hothers : ∀ i, i ≠ worker → s'.active.lookup i = s.active.lookup i)
    (hworker : ∀ row, s.active.lookup worker = some ⟨row, some true⟩ → row.key ≠ key)
    (h : ∃ i row, s.active.lookup i = some ⟨row, some true⟩ ∧ row.key = key) :
    ∃ i row, s'.active.lookup i = some ⟨row, some true⟩ ∧ row.key = key := by
  obtain ⟨i, row, hi, hkey⟩ := h
  have hne : i ≠ worker := by
    rintro rfl
    exact hworker row hi hkey
  exact ⟨i, row, (hothers i hne).trans hi, hkey⟩

/-- A call opens its transaction: nobody else has its key, and it is not committed. -/
theorem Applied.claimed (h : Applied key log s) (hidle : s.active.lookup worker = none)
    (hunlocked : ∀ i consuming, s.active.lookup i = some consuming → consuming.row.key ≠ row.key)
    (hnew : s.consumedEvents.find? row.key = none) :
    Applied key (log ++ [.claimed worker row.key])
      ⟨s.consumedEvents, s.active.insert worker ⟨row, none⟩⟩ := by
  refine h.of_quiet rfl rfl (fun i j claim claim' hi hj hkey hkey' => ?_)
    (fun hthere i claim hi => ?_) fun hone => hone.imp id ?_
  · rcases AList.lookup_insert_eq_some.mp hi with ⟨rfl, rfl⟩ | ⟨-, hbefore⟩
    · rcases AList.lookup_insert_eq_some.mp hj with ⟨rfl, rfl⟩ | ⟨-, hbefore'⟩
      · rfl
      · exact absurd (hkey'.trans hkey.symm) (hunlocked j claim' hbefore')
    · rcases AList.lookup_insert_eq_some.mp hj with ⟨rfl, rfl⟩ | ⟨-, hbefore'⟩
      · exact absurd (hkey.trans hkey'.symm) (hunlocked i claim hbefore)
      · exact h.alone i j claim claim' hbefore hbefore' hkey hkey'
  · rcases AList.lookup_insert_eq_some.mp hi with ⟨rfl, rfl⟩ | ⟨hne, hi⟩
    · rintro rfl
      have hthere : (s.consumedEvents.find? row.key).isSome := hthere
      rw [hnew] at hthere
      cases hthere
    · exact h.committed hthere i claim hi
  · refine progress_of_others (fun i hne => AList.lookup_insert_ne hne) fun other hother => ?_
    rw [hidle] at hother
    cases hother

/-- A handler ends. Where it has had the effect, it is the first for its key, but for those that are
lost. -/
theorem Applied.handled (h : Applied key log s) {applied : Bool}
    (hconsuming : s.active.lookup worker = some ⟨row, none⟩) :
    Applied key (log ++ [.handled worker row.key applied])
      ⟨s.consumedEvents, s.active.insert worker ⟨row, some applied⟩⟩ := by
  have hrows : ∀ i claim, (s.active.insert worker ⟨row, some applied⟩).lookup i = some claim →
      ∃ before, s.active.lookup i = some before ∧ before.row = claim.row := by
    intro i claim hi
    rcases AList.lookup_insert_eq_some.mp hi with ⟨rfl, rfl⟩ | ⟨hne, hi⟩
    · exact ⟨_, hconsuming, rfl⟩
    · exact ⟨claim, hi, rfl⟩
  by_cases heffect : isEffect key (.handled worker row.key applied) = true
  · have happlied := heffect
    rw [isEffect, Bool.and_eq_true, decide_eq_true_eq] at happlied
    obtain ⟨rfl, hkey⟩ := happlied
    refine ⟨h.alone_of_rows hrows, h.committed_of_rows hrows,
      .inr ⟨?_, .inr ⟨worker, row, AList.lookup_insert _, hkey⟩⟩⟩
    rw [effects_concat, losses_concat, heffect]
    -- What was applied before is not committed, and in progress with nobody else.
    rcases h.applied with hle | ⟨-, hthere | ⟨i, other, hi, hother⟩⟩
    · simpa [isLoss] using hle
    · exact absurd hkey (h.committed hthere worker _ hconsuming)
    · have heq := h.alone i worker _ _ hi hconsuming hother hkey
      rw [heq, hconsuming] at hi
      cases hi
  · refine h.of_quiet (Bool.not_eq_true _ ▸ heffect) rfl (h.alone_of_rows hrows)
      (h.committed_of_rows hrows) fun hone => hone.imp id ?_
    refine progress_of_others (fun i hne => AList.lookup_insert_ne hne) fun other hother => ?_
    rw [hconsuming] at hother
    cases hother

/-- A call commits: what was in progress for its key is committed now. -/
theorem Applied.finished (h : Applied key log s) {applied : Bool}
    (hconsuming : s.active.lookup worker = some ⟨row, some applied⟩) :
    Applied key (log ++ [.finished worker row.key])
      ⟨s.consumedEvents.put row, s.active.erase worker⟩ := by
  have hrows : ∀ i claim, (s.active.erase worker).lookup i = some claim →
      ∃ before, s.active.lookup i = some before ∧ before.row = claim.row := fun i claim hi =>
    ⟨claim, (AList.lookup_erase_eq_some.mp hi).2, rfl⟩
  refine h.of_quiet rfl rfl (h.alone_of_rows hrows) (fun hthere i claim hi hkey => ?_)
    fun hone => ?_
  · obtain ⟨hne, hi⟩ := AList.lookup_erase_eq_some.mp hi
    rw [Table.find?_put] at hthere
    split at hthere
    · next heq => exact hne (h.alone i worker claim _ hi hconsuming hkey heq)
    · exact h.committed hthere i claim hi hkey
  · by_cases hrow : row.key = key
    · left
      rw [Table.find?_put, if_pos hrow]
      rfl
    · refine hone.imp (fun hthere => ?_) ?_
      · rw [Table.find?_put, if_neg hrow]
        exact hthere
      · refine progress_of_others (fun i hne => AList.lookup_erase_ne hne) fun other hother => ?_
        rw [hconsuming] at hother
        cases hother
        exact hrow

/-- A call gives up: an effect that it has had is lost. -/
theorem Applied.aborted (h : Applied key log s) {handled : Option Bool}
    (hconsuming : s.active.lookup worker = some ⟨row, handled⟩) :
    Applied key (log ++ [.aborted worker row.key (handled.getD false)])
      ⟨s.consumedEvents, s.active.erase worker⟩ := by
  have hrows : ∀ i claim, (s.active.erase worker).lookup i = some claim →
      ∃ before, s.active.lookup i = some before ∧ before.row = claim.row := fun i claim hi =>
    ⟨claim, (AList.lookup_erase_eq_some.mp hi).2, rfl⟩
  by_cases hloss : isLoss key (.aborted worker row.key (handled.getD false)) = true
  · refine ⟨h.alone_of_rows hrows, h.committed_of_rows hrows, .inl ?_⟩
    rw [effects_concat, losses_concat, hloss]
    rcases h.applied with hle | ⟨hle, -⟩
    · simp only [isEffect, if_pos]
      exact .trans hle (Nat.le_add_right _ _)
    · simpa [isEffect] using hle
  · refine h.of_quiet rfl (Bool.not_eq_true _ ▸ hloss) (h.alone_of_rows hrows)
      (h.committed_of_rows hrows) fun hone => hone.imp id ?_
    refine progress_of_others (fun i hne => AList.lookup_erase_ne hne) fun other hother hkey => ?_
    rw [hconsuming] at hother
    cases hother
    simp [isLoss, hkey] at hloss

/-- What is applied is kept by every step. -/
theorem Applied.concat (h : Applied key log s) (hstep : Happens s step s') :
    Applied key (log ++ [step]) s' := by
  cases hstep with
  | rejected worker e => exact h.of_quiet rfl rfl h.alone h.committed id
  | duplicate worker other => exact h.of_quiet rfl rfl h.alone h.committed id
  | claimed worker row hidle hunlocked hnew => exact h.claimed hidle hunlocked hnew
  | handled worker row applied hconsuming => exact h.handled hconsuming
  | finished worker row applied hconsuming => exact h.finished hconsuming
  | aborted worker row handled hconsuming => exact h.aborted hconsuming

/-- What is applied is committed, lost or in progress, in every run. -/
theorem applied_of_run (h : consumers.Run log s) (key : String × String) : Applied key log s := by
  refine h.log_invariant (P := fun log s => Applied key log s) ?_
    fun _ _ _ _ _ happlied hstep => happlied.concat (happens_of_step hstep)
  rintro ⟨consumedEvents, active⟩ ⟨hevents, hactive⟩
  have hevents : consumedEvents = .empty := hevents
  have hactive : active = ∅ := hactive
  subst hevents hactive
  exact ⟨by simp, by simp, .inl le_rfl⟩

/-- In every run, the effect was applied once more than it was lost, at most. -/
theorem effects_le_of_run (h : consumers.Run log s) (key : String × String) :
    effects key log ≤ losses key log + 1 := by
  rcases (applied_of_run h key).applied with hle | ⟨hle, -⟩
  · omega
  · exact hle

/-- Where no call is given up after its handler has had its effect, the effect is applied at most
once. -/
theorem effects_le_one (h : consumers.Run log s) (key : String × String)
    (hkept : ∀ worker, .aborted worker key true ∉ log) : effects key log ≤ 1 := by
  have hnone : losses key log = 0 := by
    refine List.countP_eq_zero.mpr fun step hstep hloss => ?_
    unfold isLoss at hloss
    split at hloss
    · next worker aborted applied =>
      rw [Bool.and_eq_true, decide_eq_true_eq] at hloss
      obtain ⟨rfl, rfl⟩ := hloss
      exact hkept worker hstep
    · cases hloss
  have hle := effects_le_of_run h key
  rwa [hnone] at hle

/-! ## A crash before the commit -/

/-- The worker crashes after the effect of its handler, and the event is delivered again. -/
def crashAndRedeliver : List ConsumerMove :=
  [.consume 0 "projection" "evt_1", .handle 0 true, .abort 0,
   .consume 1 "projection" "evt_1", .handle 1 true, .finish 1]

/-- The worker commits, and the event is delivered again. -/
def commitAndRedeliver : List ConsumerMove :=
  [.consume 0 "projection" "evt_1", .handle 0 true, .finish 0, .consume 1 "projection" "evt_1"]

/-- A redelivery after the commit is a duplicate. -/
theorem effects_commitAndRedeliver : ∃ s log,
    Lts.play advance ⟨.empty, ∅⟩ commitAndRedeliver = some (s, log) ∧
    log.getLast? = some (.duplicate 1 ("projection", "evt_1")) ∧
    effects ("projection", "evt_1") log ≤ 1 := by
  have hplayed : (Lts.play advance ⟨.empty, ∅⟩ commitAndRedeliver).map Prod.snd =
      some [.claimed 0 ("projection", "evt_1"), .handled 0 ("projection", "evt_1") true,
        .finished 0 ("projection", "evt_1"), .duplicate 1 ("projection", "evt_1")] := by decide
  obtain ⟨⟨s, log⟩, hresult, hlog⟩ := Option.map_eq_some_iff.mp hplayed
  have hlog : log = _ := hlog
  refine ⟨s, log, hresult, by rw [hlog]; rfl, ?_⟩
  exact effects_le_one ⟨_, ⟨rfl, rfl⟩, Lts.steps_of_play hresult⟩ _ fun worker => by simp [hlog]

/-- After a crash before the commit, the effect is applied a second time. -/
theorem effects_crashAndRedeliver : ∃ log s, consumers.Run log s ∧
    effects ("projection", "evt_1") log = 2 := by
  have hplayed : (Lts.play advance ⟨.empty, ∅⟩ crashAndRedeliver).map
      (fun played => effects ("projection", "evt_1") played.2) = some 2 := by decide
  obtain ⟨⟨s, log⟩, hresult, heffects⟩ := Option.map_eq_some_iff.mp hplayed
  exact ⟨log, s, ⟨_, ⟨rfl, rfl⟩, Lts.steps_of_play hresult⟩, heffects⟩

end Consumers

end AtlasPay
