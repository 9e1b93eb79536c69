import AtlasPay.Library.Lts
import AtlasPay.Network.FlowRuns
import AtlasPay.Network.History
import Mathlib.Algebra.Order.Ring.Rat

/-!
# Seeding the hosted demo once

`app/hosted_demo.py`: any number of processes start on one database, each seeds the table of network
observations if it is empty, and a PostgreSQL advisory lock is to keep them apart. The rows are
those of `run_demo` of `app/demo_network.py`, three flows that record what they observe, each with a
transport that answers what its script says. Times are rational here, where the source has floats.

The lock is held by the session of a process, which ends with the process and not before it.
-/

namespace AtlasPay

namespace DemoNetwork

/-- `ScriptedTransport.exchange`. -/
def scriptedExchange (exchangeResult : TransportExchange) (payload : Bytes) (timeoutSeconds : ℚ) :
    Py TransportExchange :=
  if payload = [] ∨ timeoutSeconds ≤ 0 then
    throw (.valueError "demo transport received invalid exchange arguments")
  else pure exchangeResult

/-- `StaticReversalCorrelations.next_for`. -/
def nextFor (value original : NetworkCorrelation) : Py NetworkCorrelation :=
  if original = value then
    throw (.valueError "demo reversal correlation must differ from original")
  else pure value

/-- `_canonical`. -/
def canonical (stan rrn : String) : Py AuthorizationRequest := do
  let instrument ← CardPaymentInstrument.new "4111111111111111" none
  let correlation ← NetworkCorrelation.new stan rrn
  AuthorizationRequest.new 12500 "MAD" "DEMO-MERCHANT" "TERM0001" instrument correlation

/-- `_request`. -/
def request (stan rrn : String) : ISO8583Message :=
  ⟨"0200", (((∅ : Fields).insert 37 (.text rrn)).insert 11 (.text stan)).insert 3 (.text "000000")⟩

/-- `_response`. -/
def response (stan rrn : String) : ISO8583Message :=
  ⟨"0210", (((∅ : Fields).insert 39 (.text "00")).insert 37 (.text rrn)).insert 11 (.text stan)⟩

/-- `_flow`: the route is that of the tests, and the history is written to the database. -/
def flow : AuthorizationNetworkFlow ℚ :=
  .new AuthorizationNetworkFlow.sampleRouter defaultCodec false true

/-- What the transport of a flow answers, the provider of reversals, and the database. -/
def answers (exchangeResult : TransportExchange) (reversal : NetworkCorrelation)
    (attempt : NetworkAttempt ℚ) : Answers where
  transport := do
    let payload ← defaultCodec.encode attempt.request
    scriptedExchange exchangeResult payload attempt.timeoutSeconds
  reversal := nextFor reversal attempt.correlation
  history := pure ()

/-- A scenario: a request is started and exchanged, and a late response may come. What the flow has
recorded is returned. -/
def scenario (exchangeResult : TransportExchange) (stan rrn reversalStan reversalRrn : String)
    (now timeoutSeconds completedAt : ℚ) (late : Option ℚ) :
    Py (List (NetworkObservation ℚ)) := do
  let reversal ← NetworkCorrelation.new reversalStan reversalRrn
  let request' ← canonical stan rrn
  let (started, flow) := flow.start request' (request stan rrn) now timeoutSeconds
  let attempt ← started
  let (exchanged, flow) := flow.exchange attempt completedAt (answers exchangeResult reversal attempt)
  let _ ← exchanged
  match late with
  | none => pure (flow.history.getD [])
  | some lateAt =>
    let (handled, flow) := flow.handleLateResponse attempt (response stan rrn) lateAt
      (answers exchangeResult reversal attempt)
    let _ ← handled
    pure (flow.history.getD [])

/-- The accepted scenario. -/
def accepted : Py (List (NetworkObservation ℚ)) := do
  let payload ← defaultCodec.encode (response "100001" "100000000001")
  let exchangeResult ← TransportExchange.new .response (some payload) none false
  scenario exchangeResult "100001" "100000000001" "900001" "900000000001" 0 2 (18 / 100) none

/-- The timeout, with a late response. -/
def timedOut : Py (List (NetworkObservation ℚ)) := do
  let exchangeResult ← TransportExchange.new .timeout none
    (some "demo issuer response deadline exceeded") true
  scenario exchangeResult "100002" "100000000002" "900002" "900000000002" 1 2 3 (some (34 / 10))

/-- The local failure. -/
def failed : Py (List (NetworkObservation ℚ)) := do
  let exchangeResult ← TransportExchange.new .failure none
    (some "demo connection refused before write") false
  scenario exchangeResult "100003" "100000000003" "900003" "900000000003" 4 2 (405 / 100) none

/-- What `run_demo` has recorded when it reads its snapshot. -/
def runDemo : Py (List (NetworkObservation ℚ)) := do
  let first ← accepted
  let second ← timedOut
  let third ← failed
  pure (first ++ second ++ third)

/-- The rows that `run_demo` inserts, if it raises nothing. -/
def runDemoRows : Option (List (NetworkObservationRow ℚ)) := do
  let observations ← runDemo.toOption
  observations.mapM fun observation => observation.record.toOption

/-- The four rows: nothing is raised. -/
theorem runDemoRows_eq :
    (runDemoRows.map fun rows => rows.map fun row =>
        ((row.transportOutcome, row.disposition), row.deliveryUnknown, row.reversalReason)) =
      some [(("response", some "accepted"), false, none),
        (("timeout", some "timed_out"), true, some "timeout"),
        (("response", some "late"), false, none), (("failure", none), false, none)] := by
  decide +kernel

end DemoNetwork

namespace HostedDemo

open DemoNetwork

/-- The rows that a process inserts that seeds the table. -/
def demoRows : List (NetworkObservationRow ℚ) := runDemoRows.getD []

/-- They are four. -/
theorem length_demoRows : demoRows.length = 4 := by
  obtain ⟨rows, hrows, hfour⟩ := Option.map_eq_some_iff.mp runDemoRows_eq
  have hlength := congrArg List.length hfour
  rw [List.length_map] at hlength
  unfold demoRows
  rw [hrows]
  exact hlength

/-! ## Processes that start on one database -/

/-- How far a process has come in `ensure_demo_seeded`. -/
inductive Phase where
  /-- It has not started. -/
  | absent
  /-- It waits for the lock. -/
  | waiting
  /-- It has the lock, and is to count the observations. -/
  | locked
  /-- It is in `run_demo`, which has these rows left to insert. -/
  | seeding (left : List (NetworkObservationRow ℚ))
  /-- It is in the `finally` block, and will return this or raise. -/
  | unlocking (result : Option Bool)
  /-- It has returned this, or raised. -/
  | ended (result : Option Bool)
  /-- It was killed. -/
  | crashed

/-- The phases in which a process has the lock. -/
def Phase.Holds : Phase → Prop
  | .locked | .seeding _ | .unlocking _ => True
  | _ => False

/-- The phases in which a process is to return this, or has. -/
def Phase.Returns (seeded : Bool) : Phase → Prop
  | .unlocking result | .ended result => result = some seeded
  | _ => False

/-- The phases in which a process runs. -/
def Phase.Runs : Phase → Prop
  | .absent | .ended _ | .crashed => False
  | _ => True

/-- The table, who has the lock, and the processes. -/
structure State where
  rows : List (NetworkObservationRow ℚ)
  holder : Option ℕ
  phases : ℕ → Phase

/-- A process comes to a phase. -/
def State.enter (s : State) (i : ℕ) (phase : Phase) : State :=
  { s with phases := Function.update s.phases i phase }

/-- A row is inserted. -/
def State.insert (s : State) (row : NetworkObservationRow ℚ) : State :=
  { s with rows := s.rows ++ [row] }

/-- What a process has of the lock is given up, as when its session ends. -/
def State.release (s : State) (i : ℕ) : State :=
  { s with holder := if s.holder = some i then none else s.holder }

/-- What a step shows. -/
inductive Event where
  /-- A process inserts a row of the demo. -/
  | seeded (i : ℕ) (row : NetworkObservationRow ℚ)
  /-- A process returns, or raises. -/
  | ended (i : ℕ) (result : Option Bool)
  /-- A flow elsewhere inserts a row. -/
  | observed (row : NetworkObservationRow ℚ)
  /-- A process goes on. -/
  | moved (i : ℕ)

/-- The statements of `ensure_demo_seeded`, one step each. Each of them may raise, also after its
effect, and a process may be killed at any time. -/
inductive Step : State → Event → State → Prop where
  | start {s : State} {i : ℕ} (h : s.phases i = .absent) : Step s (.moved i) (s.enter i .waiting)
  | lock {s : State} {i : ℕ} (h : s.phases i = .waiting) (hfree : s.holder = none) :
      Step s (.moved i) ({ s with holder := some i }.enter i .locked)
  | present {s : State} {i : ℕ} (h : s.phases i = .locked) (hrows : s.rows ≠ []) :
      Step s (.moved i) (s.enter i (.unlocking (some false)))
  | empty {s : State} {i : ℕ} (h : s.phases i = .locked) (hrows : s.rows = []) :
      Step s (.moved i) (s.enter i (.seeding demoRows))
  | insert {s : State} {i : ℕ} {row : NetworkObservationRow ℚ}
      {left : List (NetworkObservationRow ℚ)} (h : s.phases i = .seeding (row :: left)) :
      Step s (.seeded i row) ((s.insert row).enter i (.seeding left))
  -- The snapshot that `run_demo` returns is read and dropped.
  | snapshot {s : State} {i : ℕ} (h : s.phases i = .seeding []) :
      Step s (.moved i) (s.enter i (.unlocking (some true)))
  | raise {s : State} {i : ℕ} (h : s.phases i = .locked ∨ ∃ left, s.phases i = .seeding left) :
      Step s (.moved i) (s.enter i (.unlocking none))
  | unlock {s : State} {i : ℕ} {result : Option Bool} (h : s.phases i = .unlocking result) :
      Step s (.ended i result) ((s.release i).enter i (.ended result))
  -- The connection is closed when the lock or the unlock raises.
  | close {s : State} {i : ℕ}
      (h : s.phases i = .waiting ∨ ∃ result, s.phases i = .unlocking result) :
      Step s (.ended i none) ((s.release i).enter i (.ended none))
  | crash {s : State} {i : ℕ} (h : (s.phases i).Runs) :
      Step s (.moved i) ((s.release i).enter i .crashed)
  | observe {s : State} (row : NetworkObservationRow ℚ) :
      Step s (.observed row) (s.insert row)

/-- Processes that start on a table with some rows. -/
def processes (initial : List (NetworkObservationRow ℚ)) : Lts State Event where
  init s := s.rows = initial ∧ s.holder = none ∧ ∀ i, s.phases i = .absent
  step := Step

/-- The rows of the demo that have been inserted, with who inserted them. -/
def seeds (log : List Event) : List (ℕ × NetworkObservationRow ℚ) :=
  log.filterMap fun
    | .seeded i row => some (i, row)
    | _ => none

/-- The rows of the demo, as one process inserts them. -/
def demoOf (i : ℕ) : List (ℕ × NetworkObservationRow ℚ) := demoRows.map (Prod.mk i)

/-- All rows that have been inserted. -/
def inserted (log : List Event) : List (NetworkObservationRow ℚ) :=
  log.filterMap fun
    | .seeded _ row => some row
    | .observed row => some row
    | _ => none

/-! ## What the lock keeps -/

variable {initial : List (NetworkObservationRow ℚ)} {log : List Event} {s s' : State} {e : Event}
  {i : ℕ} {phase : Phase}

/-- The rows of the demo of events after events. -/
theorem seeds_append (log after : List Event) : seeds (log ++ after) = seeds log ++ seeds after :=
  List.filterMap_append

/-- One more event that inserts no row of the demo. -/
theorem seeds_concat (he : ∀ j row, e ≠ .seeded j row) : seeds (log ++ [e]) = seeds log := by
  rw [seeds_append]
  cases e with
  | seeded j row => exact absurd rfl (he j row)
  | ended | observed | moved => exact List.append_nil _

/-- A row of the demo is one that was inserted. -/
theorem length_seeds_le (log : List Event) : (seeds log).length ≤ (inserted log).length := by
  induction log with
  | nil => exact Nat.le_refl 0
  | cons e log ih =>
    unfold seeds inserted at ih ⊢
    cases e with
    | seeded => exact Nat.succ_le_succ ih
    | observed => exact Nat.le_succ_of_le ih
    | ended | moved => exact ih

/-- Who is at what phase after a process has come to one. -/
theorem State.phases_enter (s : State) (i : ℕ) (phase : Phase) (j : ℕ) :
    (s.enter i phase).phases j = if j = i then phase else s.phases j :=
  Function.update_apply s.phases i phase j

/-- The one that has the lock is the one in the block that the lock guards; what is left to insert
completes the rows of the demo, and these are from one process; and what is to be returned is
true. -/
structure Invariant (initial : List (NetworkObservationRow ℚ)) (log : List Event) (s : State) :
    Prop where
  rows : s.rows = initial ++ inserted log
  holder : ∀ i, (s.phases i).Holds ↔ s.holder = some i
  left : ∀ i left, s.phases i = .seeding left → seeds log ++ left.map (Prod.mk i) = demoOf i
  full : ∀ i, (s.phases i).Returns true → seeds log = demoOf i
  present : ∀ i, (s.phases i).Returns false → s.rows ≠ []
  one : ∃ i, seeds log <+: demoOf i
  ended : ∀ i seeded, .ended i (some seeded) ∈ log → s.phases i = .ended (some seeded)

variable (phase) in
/-- A process that keeps the lock, or does not have it before and after, comes to a phase. -/
theorem Invariant.holder_enter (h : Invariant initial log s)
    (hsame : phase.Holds ↔ (s.phases i).Holds) (j : ℕ) :
    ((s.enter i phase).phases j).Holds ↔ s.holder = some j := by
  rw [State.phases_enter]
  split
  case isTrue hj =>
    subst hj
    exact hsame.trans (h.holder j)
  case isFalse => exact h.holder j

/-- A process whose session ends gives up the lock. -/
theorem Invariant.holder_release (h : Invariant initial log s) (hnot : ¬phase.Holds) (j : ℕ) :
    (((s.release i).enter i phase).phases j).Holds ↔ (s.release i).holder = some j := by
  rw [State.phases_enter]
  show _ ↔ (if s.holder = some i then none else s.holder) = some j
  split
  case isTrue hj =>
    subst hj
    constructor
    · exact fun hholds => absurd hholds hnot
    · intro hholder
      split at hholder
      · cases hholder
      · next hother => exact absurd hholder hother
  case isFalse hj =>
    show (s.phases j).Holds ↔ _
    rw [h.holder j]
    split
    case isTrue hholder =>
      have hne : some i ≠ some j := fun heq => hj (Option.some.inj heq).symm
      rw [hholder]
      exact ⟨fun heq => absurd heq hne, nofun⟩
    case isFalse => exact Iff.rfl

/-- A step that inserts nothing and takes a process from a phase that is not its last. -/
theorem Invariant.enter {holder : Option ℕ} (h : Invariant initial log s)
    (hquiet : ∀ j row, e ≠ .seeded j row ∧ e ≠ .observed row)
    (hholder : ∀ j, ((s.enter i phase).phases j).Holds ↔ holder = some j)
    (hopen : ∀ result, s.phases i ≠ .ended result)
    (hleft : ∀ left, phase = .seeding left → seeds log ++ left.map (Prod.mk i) = demoOf i)
    (hfull : phase.Returns true → seeds log = demoOf i)
    (hpresent : phase.Returns false → s.rows ≠ [])
    (hended : ∀ j seeded, e = .ended j (some seeded) → j = i ∧ phase = .ended (some seeded)) :
    Invariant initial (log ++ [e]) ({ s with holder := holder }.enter i phase) := by
  have hseeds : seeds (log ++ [e]) = seeds log := seeds_concat fun j row => (hquiet j row).1
  have hinserted : inserted (log ++ [e]) = inserted log := by
    unfold inserted
    rw [List.filterMap_append]
    cases e with
    | seeded j row => exact absurd rfl (hquiet j row).1
    | observed row => exact absurd rfl (hquiet i row).2
    | ended | moved => exact List.append_nil _
  -- Nothing is inserted; of the phases only that of `i` is another, and the hypotheses are about
  -- it.
  refine ⟨?_, hholder, ?_, ?_, ?_, ?_, ?_⟩
  · rw [hinserted]
    exact h.rows
  · intro j left hj
    rw [State.phases_enter] at hj
    rw [hseeds]
    split at hj
    case isTrue hji =>
      rw [hji]
      exact hleft left hj
    case isFalse => exact h.left j left hj
  · intro j hj
    rw [State.phases_enter] at hj
    rw [hseeds]
    split at hj
    case isTrue hji =>
      rw [hji]
      exact hfull hj
    case isFalse => exact h.full j hj
  · intro j hj
    rw [State.phases_enter] at hj
    split at hj
    case isTrue => exact hpresent hj
    case isFalse => exact h.present j hj
  · rw [hseeds]
    exact h.one
  · intro j seeded hj
    rw [State.phases_enter]
    rcases List.mem_append.mp hj with hj | hj
    · have hlast := h.ended j seeded hj
      -- A process that has ended is not the one that goes on.
      have hne : j ≠ i := fun heq => hopen (some seeded) (heq ▸ hlast)
      rw [if_neg hne]
      exact hlast
    · obtain ⟨hji, hphase⟩ := hended j seeded (List.mem_singleton.mp hj).symm
      rw [if_pos hji, hphase]

/-- A row of the demo is inserted, by the process that has the lock. -/
theorem Invariant.insert {row : NetworkObservationRow ℚ} {left : List (NetworkObservationRow ℚ)}
    (h : Invariant initial log s) (hi : s.phases i = .seeding (row :: left)) :
    Invariant initial (log ++ [.seeded i row]) ((s.insert row).enter i (.seeding left)) := by
  have hseeds : seeds (log ++ [.seeded i row]) = seeds log ++ [(i, row)] :=
    seeds_append log [.seeded i row]
  have hinserted : inserted (log ++ [.seeded i row]) = inserted log ++ [row] :=
    List.filterMap_append
  -- The row goes from what is left to what is inserted, and both together stay the demo.
  have hall : seeds (log ++ [.seeded i row]) ++ left.map (Prod.mk i) = demoOf i := by
    rw [hseeds, List.append_assoc]
    exact h.left i (row :: left) hi
  have hholds : (s.phases i).Holds := by
    rw [hi]
    trivial
  refine ⟨?_, ?_, ?_, ?_, ?_, ⟨i, _, hall⟩, ?_⟩
  · show s.rows ++ [row] = _
    rw [hinserted, h.rows, List.append_assoc]
  · exact h.holder_enter (.seeding left) ⟨fun _ => hholds, fun _ => trivial⟩
  · intro j rest hj
    rw [State.phases_enter] at hj
    split at hj
    case isTrue hji =>
      cases hj
      rw [hji]
      exact hall
    case isFalse hji =>
      -- Nobody else can have the lock.
      have hother : (s.phases j).Holds := by
        show Phase.Holds (s.phases j)
        rw [show s.phases j = .seeding rest from hj]
        trivial
      have hsame := ((h.holder j).mp hother).symm.trans ((h.holder i).mp hholds)
      exact absurd (Option.some.inj hsame) hji
  · intro j hj
    rw [State.phases_enter] at hj
    split at hj
    case isTrue => exact False.elim hj
    case isFalse hji =>
      -- All rows have been inserted before a process returns that it inserted them.
      have hlength := congrArg List.length (h.full j hj)
      have htotal := congrArg List.length (h.left i (row :: left) hi)
      unfold demoOf at hlength htotal
      simp only [List.length_append, List.length_map, List.length_cons] at hlength htotal
      omega
  · intro j _
    show s.rows ++ [row] ≠ []
    simp
  · intro j seeded hj
    rw [State.phases_enter]
    rcases List.mem_append.mp hj with hj | hj
    · have hlast := h.ended j seeded hj
      have hne : j ≠ i := by
        rintro rfl
        rw [hi] at hlast
        cases hlast
      rw [if_neg hne]
      exact hlast
    · exact absurd (List.mem_singleton.mp hj) nofun

/-- Every step keeps all this. -/
theorem Invariant.step (h : Invariant initial log s) (hstep : Step s e s') :
    Invariant initial (log ++ [e]) s' := by
  cases hstep with
  | start hi =>
    have hholder := h.holder_enter .waiting ⟨False.elim, by rw [hi]; exact False.elim⟩
    exact h.enter (fun _ _ => ⟨nofun, nofun⟩) hholder (by rw [hi]; nofun) nofun nofun nofun nofun
  | @lock i hi hfree =>
    -- The lock is free, so nobody is in the block that it guards, and this process enters it.
    have hholder (j : ℕ) : ((s.enter i .locked).phases j).Holds ↔ some i = some j := by
      rw [State.phases_enter]
      split
      case isTrue hj => exact ⟨fun _ => congrArg some hj.symm, fun _ => trivial⟩
      case isFalse hj =>
        rw [h.holder j, hfree]
        exact ⟨nofun, fun heq => absurd (Option.some.inj heq).symm hj⟩
    exact h.enter (fun _ _ => ⟨nofun, nofun⟩) hholder (by rw [hi]; nofun) nofun nofun nofun nofun
  | present hi hrows =>
    have hholder := h.holder_enter (.unlocking (some false))
      ⟨fun _ => by rw [hi]; trivial, fun _ => trivial⟩
    exact h.enter (fun _ _ => ⟨nofun, nofun⟩) hholder (by rw [hi]; nofun) nofun nofun
      (fun _ => hrows) nofun
  | @empty i hi hrows =>
    have hholder := h.holder_enter (.seeding demoRows)
      ⟨fun _ => by rw [hi]; trivial, fun _ => trivial⟩
    -- The table counts no row, so nobody has inserted one of the demo, and all are left to insert.
    have hinserted : inserted log = [] := by
      have htable := h.rows
      rw [hrows] at htable
      exact (List.append_eq_nil_iff.mp htable.symm).2
    have hnone : seeds log = [] := by
      have hle := length_seeds_le log
      rw [hinserted] at hle
      exact List.eq_nil_of_length_eq_zero (Nat.le_zero.mp hle)
    refine h.enter (fun _ _ => ⟨nofun, nofun⟩) hholder (by rw [hi]; nofun) ?_ nofun nofun nofun
    rintro left ⟨⟩
    rw [hnone, List.nil_append]
    rfl
  | insert hi => exact h.insert hi
  | @snapshot i hi =>
    have hholder := h.holder_enter (.unlocking (some true))
      ⟨fun _ => by rw [hi]; trivial, fun _ => trivial⟩
    -- Nothing is left to insert.
    have hall : seeds log = demoOf i := by
      have hleft := h.left i [] hi
      rwa [List.map_nil, List.append_nil] at hleft
    exact h.enter (fun _ _ => ⟨nofun, nofun⟩) hholder (by rw [hi]; nofun) nofun (fun _ => hall)
      nofun nofun
  | @raise i hi =>
    -- A raise is caught in the `finally` block, where the process still has the lock.
    have hholds : (s.phases i).Holds := by
      rcases hi with hi | ⟨left, hi⟩ <;> rw [hi] <;> trivial
    have hopen (result : Option Bool) : s.phases i ≠ .ended result := by
      intro hended
      rw [hended] at hholds
      exact hholds
    have hholder := h.holder_enter (.unlocking none)
      ⟨fun _ => hholds, fun _ => trivial⟩
    exact h.enter (fun _ _ => ⟨nofun, nofun⟩) hholder hopen nofun nofun nofun nofun
  | @unlock i result hi =>
    -- What is returned is what was to be returned in the `finally` block.
    have hreturns (seeded : Bool) (hphase : (Phase.ended result).Returns seeded) :
        (s.phases i).Returns seeded := by
      rw [hi]
      exact hphase
    refine h.enter (fun _ _ => ⟨nofun, nofun⟩) (h.holder_release id) (by rw [hi]; nofun) nofun
      (fun hphase => h.full i (hreturns true hphase))
      (fun hphase => h.present i (hreturns false hphase)) ?_
    rintro j seeded ⟨⟩
    exact ⟨rfl, rfl⟩
  | @close i hi =>
    -- It has not ended, so no result of it is in the log.
    have hopen (result : Option Bool) : s.phases i ≠ .ended result := by
      rcases hi with hi | ⟨_, hi⟩ <;> rw [hi] <;> nofun
    exact h.enter (fun _ _ => ⟨nofun, nofun⟩) (h.holder_release id) hopen nofun nofun nofun nofun
  | @crash i hi =>
    have hopen (result : Option Bool) : s.phases i ≠ .ended result := by
      intro hended
      rw [hended] at hi
      exact hi
    exact h.enter (fun _ _ => ⟨nofun, nofun⟩) (h.holder_release id) hopen nofun nofun nofun nofun
  | observe row =>
    -- The row of a flow elsewhere is in the table, and is none of the demo.
    have hseeds : seeds (log ++ [.observed row]) = seeds log := seeds_concat nofun
    have hinserted : inserted (log ++ [.observed row]) = inserted log ++ [row] :=
      List.filterMap_append
    refine ⟨?_, h.holder, ?_, ?_, ?_, ?_, ?_⟩
    · show s.rows ++ [row] = _
      rw [hinserted, h.rows, List.append_assoc]
    · rw [hseeds]
      exact h.left
    · rw [hseeds]
      exact h.full
    · intro j _
      show s.rows ++ [row] ≠ []
      simp
    · rw [hseeds]
      exact h.one
    · intro j seeded hj
      rcases List.mem_append.mp hj with hj | hj
      · exact h.ended j seeded hj
      · exact absurd (List.mem_singleton.mp hj) nofun

/-- It holds in every state of every run. -/
theorem invariant_of_run (h : (processes initial).Run log s) : Invariant initial log s := by
  refine h.log_invariant (P := Invariant initial) ?_ ?_
  · rintro s ⟨hrows, hholder, habsent⟩
    refine ⟨hrows.trans (List.append_nil _).symm, fun i => ?_, fun i => ?_, fun i => ?_,
      fun i => ?_, ⟨0, List.nil_prefix⟩, nofun⟩
    · rw [habsent, hholder]
      exact ⟨nofun, nofun⟩
    all_goals
      rw [habsent]
      nofun
  · exact fun log s e s' _ hinv hstep => hinv.step hstep

/-! ## Once -/

/-- The table has rows, and no process is to insert more. -/
structure Settled (s : State) : Prop where
  rows : s.rows ≠ []
  seeding : ∀ i left, s.phases i ≠ .seeding left

/-- A process comes to another phase of a settled table. -/
theorem Settled.enter {holder : Option ℕ} (h : Settled s)
    (hphase : ∀ left, phase ≠ .seeding left) :
    Settled ({ s with holder := holder }.enter i phase) := by
  refine ⟨h.rows, fun j left => ?_⟩
  rw [State.phases_enter]
  split
  · exact hphase left
  · exact h.seeding j left

/-- A settled table stays so, and no step inserts a row of the demo. -/
theorem Settled.step (h : Settled s) (hstep : Step s e s') : seeds [e] = [] ∧ Settled s' := by
  cases hstep with
  | start | lock | present | snapshot | raise | unlock | close | crash =>
    exact ⟨rfl, h.enter nofun⟩
  | empty _ hrows => exact absurd hrows h.rows
  | insert hi => exact absurd hi (h.seeding _ _)
  | observe row =>
    refine ⟨rfl, ?_, h.seeding⟩
    show s.rows ++ [row] ≠ []
    simp

/-- Nor do the steps after it. -/
theorem Settled.steps (hsteps : (processes initial).Steps s log s') (h : Settled s) :
    seeds log = [] := by
  induction hsteps with
  | nil => rfl
  | @cons s s₁ s₂ e log head _ ih =>
    obtain ⟨hquiet, hsettled⟩ := h.step head
    calc seeds (e :: log) = seeds [e] ++ seeds log := seeds_append [e] log
      _ = [] := by rw [hquiet, ih hsettled, List.nil_append]

/-- The processes insert the four rows at most once, in order and one process alone, and none where
there were rows at first. One at most returns true, after it has inserted all; false is only
returned of a table that has rows; and what a process leaves unfinished stays so. -/
structure SeedsOnce (initial : List (NetworkObservationRow ℚ)) (log : List Event) (s : State) :
    Prop where
  rows : s.rows = initial ++ inserted log
  exclusive : ∀ i j, (s.phases i).Holds → (s.phases j).Holds → i = j
  one : ∃ i, seeds log <+: demoOf i
  initially : initial ≠ [] → seeds log = []
  complete : ∀ i, .ended i (some true) ∈ log → seeds log = demoOf i
  alone : ∀ i j, .ended i (some true) ∈ log → .ended j (some true) ∈ log → i = j
  present : ∀ i, .ended i (some false) ∈ log → s.rows ≠ []
  unfinished : Settled s → ∀ after s', (processes initial).Steps s after s' → seeds after = []

/-- Two processes that insert the rows of the demo are one. -/
theorem demoOf_inj {i j : ℕ} (h : demoOf i = demoOf j) : i = j := by
  unfold demoOf at h
  have hlength := length_demoRows
  cases hrows : demoRows with
  | nil => simp [hrows] at hlength
  | cons row rows =>
    rw [hrows, List.map_cons, List.map_cons] at h
    exact congrArg Prod.fst (List.head_eq_of_cons_eq h)

/-- The table is seeded once in every run of any number of processes, whichever of them raise or
are killed, and whatever flows elsewhere insert. -/
theorem seedsOnce_of_run (h : (processes initial).Run log s) : SeedsOnce initial log s := by
  have hinv := invariant_of_run h
  have hreturns (i : ℕ) (seeded : Bool) (hi : .ended i (some seeded) ∈ log) :
      (s.phases i).Returns seeded := by
    rw [hinv.ended i seeded hi]
    rfl
  have hcomplete (i : ℕ) (hi : .ended i (some true) ∈ log) : seeds log = demoOf i :=
    hinv.full i (hreturns i true hi)
  refine ⟨hinv.rows, ?_, hinv.one, ?_, hcomplete, ?_, ?_, ?_⟩
  · intro i j hi hj
    exact Option.some.inj (((hinv.holder i).mp hi).symm.trans ((hinv.holder j).mp hj))
  · intro hinitial
    obtain ⟨s₀, ⟨hrows, -, habsent⟩, hsteps⟩ := h
    refine Settled.steps hsteps ⟨hrows ▸ hinitial, fun i left => ?_⟩
    rw [habsent]
    nofun
  · exact fun i j hi hj => demoOf_inj ((hcomplete i hi).symm.trans (hcomplete j hj))
  · exact fun i hi => hinv.present i (hreturns i false hi)
  · exact fun hsettled after s' hsteps => Settled.steps hsteps hsettled

/-- A process is killed when it has inserted one row of four. The next one finds a table that has
rows, and returns false. -/
theorem seedsOnce_of_crash :
    ∃ log s, (seeds log).length = 1 ∧ .ended 1 (some false) ∈ log ∧ SeedsOnce [] log s := by
  obtain ⟨row, rows, hrows⟩ : ∃ row rows, demoRows = row :: rows := by
    have hlength := length_demoRows
    exact List.exists_cons_of_length_eq_add_one hlength
  have hseeding : Phase.seeding demoRows = .seeding (row :: rows) := congrArg Phase.seeding hrows
  have hrun : (processes []).Run [.moved 0, .moved 0, .moved 0, .seeded 0 row, .moved 0, .moved 1,
      .moved 1, .moved 1, .ended 1 (some false)] _ :=
    ⟨⟨[], none, fun _ => .absent⟩, ⟨rfl, rfl, fun _ => rfl⟩,
      .cons (.start rfl) (.cons (.lock rfl rfl) (.cons (.empty rfl rfl)
      (.cons (.insert hseeding) (.cons (.crash trivial)
      (.cons (.start (i := 1) rfl) (.cons (.lock rfl rfl) (.cons (.present rfl nofun)
      (.cons (.unlock rfl) (.nil _)))))))))⟩
  exact ⟨_, _, rfl, by simp, seedsOnce_of_run hrun⟩

end HostedDemo

end AtlasPay
