import Mathlib.Data.List.ReduceOption
import AtlasPay.Library.Table
import AtlasPay.Library.Transactions

/-!
# Transactions that run concurrently under read committed

Sessions run their programs statement by statement, in any order. A statement sees what is
committed when it runs, and the changes of its own transaction; it waits while another session holds
a lock that it needs. A session may crash at any point.

Where the locks cover what the programs rely on (`Covers`), such a run is a run of whole
transactions one after the other, in the order in which they ended (`serial_of_run`). A program may
also read what its locks do not cover, when this shows in its result only: then the transactions one
after the other return what the results of the sessions have become until they ended
(`exists_serial_of_run`). What the locks of one session leave to the others is a relation `rely` on
what is committed. It is asked of the programs that their statements answer the same after such a
change (`Steady`), and of the transactions that they change nothing but what their own locks allow.
Programs that all begin by taking one lock meet this (`serial_of_lock`).
-/

universe u

namespace Engine

variable {S : Type u} {R : S → Type u} {Store Change Lock ρ ε α Call : Type u}

/-- A transaction that is open. -/
structure Session (R : S → Type u) (Change Lock ε α Call : Type u) where
  /-- What was called. -/
  call : Call
  /-- What is left of its program. -/
  rest : Program R ε α
  /-- Its changes so far, seen by itself only. -/
  changes : List Change
  /-- The locks that it holds. -/
  held : List Lock

/-- What is committed, and the open transactions. -/
structure Sessions (R : S → Type u) (Store Change Lock ε α Call : Type u) where
  /-- What is committed. -/
  committed : Store
  /-- The open transactions, numbered. -/
  active : AList fun _ : ℕ => Session R Change Lock ε α Call

/-- What may happen next, in the session of a number. -/
inductive Move (Call : Type u) where
  | begin (i : ℕ) (call : Call)
  | statement (i : ℕ)
  | commit (i : ℕ)
  | crash (i : ℕ)

namespace Sessions

/-- No other session holds any of the locks. -/
def isFree [DecidableEq Lock] (s : Sessions R Store Change Lock ε α Call) (i : ℕ)
    (locks : List Lock) : Bool :=
  s.active.entries.all fun entry => entry.1 = i || locks.all fun lock => lock ∉ entry.2.held

/-- A session goes on, or is over when its program has raised. A transaction that is rolled back
gives its locks back. -/
def proceed (s : Sessions R Store Change Lock ε α Call) (i : ℕ)
    (session : Session R Change Lock ε α Call) :
    Sessions R Store Change Lock ε α Call × Option (Call × Outcome ρ ε α) :=
  match session.rest with
  | .fail e => (⟨s.committed, s.active.erase i⟩, some (session.call, .raised e))
  | _ => (⟨s.committed, s.active.insert i session⟩, none)

end Sessions

variable [DecidableEq Lock] (E : Engine R Store Change Lock ρ) (body : Call → Program R ε α)

/-- One move, where it is possible, and how the transaction ended, where it did. -/
def advance (s : Sessions R Store Change Lock ε α Call) : Move Call →
    Option (Sessions R Store Change Lock ε α Call × Option (Call × Outcome ρ ε α))
  | .begin i call =>
    match s.active.lookup i with
    | some _ => none
    | none => some (s.proceed i ⟨call, body call, [], []⟩)
  | .statement i =>
    match s.active.lookup i with
    | some ⟨call, .call statement next, changes, held⟩ =>
      let view := E.after changes s.committed
      if s.isFree i (E.needs statement view) then
        match E.run statement view with
        | .ok (answer, more) =>
          some (s.proceed i ⟨call, next answer, changes ++ more, held ++ E.takes statement view⟩)
        | .error r => some (⟨s.committed, s.active.erase i⟩, some (call, .refused r))
      else none
    | _ => none
  | .commit i =>
    match s.active.lookup i with
    | some ⟨call, .done a, changes, _⟩ =>
      match E.settle s.committed changes with
      | .ok _ => some (⟨E.after changes s.committed, s.active.erase i⟩, some (call, .returned a))
      | .error r => some (⟨s.committed, s.active.erase i⟩, some (call, .refused r))
    | _ => none
  | .crash i =>
    match s.active.lookup i with
    | some _ => some (⟨s.committed, s.active.erase i⟩, none)
    | none => none

/-- Sessions that run concurrently, each program as often as it is called. -/
def interleaved (init : Store → Prop) :
    Lts (Sessions R Store Change Lock ε α Call) (Option (Call × Outcome ρ ε α)) :=
  Lts.ofMoves (fun s => init s.committed ∧ s.active = ∅) (E.advance body)

variable {E body}

/-! ## A transaction in progress -/

variable (E) in
/-- A program that runs from what is committed gets to a rest, with its changes and its locks so
far. -/
inductive Replays (c : Store) (p : Program R ε α) :
    List Change → Program R ε α → List Lock → Prop where
  | start : Replays c p [] p []
  | statement {changes more : List Change} {held : List Lock} {s : S}
      {next : R s → Program R ε α} {answer : R s}
      (before : Replays c p changes (.call s next) held)
      (run : E.run s (E.after changes c) = .ok (answer, more)) :
      Replays c p (changes ++ more) (next answer) (held ++ E.takes s (E.after changes c))

omit [DecidableEq Lock] in
/-- A program does what it does up to a rest, and then what the rest does. -/
theorem Replays.exec_eq {c : Store} {p rest : Program R ε α} {changes : List Change}
    {held : List Lock} (h : E.Replays c p changes rest held) :
    E.exec c p = ⟨(E.exec (E.after changes c) rest).outcome,
      changes ++ (E.exec (E.after changes c) rest).changes,
      held ++ (E.exec (E.after changes c) rest).held⟩ := by
  induction h with
  | start => simp
  | @statement changes more held s next answer before hrun ih =>
    have hstep : E.exec (E.after changes c) (.call s next) =
        ⟨(E.exec (E.after (changes ++ more) c) (next answer)).outcome,
          more ++ (E.exec (E.after (changes ++ more) c) (next answer)).changes,
          E.takes s (E.after changes c) ++
            (E.exec (E.after (changes ++ more) c) (next answer)).held⟩ := by
      rw [exec, hrun, after_append]
    rw [ih, hstep]
    simp

variable (E) in
/-- The statements of a program that holds some locks answer the same, as far as its rest can tell,
after whatever its locks leave to others; and what they change keeps such a difference hidden. The
last one may answer differently, when the result becomes that of the other answer. It does not
matter where the program raises, since then it is over. -/
inductive Steady (rely : Set Lock → Store → Store → Prop) (becomes : α → α → Prop) :
    List Lock → Store → Program R ε α → Prop where
  | done {held : List Lock} {view : Store} (a : α) : Steady rely becomes held view (.done a)
  | fail {held : List Lock} {view : Store} (e : ε) : Steady rely becomes held view (.fail e)
  | call {held : List Lock} {view : Store} {s : S} {next : R s → Program R ε α}
      (same : ∀ answer changes, E.run s view = .ok (answer, changes) →
        (next answer).isFail = false → ∀ locks view',
          (∀ lock ∈ held ++ E.takes s view, lock ∈ locks) → rely locks view view' →
          (∃ answer', E.run s view' = .ok (answer', changes) ∧
            (next answer).Becomes becomes (next answer')) ∧
            E.takes s view' ⊆ E.takes s view ∧
            rely locks (E.after changes view) (E.after changes view'))
      (rest : ∀ answer changes, E.run s view = .ok (answer, changes) →
        (next answer).isFail = false →
          Steady rely becomes (held ++ E.takes s view) (E.after changes view) (next answer)) :
      Steady rely becomes held view (.call s next)

variable {becomes : α → α → Prop}

omit [DecidableEq Lock] in
/-- A program that raises is steady. -/
theorem steady_of_isFail {rely : Set Lock → Store → Store → Prop} {held : List Lock} {view : Store}
    {p : Program R ε α} (h : p.isFail = true) : E.Steady rely becomes held view p := by
  cases p with
  | done a => cases h
  | fail e => exact .fail e
  | call s next => cases h

omit [DecidableEq Lock] in
/-- A program is as steady when something is done with its result. -/
theorem Steady.bind_done {β : Type u} {becomes' : β → β → Prop}
    {rely : Set Lock → Store → Store → Prop} {held : List Lock} {view : Store} {p : Program R ε α}
    (h : E.Steady rely becomes held view p) (f : α → β)
    (hf : ∀ a a', becomes a a' → becomes' (f a) (f a')) :
    E.Steady rely becomes' held view (p.bind fun a => .done (f a)) := by
  have hfail : ∀ q : Program R ε α, (q.bind fun a => .done (f a)).isFail = q.isFail := by
    intro q
    cases q <;> rfl
  induction h with
  | done a => exact .done (f a)
  | fail e => exact .fail e
  | call same rest ih =>
    refine .call (fun answer changes hrun hlive locks view' hlocks hrely => ?_)
      fun answer changes hrun hlive => ?_
    · rw [hfail] at hlive
      obtain ⟨⟨answer', hrun', hbecomes⟩, hafter⟩ :=
        same answer changes hrun hlive locks view' hlocks hrely
      exact ⟨⟨answer', hrun', hbecomes.bind_done hf⟩, hafter⟩
    · rw [hfail] at hlive
      exact ih answer changes hrun hlive

omit [DecidableEq Lock] in
/-- A program is as steady when its result is forgotten. -/
theorem Steady.forget {rely : Set Lock → Store → Store → Prop} {held : List Lock} {view : Store}
    {p : Program R ε α} (h : E.Steady rely becomes held view p) :
    E.Steady rely (· = ·) held view p.forget :=
  h.bind_done (fun _ => PUnit.unit) fun _ _ _ => rfl

omit [DecidableEq Lock] in
/-- The first statement of a steady program answers the same. -/
theorem Steady.same {rely : Set Lock → Store → Store → Prop} {held : List Lock} {view : Store}
    {s : S} {next : R s → Program R ε α} {answer : R s} {changes : List Change}
    (h : E.Steady rely becomes held view (.call s next))
    (hrun : E.run s view = .ok (answer, changes)) (hlive : (next answer).isFail = false) :
    ∀ locks view', (∀ lock ∈ held ++ E.takes s view, lock ∈ locks) → rely locks view view' →
      (∃ answer', E.run s view' = .ok (answer', changes) ∧
        (next answer).Becomes becomes (next answer')) ∧
        E.takes s view' ⊆ E.takes s view ∧
        rely locks (E.after changes view) (E.after changes view') := by
  cases h with
  | call same rest => exact same answer changes hrun hlive

omit [DecidableEq Lock] in
/-- The rest of a steady program is steady. -/
theorem Replays.steady {rely : Set Lock → Store → Store → Prop} {c : Store}
    {p rest : Program R ε α} {changes : List Change} {held : List Lock}
    (hp : E.Steady rely becomes [] c p) (h : E.Replays c p changes rest held) :
    E.Steady rely becomes held (E.after changes c) rest := by
  induction h with
  | start => exact hp
  | @statement changes more held s next answer before hrun ih =>
    rw [after_append]
    -- A program that raises after the statement is over, whatever it read.
    cases hfail : (next answer).isFail with
    | false =>
      cases ih with
      | call same rest => exact rest _ _ hrun hfail
    | true => exact steady_of_isFail hfail

omit [DecidableEq Lock] in
/-- A steady program that got to a rest gets there again after what its locks leave to others, or to
what the rest has become. -/
theorem Replays.transfer {rely : Set Lock → Store → Store → Prop} {c c' : Store}
    {p rest : Program R ε α} {changes : List Change} {held : List Lock} {locks : Set Lock}
    (hp : E.Steady rely becomes [] c p) (h : E.Replays c p changes rest held)
    (hlive : rest.isFail = false) (hrely : rely locks c c')
    (hlocks : ∀ lock ∈ held, lock ∈ locks) :
    (∃ held' rest', held' ⊆ held ∧ rest.Becomes becomes rest' ∧
        E.Replays c' p changes rest' held') ∧
      rely locks (E.after changes c) (E.after changes c') := by
  induction h with
  | start => exact ⟨⟨[], p, List.Subset.refl [], .same p, .start⟩, hrely⟩
  | @statement changes more held s next answer before hrun ih =>
    obtain ⟨⟨held', rest', hsub, hbecomes, hbefore⟩, hview⟩ :=
      ih rfl fun lock hlock => hlocks lock (List.mem_append_left _ hlock)
    -- Before the statement the program has not ended, so the rest is the same.
    obtain rfl := hbecomes.eq_call
    have hsame := (before.steady hp).same hrun hlive
    obtain ⟨⟨answer', hrun', hnext⟩, htakes, hafter⟩ := hsame locks _ hlocks hview
    rw [after_append, after_append]
    refine ⟨⟨held' ++ E.takes s (E.after changes c'), next answer', ?_, hnext,
      hbefore.statement hrun'⟩, hafter⟩
    exact List.append_subset.mpr ⟨fun lock hlock => List.mem_append_left _ (hsub hlock),
      fun lock hlock => List.mem_append_right _ (htakes hlock)⟩

/-! ## Runs are serial -/

/-- What holds of the sessions in every run: the transactions that have ended ran one after the
other, with what their results have become; each open transaction would get where it is, or to what
this has become, if it started now and has not raised; and no lock is held twice. -/
structure Serialized (E : Engine R Store Change Lock ρ) (body : Call → Program R ε α)
    (init : Store → Prop) (becomes : α → α → Prop) (log : List (Option (Call × Outcome ρ ε α)))
    (s : Sessions R Store Change Lock ε α Call) : Prop where
  serial : ∃ serial, (E.serial init body).Run serial s.committed ∧
    List.Forall₂ (Outcome.EndBecomes becomes) log.reduceOption serial
  replays : ∀ i session, s.active.lookup i = some session →
    ∃ held rest, held ⊆ session.held ∧ session.rest.Becomes becomes rest ∧
      E.Replays s.committed (body session.call) session.changes rest held
  live : ∀ i session, s.active.lookup i = some session → session.rest.isFail = false
  exclusive : ∀ i j session session', s.active.lookup i = some session →
    s.active.lookup j = some session' → i ≠ j → List.Disjoint session.held session'.held

/-- Free locks are not held by others. -/
theorem disjoint_of_isFree {s : Sessions R Store Change Lock ε α Call} {i j : ℕ}
    {locks : List Lock} {session : Session R Change Lock ε α Call} (h : s.isFree i locks = true)
    (hj : s.active.lookup j = some session) (hne : j ≠ i) :
    List.Disjoint locks session.held := by
  have hentry := AList.mem_lookup_iff.mp hj
  have hall := List.all_eq_true.mp h ⟨j, session⟩ hentry
  simp only [hne, decide_false, Bool.false_or, List.all_eq_true, decide_eq_true_eq] at hall
  exact fun lock hlock => hall lock hlock

/-- What a move does, and how the transaction ended, where it did. -/
inductive Moves (E : Engine R Store Change Lock ρ) (body : Call → Program R ε α)
    (s : Sessions R Store Change Lock ε α Call) :
    Option (Call × Outcome ρ ε α) → Sessions R Store Change Lock ε α Call → Prop where
  | begun (i : ℕ) (call : Call) {label : Option (Call × Outcome ρ ε α)}
      {s' : Sessions R Store Change Lock ε α Call}
      (hproceed : s.proceed i ⟨call, body call, [], []⟩ = (s', label)) : Moves E body s label s'
  | answered (i : ℕ) {call : Call} {statement : S} {next : R statement → Program R ε α}
      {changes more : List Change} {held : List Lock} {answer : R statement}
      {label : Option (Call × Outcome ρ ε α)} {s' : Sessions R Store Change Lock ε α Call}
      (hi : s.active.lookup i = some ⟨call, .call statement next, changes, held⟩)
      (hfree : s.isFree i (E.needs statement (E.after changes s.committed)) = true)
      (hrun : E.run statement (E.after changes s.committed) = .ok (answer, more))
      (hproceed : s.proceed i ⟨call, next answer, changes ++ more,
        held ++ E.takes statement (E.after changes s.committed)⟩ = (s', label)) :
      Moves E body s label s'
  | refused (i : ℕ) {call : Call} {statement : S} {next : R statement → Program R ε α}
      {changes : List Change} {held : List Lock} {r : ρ}
      (hi : s.active.lookup i = some ⟨call, .call statement next, changes, held⟩)
      (hrun : E.run statement (E.after changes s.committed) = .error r) :
      Moves E body s (some (call, .refused r)) ⟨s.committed, s.active.erase i⟩
  | committed (i : ℕ) {call : Call} {a : α} {changes : List Change} {held : List Lock}
      (hi : s.active.lookup i = some ⟨call, .done a, changes, held⟩)
      (hok : (E.settle s.committed changes).isOk) :
      Moves E body s (some (call, .returned a)) ⟨E.after changes s.committed, s.active.erase i⟩
  | unsettled (i : ℕ) {call : Call} {a : α} {changes : List Change} {held : List Lock} {r : ρ}
      (hi : s.active.lookup i = some ⟨call, .done a, changes, held⟩)
      (hsettle : E.settle s.committed changes = .error r) :
      Moves E body s (some (call, .refused r)) ⟨s.committed, s.active.erase i⟩
  | crashed (i : ℕ) : Moves E body s none ⟨s.committed, s.active.erase i⟩

/-- Every step is one of these moves. -/
theorem moves_of_step {init : Store → Prop} {s s' : Sessions R Store Change Lock ε α Call}
    {label : Option (Call × Outcome ρ ε α)} (h : (E.interleaved body init).step s label s') :
    Moves E body s label s' := by
  obtain ⟨move, hmove⟩ := h
  unfold advance at hmove
  cases move with
  | begin i call =>
    simp only at hmove
    split at hmove
    · cases hmove
    · exact .begun i call (Option.some.inj hmove)
  -- A statement runs when no other session holds a lock that it takes.
  | statement i =>
    simp only at hmove
    split at hmove
    · next call statement next changes held hi =>
      split at hmove
      · next hfree =>
        split at hmove
        · next answer more hrun => exact .answered i hi hfree hrun (Option.some.inj hmove)
        · next r hrun =>
          cases hmove
          exact .refused i hi hrun
      · cases hmove
    · cases hmove
  -- What is checked at the commit may still refuse it.
  | commit i =>
    simp only at hmove
    split at hmove
    · next call a changes held hi =>
      split at hmove
      · next hsettle =>
        cases hmove
        refine .committed i hi ?_
        rw [hsettle]
        rfl
      · next r hsettle =>
        cases hmove
        exact .unsettled i hi hsettle
    · cases hmove
  | crash i =>
    simp only at hmove
    split at hmove
    · cases hmove
      exact .crashed i
    · cases hmove

namespace Serialized

variable {init : Store → Prop} {log : List (Option (Call × Outcome ρ ε α))}
  {s : Sessions R Store Change Lock ε α Call}

omit [DecidableEq Lock] in
/-- The transactions one after the other, when one more has ended. -/
theorem concat (h : Serialized E body init becomes log s) {call : Call}
    {outcome outcome' : Outcome ρ ε α} {c : Store}
    (htransact : E.transact s.committed (body call) = (outcome', c))
    (hbecomes : outcome.Becomes becomes outcome') :
    ∃ serial, (E.serial init body).Run serial c ∧ List.Forall₂ (Outcome.EndBecomes becomes)
      (log ++ [some (call, outcome)]).reduceOption serial := by
  obtain ⟨serial, hrun, hlike⟩ := h.serial
  refine ⟨serial ++ [(call, outcome')], Lts.run_concat_iff.mpr ⟨s.committed, hrun, htransact⟩, ?_⟩
  rw [List.reduceOption_append, List.reduceOption_singleton]
  exact List.rel_append hlike (.cons ⟨rfl, hbecomes⟩ .nil)

omit [DecidableEq Lock] in
/-- Dropping a session, when its transaction ended without a change to what is committed. -/
theorem erase (h : Serialized E body init becomes log s) (i : ℕ)
    {label : Option (Call × Outcome ρ ε α)}
    (hlabel : ∀ call outcome, label = some (call, outcome) →
      E.transact s.committed (body call) = (outcome, s.committed) ∧
        outcome.Becomes becomes outcome) :
    Serialized E body init becomes (log ++ [label]) ⟨s.committed, s.active.erase i⟩ := by
  refine ⟨?_, fun j session hj => ?_, fun j session hj => ?_,
    fun j k session session' hj hk => ?_⟩
  · cases label with
    | none =>
      rw [List.reduceOption_append, List.reduceOption_singleton]
      simpa using h.serial
    | some ended =>
      obtain ⟨htransact, hbecomes⟩ := hlabel ended.1 ended.2 rfl
      exact h.concat htransact hbecomes
  · exact h.replays j session (AList.lookup_erase_eq_some.mp hj).2
  · exact h.live j session (AList.lookup_erase_eq_some.mp hj).2
  · exact h.exclusive j k session session' (AList.lookup_erase_eq_some.mp hj).2
      (AList.lookup_erase_eq_some.mp hk).2

omit [DecidableEq Lock] in
/-- A session that goes on keeps the locks that it held, and takes some that were free. -/
theorem insert (h : Serialized E body init becomes log s) {i : ℕ}
    {session : Session R Change Lock ε α Call} {held : List Lock} (hsub : held ⊆ session.held)
    (hreplays : E.Replays s.committed (body session.call) session.changes session.rest held)
    (hlive : session.rest.isFail = false)
    (hexclusive : ∀ j other, s.active.lookup j = some other → j ≠ i →
      List.Disjoint session.held other.held) :
    Serialized E body init becomes (log ++ [none]) ⟨s.committed, s.active.insert i session⟩ := by
  refine ⟨?_, fun j other hj => ?_, fun j other hj => ?_, fun j k other other' hj hk hne => ?_⟩
  · rw [List.reduceOption_append, List.reduceOption_singleton]
    simpa using h.serial
  · rcases AList.lookup_insert_eq_some.mp hj with ⟨-, rfl⟩ | ⟨-, hj⟩
    · exact ⟨held, _, hsub, .same _, hreplays⟩
    · exact h.replays j other hj
  · rcases AList.lookup_insert_eq_some.mp hj with ⟨-, rfl⟩ | ⟨-, hj⟩
    · exact hlive
    · exact h.live j other hj
  · rcases AList.lookup_insert_eq_some.mp hj with ⟨hji, rfl⟩ | ⟨hji, hj⟩
    · -- The other one is not the session that goes on.
      rcases AList.lookup_insert_eq_some.mp hk with ⟨hki, -⟩ | ⟨hki, hk⟩
      · exact absurd (hji.trans hki.symm) hne
      · exact hexclusive k other' hk hki
    · rcases AList.lookup_insert_eq_some.mp hk with ⟨-, rfl⟩ | ⟨-, hk⟩
      · exact List.disjoint_symm (hexclusive j other hj hji)
      · exact h.exclusive j k other other' hj hk hne

omit [DecidableEq Lock] in
/-- A session that raises or goes on. -/
theorem proceed (h : Serialized E body init becomes log s) {i : ℕ}
    {session : Session R Change Lock ε α Call} {held : List Lock} (hsub : held ⊆ session.held)
    (hreplays : E.Replays s.committed (body session.call) session.changes session.rest held)
    (hexclusive : ∀ j other, s.active.lookup j = some other → j ≠ i →
      List.Disjoint session.held other.held)
    {s' : Sessions R Store Change Lock ε α Call} {label : Option (Call × Outcome ρ ε α)}
    (hs' : s.proceed i session = (s', label)) :
    Serialized E body init becomes (log ++ [label]) s' := by
  unfold Sessions.proceed at hs'
  split at hs'
  · next e hrest =>
    cases hs'
    refine h.erase i fun call outcome hended => ?_
    cases hended
    refine ⟨?_, .raised e⟩
    -- The program raises wherever it would start now.
    rw [hrest] at hreplays
    unfold transact
    rw [hreplays.exec_eq, exec]
  · next hrest =>
    cases hs'
    have hlive : session.rest.isFail = false := by
      cases hcases : session.rest with
      | done a => rfl
      | fail e => exact absurd hcases (hrest e)
      | call statement next => rfl
    exact h.insert hsub hreplays hlive hexclusive

end Serialized

/-- The locks cover what the programs rely on: what the locks of a session leave to the others shows
in its result only, which becomes another one then, and no transaction changes what others have
locked. -/
structure Covers (E : Engine R Store Change Lock ρ) (body : Call → Program R ε α)
    (rely : Set Lock → Store → Store → Prop) (becomes : α → α → Prop) : Prop where
  refl : ∀ a, becomes a a
  trans : ∀ a b c, becomes a b → becomes b c → becomes a c
  steady : ∀ c call, E.Steady rely becomes [] c (body call)
  guarantee : ∀ c call a changes held, E.Executes c (body call) a changes held →
    (E.settle c changes).isOk → ∀ locks : Set Lock, (∀ lock ∈ held, lock ∉ locks) →
      rely locks c (E.after changes c)

variable {init : Store → Prop} {rely : Set Lock → Store → Store → Prop}

omit [DecidableEq Lock] in
/-- A session that commits: the transactions that are still open replay on what it leaves. -/
theorem Serialized.commit (hcovers : Covers E body rely becomes)
    {log : List (Option (Call × Outcome ρ ε α))} {s : Sessions R Store Change Lock ε α Call}
    (h : Serialized E body init becomes log s) {i : ℕ} {call : Call} {a : α}
    {changes : List Change} {held : List Lock}
    (hi : s.active.lookup i = some ⟨call, .done a, changes, held⟩)
    (hok : (E.settle s.committed changes).isOk) :
    Serialized E body init becomes (log ++ [some (call, .returned a)])
      ⟨E.after changes s.committed, s.active.erase i⟩ := by
  obtain ⟨locks, rest, hsub, hbecomes, hreplays⟩ := h.replays i _ hi
  obtain ⟨a', rfl, ha⟩ := hbecomes.exists_done hcovers.refl
  have hexec : E.exec s.committed (body call) = ⟨.returned a', changes, locks⟩ := by
    rw [hreplays.exec_eq, exec]
    simp
  refine ⟨?_, fun j session hj => ?_, fun j session hj => ?_,
    fun j k session session' hj hk => ?_⟩
  · exact h.concat (transact_eq_returned.mpr ⟨changes, locks, hexec, hok, rfl⟩) (.returned ha)
  · -- The locks of the other session are none of those that this one held.
    obtain ⟨hne, hj⟩ := AList.lookup_erase_eq_some.mp hj
    obtain ⟨held', rest', hsub', hbecomes', hreplays'⟩ := h.replays j session hj
    have hrely : rely {lock | lock ∈ session.held} s.committed (E.after changes s.committed) := by
      refine hcovers.guarantee _ call a' changes locks hexec hok _ fun lock hlock => ?_
      exact h.exclusive i j _ session hi hj (Ne.symm hne) (hsub hlock)
    have hlive : rest'.isFail = false := hbecomes'.isFail_eq.trans (h.live j session hj)
    obtain ⟨⟨held'', rest'', hsub'', hbecomes'', hreplays''⟩, -⟩ :=
      hreplays'.transfer (hcovers.steady _ session.call) hlive hrely hsub'
    exact ⟨held'', rest'', List.Subset.trans hsub'' hsub', hbecomes'.trans hcovers.trans hbecomes'',
      hreplays''⟩
  · exact h.live j session (AList.lookup_erase_eq_some.mp hj).2
  · exact h.exclusive j k session session' (AList.lookup_erase_eq_some.mp hj).2
      (AList.lookup_erase_eq_some.mp hk).2

/-- What one move preserves. -/
theorem Serialized.step (hcovers : Covers E body rely becomes)
    {log : List (Option (Call × Outcome ρ ε α))} {s s' : Sessions R Store Change Lock ε α Call}
    {label : Option (Call × Outcome ρ ε α)} (h : Serialized E body init becomes log s)
    (hstep : (E.interleaved body init).step s label s') :
    Serialized E body init becomes (log ++ [label]) s' := by
  cases moves_of_step hstep with
  | begun i call hproceed =>
    exact h.proceed (List.Subset.refl []) .start (fun _ _ _ _ => List.disjoint_nil_left _) hproceed
  | answered i hi hfree hrun hproceed =>
    obtain ⟨locks, rest, hsub, hbecomes, hreplays⟩ := h.replays i _ hi
    obtain rfl := hbecomes.eq_call
    -- The locks of the statement were free, or its own.
    refine h.proceed ?_ (hreplays.statement hrun) (fun j other hj hne => ?_) hproceed
    · exact List.append_subset.mpr ⟨fun lock hlock => List.mem_append_left _ (hsub hlock),
        List.subset_append_right _ _⟩
    · refine List.disjoint_append_left.mpr ⟨?_, ?_⟩
      · exact h.exclusive i j _ other hi hj (Ne.symm hne)
      · exact List.disjoint_of_subset_left (E.takes_subset _ _) (disjoint_of_isFree hfree hj hne)
  | refused i hi hrun =>
    -- The statement is refused wherever the program would start now.
    obtain ⟨locks, rest, hsub, hbecomes, hreplays⟩ := h.replays i _ hi
    obtain rfl := hbecomes.eq_call
    refine h.erase i fun call outcome hended => ?_
    cases hended
    refine ⟨?_, .refused _⟩
    unfold transact
    rw [hreplays.exec_eq, exec, hrun]
  | committed i hi hok => exact h.commit hcovers hi hok
  | @unsettled i call a changes held r hi hsettle =>
    obtain ⟨locks, rest, hsub, hbecomes, hreplays⟩ := h.replays i _ hi
    obtain ⟨a', rfl, -⟩ := hbecomes.exists_done hcovers.refl
    have hexec : E.exec s.committed (body call) = ⟨.returned a', changes, locks⟩ := by
      rw [hreplays.exec_eq, exec]
      simp
    refine h.erase i fun call outcome hended => ?_
    cases hended
    refine ⟨?_, .refused r⟩
    unfold transact
    simp only [hexec, hsettle]
  | crashed i => exact h.erase i (by simp)

/-- A run of concurrent sessions is a run of its transactions one after the other, in the order in
which they ended, where each of them returns what its result has become until then. -/
theorem exists_serial_of_run (hcovers : Covers E body rely becomes)
    {log : List (Option (Call × Outcome ρ ε α))} {s : Sessions R Store Change Lock ε α Call}
    (h : (E.interleaved body init).Run log s) :
    ∃ serial, (E.serial init body).Run serial s.committed ∧
      List.Forall₂ (Outcome.EndBecomes becomes) log.reduceOption serial := by
  refine (h.log_invariant (P := fun log s => Serialized E body init becomes log s) ?_ ?_).serial
  · rintro s ⟨hinit, hactive⟩
    refine ⟨⟨[], ⟨s.committed, hinit, Lts.Steps.nil _⟩, .nil⟩, ?_, ?_, ?_⟩
    · intro i session hi
      simp [hactive] at hi
    · intro i session hi
      simp [hactive] at hi
    · intro i j session session' hi
      simp [hactive] at hi
  · exact fun _ _ _ _ _ hinv hstep => hinv.step hcovers hstep

/-- What is like two lists one after the other is two lists, one after the other. -/
theorem exists_append_of_forall₂ {β γ : Type u} {r : β → γ → Prop} {xs ys : List β} {zs : List γ}
    (h : List.Forall₂ r (xs ++ ys) zs) :
    ∃ us vs, zs = us ++ vs ∧ List.Forall₂ r xs us ∧ List.Forall₂ r ys vs := by
  have hfirst := List.forall₂_take xs.length h
  have hrest := List.forall₂_drop xs.length h
  rw [List.take_left] at hfirst
  rw [List.drop_left] at hrest
  exact ⟨_, _, (List.take_append_drop _ _).symm, hfirst, hrest⟩

/-- What is committed in a run that goes on, the transactions that ended since then commit one after
the other on what was committed. -/
theorem exists_serial_steps_of_run {c₀ : Store} (hcovers : Covers E body rely becomes)
    {log later : List (Option (Call × Outcome ρ ε α))}
    {s s' : Sessions R Store Change Lock ε α Call} (h : (E.interleaved body (· = c₀)).Run log s)
    (h' : (E.interleaved body (· = c₀)).Run (log ++ later) s') :
    ∃ serial, (E.serial (· = c₀) body).Steps s.committed serial s'.committed ∧
      List.Forall₂ (Outcome.EndBecomes becomes) later.reduceOption serial := by
  obtain ⟨serial, hserial, hlike⟩ := exists_serial_of_run hcovers h
  obtain ⟨all, hall, hlikeAll⟩ := exists_serial_of_run hcovers h'
  rw [List.reduceOption_append] at hlikeAll
  obtain ⟨first, rest, rfl, hfirst, hrest⟩ := exists_append_of_forall₂ hlikeAll
  obtain ⟨c, hbefore, hsteps⟩ := Lts.run_append_iff.mp hall
  -- The same calls end the same one after the other, so they lead to what was committed.
  have hcalls : first.map Prod.fst = serial.map Prod.fst :=
    (Outcome.map_fst_eq hfirst).symm.trans (Outcome.map_fst_eq hlike)
  obtain ⟨-, rfl⟩ := serial_run_unique hbefore hserial hcalls
  exact ⟨rest, hsteps, hrest⟩

/-- A session that ends does so as its transaction on what is committed, with what its result has
become until then. -/
theorem transact_of_step {c₀ : Store} (hcovers : Covers E body rely becomes)
    {log : List (Option (Call × Outcome ρ ε α))} {s s' : Sessions R Store Change Lock ε α Call}
    {call : Call} {outcome : Outcome ρ ε α} (h : (E.interleaved body (· = c₀)).Run log s)
    (hstep : (E.interleaved body (· = c₀)).step s (some (call, outcome)) s') :
    ∃ outcome', E.transact s.committed (body call) = (outcome', s'.committed) ∧
      outcome.Becomes becomes outcome' := by
  obtain ⟨serial, hsteps, hlike⟩ :=
    exists_serial_steps_of_run hcovers h (Lts.run_concat_iff.mpr ⟨s, h, hstep⟩)
  obtain ⟨⟨call', outcome'⟩, rest, ⟨hcall, hbecomes⟩, hnil, rfl⟩ :=
    List.forall₂_cons_left_iff.mp hlike
  obtain rfl : call = call' := hcall
  obtain rfl := List.forall₂_nil_left_iff.mp hnil
  obtain ⟨c, htransact, hend⟩ := Lts.steps_cons_iff.mp hsteps
  rw [Lts.steps_nil_iff.mp hend]
  exact ⟨outcome', htransact, hbecomes⟩

/-- Where results do not become others, a run of concurrent sessions is a run of its transactions
one after the other, in the order in which they ended. -/
theorem serial_of_run (hcovers : Covers E body rely (· = ·))
    {log : List (Option (Call × Outcome ρ ε α))} {s : Sessions R Store Change Lock ε α Call}
    (h : (E.interleaved body init).Run log s) :
    (E.serial init body).Run log.reduceOption s.committed := by
  obtain ⟨serial, hserial, hlike⟩ := exists_serial_of_run hcovers h
  have hsame : log.reduceOption = serial := by
    rw [← List.forall₂_eq_eq_eq]
    exact hlike.imp fun _ _ => Outcome.endBecomes_eq
  rwa [hsame]

/-! ## One lock for all -/

omit [DecidableEq Lock] in
/-- While a lock is held that everyone takes first, nothing is left to the others. -/
theorem steady_of_held {lock : Lock} {held : List Lock} (hheld : lock ∈ held) (view : Store)
    (p : Program R ε α) :
    E.Steady (fun locks c c' => lock ∈ locks → c' = c) becomes held view p := by
  induction p generalizing held view with
  | done a => exact .done a
  | fail e => exact .fail e
  | call s next ih =>
    refine .call (fun answer changes hrun _ locks view' hlocks hrely => ?_)
      fun answer changes _ _ => ih answer (List.mem_append_left _ hheld) _
    cases hrely (hlocks lock (List.mem_append_left _ hheld))
    exact ⟨⟨answer, hrun, .same _⟩, List.Subset.refl _, fun _ => rfl⟩

/-- Where every program begins with a statement that takes one lock, the sessions run one after the
other. -/
theorem serial_of_lock (lock : Lock)
    (hfirst : ∀ call, ∃ s next, body call = .call s next ∧ ∀ view, lock ∈ E.takes s view)
    {log : List (Option (Call × Outcome ρ ε α))} {s : Sessions R Store Change Lock ε α Call}
    (h : (E.interleaved body init).Run log s) :
    (E.serial init body).Run log.reduceOption s.committed := by
  have hcovers : Covers E body (fun locks c c' => lock ∈ locks → c' = c) (· = ·) := by
    refine ⟨fun _ => rfl, fun _ _ _ => Eq.trans, fun c call => ?_,
      fun c call a changes held hexec _ locks hfree hlock => ?_⟩
    · obtain ⟨statement, next, hbody, htakes⟩ := hfirst call
      rw [hbody]
      refine .call (fun answer changes hrun _ locks view' hlocks hrely => ?_)
        fun answer changes _ _ => steady_of_held (List.mem_append_right _ (htakes c)) _ _
      cases hrely (hlocks lock (List.mem_append_right _ (htakes c)))
      exact ⟨⟨answer, hrun, .same _⟩, List.Subset.refl _, fun _ => rfl⟩
    · -- A program that has returned has taken the lock, so nobody else holds it.
      obtain ⟨statement, next, hbody, htakes⟩ := hfirst call
      rw [hbody] at hexec
      obtain ⟨answer, first, rest, more, -, -, -, rfl⟩ := executes_call.mp hexec
      exact absurd hlock (hfree lock (List.mem_append_left _ (htakes c)))
  exact serial_of_run hcovers h

end Engine
