import AtlasPay.Library.Lts

/-!
# Programs that run in transactions

A program performs statements one after the other and reads the answer to each. When it returns,
its transaction commits, once the constraints that were deferred are settled; when it raises, or a
statement is refused, the transaction is rolled back. Here one transaction runs at a time.
-/

universe u

/-- A program in a transaction: it returns, raises, or performs a statement and goes on with the
answer. -/
inductive Program {S : Type u} (R : S → Type u) (ε α : Type u) where
  | done (a : α)
  | fail (e : ε)
  | call (s : S) (next : R s → Program R ε α)

namespace Program

variable {S : Type u} {R : S → Type u} {ε α β : Type u}

/-- One program after the other. -/
def bind : Program R ε α → (α → Program R ε β) → Program R ε β
  | .done a, f => f a
  | .fail e, _ => .fail e
  | .call s next, f => .call s fun answer => (next answer).bind f

/-- The program raises at once. -/
def isFail : Program R ε α → Bool
  | .fail _ => true
  | _ => false

/-- Whatever the program raises meets a condition. -/
def Raises (P : ε → Prop) : Program R ε α → Prop
  | .done _ => True
  | .fail e => P e
  | .call _ next => ∀ answer, (next answer).Raises P

/-- A program for its effect only: what it returns is forgotten. -/
def forget (p : Program R ε α) : Program R ε PUnit.{u + 1} := p.bind fun _ => .done ⟨⟩

@[simp]
theorem done_bind (a : α) (f : α → Program R ε β) : (Program.done a).bind f = f a := rfl

@[simp]
theorem fail_bind (e : ε) (f : α → Program R ε β) : (Program.fail e).bind f = .fail e := rfl

@[simp]
theorem call_bind (s : S) (next : R s → Program R ε α) (f : α → Program R ε β) :
    (Program.call s next).bind f = .call s fun answer => (next answer).bind f := rfl

/-- A program raises the same when something is done with its result. -/
theorem raises_bind_done {P : ε → Prop} {p : Program R ε α} (f : α → β) (h : p.Raises P) :
    (p.bind fun a => .done (f a)).Raises P := by
  induction p with
  | done a => trivial
  | fail e => exact h
  | call s next ih => exact fun answer => ih answer (h answer)

/-- Programs one after the other, grouped either way. -/
theorem bind_assoc {γ : Type u} (p : Program R ε α) (f : α → Program R ε β)
    (g : β → Program R ε γ) : (p.bind f).bind g = p.bind fun a => (f a).bind g := by
  induction p with
  | done a => rfl
  | fail e => rfl
  | call s next ih =>
    rw [call_bind, call_bind, call_bind]
    exact congrArg _ (funext ih)

/-- A program that goes on to return its result. -/
theorem bind_done (p : Program R ε α) : p.bind .done = p := by
  induction p with
  | done a => rfl
  | fail e => rfl
  | call s next ih =>
    rw [call_bind]
    exact congrArg _ (funext ih)

/-- A program is the same as another one, or both have ended, with a result that may have become the
other one in the meantime. -/
inductive Becomes (becomes : α → α → Prop) : Program R ε α → Program R ε α → Prop where
  | same (p : Program R ε α) : Becomes becomes p p
  | done {a a' : α} (h : becomes a a') : Becomes becomes (.done a) (.done a')

variable {becomes : α → α → Prop} {p q r : Program R ε α}

/-- A program that has ended becomes one that has. -/
theorem Becomes.exists_done {a : α} (h : Becomes becomes (.done a) p) (hrefl : ∀ a, becomes a a) :
    ∃ a', p = .done a' ∧ becomes a a' := by
  cases h with
  | same => exact ⟨a, rfl, hrefl a⟩
  | done h => exact ⟨_, rfl, h⟩

/-- A program that goes on stays as it is. -/
theorem Becomes.eq_call {s : S} {next : R s → Program R ε α}
    (h : Becomes becomes (.call s next) p) : p = .call s next := by
  cases h
  rfl

/-- What a program becomes raises when the program does. -/
theorem Becomes.isFail_eq (h : Becomes becomes p q) : q.isFail = p.isFail := by
  cases h with
  | same => rfl
  | done => rfl

/-- What a program may become, it may become in two steps. -/
theorem Becomes.trans (htrans : ∀ a b c, becomes a b → becomes b c → becomes a c)
    (h : Becomes becomes p q) (h' : Becomes becomes q r) : Becomes becomes p r := by
  cases h with
  | same => exact h'
  | done hfirst =>
    cases h' with
    | same => exact .done hfirst
    | done hnext => exact .done (htrans _ _ _ hfirst hnext)

/-- Something is done with the result of a program that becomes another one. -/
theorem Becomes.bind_done {becomes' : β → β → Prop} {f : α → β}
    (hf : ∀ a a', becomes a a' → becomes' (f a) (f a')) (h : Becomes becomes p q) :
    Becomes becomes' (p.bind fun a => .done (f a)) (q.bind fun a => .done (f a)) := by
  cases h with
  | same => exact .same _
  | done h => exact .done (hf _ _ h)

end Program

/-- How a transaction ends: its program returned and it committed, its program raised, or the
database refused one of its statements or its commit. -/
inductive Outcome (ρ ε α : Type u) where
  | returned (a : α)
  | raised (e : ε)
  | refused (r : ρ)
  deriving DecidableEq, Repr

/-- Something is done with what a transaction returned. -/
def Outcome.map {ρ ε α β : Type u} (f : α → β) : Outcome ρ ε α → Outcome ρ ε β
  | .returned a => .returned (f a)
  | .raised e => .raised e
  | .refused r => .refused r

/-- A transaction ends like another one, but for a result that may have become the other one in the
meantime. -/
inductive Outcome.Becomes {ρ ε α : Type u} (becomes : α → α → Prop) :
    Outcome ρ ε α → Outcome ρ ε α → Prop where
  | returned {a a' : α} (h : becomes a a') : Becomes becomes (.returned a) (.returned a')
  | raised (e : ε) : Becomes becomes (.raised e) (.raised e)
  | refused (r : ρ) : Becomes becomes (.refused r) (.refused r)

/-- A call that has ended, like another one of the same call. -/
def Outcome.EndBecomes {Call ρ ε α : Type u} (becomes : α → α → Prop)
    (ended ended' : Call × Outcome ρ ε α) : Prop :=
  ended.1 = ended'.1 ∧ ended.2.Becomes becomes ended'.2

/-- Calls that end like others are the same calls. -/
theorem Outcome.map_fst_eq {Call ρ ε α : Type u} {becomes : α → α → Prop}
    {log log' : List (Call × Outcome ρ ε α)}
    (h : List.Forall₂ (Outcome.EndBecomes becomes) log log') :
    log.map Prod.fst = log'.map Prod.fst := by
  induction h with
  | nil => rfl
  | cons hends _ ih => rw [List.map_cons, List.map_cons, hends.1, ih]

/-- An outcome whose result becomes no other one stays as it is. -/
theorem Outcome.eq_of_becomes {ρ ε α : Type u} {outcome outcome' : Outcome ρ ε α}
    (h : outcome.Becomes (· = ·) outcome') : outcome = outcome' := by
  cases h with
  | returned h => rw [h]
  | raised => rfl
  | refused => rfl

/-- A transaction that ends like another one with the same result ends as it does. -/
theorem Outcome.endBecomes_eq {Call ρ ε α : Type u} {ended ended' : Call × Outcome ρ ε α}
    (h : Outcome.EndBecomes (· = ·) ended ended') : ended = ended' :=
  Prod.ext h.1 (eq_of_becomes h.2)

/-- What a database does with statements, and which locks they wait for and keep to the end of
their transaction. -/
structure Engine {S : Type u} (R : S → Type u) (Store Change Lock ρ : Type u) where
  /-- A statement on what its transaction sees: its answer and its changes, or its refusal. -/
  run : (s : S) → Store → Except ρ (R s × List Change)
  /-- A change to what is stored. -/
  apply : Change → Store → Store
  /-- The constraints that are checked at commit, for the changes to what was stored. -/
  settle : Store → List Change → Except ρ PUnit.{u + 1}
  /-- The locks that other transactions must not hold for the statement to go on. -/
  needs : S → Store → List Lock
  /-- The locks that the statement acquires. -/
  takes : S → Store → List Lock
  takes_subset : ∀ s view, takes s view ⊆ needs s view

/-- What a program did: how it ended, its changes, and the locks it acquired. -/
structure Transcript (Change Lock ρ ε α : Type u) where
  /-- How the program ended. -/
  outcome : Outcome ρ ε α
  /-- The changes, in order. -/
  changes : List Change
  /-- The locks, in the order in which they were acquired. -/
  held : List Lock

namespace Engine

variable {S : Type u} {R : S → Type u} {Store Change Lock ρ ε α β : Type u}
  (E : Engine R Store Change Lock ρ)

/-- What is stored after some changes. -/
def after (changes : List Change) (c : Store) : Store :=
  changes.foldl (fun c change => E.apply change c) c

/-- A program runs from what its transaction sees. -/
def exec : Store → Program R ε α → Transcript Change Lock ρ ε α
  | _, .done a => ⟨.returned a, [], []⟩
  | _, .fail e => ⟨.raised e, [], []⟩
  | view, .call s next =>
    match E.run s view with
    | .ok (answer, changes) =>
      let rest := exec (E.after changes view) (next answer)
      ⟨rest.outcome, changes ++ rest.changes, E.takes s view ++ rest.held⟩
    | .error r => ⟨.refused r, [], []⟩

/-- A program runs in a transaction of its own. -/
def transact (c : Store) (p : Program R ε α) : Outcome ρ ε α × Store :=
  let transcript := E.exec c p
  match transcript.outcome with
  | .returned a =>
    match E.settle c transcript.changes with
    | .ok _ => (.returned a, E.after transcript.changes c)
    | .error r => (.refused r, c)
  | .raised e => (.raised e, c)
  | .refused r => (.refused r, c)

/-- A program returns, with its changes and its locks. -/
def Executes (view : Store) (p : Program R ε α) (a : α) (changes : List Change)
    (held : List Lock) : Prop :=
  E.exec view p = ⟨.returned a, changes, held⟩

/-- Transactions one after the other. The label of each is what was called, and how it ended. -/
def serial {Call : Type u} (init : Store → Prop) (body : Call → Program R ε α) :
    Lts Store (Call × Outcome ρ ε α) where
  init := init
  step c label c' := E.transact c (body label.1) = (label.2, c')

/-- Calls one after the other, with how each ended. -/
def transactAll {Call : Type u} (body : Call → Program R ε α) (c : Store) :
    List Call → List (Call × Outcome ρ ε α) × Store
  | [] => ([], c)
  | call :: calls =>
    let first := E.transact c (body call)
    let rest := transactAll body first.2 calls
    ((call, first.1) :: rest.1, rest.2)

@[simp]
theorem after_nil (c : Store) : E.after [] c = c := rfl

@[simp]
theorem after_cons (change : Change) (changes : List Change) (c : Store) :
    E.after (change :: changes) c = E.after changes (E.apply change c) := rfl

@[simp]
theorem after_append (changes changes' : List Change) (c : Store) :
    E.after (changes ++ changes') c = E.after changes' (E.after changes c) :=
  List.foldl_append

variable {E}

/-! ## Programs that return -/

@[simp]
theorem executes_done {view : Store} {a b : α} {changes : List Change} {held : List Lock} :
    E.Executes view (.done b : Program R ε α) a changes held ↔
      b = a ∧ changes = [] ∧ held = [] := by
  unfold Executes exec
  simp [eq_comm]

@[simp]
theorem executes_fail {view : Store} {a : α} {e : ε} {changes : List Change} {held : List Lock} :
    ¬E.Executes view (.fail e : Program R ε α) a changes held := by
  unfold Executes exec
  simp

/-- A program that starts with a statement returns when the statement is answered and the rest
returns. -/
theorem executes_call {view : Store} {s : S} {next : R s → Program R ε α} {a : α}
    {changes : List Change} {held : List Lock} :
    E.Executes view (.call s next) a changes held ↔
      ∃ answer first rest locks, E.run s view = .ok (answer, first) ∧
        E.Executes (E.after first view) (next answer) a rest locks ∧
        changes = first ++ rest ∧ held = E.takes s view ++ locks := by
  unfold Executes
  rw [exec]
  cases hrun : E.run s view with
  | error r => simp
  | ok result =>
    obtain ⟨answer, first⟩ := result
    constructor
    · intro h
      simp only [Transcript.mk.injEq] at h
      obtain ⟨houtcome, rfl, rfl⟩ := h
      refine ⟨answer, first, _, _, rfl, ?_, rfl, rfl⟩
      rw [← houtcome]
    · rintro ⟨answer', first', rest, locks, heq, hrest, rfl, rfl⟩
      cases heq
      simp only [hrest]

/-- One program after the other returns when both do. -/
theorem executes_bind {view : Store} {p : Program R ε α} {f : α → Program R ε β} {b : β}
    {changes : List Change} {held : List Lock} :
    E.Executes view (p.bind f) b changes held ↔
      ∃ a first locks rest locks', E.Executes view p a first locks ∧
        E.Executes (E.after first view) (f a) b rest locks' ∧
        changes = first ++ rest ∧ held = locks ++ locks' := by
  induction p generalizing view changes held with
  | done a =>
    rw [Program.done_bind]
    constructor
    · intro h
      exact ⟨a, [], [], changes, held, by simp, h, rfl, rfl⟩
    · rintro ⟨a', first, locks, rest, locks', hfirst, hrest, rfl, rfl⟩
      obtain ⟨rfl, rfl, rfl⟩ := executes_done.mp hfirst
      exact hrest
  | fail e => simp
  | call s next ih =>
    rw [Program.call_bind, executes_call]
    constructor
    · rintro ⟨answer, first, rest, locks, hrun, hnext, rfl, rfl⟩
      -- After the first statement, the rest of the first program and the second one.
      obtain ⟨a, first', locks₁, rest', locks₂, hfirst, hrest, rfl, rfl⟩ := (ih answer).mp hnext
      refine ⟨a, first ++ first', E.takes s view ++ locks₁, rest', locks₂,
        executes_call.mpr ⟨answer, first, first', locks₁, hrun, hfirst, rfl, rfl⟩, ?_, ?_, ?_⟩
      · rwa [after_append]
      · rw [List.append_assoc]
      · rw [List.append_assoc]
    · rintro ⟨a, first, locks, rest, locks', hcall, hrest, rfl, rfl⟩
      obtain ⟨answer, first₁, rest₁, locks₁, hrun, hnext, rfl, rfl⟩ := executes_call.mp hcall
      rw [after_append] at hrest
      refine ⟨answer, first₁, rest₁ ++ rest, locks₁ ++ locks', hrun,
        (ih answer).mpr ⟨a, rest₁, locks₁, rest, locks', hnext, hrest, rfl, rfl⟩, ?_, ?_⟩
      · rw [List.append_assoc]
      · rw [List.append_assoc]

/-- Doing something with what a program returns changes nothing else. -/
theorem executes_bind_done {view : Store} {p : Program R ε α} {f : α → β} {b : β}
    {changes : List Change} {held : List Lock} :
    E.Executes view (p.bind fun a => .done (f a)) b changes held ↔
      ∃ a, E.Executes view p a changes held ∧ f a = b := by
  rw [executes_bind]
  constructor
  · rintro ⟨a, first, locks, rest, locks', hfirst, hrest, rfl, rfl⟩
    obtain ⟨rfl, rfl, rfl⟩ := executes_done.mp hrest
    rw [List.append_nil, List.append_nil]
    exact ⟨a, hfirst, rfl⟩
  · rintro ⟨a, h, rfl⟩
    exact ⟨a, changes, held, [], [], h, executes_done.mpr ⟨rfl, rfl, rfl⟩, by simp, by simp⟩

/-- Forgetting what a program returns changes nothing else. -/
theorem executes_forget {view : Store} {p : Program R ε α} {u : PUnit.{u + 1}}
    {changes : List Change} {held : List Lock} :
    E.Executes view p.forget u changes held ↔ ∃ a, E.Executes view p a changes held := by
  unfold Program.forget
  rw [executes_bind_done]
  exact exists_congr fun a => and_iff_left (Subsingleton.elim _ _)

/-- What every statement preserves, every program that returns preserves. -/
theorem executes_preserves {P : Store → Prop}
    (hstep : ∀ s view answer changes, P view → E.run s view = .ok (answer, changes) →
      P (E.after changes view))
    {view : Store} {p : Program R ε α} {a : α} {changes : List Change} {held : List Lock}
    (hview : P view) (h : E.Executes view p a changes held) : P (E.after changes view) := by
  induction p generalizing view changes held with
  | done b =>
    obtain ⟨-, rfl, -⟩ := executes_done.mp h
    exact hview
  | fail e => exact absurd h executes_fail
  | call s next ih =>
    obtain ⟨answer, first, rest, locks, hrun, hrest, rfl, -⟩ := executes_call.mp h
    rw [after_append]
    exact ih answer (hstep s view answer first hview hrun) hrest

/-! ## Transactions -/

/-- A transaction commits when its program returns and its deferred constraints are settled. -/
theorem transact_eq_returned {c c' : Store} {p : Program R ε α} {a : α} :
    E.transact c p = (.returned a, c') ↔
      ∃ changes held, E.Executes c p a changes held ∧ (E.settle c changes).isOk ∧
        c' = E.after changes c := by
  unfold transact Executes
  rcases hexec : E.exec c p with ⟨outcome, changes, held⟩
  cases outcome with
  | returned b =>
    cases hsettle : E.settle c changes with
    | ok _ =>
      simp only [hsettle, Prod.mk.injEq, Outcome.returned.injEq, Transcript.mk.injEq]
      constructor
      · rintro ⟨rfl, rfl⟩
        exact ⟨changes, held, ⟨rfl, rfl, rfl⟩, by rw [hsettle]; rfl, rfl⟩
      · rintro ⟨changes', held', ⟨rfl, rfl, rfl⟩, -, rfl⟩
        exact ⟨rfl, rfl⟩
    | error r =>
      simp only [hsettle]
      constructor
      · intro h
        cases h
      · rintro ⟨changes', held', h, hok, -⟩
        cases h
        rw [hsettle] at hok
        cases hok
  | raised e => simp
  | refused r => simp

/-- A transaction whose deferred constraints are not settled is rolled back. -/
theorem transact_of_settle_eq_error {c : Store} {p : Program R ε α} {a : α}
    {changes : List Change} {held : List Lock} {r : ρ} (h : E.Executes c p a changes held)
    (hsettle : E.settle c changes = .error r) : E.transact c p = (.refused r, c) := by
  unfold transact
  rw [show E.exec c p = _ from h]
  simp only [hsettle]

/-- A transaction that does not commit leaves what was stored. -/
theorem transact_cases {c c' : Store} {p : Program R ε α} {outcome : Outcome ρ ε α}
    (h : E.transact c p = (outcome, c')) :
    c' = c ∧ (∀ a, outcome ≠ .returned a) ∨
      ∃ a changes held, outcome = .returned a ∧ E.Executes c p a changes held ∧
        (E.settle c changes).isOk ∧ c' = E.after changes c := by
  cases outcome with
  | returned a =>
    obtain ⟨changes, held, hexec, hsettle, hafter⟩ := transact_eq_returned.mp h
    exact .inr ⟨a, changes, held, rfl, hexec, hsettle, hafter⟩
  | raised e =>
    refine .inl ⟨?_, fun a => by simp⟩
    unfold transact at h
    grind
  | refused r =>
    refine .inl ⟨?_, fun a => by simp⟩
    unfold transact at h
    grind

/-- A transaction that raises does so because its program does. -/
theorem raises_of_transact {c c' : Store} {p : Program R ε α} {P : ε → Prop} {e : ε}
    (hp : p.Raises P) (h : E.transact c p = (.raised e, c')) : P e := by
  have hexec : (E.exec c p).outcome = .raised e := by
    unfold transact at h
    grind
  clear h
  induction p generalizing c with
  | done a => cases hexec
  | fail e' =>
    cases hexec
    exact hp
  | call s next ih =>
    rw [exec] at hexec
    cases hrun : E.run s c with
    | error r =>
      rw [hrun] at hexec
      cases hexec
    | ok result =>
      obtain ⟨answer, changes⟩ := result
      rw [hrun] at hexec
      exact ih answer (hp answer) hexec

/-- A program does the same when something is done with its result. -/
theorem exec_bind_done (view : Store) (p : Program R ε α) (f : α → β) :
    E.exec view (p.bind fun a => .done (f a)) =
      ⟨(E.exec view p).outcome.map f, (E.exec view p).changes, (E.exec view p).held⟩ := by
  induction p generalizing view with
  | done a => rfl
  | fail e => rfl
  | call s next ih =>
    rw [Program.call_bind, exec, exec]
    cases hrun : E.run s view with
    | error r => rfl
    | ok result =>
      simp only [ih]

/-- A transaction ends the same when something is done with its result. -/
theorem transact_bind_done (c : Store) (p : Program R ε α) (f : α → β) :
    E.transact c (p.bind fun a => .done (f a)) =
      ((E.transact c p).1.map f, (E.transact c p).2) := by
  unfold transact
  rw [exec_bind_done]
  dsimp only
  cases houtcome : (E.exec c p).outcome with
  | returned a =>
    cases hsettle : E.settle c (E.exec c p).changes with
    | ok _ => simp only [Outcome.map]
    | error r => simp only [Outcome.map]
  | raised e => rfl
  | refused r => rfl

/-- A transaction that applies a function at its end ends as the one without it, but for that. -/
theorem transact_of_bind_done {c c' : Store} {p : Program R ε α} {f : α → β}
    {outcome : Outcome ρ ε β}
    (h : E.transact c (p.bind fun a => .done (f a)) = (outcome, c')) :
    ∃ inner, E.transact c p = (inner, c') ∧ outcome = inner.map f := by
  rw [transact_bind_done] at h
  obtain ⟨rfl, rfl⟩ := Prod.mk.inj h
  exact ⟨(E.transact c p).1, rfl, rfl⟩

/-- What commits preserve, runs preserve. -/
theorem serial_step_preserves {Call : Type u} {init : Store → Prop}
    {body : Call → Program R ε α} {P : Store → Prop}
    (hcommit : ∀ c call a changes held, P c → E.Executes c (body call) a changes held →
      (E.settle c changes).isOk → P (E.after changes c))
    {c c' : Store} {label : Call × Outcome ρ ε α} (hc : P c)
    (h : (E.serial init body).step c label c') : P c' := by
  rcases transact_cases h with ⟨rfl, -⟩ | ⟨a, changes, held, -, hexec, hsettle, rfl⟩
  · exact hc
  · exact hcommit c label.1 a changes held hc hexec hsettle

/-- What commits preserve, transactions one after the other preserve. -/
theorem serial_steps_preserve {Call : Type u} {init : Store → Prop}
    {body : Call → Program R ε α} {P : Store → Prop}
    (hcommit : ∀ c call a changes held, P c → E.Executes c (body call) a changes held →
      (E.settle c changes).isOk → P (E.after changes c))
    {c c' : Store} {log : List (Call × Outcome ρ ε α)} (hc : P c)
    (h : (E.serial init body).Steps c log c') : P c' :=
  h.preserves (fun _ _ _ hbefore hstep => serial_step_preserves hcommit hbefore hstep) hc

/-- A transaction whose program returns, with nothing left to settle, commits. -/
theorem transact_of_executes {c : Store} {p : Program R ε α} {a : α} {changes : List Change}
    {held : List Lock} (hexec : E.Executes c p a changes held)
    (hsettle : (E.settle c changes).isOk) :
    E.transact c p = (.returned a, E.after changes c) :=
  transact_eq_returned.mpr ⟨changes, held, hexec, hsettle, rfl⟩

/-- A transaction whose first statement is refused is rolled back. -/
theorem transact_call_of_error {c : Store} {s : S} {next : R s → Program R ε α} {r : ρ}
    (hrun : E.run s c = .error r) : E.transact c (.call s next) = (.refused r, c) := by
  unfold transact
  rw [exec, hrun]

/-- A program whose first statement is answered ends as the rest of it does. -/
theorem outcome_exec_call {c : Store} {s : S} {next : R s → Program R ε α} {answer : R s}
    {changes : List Change} (hrun : E.run s c = .ok (answer, changes)) :
    (E.exec c (.call s next)).outcome = (E.exec (E.after changes c) (next answer)).outcome := by
  rw [exec, hrun]

/-- A program whose first statement is refused is refused. -/
theorem outcome_exec_call_of_error {c : Store} {s : S} {next : R s → Program R ε α} {r : ρ}
    (hrun : E.run s c = .error r) : (E.exec c (.call s next)).outcome = .refused r := by
  rw [exec, hrun]

/-- A transaction whose program does not return is rolled back. -/
theorem transact_of_not_returned {c : Store} {p : Program R ε α}
    (h : ∀ a, (E.exec c p).outcome ≠ .returned a) :
    E.transact c p = ((E.exec c p).outcome, c) := by
  unfold transact
  dsimp only
  split
  · next a ha => exact absurd ha (h a)
  · next e he => rw [he]
  · next r hr => rw [hr]

/-- A transaction whose program is refused is rolled back. -/
theorem transact_of_refused {c : Store} {p : Program R ε α} {r : ρ}
    (h : (E.exec c p).outcome = .refused r) : E.transact c p = (.refused r, c) := by
  rw [transact_of_not_returned (by simp [h]), h]

/-- A transaction whose program raises is rolled back. -/
theorem transact_of_raised {c : Store} {p : Program R ε α} {e : ε}
    (h : (E.exec c p).outcome = .raised e) : E.transact c p = (.raised e, c) := by
  rw [transact_of_not_returned (by simp [h]), h]

/-- From one initial store, the calls of a run tell how they end, and where it leads. -/
theorem serial_run_unique {Call : Type u} {c₀ : Store} {body : Call → Program R ε α}
    {log log' : List (Call × Outcome ρ ε α)} {c c' : Store}
    (h : (E.serial (· = c₀) body).Run log c) (h' : (E.serial (· = c₀) body).Run log' c')
    (hcalls : log.map Prod.fst = log'.map Prod.fst) : log = log' ∧ c = c' := by
  induction log using List.reverseRecOn generalizing log' c c' with
  | nil =>
    obtain rfl := List.map_eq_nil_iff.mp hcalls.symm
    obtain ⟨s, rfl, hsteps⟩ := h
    obtain ⟨s', rfl, hsteps'⟩ := h'
    rw [Lts.steps_nil_iff.mp hsteps, Lts.steps_nil_iff.mp hsteps']
    exact ⟨rfl, rfl⟩
  | append_singleton log label ih =>
    rcases List.eq_nil_or_concat log' with rfl | ⟨before', label', rfl⟩
    · simp at hcalls
    rw [List.concat_eq_append] at hcalls h' ⊢
    rw [List.map_append, List.map_append] at hcalls
    obtain ⟨hbefore, hlast⟩ := List.append_inj' hcalls rfl
    obtain ⟨s, hs, hstep⟩ := Lts.run_concat_iff.mp h
    obtain ⟨s', hs', hstep'⟩ := Lts.run_concat_iff.mp h'
    obtain ⟨rfl, rfl⟩ := ih hs hs' hbefore
    have hstep : E.transact s (body label.1) = (label.2, c) := hstep
    have hstep' : E.transact s (body label'.1) = (label'.2, c') := hstep'
    have hcall : label.1 = label'.1 := (List.cons.inj hlast).1
    rw [hcall, hstep'] at hstep
    obtain ⟨houtcome, hstore⟩ := Prod.mk.inj hstep
    exact ⟨by rw [Prod.ext hcall houtcome.symm], hstore.symm⟩

/-- Calls one after the other are a run from where they start. -/
theorem run_transactAll {Call : Type u} (init : Store → Prop) (body : Call → Program R ε α)
    {c : Store} (hinit : init c) (calls : List Call) :
    (E.serial init body).Run (E.transactAll body c calls).1 (E.transactAll body c calls).2 := by
  refine ⟨c, hinit, ?_⟩
  clear hinit
  induction calls generalizing c with
  | nil => exact Lts.Steps.nil c
  | cons call calls ih => exact Lts.Steps.cons rfl ih

end Engine
