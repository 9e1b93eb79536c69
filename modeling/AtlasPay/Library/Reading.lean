import AtlasPay.Library.Transactions

/-!
# Programs that read while others commit

A program reads a store, one statement after the other, and others commit in between. A statement
sees what is committed when it starts, so each answer may be of another state of the store. A
program that asks the same statements whatever it is answered returns what it makes of the answers
as of the states in which it asked (`reads_of_steps`), and between two statements the store changes
by what was committed between them (`viewed_eq_between`).
-/

universe u

/-- What happens next: the program reads, or a change is committed. -/
inductive ReadingLabel (S δ : Type u) where
  | read (s : S)
  | commit (d : δ)

/-- What is committed, and what is left of the program. -/
structure Reading {S : Type u} (R : S → Type u) (Store ε α : Type u) where
  /-- What is committed. -/
  committed : Store
  /-- What is left of the program. -/
  rest : Program R ε α

variable {S : Type u} {R : S → Type u} {Store δ ε α : Type u}

/-- A program reads statement by statement, while others commit. -/
def reading (answer : (s : S) → Store → R s) (apply : δ → Store → Store)
    (program : Program R ε α) : Lts (Reading R Store ε α) (ReadingLabel S δ) where
  init state := state.rest = program
  step state label state' :=
    match label with
    | .read s => ∃ next, state.rest = .call s next ∧
        state' = ⟨state.committed, next (answer s state.committed)⟩
    | .commit d => state' = ⟨apply d state.committed, state.rest⟩

namespace Program

/-- The program asks these statements, whatever it is answered, and returns. -/
inductive Asks : Program R ε α → List S → Prop
  | done (a : α) : Asks (.done a) []
  | call {s : S} {next : R s → Program R ε α} {statements : List S}
      (h : ∀ r, Asks (next r) statements) : Asks (.call s next) (s :: statements)

/-- What a program makes of some answers. -/
def result (answer : (s : S) → R s) : Program R ε α → Except ε α
  | .done a => .ok a
  | .fail e => .error e
  | .call s next => (next (answer s)).result answer

/-- Only the answers to its statements matter. -/
theorem Asks.result_congr {program : Program R ε α} {statements : List S}
    (h : program.Asks statements) {answer answer' : (s : S) → R s}
    (hsame : ∀ s ∈ statements, answer s = answer' s) :
    program.result answer = program.result answer' := by
  induction h with
  | done a => rfl
  | @call s next statements _ ih =>
    obtain ⟨hs, hrest⟩ := List.forall_mem_cons.mp hsame
    unfold result
    rw [hs]
    exact ih _ hrest

/-! ## Programs of programs -/

/-- A program that is followed by another asks the statements of both. -/
theorem Asks.bind {β : Type u} {program : Program R ε α} {f : α → Program R ε β}
    {statements statements' : List S} (h : program.Asks statements)
    (hf : ∀ a, (f a).Asks statements') : (program.bind f).Asks (statements ++ statements') := by
  induction h with
  | done a => exact hf a
  | call _ ih => exact .call fun r => ih r

/-- What comes after a program is made of what it returns. -/
theorem result_bind {β : Type u} (answer : (s : S) → R s) (program : Program R ε α)
    (f : α → Program R ε β) :
    (program.bind f).result answer = program.result answer >>= fun a => (f a).result answer := by
  induction program with
  | done a => rfl
  | fail e => rfl
  | call s next ih => exact ih (answer s)

variable {S' : Type u} {R' : S' → Type u}

/-- A program, with its statements among those of a larger kind. -/
def embed (f : S → S') : Program (fun s => R' (f s)) ε α → Program R' ε α
  | .done a => .done a
  | .fail e => .fail e
  | .call s next => .call (f s) fun r => (next r).embed f

/-- Its statements are asked. -/
theorem Asks.embed (f : S → S') {program : Program (fun s => R' (f s)) ε α} {statements : List S}
    (h : program.Asks statements) : (program.embed f).Asks (statements.map f) := by
  induction h with
  | done a => exact .done a
  | call _ ih => exact .call ih

/-- It makes the same of their answers. -/
theorem result_embed (f : S → S') (answer : (s : S') → R' s)
    (program : Program (fun s => R' (f s)) ε α) :
    (program.embed f).result answer = program.result fun s => answer (f s) := by
  induction program with
  | done a => rfl
  | fail e => rfl
  | call s next ih => exact ih (answer (f s))

end Program

namespace ReadingLabel

/-- The statements that were asked. -/
def asked : List (ReadingLabel S δ) → List S
  | [] => []
  | .read s :: log => s :: asked log
  | .commit _ :: log => asked log

variable [DecidableEq S]

/-- What was committed before a statement was asked. -/
def upTo (s : S) : List (ReadingLabel S δ) → List δ
  | [] => []
  | .read s' :: log => if s' = s then [] else upTo s log
  | .commit d :: log => d :: upTo s log

/-- What was committed after one statement was asked and before another. -/
def between (s t : S) : List (ReadingLabel S δ) → List δ
  | [] => []
  | .read s' :: log => if s' = s then upTo t log else between s t log
  | .commit _ :: log => between s t log

/-- The store as a statement saw it. -/
def viewed (apply : δ → Store → Store) (s : S) (log : List (ReadingLabel S δ)) (store : Store) :
    Store :=
  (upTo s log).foldl (fun store d => apply d store) store

variable {apply : δ → Store → Store} {log : List (ReadingLabel S δ)} {store : Store} {s t : S}

/-- A statement that is asked first sees what was there. -/
theorem viewed_read : viewed apply s (.read s :: log) store = store := by
  rw [viewed, upTo, if_pos rfl]
  rfl

/-- What another statement sees does not depend on the first. -/
theorem viewed_read_of_ne (h : s ≠ t) :
    viewed apply t (.read s :: log) store = viewed apply t log store := by
  rw [viewed, upTo, if_neg h]
  rfl

/-- What is committed between two statements is what the later one sees besides. -/
theorem viewed_eq_between {before after : List S} (hasked : asked log = before ++ s :: after)
    (hne : s ≠ t) (hbefore : t ∉ before) :
    viewed apply t log store =
      (between s t log).foldl (fun store d => apply d store) (viewed apply s log store) := by
  induction log generalizing before store with
  | nil => simp [asked] at hasked
  | cons label log ih =>
    cases label with
    | commit d => exact ih hasked hbefore
    | read s' =>
      by_cases heq : s' = s
      · subst heq
        rw [viewed_read, viewed_read_of_ne hne, between, if_pos rfl]
        rfl
      · cases before with
        | nil => exact absurd (List.head_eq_of_cons_eq hasked) heq
        | cons s'' before =>
          obtain ⟨rfl, hrest⟩ := List.cons.inj hasked
          have hne' : s' ≠ t := fun h => hbefore (h ▸ List.mem_cons_self)
          rw [viewed_read_of_ne hne', viewed_read_of_ne heq, between, if_neg heq]
          exact ih hrest fun h => hbefore (List.mem_cons_of_mem s' h)

end ReadingLabel

open ReadingLabel

/-- A program that asks each of its statements once has asked them all when it is done, and returns
what it makes of the answers as of the states in which it asked. -/
theorem reads_of_steps [DecidableEq S] {answer : (s : S) → Store → R s}
    {apply : δ → Store → Store} {start program : Program R ε α} {statements : List S}
    (hasks : program.Asks statements) (hnodup : statements.Nodup) {store store' : Store}
    {log : List (ReadingLabel S δ)} {a : α}
    (h : (reading answer apply start).Steps ⟨store, program⟩ log ⟨store', .done a⟩) :
    asked log = statements ∧
      program.result (fun s => answer s (viewed apply s log store)) = .ok a := by
  induction log generalizing store program statements with
  | nil =>
    cases h
    cases hasks
    exact ⟨rfl, rfl⟩
  | cons label log ih =>
    obtain ⟨state, hstep, hrest⟩ := Lts.steps_cons_iff.mp h
    cases label with
    | commit d =>
      cases hstep
      exact ih hasks hnodup hrest
    | read s =>
      obtain ⟨next, hprogram, rfl⟩ := hstep
      cases hprogram
      cases hasks with
      | @call _ _ statements hnext =>
        obtain ⟨hs, hnodup⟩ := List.nodup_cons.mp hnodup
        obtain ⟨hasked, hresult⟩ := ih (hnext _) hnodup hrest
        refine ⟨congrArg _ hasked, ?_⟩
        -- The statements that are left see the same, without the first.
        have hsame : ∀ t ∈ statements, answer t (viewed apply t (.read s :: log) store) =
            answer t (viewed apply t log store) := by
          intro t ht
          have hne : s ≠ t := fun heq => hs (heq ▸ ht)
          rw [viewed_read_of_ne hne]
        unfold Program.result
        rw [viewed_read, (hnext _).result_congr hsame, hresult]
