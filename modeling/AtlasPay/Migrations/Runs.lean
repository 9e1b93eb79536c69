import AtlasPay.Library.ReadCommitted
import AtlasPay.Migrations.Upgrade

/-!
# Concurrent runs of the migrations

Each run takes the same lock first, so concurrent runs are runs one after the other. The first that
returns applies what is pending, and the others have nothing left to do (`Progress`, `AppliedOnce`);
while a file differs from what is recorded of it, none returns.
-/

namespace AtlasPay

namespace Migrations

variable {Schema ρ : Type} {execute : String → Contents Schema → Except ρ (Contents Schema)}
  {sha256 : String → Digest} {recorded : Table SchemaMigrationRow.version}
  {db db' : MigratedDatabase Schema} {files : List DirectoryEntry} {path : DirectoryEntry}
  {applied : List String} {directory : Table DirectoryEntry.name}

/-! ## Runs one after the other -/

/-- How a run ends. -/
abbrev Ended (ρ : Type) := Outcome (Refusal ρ) MigrationError (List String)

/-- The lists that are returned, in order. -/
def returned (log : List (Unit × Ended ρ)) : List (List String) :=
  log.filterMap fun ended =>
    match ended.2 with
    | .returned applied => some applied
    | _ => none

/-- Runs of `migrate_database` that are concurrent, from a database. -/
def sessions (execute : String → Contents Schema → Except ρ (Contents Schema))
    (sha256 : String → Digest) (directory : Table DirectoryEntry.name)
    (init : MigratedDatabase Schema) :
    Lts (Engine.Sessions Statement.Answer (MigratedDatabase Schema) Change ℕ MigrationError
      (List String) Unit) (Option (Unit × Ended ρ)) :=
  (postgres execute).interleaved (fun _ => migrateDatabase sha256 directory) (· = init)

/-- The runs that have ended, one after the other. -/
theorem serial_of_sessions {init : MigratedDatabase Schema} {log : List (Option (Unit × Ended ρ))}
    {s : Engine.Sessions Statement.Answer (MigratedDatabase Schema) Change ℕ MigrationError
      (List String) Unit} (h : (sessions execute sha256 directory init).Run log s) :
    ((postgres execute).serial (· = init) fun _ : Unit => migrateDatabase sha256 directory).Run
      log.reduceOption s.committed :=
  Engine.serial_of_lock migrationLockId (fun _ => ⟨_, _, rfl, fun _ => List.mem_singleton_self _⟩) h

/-- How far the runs have come: none has returned, or one has applied the pending files and those
that have ended after it have returned nothing more. -/
inductive Progress (sha256 : String → Digest) (files : List DirectoryEntry)
    (init : MigratedDatabase Schema) : List (Unit × Ended ρ) → MigratedDatabase Schema → Prop where
  | unapplied {log : List (Unit × Ended ρ)} (hreturned : returned log = []) :
      Progress sha256 files init log init
  | applied {db : MigratedDatabase Schema} (before after : List (Unit × Ended ρ))
      (applied : List String) (hbefore : returned before = [])
      (hafter : ∀ ended ∈ after, ended.2 = .returned [])
      (hupgrades : Upgrades sha256 init.recorded files init db applied) :
      Progress sha256 files init (before ++ ((), .returned applied) :: after) db

/-- One more run. -/
theorem Progress.step {init : MigratedDatabase Schema} {log : List (Unit × Ended ρ)}
    {ended : Unit × Ended ρ} (hleaves : LeavesRecords execute (migrationFiles directory))
    (h : Progress sha256 (migrationFiles directory) init log db)
    (htransact : (postgres execute).transact db (migrateDatabase sha256 directory) =
      (ended.2, db')) :
    Progress sha256 (migrationFiles directory) init (log ++ [ended]) db' := by
  cases h with
  | unapplied hreturned =>
    -- On what was there at first, a run is rolled back or applies what is pending.
    rcases Engine.transact_cases htransact with ⟨rfl, hnot⟩ | ⟨result, changes, held, hended, hexec,
      -, rfl⟩
    · refine .unapplied ?_
      unfold returned at hreturned ⊢
      rw [List.filterMap_append, hreturned, List.nil_append]
      obtain ⟨⟨⟩, outcome⟩ := ended
      cases outcome with
      | returned result => exact absurd rfl (hnot result)
      | raised e => rfl
      | refused r => rfl
    · obtain ⟨⟨⟩, outcome⟩ := ended
      cases hended
      exact .applied log [] result hreturned nofun (upgrades_of_returns hleaves hexec)
  | applied before after applied hbefore hafter hupgrades =>
    -- On what that leaves, a run has nothing to do.
    rw [transact_of_upToDate hupgrades.upToDate] at htransact
    obtain ⟨⟨⟩, outcome⟩ := ended
    cases htransact
    rw [List.append_assoc, List.cons_append]
    refine .applied before _ applied hbefore (fun other hother => ?_) hupgrades
    rcases List.mem_append.mp hother with hother | hother
    · exact hafter other hother
    · rw [List.mem_singleton.mp hother]

/-- How far the runs have come, in every run. -/
theorem progress_of_serial {init : MigratedDatabase Schema} {log : List (Unit × Ended ρ)}
    (hleaves : LeavesRecords execute (migrationFiles directory))
    (h : ((postgres execute).serial (· = init) fun _ : Unit =>
      migrateDatabase sha256 directory).Run log db) :
    Progress sha256 (migrationFiles directory) init log db := by
  refine h.log_invariant (P := fun log db => Progress sha256 (migrationFiles directory) init log db)
    ?_ ?_
  · rintro db rfl
    exact .unapplied rfl
  · exact fun _ _ _ _ _ hprogress hstep => hprogress.step hleaves hstep

/-! ## Each migration once -/

/-- Nothing is applied until a run returns. Then the files that were not recorded have been executed
and recorded once, in order; the lists that are returned are disjoint, and together they are the
versions that are newly recorded; and every run that ends after that, or runs on what is there,
returns the empty list. -/
structure AppliedOnce (execute : String → Contents Schema → Except ρ (Contents Schema))
    (sha256 : String → Digest) (directory : Table DirectoryEntry.name)
    (init : MigratedDatabase Schema) (log : List (Unit × Ended ρ))
    (db : MigratedDatabase Schema) : Prop where
  unapplied : returned log = [] → db = init
  executed : returned log ≠ [] → ∃ texts,
    List.Forall₂ (fun path sql => path.readText = some sql)
      (pending init.recorded (migrationFiles directory)) texts ∧
    db.executed = init.executed ++ texts
  inOrder : returned log ≠ [] → (returned log).flatten =
    (pending init.recorded (migrationFiles directory)).map DirectoryEntry.stem
  recorded : db.recorded.rows.map SchemaMigrationRow.version =
    init.recorded.rows.map SchemaMigrationRow.version ++ (returned log).flatten
  disjoint : (returned log).flatten.Nodup
  further : returned log ≠ [] →
    (postgres execute).transact db (migrateDatabase sha256 directory) = (.returned [], db)
  later : ∀ before ended after, log = before ++ ended :: after → returned before ≠ [] →
    ended.2 = .returned []

/-- Files that can be read are read one by one. -/
theorem forall₂_readText (h : ∀ path ∈ files, ∃ sql, path.readText = some sql) :
    List.Forall₂ (fun path sql => path.readText = some sql) files
      (files.filterMap DirectoryEntry.readText) := by
  induction files with
  | nil => exact .nil
  | cons path paths ih =>
    obtain ⟨⟨sql, htext⟩, hpaths⟩ := List.forall_mem_cons.mp h
    rw [List.filterMap_cons_some htext]
    exact .cons htext (ih hpaths)

/-- The versions of the rows are those of the files. -/
theorem map_version_rowOf (h : ∀ path ∈ files, ∃ sql, path.readText = some sql) :
    (files.filterMap (rowOf sha256)).map SchemaMigrationRow.version =
      files.map DirectoryEntry.stem := by
  induction files with
  | nil => rfl
  | cons path paths ih =>
    obtain ⟨⟨sql, htext⟩, hpaths⟩ := List.forall_mem_cons.mp h
    rw [List.filterMap_cons_some (rowOf_of_readText htext), List.map_cons, List.map_cons, ih hpaths]

/-- The pending files of a run that returned could be read. -/
theorem Upgrades.readable (h : Upgrades sha256 recorded files db db' applied) :
    ∀ path ∈ pending recorded files, ∃ sql, path.readText = some sql := by
  intro path hpath
  obtain ⟨sql, htext, -⟩ := h.unchanged path (List.mem_of_mem_filter hpath)
  exact ⟨sql, htext⟩

/-- The versions that are recorded after a run. -/
theorem Upgrades.versions (h : Upgrades sha256 recorded files db db' applied) :
    db'.recorded.rows.map SchemaMigrationRow.version =
      db.recorded.rows.map SchemaMigrationRow.version ++ applied := by
  rw [h.rows, List.map_append, map_version_rowOf h.readable, h.applied]

/-- Only empty lists add nothing. -/
theorem flatten_returned_of_empty {log : List (Unit × Ended ρ)}
    (h : ∀ ended ∈ log, ended.2 = .returned []) : (returned log).flatten = [] := by
  refine List.flatten_eq_nil_iff.mpr fun applied happlied => ?_
  obtain ⟨ended, hended, heq⟩ := List.mem_filterMap.mp happlied
  rw [h ended hended] at heq
  exact (Option.some.inj heq).symm

/-- What the progress of the runs comes to. -/
theorem Progress.appliedOnce {init : MigratedDatabase Schema} {log : List (Unit × Ended ρ)}
    (h : Progress sha256 (migrationFiles directory) init log db) :
    AppliedOnce execute sha256 directory init log db := by
  cases h with
  | unapplied hreturned =>
    -- No run has returned, so what holds after one holds of nothing.
    refine ⟨fun _ => rfl, fun h => absurd hreturned h, fun h => absurd hreturned h, ?_, ?_,
      fun h => absurd hreturned h, fun before ended after hlog hbefore => ?_⟩
    · rw [hreturned, List.flatten_nil, List.append_nil]
    · rw [hreturned]
      exact List.nodup_nil
    · rw [hlog, returned, List.filterMap_append] at hreturned
      exact absurd (List.append_eq_nil_iff.mp hreturned).1 hbefore
  | applied before after applied hbefore hafter hupgrades =>
    have hreturned : returned (before ++ ((), .returned applied) :: after) =
        applied :: returned after := by
      unfold returned at hbefore ⊢
      rw [List.filterMap_append, hbefore, List.nil_append]
      exact List.filterMap_cons_some rfl
    have hflatten : (returned (before ++ ((), .returned applied) :: after)).flatten = applied := by
      rw [hreturned, List.flatten_cons, flatten_returned_of_empty hafter, List.append_nil]
    have hversions := hupgrades.versions
    refine ⟨fun h => ?_, fun _ => ?_, fun _ => ?_, ?_, ?_, fun _ => ?_, ?_⟩
    · rw [hreturned] at h
      cases h
    · exact ⟨_, forall₂_readText hupgrades.readable, hupgrades.executed⟩
    · rw [hflatten, hupgrades.applied]
    · rw [hflatten, hversions]
    · -- The versions are keys of the table.
      have hnodup := db.recorded.nodup
      rw [hversions] at hnodup
      rw [hflatten]
      exact (List.nodup_append.mp hnodup).2.1
    · exact transact_of_upToDate hupgrades.upToDate
    · intro before' ended after' hlog hbefore'
      rcases List.append_eq_append_iff.mp hlog with ⟨middle, rfl, hmiddle⟩ | ⟨middle, rfl, hmiddle⟩
      · -- It is the run that returned first, or one of those after it.
        cases middle with
        | nil => exact absurd (by simpa using hbefore) hbefore'
        | cons first middle =>
          rw [List.cons_append] at hmiddle
          obtain ⟨-, rfl⟩ := List.cons.inj hmiddle
          exact hafter ended (List.mem_append_right _ List.mem_cons_self)
      · -- It ended before the run that returned.
        refine absurd ?_ hbefore'
        rw [returned, List.filterMap_append] at hbefore
        exact (List.append_eq_nil_iff.mp hbefore).1

/-! ## A file that has changed -/

/-- While the file differs from what is recorded, no run gets past it, and nothing is applied. -/
theorem halts_of_serial {init : MigratedDatabase Schema} {log : List (Unit × Ended ρ)}
    {before after : List DirectoryEntry}
    (hfiles : migrationFiles directory = before ++ path :: after)
    (hdrifted : Drifted sha256 init.recorded path)
    (hbefore : ∀ other ∈ before, ¬Drifted sha256 init.recorded other)
    (h : ((postgres execute).serial (· = init) fun _ : Unit =>
      migrateDatabase sha256 directory).Run log db) :
    db = init ∧ ∀ ended ∈ log, Halts init.recorded before path ended.2 := by
  refine h.log_invariant (P := fun log db => db = init ∧
    ∀ ended ∈ log, Halts init.recorded before path ended.2) ?_ ?_
  · rintro db rfl
    exact ⟨rfl, nofun⟩
  · rintro log db ended db' - ⟨rfl, hlog⟩ hstep
    -- What is recorded is still what was recorded at first, so the file is still a changed one.
    have hhalts : Halts db.recorded before path ((postgres execute).exec db
        (migrateDatabase sha256 directory)).outcome := by
      rw [exec_migrateDatabase, hfiles]
      exact halts_applyFiles hdrifted hbefore
    have hnot : ∀ result, ((postgres execute).exec db
        (migrateDatabase sha256 directory)).outcome ≠ .returned result := by
      intro result heq
      rw [heq] at hhalts
      cases hhalts
    have hstep : (postgres execute).transact db (migrateDatabase sha256 directory) =
      (ended.2, db') := hstep
    rw [Engine.transact_of_not_returned hnot] at hstep
    obtain ⟨hended, hdb⟩ := Prod.mk.inj hstep
    refine ⟨hdb.symm, fun other hother => ?_⟩
    rcases List.mem_append.mp hother with hother | hother
    · exact hlog other hother
    · rw [List.mem_singleton.mp hother, ← hended]
      exact hhalts

/-- In every run of concurrent migrations, whatever is still open: the files come in the order of
their names; where they leave `schema_migrations` alone, each is applied once; and where one of them
has changed, nothing is applied, and every run that ends raises the drift, or what a file before it
raises. -/
theorem applied_once {init : MigratedDatabase Schema} {log : List (Option (Unit × Ended ρ))}
    {s : Engine.Sessions Statement.Answer (MigratedDatabase Schema) Change ℕ MigrationError
      (List String) Unit} (h : (sessions execute sha256 directory init).Run log s) :
    (migrationFiles directory).Pairwise (fun path path' => path.name < path'.name) ∧
      (LeavesRecords execute (migrationFiles directory) →
        AppliedOnce execute sha256 directory init log.reduceOption s.committed) ∧
      ∀ before path after, migrationFiles directory = before ++ path :: after →
        Drifted sha256 init.recorded path →
          (∀ other ∈ before, ¬Drifted sha256 init.recorded other) →
            s.committed = init ∧
              ∀ ended ∈ log.reduceOption, Halts init.recorded before path ended.2 := by
  have hserial := serial_of_sessions h
  refine ⟨migrationFiles_pairwise directory, fun hleaves => ?_, ?_⟩
  · exact (progress_of_serial hleaves hserial).appliedOnce
  · exact fun before path after hfiles hdrifted hbefore =>
      halts_of_serial hfiles hdrifted hbefore hserial

/-! ## Two tables, a migration that fails, and one that forgets -/

/-- Migrations that create tables, one that divides by zero, and one that deletes what is recorded:
the schema is what was created. -/
def sampleExecute (sql : String) (contents : Contents (List String)) :
    Except String (Contents (List String)) :=
  if sql = "SELECT 1 / 0;" then .error "division by zero"
  else if sql = "DELETE FROM schema_migrations;" then
    .ok { contents with schemaMigrations := contents.schemaMigrations.map fun _ => .empty }
  else .ok { contents with schema := contents.schema ++ [sql] }

/-- The digests of these migrations. -/
def checksums (sql : String) : Digest :=
  if sql = "CREATE TABLE a ();" then
    ⟨"902f5c947b00294d6b0cdb41666553a31c51672ed6e65af6209e622790dce7b1", rfl⟩
  else if sql = "CREATE TABLE b ();" then
    ⟨"82415ef6a49d008d43c44f90c4256a346375c6c3b0c51bbcef6fd15137b3e780", rfl⟩
  else if sql = "SELECT 1 / 0;" then
    ⟨"8d5da62a500383bef6c0f07b70fbe1b83d94502b7be881c6bd1dc87748fe940e", rfl⟩
  else ⟨"508030963661eaa653deb843cc598808c5b9321c876bbfc4a1f022f3d2590076", rfl⟩

/-- A file with a text. -/
def file (name sql : String) : DirectoryEntry := ⟨name, true, sql.toUTF8⟩

/-- The files of two tables, listed in the other order. -/
def twoTables : Table DirectoryEntry.name :=
  ⟨[file "002_b.sql" "CREATE TABLE b ();", file "001_a.sql" "CREATE TABLE a ();"], by decide⟩

/-- A file that fails, before the one of a table. -/
def failsFirst : Table DirectoryEntry.name :=
  ⟨[file "001_fails.sql" "SELECT 1 / 0;", file "002_b.sql" "CREATE TABLE b ();"], by decide⟩

/-- The file of a table, and one that deletes what is recorded. -/
def forgets : Table DirectoryEntry.name :=
  ⟨[file "001_a.sql" "CREATE TABLE a ();",
    file "002_forgets.sql" "DELETE FROM schema_migrations;"], by decide⟩

/-- An empty database. -/
def emptyDatabase : MigratedDatabase (List String) := ⟨⟨[], none⟩, []⟩

/-- A database with the second table, recorded with another checksum than that of its file. -/
def otherTable : MigratedDatabase (List String) :=
  ⟨⟨["CREATE TABLE b ();"], some ⟨[⟨"002_b", checksums "CREATE TABLE a ();"⟩], by decide⟩⟩, []⟩

/-- The sessions after the moves, with how the runs ended. -/
def played (directory : Table DirectoryEntry.name) (init : MigratedDatabase (List String))
    (moves : List (Engine.Move Unit)) : Option
    (Engine.Sessions Statement.Answer (MigratedDatabase (List String)) Change ℕ MigrationError
      (List String) Unit × List (Option (Unit × Ended String))) :=
  Lts.play ((postgres sampleExecute).advance fun _ => migrateDatabase checksums directory) ⟨init, ∅⟩
    moves

/-- What is played is a run. -/
theorem run_of_played {directory : Table DirectoryEntry.name}
    {init : MigratedDatabase (List String)} {moves : List (Engine.Move Unit)}
    {s : Engine.Sessions Statement.Answer (MigratedDatabase (List String)) Change ℕ MigrationError
      (List String) Unit} {log : List (Option (Unit × Ended String))}
    (h : played directory init moves = some (s, log)) :
    (sessions sampleExecute checksums directory init).Run log s :=
  ⟨⟨init, ∅⟩, ⟨rfl, rfl⟩, Lts.steps_of_play h⟩

/-- Two runs at once: the second waits for the lock of the first, and finds both tables. -/
def together : List (Engine.Move Unit) :=
  [.begin 0 (), .begin 1 ()] ++ List.replicate 7 (.statement 0) ++ [.commit 0] ++
    List.replicate 3 (.statement 1) ++ [.commit 1]

/-- A migration that deletes nothing leaves what is recorded. -/
theorem sampleExecute_leaves {sql : String} (hsql : sql ≠ "DELETE FROM schema_migrations;")
    {contents contents' : Contents (List String)}
    (h : sampleExecute sql contents = .ok contents') :
    contents'.schemaMigrations = contents.schemaMigrations := by
  unfold sampleExecute at h
  rw [if_neg hsql] at h
  split at h
  · cases h
  · cases h
    rfl

/-- Of two runs at once, one creates both tables; and where the second table is recorded with
another checksum, a run raises the drift, after the first table was created, and nothing is left of
it. -/
theorem applied_once_together :
    (∃ s log, played twoTables emptyDatabase together = some (s, log) ∧
      returned log.reduceOption = [["001_a", "002_b"], []] ∧
      AppliedOnce sampleExecute checksums twoTables emptyDatabase log.reduceOption s.committed) ∧
    ∃ s log, played twoTables otherTable (.begin 0 () :: List.replicate 5 (.statement 0)) =
        some (s, log) ∧
      log.reduceOption = [((), .raised (driftError "002_b"))] ∧ s.committed = otherTable := by
  have hfiles : migrationFiles twoTables =
      [file "001_a.sql" "CREATE TABLE a ();"] ++ file "002_b.sql" "CREATE TABLE b ();" :: [] := rfl
  constructor
  · obtain ⟨⟨s, log⟩, hplayed, hreturned⟩ := Option.map_eq_some_iff.mp (show
      (played twoTables emptyDatabase together).map
        (fun result => returned result.2.reduceOption) = some [["001_a", "002_b"], []] from rfl)
    -- Neither file writes to the table of the versions.
    have hleaves : LeavesRecords sampleExecute (migrationFiles twoTables) := by
      intro path hpath sql htext contents contents'
      rw [hfiles, List.singleton_append] at hpath
      refine sampleExecute_leaves ?_
      rcases List.mem_cons.mp hpath with rfl | hpath
      · cases htext
        decide
      · cases List.mem_singleton.mp hpath
        cases htext
        decide
    exact ⟨s, log, hplayed, hreturned, (applied_once (run_of_played hplayed)).2.1 hleaves⟩
  · obtain ⟨⟨s, log⟩, hplayed, hended⟩ := Option.map_eq_some_iff.mp (show
      (played twoTables otherTable (.begin 0 () :: List.replicate 5 (.statement 0))).map
        (fun result => result.2.reduceOption) =
          some [((), .raised (driftError "002_b"))] from rfl)
    have hdrifted : Drifted checksums otherTable.recorded
        (file "002_b.sql" "CREATE TABLE b ();") :=
      ⟨"CREATE TABLE b ();", ⟨"002_b", checksums "CREATE TABLE a ();"⟩, rfl, rfl, by decide⟩
    -- The table has a record of the second file only.
    have hbefore : ∀ other ∈ [file "001_a.sql" "CREATE TABLE a ();"],
        ¬Drifted checksums otherTable.recorded other := by
      rintro other hother ⟨sql, row, -, hrow, -⟩
      cases List.mem_singleton.mp hother
      cases hrow
    exact ⟨s, log, hplayed, hended,
      ((applied_once (run_of_played hplayed)).2.2 _ _ _ hfiles hdrifted hbefore).1⟩

/-- Where a file before the one that has changed fails, a run raises this error; and where a
migration deletes what is recorded, others are applied again. -/
theorem not_applied_once :
    (∃ s log, (sessions sampleExecute checksums failsFirst otherTable).Run log s ∧
      (∃ path ∈ migrationFiles failsFirst, Drifted checksums otherTable.recorded path) ∧
      log.reduceOption = [((), .refused (.migration "division by zero"))]) ∧
    ∃ s log, (sessions sampleExecute checksums forgets emptyDatabase).Run log s ∧
      ¬AppliedOnce sampleExecute checksums forgets emptyDatabase log.reduceOption s.committed := by
  constructor
  · -- The file that fails comes first.
    obtain ⟨⟨s, log⟩, hplayed, hended⟩ := Option.map_eq_some_iff.mp (show
      (played failsFirst otherTable (.begin 0 () :: List.replicate 4 (.statement 0))).map
        (fun result => result.2.reduceOption) =
          some [((), .refused (.migration "division by zero"))] from rfl)
    have hmem : file "002_b.sql" "CREATE TABLE b ();" ∈ migrationFiles failsFirst :=
      (List.mem_insertionSort _).mpr (List.mem_filter.mpr ⟨List.mem_cons_of_mem _
        List.mem_cons_self, rfl⟩)
    exact ⟨s, log, run_of_played hplayed, ⟨_, hmem, "CREATE TABLE b ();",
      ⟨"002_b", checksums "CREATE TABLE a ();"⟩, rfl, rfl, by decide⟩, hended⟩
  · -- The second migration deletes the row of the first, and then its own row is inserted.
    obtain ⟨⟨s, log⟩, hplayed, hreturned⟩ := Option.map_eq_some_iff.mp (show
      (played forgets emptyDatabase ([.begin 0 ()] ++ List.replicate 7 (.statement 0) ++
        [.commit 0, .begin 1 ()] ++ List.replicate 5 (.statement 1) ++ [.commit 1])).map
        (fun result => returned result.2.reduceOption) =
          some [["001_a", "002_forgets"], ["001_a"]] from rfl)
    refine ⟨s, log, run_of_played hplayed, fun happlied => ?_⟩
    have hdisjoint := happlied.disjoint
    rw [show returned log.reduceOption = _ from hreturned] at hdisjoint
    exact absurd hdisjoint (by decide)

end Migrations

end AtlasPay
