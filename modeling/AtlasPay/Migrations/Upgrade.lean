import AtlasPay.Migrations.Migrate

/-!
# One run of the migrations

A run that returns has applied the files that were not recorded (`Upgrades`), and leaves a database
on which a further run returns the empty list (`UpToDate`). A run does not get past a file that has
changed: it raises the drift, or ends at a file before it (`Halts`).
-/

namespace AtlasPay

namespace Migrations

variable {Schema ρ : Type}

/-! ## What a run that returns has done -/

/-- The files of versions that are not recorded. -/
def pending (recorded : Table SchemaMigrationRow.version) (files : List DirectoryEntry) :
    List DirectoryEntry :=
  files.filter fun path => recorded.find? path.stem = none

/-- What is recorded of a file. -/
def rowOf (sha256 : String → Digest) (path : DirectoryEntry) : Option SchemaMigrationRow :=
  path.readText.map fun sql => ⟨path.stem, sha256 sql⟩

/-- The file can be read, and has the checksum that is recorded of it, if any is. -/
def Unchanged (sha256 : String → Digest) (recorded : Table SchemaMigrationRow.version)
    (path : DirectoryEntry) : Prop :=
  ∃ sql, path.readText = some sql ∧
    ∀ row, recorded.find? path.stem = some row → row.checksum = sha256 sql

/-- The file can be read, and has another checksum than the recorded one. -/
def Drifted (sha256 : String → Digest) (recorded : Table SchemaMigrationRow.version)
    (path : DirectoryEntry) : Prop :=
  ∃ sql row, path.readText = some sql ∧ recorded.find? path.stem = some row ∧
    row.checksum ≠ sha256 sql

/-- The files that are not recorded have been applied, in order, and their versions are listed. -/
structure Upgrades (sha256 : String → Digest) (recorded : Table SchemaMigrationRow.version)
    (files : List DirectoryEntry) (db db' : MigratedDatabase Schema) (applied : List String) :
    Prop where
  unchanged : ∀ path ∈ files, Unchanged sha256 recorded path
  applied : applied = (pending recorded files).map DirectoryEntry.stem
  executed : db'.executed =
    db.executed ++ (pending recorded files).filterMap DirectoryEntry.readText
  exists_schemaMigrations : ∃ migrations, db'.schemaMigrations = some migrations
  rows : db'.recorded.rows = db.recorded.rows ++ (pending recorded files).filterMap (rowOf sha256)

/-- The migrations leave `schema_migrations` to `migrate_database`. -/
def LeavesRecords (execute : String → Contents Schema → Except ρ (Contents Schema))
    (files : List DirectoryEntry) : Prop :=
  ∀ path ∈ files, ∀ sql ∈ path.readText, ∀ contents contents',
    execute sql contents = .ok contents' → contents'.schemaMigrations = contents.schemaMigrations

variable {execute : String → Contents Schema → Except ρ (Contents Schema)}
  {sha256 : String → Digest} {recorded : Table SchemaMigrationRow.version}
  {db db' : MigratedDatabase Schema} {files : List DirectoryEntry}
  {path : DirectoryEntry} {applied result : List String} {changes : List Change} {held : List ℕ}

/-! ### Programs, by their first statement -/

/-- A migration program returns. -/
abbrev Returns (execute : String → Contents Schema → Except ρ (Contents Schema))
    (db : MigratedDatabase Schema) (p : Migration) (result : List String)
    (changes : List Change) (held : List ℕ) : Prop :=
  (postgres execute).Executes db p result changes held

/-- What a migration changes. -/
theorem after_execute {sql : String} {contents : Contents Schema} (rest : List Change)
    (h : execute sql db.toContents = .ok contents) :
    (postgres execute).after (.execute sql :: rest) db =
      (postgres execute).after rest ⟨contents, db.executed ++ [sql]⟩ := by
  rw [Engine.after_cons]
  change (postgres execute).after rest (Change.apply execute db (.execute sql)) = _
  simp only [Change.apply, h]

/-- What recording a version changes. -/
theorem after_insertSchemaMigration {row : SchemaMigrationRow} (rest : List Change)
    {migrations : Table SchemaMigrationRow.version} (h : db.schemaMigrations = some migrations) :
    (postgres execute).after (.insertSchemaMigration row :: rest) db =
      (postgres execute).after rest { db with schemaMigrations := some (migrations.put row) } := by
  rw [Engine.after_cons]
  change (postgres execute).after rest (Change.apply execute db (.insertSchemaMigration row)) = _
  simp only [Change.apply, h, Option.map_some]

/-- A migration is executed. -/
theorem returns_execute {sql : String} {next : Unit → Migration} :
    Returns execute db (.call (.execute sql) next) result changes held ↔
      ∃ contents rest, execute sql db.toContents = .ok contents ∧
        Returns execute ⟨contents, db.executed ++ [sql]⟩ (next ()) result rest held ∧
        changes = .execute sql :: rest := by
  refine Engine.executes_call.trans ?_
  constructor
  · rintro ⟨answer, first, rest, locks, hrun, hnext, rfl, rfl⟩
    have hrun : Statement.run execute (.execute sql) db = .ok (answer, first) := hrun
    unfold Statement.run at hrun
    cases hcontents : execute sql db.toContents with
    | error r =>
      simp only [hcontents] at hrun
      cases hrun
    | ok contents =>
      simp only [hcontents] at hrun
      cases hrun
      rw [after_execute [] hcontents] at hnext
      exact ⟨contents, rest, rfl, hnext, rfl⟩
  · rintro ⟨contents, rest, hcontents, hnext, rfl⟩
    refine ⟨(), [.execute sql], rest, held, ?_, ?_, rfl, rfl⟩
    · change Statement.run execute (.execute sql) db = _
      unfold Statement.run
      simp only [hcontents]
    · rwa [after_execute [] hcontents]

/-- A version is recorded. -/
theorem returns_insertSchemaMigration {version : String} {checksum : Digest}
    {next : Unit → Migration} :
    Returns execute db (.call (.insertSchemaMigration version checksum) next) result changes held ↔
      ∃ migrations rest, db.schemaMigrations = some migrations ∧
        migrations.find? version = none ∧
        Returns execute { db with schemaMigrations := some (migrations.put ⟨version, checksum⟩) }
          (next ()) result rest held ∧
        changes = .insertSchemaMigration ⟨version, checksum⟩ :: rest := by
  refine Engine.executes_call.trans ?_
  constructor
  · rintro ⟨answer, first, rest, locks, hrun, hnext, rfl, rfl⟩
    have hrun : Statement.run execute (.insertSchemaMigration version checksum) db =
      .ok (answer, first) := hrun
    unfold Statement.run at hrun
    cases hmigrations : db.schemaMigrations with
    | none =>
      -- Without the table the insert is refused.
      simp only [hmigrations] at hrun
      cases hrun
    | some migrations =>
      simp only [hmigrations] at hrun
      split at hrun
      · cases hrun
      · next hnew =>
        cases hrun
        rw [after_insertSchemaMigration [] hmigrations] at hnext
        exact ⟨migrations, rest, rfl, not_not.mp hnew, hnext, rfl⟩
  · rintro ⟨migrations, rest, hmigrations, hnew, hnext, rfl⟩
    refine ⟨(), [.insertSchemaMigration ⟨version, checksum⟩], rest, held, ?_, ?_, rfl, rfl⟩
    · change Statement.run execute (.insertSchemaMigration version checksum) db = _
      unfold Statement.run
      simp only [hmigrations]
      rw [if_neg (not_not.mpr hnew)]
    · rwa [after_insertSchemaMigration [] hmigrations]

/-! ### The loop -/

/-- What is recorded of a file with a text. -/
theorem rowOf_of_readText {sql : String} (h : path.readText = some sql) :
    rowOf sha256 path = some ⟨path.stem, sha256 sql⟩ := by
  unfold rowOf
  rw [h, Option.map_some]

/-- A recorded file is not pending. -/
theorem pending_cons_of_some {row : SchemaMigrationRow}
    (h : recorded.find? path.stem = some row) :
    pending recorded (path :: files) = pending recorded files := by
  unfold pending
  rw [List.filter_cons_of_neg (by simp [h])]

/-- A file that is not recorded is pending. -/
theorem pending_cons_of_none (h : recorded.find? path.stem = none) :
    pending recorded (path :: files) = path :: pending recorded files := by
  unfold pending
  rw [List.filter_cons_of_pos (by simp [h])]

/-- The loop, where it returns, has applied the pending files. -/
theorem upgrades_of_applyFiles (hleaves : LeavesRecords execute files)
    {migrations : Table SchemaMigrationRow.version} (hdb : db.schemaMigrations = some migrations)
    (h : Returns execute db (applyFiles sha256 recorded files applied) result changes held) :
    ∃ more, result = applied ++ more ∧
      Upgrades sha256 recorded files db ((postgres execute).after changes db) more := by
  -- By induction on the files, from any database: a file that is not recorded changes what the rest
  -- of the loop runs on, but not what it was told to be recorded.
  induction files generalizing db migrations applied changes with
  | nil =>
    obtain ⟨rfl, rfl, -⟩ := Engine.executes_done.mp h
    exact ⟨[], (List.append_nil _).symm, ⟨nofun, rfl, (List.append_nil _).symm, ⟨migrations, hdb⟩,
      (List.append_nil _).symm⟩⟩
  | cons path paths ih =>
    have hpaths : LeavesRecords execute paths := fun other hother =>
      hleaves other (List.mem_cons_of_mem _ hother)
    unfold applyFiles at h
    cases htext : path.readText with
    | none =>
      simp only [htext] at h
      exact absurd h Engine.executes_fail
    | some sql =>
      simp only [htext] at h
      cases hfind : recorded.find? path.stem with
      | some previous =>
        simp only [hfind] at h
        split at h
        · exact absurd h Engine.executes_fail
        · next hsame =>
          obtain ⟨more, hresult, hupgrades⟩ := ih hpaths hdb h
          refine ⟨more, hresult, ?_, ?_, ?_, hupgrades.exists_schemaMigrations, ?_⟩
          · refine List.forall_mem_cons.mpr ⟨⟨sql, htext, fun row hrow => ?_⟩, hupgrades.unchanged⟩
            cases hfind.symm.trans hrow
            exact not_not.mp hsame
          · rw [pending_cons_of_some hfind]
            exact hupgrades.applied
          · rw [pending_cons_of_some hfind]
            exact hupgrades.executed
          · rw [pending_cons_of_some hfind]
            exact hupgrades.rows
      | none =>
        simp only [hfind] at h
        obtain ⟨contents, rest, hcontents, hinsert, rfl⟩ := returns_execute.mp h
        obtain ⟨migrations', rest', hmigrations', hnew, hrest, rfl⟩ :=
          returns_insertSchemaMigration.mp hinsert
        obtain ⟨more, hresult, hupgrades⟩ := ih hpaths rfl hrest
        -- The file was recorded in the table that was there before its own statements ran.
        have hkept : contents.schemaMigrations = some migrations :=
          (hleaves path List.mem_cons_self sql htext _ _ hcontents).trans hdb
        cases hkept.symm.trans hmigrations'
        rw [after_execute _ hcontents, after_insertSchemaMigration _ hmigrations']
        refine ⟨path.stem :: more, ?_, ?_, ?_, ?_, hupgrades.exists_schemaMigrations, ?_⟩
        · rw [hresult, List.append_assoc, List.singleton_append]
        · refine List.forall_mem_cons.mpr ⟨⟨sql, htext, fun row hrow => ?_⟩, hupgrades.unchanged⟩
          cases hfind.symm.trans hrow
        · rw [pending_cons_of_none hfind, List.map_cons, ← hupgrades.applied]
        · rw [pending_cons_of_none hfind, List.filterMap_cons_some htext, hupgrades.executed,
            List.append_assoc, List.singleton_append]
        · have hbefore : db.recorded = migrations := by
            unfold MigratedDatabase.recorded
            rw [hdb, Option.getD_some]
          rw [pending_cons_of_none hfind, List.filterMap_cons_some (rowOf_of_readText htext),
            hupgrades.rows, hbefore]
          -- The row of the file comes first, then those of the files after it.
          have hput : (migrations.put ⟨path.stem, sha256 sql⟩).rows =
              migrations.rows ++ [⟨path.stem, sha256 sql⟩] := Table.rows_put_of_absent hnew
          change (migrations.put _).rows ++ _ = _
          rw [hput, List.append_assoc, List.singleton_append]

/-- The loop, where a file has changed: it raises the drift, or ends at a file before it. -/
inductive Halts (recorded : Table SchemaMigrationRow.version) (before : List DirectoryEntry)
    (path : DirectoryEntry) : Outcome (Refusal ρ) MigrationError (List String) → Prop where
  | drift : Halts recorded before path (.raised (driftError path.stem))
  | undecoded (other : DirectoryEntry) (hother : other ∈ before) (htext : other.readText = none) :
      Halts recorded before path (.raised .unicodeDecode)
  | refused (other : DirectoryEntry) (hother : other ∈ pending recorded before) (r : Refusal ρ) :
      Halts recorded before path (.refused r)

/-- A file more before does not matter. -/
theorem Halts.cons {before : List DirectoryEntry}
    {outcome : Outcome (Refusal ρ) MigrationError (List String)} (other : DirectoryEntry)
    (h : Halts recorded before path outcome) : Halts recorded (other :: before) path outcome := by
  cases h with
  | drift => exact .drift
  | undecoded found hfound htext => exact .undecoded found (List.mem_cons_of_mem _ hfound) htext
  | refused found hfound r =>
    exact .refused found (((List.sublist_cons_self _ _).filter _).subset hfound) r

/-- The loop does not get past a file that has changed. -/
theorem halts_applyFiles {before after : List DirectoryEntry}
    (hdrifted : Drifted sha256 recorded path)
    (hbefore : ∀ other ∈ before, ¬Drifted sha256 recorded other) :
    Halts recorded before path ((postgres execute).exec db
      (applyFiles sha256 recorded (before ++ path :: after) applied)).outcome := by
  induction before generalizing db applied with
  | nil =>
    obtain ⟨sql, row, htext, hrow, hdiffers⟩ := hdrifted
    have hloop : applyFiles sha256 recorded (path :: after) applied =
        .fail (driftError path.stem) := by
      unfold applyFiles
      simp only [htext, hrow, if_pos hdiffers]
    rw [List.nil_append, hloop]
    exact .drift
  | cons other before ih =>
    obtain ⟨hother, hrest⟩ := List.forall_mem_cons.mp hbefore
    rw [List.cons_append, applyFiles]
    -- The loop ends at this file, or it goes on and the others decide.
    cases htext : other.readText with
    | none => exact .undecoded other List.mem_cons_self htext
    | some sql =>
      cases hfind : recorded.find? other.stem with
      | some row =>
        have hsame : row.checksum = sha256 sql := by
          by_contra hdiffers
          exact hother ⟨sql, row, htext, hfind, hdiffers⟩
        simp only [hsame, ne_eq, not_true_eq_false, if_false]
        exact (ih hrest).cons other
      | none =>
        have hpending : other ∈ pending recorded (other :: before) := by
          rw [pending_cons_of_none hfind]
          exact List.mem_cons_self
        have hrefused : ∀ {db : MigratedDatabase Schema} {statement : Statement}
            {next : statement.Answer → Migration} {r : Refusal ρ},
            (postgres execute).run statement db = .error r → Halts recorded (other :: before) path
              ((postgres execute).exec db (.call statement next)).outcome := by
          intro db statement next r hrun
          rw [Engine.outcome_exec_call_of_error hrun]
          exact .refused other hpending r
        -- The file is executed and recorded, where neither is refused.
        cases hexecute : (postgres execute).run (.execute sql) db with
        | error r => exact hrefused hexecute
        | ok executed =>
          obtain ⟨answer, changes⟩ := executed
          rw [Engine.outcome_exec_call hexecute]
          generalize (postgres execute).after changes db = db'
          cases hinsert : (postgres execute).run
              (.insertSchemaMigration other.stem (sha256 sql)) db' with
          | error r => exact hrefused hinsert
          | ok inserted =>
            obtain ⟨answer', more⟩ := inserted
            rw [Engine.outcome_exec_call hinsert]
            exact (ih hrest).cons other

/-- The loop has nothing to do where every file is recorded. -/
theorem applyFiles_of_recorded
    (h : ∀ path ∈ files, ∃ sql row, path.readText = some sql ∧
      recorded.find? path.stem = some row ∧ row.checksum = sha256 sql) :
    applyFiles sha256 recorded files applied = .done applied := by
  induction files with
  | nil => rfl
  | cons path paths ih =>
    obtain ⟨⟨sql, row, htext, hrow, hsame⟩, hpaths⟩ := List.forall_mem_cons.mp h
    unfold applyFiles
    simp only [htext, hrow, hsame, ne_eq, not_true_eq_false, if_false]
    exact ih hpaths

/-! ### The whole run -/

variable {directory : Table DirectoryEntry.name}

/-- The database with the table. -/
def MigratedDatabase.created (db : MigratedDatabase Schema) : MigratedDatabase Schema :=
  { db with schemaMigrations := some db.recorded }

/-- What creates the table, where it is missing. -/
def creation (db : MigratedDatabase Schema) : List Change :=
  match db.schemaMigrations with
  | some _ => []
  | none => [.createSchemaMigrations]

/-- A run takes the lock, creates the table, reads what is recorded, and goes on with the loop. -/
theorem exec_migrateDatabase : (postgres execute).exec db (migrateDatabase sha256 directory) =
    let loop := (postgres execute).exec db.created
      (applyFiles sha256 db.recorded (migrationFiles directory) [])
    ⟨loop.outcome, creation db ++ loop.changes, migrationLockId :: loop.held⟩ := by
  obtain ⟨⟨schema, migrations⟩, executed⟩ := db
  cases migrations <;> rfl

/-- The table is created. -/
theorem after_creation (rest : List Change) :
    (postgres execute).after (creation db ++ rest) db =
      (postgres execute).after rest db.created := by
  obtain ⟨⟨schema, migrations⟩, executed⟩ := db
  cases migrations <;> rfl

/-- A run that returns is a loop that returns. -/
theorem returns_migrateDatabase :
    Returns execute db (migrateDatabase sha256 directory) result changes held ↔
      ∃ rest locks, Returns execute db.created
          (applyFiles sha256 db.recorded (migrationFiles directory) []) result rest locks ∧
        changes = creation db ++ rest ∧ held = migrationLockId :: locks := by
  unfold Returns Engine.Executes
  rw [exec_migrateDatabase]
  constructor
  · intro h
    simp only [Transcript.mk.injEq] at h
    obtain ⟨houtcome, rfl, rfl⟩ := h
    refine ⟨_, _, ?_, rfl, rfl⟩
    rw [← houtcome]
  · rintro ⟨rest, locks, hloop, rfl, rfl⟩
    simp only [hloop]

/-- A run that returns has applied the pending files. -/
theorem upgrades_of_returns (hleaves : LeavesRecords execute (migrationFiles directory))
    (h : Returns execute db (migrateDatabase sha256 directory) result changes held) :
    Upgrades sha256 db.recorded (migrationFiles directory) db
      ((postgres execute).after changes db) result := by
  obtain ⟨rest, locks, hloop, rfl, rfl⟩ := returns_migrateDatabase.mp h
  obtain ⟨more, rfl, hupgrades⟩ := upgrades_of_applyFiles hleaves rfl hloop
  rw [after_creation]
  exact ⟨hupgrades.unchanged, hupgrades.applied, hupgrades.executed,
    hupgrades.exists_schemaMigrations, hupgrades.rows⟩

/-- Every file is recorded, as it is. -/
structure UpToDate (sha256 : String → Digest) (files : List DirectoryEntry)
    (db : MigratedDatabase Schema) : Prop where
  exists_schemaMigrations : ∃ migrations, db.schemaMigrations = some migrations
  recorded : ∀ path ∈ files, ∃ sql row, path.readText = some sql ∧
    db.recorded.find? path.stem = some row ∧ row.checksum = sha256 sql

/-- What a run leaves is up to date. -/
theorem Upgrades.upToDate (h : Upgrades sha256 db.recorded files db db' applied) :
    UpToDate sha256 files db' := by
  refine ⟨h.exists_schemaMigrations, fun path hpath => ?_⟩
  obtain ⟨sql, htext, hsame⟩ := h.unchanged path hpath
  cases hfind : db.recorded.find? path.stem with
  | some row =>
    -- It was recorded before.
    obtain ⟨hrow, hversion⟩ := Table.find?_eq_some_iff.mp hfind
    have hthere : row ∈ db'.recorded.rows := by
      rw [h.rows]
      exact List.mem_append_left _ hrow
    exact ⟨sql, row, htext, Table.find?_eq_some_iff.mpr ⟨hthere, hversion⟩, hsame row hfind⟩
  | none =>
    -- It was pending, so the run has recorded it.
    have hpending : path ∈ pending db.recorded files :=
      List.mem_filter.mpr ⟨hpath, decide_eq_true hfind⟩
    have hthere : ⟨path.stem, sha256 sql⟩ ∈ db'.recorded.rows := by
      rw [h.rows]
      exact List.mem_append_right _
        (List.mem_filterMap.mpr ⟨path, hpending, rowOf_of_readText htext⟩)
    exact ⟨sql, _, htext, Table.find?_eq_some_iff.mpr ⟨hthere, rfl⟩, rfl⟩

/-- A run on a database that is up to date returns the empty list and changes nothing. -/
theorem transact_of_upToDate (h : UpToDate sha256 (migrationFiles directory) db) :
    (postgres execute).transact db (migrateDatabase sha256 directory) = (.returned [], db) := by
  obtain ⟨migrations, hmigrations⟩ := h.exists_schemaMigrations
  have hcreation : creation db = [] := by
    unfold creation
    rw [hmigrations]
  have hloop : Returns execute db.created
      (applyFiles sha256 db.recorded (migrationFiles directory) []) [] [] [] := by
    rw [applyFiles_of_recorded h.recorded]
    exact Engine.executes_done.mpr ⟨rfl, rfl, rfl⟩
  have hreturns : Returns execute db (migrateDatabase sha256 directory) [] [] [migrationLockId] :=
    returns_migrateDatabase.mpr ⟨[], [], hloop, by rw [hcreation]; rfl, rfl⟩
  exact Engine.transact_of_executes hreturns rfl

end Migrations

end AtlasPay
