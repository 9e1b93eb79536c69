import AtlasPay.Library.Transactions
import AtlasPay.Migrations.Files
import AtlasPay.Payments.Models

/-!
# `migrate_database`

`app/migrations.py`, as a program of statements. What PostgreSQL makes of the text of a migration is
a parameter, `execute`: from what a database contains to what it contains afterwards, or a refusal.
A migration may read and change everything, `schema_migrations` too. DDL is transactional, and no
migration commits.
-/

namespace AtlasPay

namespace Migrations

/-! ## The database -/

/-- A row of `schema_migrations`. -/
structure SchemaMigrationRow where
  version : String
  checksum : Digest
  deriving DecidableEq

/-- What a database contains: `schema_migrations`, once it is created, and everything else. -/
structure Contents (Schema : Type) where
  schema : Schema
  schemaMigrations : Option (Table SchemaMigrationRow.version)

/-- The contents, and the migrations that were executed, in order. Nothing reads the latter. -/
structure MigratedDatabase (Schema : Type) extends Contents Schema where
  executed : List String

/-- What is recorded, nothing without the table. -/
def MigratedDatabase.recorded {Schema : Type} (db : MigratedDatabase Schema) :
    Table SchemaMigrationRow.version :=
  db.schemaMigrations.getD .empty

/-- A change to a database. -/
inductive Change where
  | createSchemaMigrations
  | execute (sql : String)
  | insertSchemaMigration (row : SchemaMigrationRow)
  deriving DecidableEq

/-- The refusals of PostgreSQL: what a migration is refused for, and what the statements of
`migrate_database` are. -/
inductive Refusal (ρ : Type) where
  | migration (r : ρ)
  | undefinedTable
  | unique
  deriving DecidableEq, Repr

/-- The statements of `migrate_database`. -/
inductive Statement where
  | advisoryXactLock (id : ℕ)
  | createSchemaMigrations
  | selectSchemaMigrations
  | execute (sql : String)
  | insertSchemaMigration (version : String) (checksum : Digest)

/-- What a statement answers. -/
def Statement.Answer : Statement → Type
  | advisoryXactLock _ | createSchemaMigrations | execute _ | insertSchemaMigration _ _ => Unit
  | selectSchemaMigrations => Table SchemaMigrationRow.version

section

variable {Schema ρ : Type} (execute : String → Contents Schema → Except ρ (Contents Schema))

/-- What a change does. -/
def Change.apply (db : MigratedDatabase Schema) : Change → MigratedDatabase Schema
  | createSchemaMigrations => { db with schemaMigrations := some .empty }
  | .execute sql =>
    match execute sql db.toContents with
    | .ok contents => ⟨contents, db.executed ++ [sql]⟩
    | .error _ => db
  | insertSchemaMigration row =>
    { db with schemaMigrations := db.schemaMigrations.map fun migrations => migrations.put row }

/-- A statement on what its transaction sees. -/
def Statement.run : (s : Statement) → MigratedDatabase Schema →
    Except (Refusal ρ) (s.Answer × List Change)
  | advisoryXactLock _, _ => .ok ((), [])
  | createSchemaMigrations, db =>
    -- `CREATE TABLE IF NOT EXISTS`.
    match db.schemaMigrations with
    | some _ => .ok ((), [])
    | none => .ok ((), [.createSchemaMigrations])
  | selectSchemaMigrations, db =>
    match db.schemaMigrations with
    | some migrations => .ok (migrations, [])
    | none => .error .undefinedTable
  | .execute sql, db =>
    match execute sql db.toContents with
    | .ok _ => .ok ((), [.execute sql])
    | .error r => .error (.migration r)
  | insertSchemaMigration version checksum, db =>
    match db.schemaMigrations with
    | some migrations =>
      if migrations.find? version ≠ none then .error .unique
      else .ok ((), [.insertSchemaMigration ⟨version, checksum⟩])
    | none => .error .undefinedTable

/-- The advisory locks of a statement. -/
def Statement.locks : Statement → List ℕ
  | advisoryXactLock id => [id]
  | _ => []

/-- PostgreSQL, as the migrations use it. -/
def postgres : Engine Statement.Answer (MigratedDatabase Schema) Change ℕ (Refusal ρ) where
  run := Statement.run execute
  apply change db := change.apply execute db
  settle _ _ := .ok ⟨⟩
  needs s _ := s.locks
  takes s _ := s.locks
  takes_subset _ _ := List.Subset.refl _

end

/-! ## The program -/

/-- `MIGRATION_LOCK_ID`. -/
def migrationLockId : ℕ := 8582001001

/-- The exceptions of a run, other than the refusals. -/
inductive MigrationError where
  | migrationDrift (message : String)
  | unicodeDecode
  deriving DecidableEq, Repr

/-- The error of a version whose file has changed. -/
def driftError (version : String) : MigrationError :=
  .migrationDrift ("Migration " ++ version ++ " checksum differs from the applied version")

/-- A run, or what is left of one. -/
abbrev Migration := Program Statement.Answer MigrationError (List String)

variable (sha256 : String → Digest)

/-- The loop of `migrate_database` over the files, with what was recorded and the versions that are
applied so far. -/
def applyFiles (recorded : Table SchemaMigrationRow.version) :
    List DirectoryEntry → List String → Migration
  | [], applied => .done applied
  | path :: paths, applied =>
    match path.readText with
    | none => .fail .unicodeDecode
    | some sql =>
      match recorded.find? path.stem with
      | some previous =>
        if previous.checksum ≠ sha256 sql then .fail (driftError path.stem)
        else applyFiles recorded paths applied
      | none =>
        .call (.execute sql) fun _ =>
        .call (.insertSchemaMigration path.stem (sha256 sql)) fun _ =>
        applyFiles recorded paths (applied ++ [path.stem])

/-- `migrate_database`. -/
def migrateDatabase (directory : Table DirectoryEntry.name) : Migration :=
  .call (.advisoryXactLock migrationLockId) fun _ =>
  .call .createSchemaMigrations fun _ =>
  .call .selectSchemaMigrations fun recorded =>
  applyFiles sha256 recorded (migrationFiles directory) []

end Migrations

end AtlasPay
