import Mathlib.Data.List.DropRight
import Mathlib.Data.List.Sort
import Mathlib.Data.String.Basic
import AtlasPay.Library.Table
import AtlasPay.Python.Unicode

/-!
# The migration files

`migration_files` of `app/migrations.py`, and what `pathlib` makes of a file: the text that is read
from it, and its version. The files come in the order of their names.
-/

namespace AtlasPay

namespace Migrations

/-- An entry of a directory. -/
structure DirectoryEntry where
  name : String
  isFile : Bool
  content : ByteArray

/-- The lines of a text, each ended by a newline, as a text file is read. -/
def universalNewlines : List Char → List Char
  | '\r' :: '\n' :: chars => '\n' :: universalNewlines chars
  | '\r' :: chars => '\n' :: universalNewlines chars
  | char :: chars => char :: universalNewlines chars
  | [] => []

namespace DirectoryEntry

/-- `read_text(encoding="utf-8")`, where the content is UTF-8. -/
def readText (entry : DirectoryEntry) : Option String :=
  (String.fromUTF8? entry.content).map fun text => String.ofList (universalNewlines text.toList)

/-- `stem`: the name up to its last dot, unless this is its first or its last character. -/
def stem (entry : DirectoryEntry) : String :=
  let head := entry.name.toList.rdropWhile (· ≠ '.')
  if 1 < head.length ∧ head.length < entry.name.length then String.ofList head.dropLast
  else entry.name

/-- The condition of `migration_files`, for the entries that `glob("*.sql")` may give. -/
def isMigration (entry : DirectoryEntry) : Bool :=
  ".sql".toList.isSuffixOf entry.name.toList && entry.isFile &&
    isDigit (String.ofList (entry.name.toList.take 3))

end DirectoryEntry

/-- `migration_files`, of a directory whose entries have different names. -/
def migrationFiles (directory : Table DirectoryEntry.name) : List DirectoryEntry :=
  (directory.rows.filter DirectoryEntry.isMigration).insertionSort fun entry entry' =>
    entry.name ≤ entry'.name

/-- The files come in the order of their names. -/
theorem migrationFiles_pairwise (directory : Table DirectoryEntry.name) :
    (migrationFiles directory).Pairwise fun entry entry' => entry.name < entry'.name := by
  have htotal : Std.Total fun entry entry' : DirectoryEntry => entry.name ≤ entry'.name :=
    ⟨fun entry entry' => le_total entry.name entry'.name⟩
  have htrans : IsTrans DirectoryEntry fun entry entry' => entry.name ≤ entry'.name :=
    ⟨fun _ _ _ => le_trans⟩
  have hle := List.pairwise_insertionSort
    (fun entry entry' : DirectoryEntry => entry.name ≤ entry'.name)
    (directory.rows.filter DirectoryEntry.isMigration)
  have hperm := List.perm_insertionSort
    (fun entry entry' : DirectoryEntry => entry.name ≤ entry'.name)
    (directory.rows.filter DirectoryEntry.isMigration)
  have hfound :
      ((directory.rows.filter DirectoryEntry.isMigration).map DirectoryEntry.name).Nodup :=
    directory.nodup.sublist (List.filter_sublist.map DirectoryEntry.name)
  have hne : (migrationFiles directory).Pairwise fun entry entry' => entry.name ≠ entry'.name :=
    List.pairwise_map.mp ((hperm.map DirectoryEntry.name).nodup_iff.mpr hfound)
  exact hle.imp₂ (fun _ _ h h' => lt_of_le_of_ne h h') hne

end Migrations

end AtlasPay
