import SqlTemplate.Dialect.Basic

/-!
# Texts for one table

The texts that insert into, update, delete from and select from one table, with a marker for
every value. Names of tables and columns are taken as they are. Markers count on from the
assignments into the conditions. An update without assignments or conditions and a deletion
without conditions are refused; an insertion without columns inserts a row of defaults.
-/

namespace SqlTemplate.TableSql

/-- One equation of a column and its marker for each column, from a position on. -/
def equations (d : Dialect) (start : Int) : List String → Except Error (List String)
  | [] => .ok []
  | column :: rest => do
    let marker ← d.marker start
    let after ← equations d (start + 1) rest
    return (column ++ " = " ++ marker) :: after

def markers (d : Dialect) (start : Int) : Nat → Except Error (List String)
  | 0 => .ok []
  | n + 1 => do
    let marker ← d.marker start
    let after ← markers d (start + 1) n
    return marker :: after

def assignments (d : Dialect) (columns : List String) (start : Int) : Except Error String :=
  (equations d start columns).map ", ".intercalate

/-- The conditions after a blank and their keyword; empty without conditions. -/
def whereClause (d : Dialect) (columns : List String) (start : Int) : Except Error String :=
  if columns.isEmpty then .ok ""
  else (equations d start columns).map fun parts => " WHERE " ++ " AND ".intercalate parts

def insert (d : Dialect) (table : String) (columns : List String) : Except Error String :=
  if columns.isEmpty then .ok (d.defaultInsert table)
  else (markers d 1 columns.length).map fun marks =>
    "INSERT INTO " ++ table ++ " (" ++ ", ".intercalate columns ++ ") VALUES (" ++
      ", ".intercalate marks ++ ")"

def update (d : Dialect) (table : String) (columns conditions : List String) :
    Except Error String :=
  if columns.isEmpty then .error (.noAssignments table)
  else if conditions.isEmpty then .error (.updateWithoutConditions table)
  else do
    let set ← assignments d columns 1
    let filter ← whereClause d conditions (columns.length + 1)
    return "UPDATE " ++ table ++ " SET " ++ set ++ filter

def delete (d : Dialect) (table : String) (conditions : List String) : Except Error String :=
  if conditions.isEmpty then .error (.deleteWithoutConditions table)
  else (whereClause d conditions 1).map fun filter => "DELETE FROM " ++ table ++ filter

def select (d : Dialect) (table : String) (columns conditions : List String) :
    Except Error String :=
  (whereClause d conditions 1).map fun filter =>
    "SELECT " ++ (if columns.isEmpty then "*" else ", ".intercalate columns) ++ " FROM " ++ table ++
      filter

example : (update (.ofFamily .numeric) "t" ["a", "b"] ["a"]).toOption =
    some "UPDATE t SET a = :1, b = :2 WHERE a = :3" := by decide +kernel

end SqlTemplate.TableSql
