import SqlTemplate.Database
import SqlTemplate.Table.Sql

/-!
# Operations on one table

Insertion, update, deletion and selection build their text from the columns they are given and
bind the values in the same order, those to be set before those to be compared. The text is built,
and refused, before the connection is looked at.
-/

namespace SqlTemplate

structure Table where
  name : String
  /-- The dialect to write in; the target's own if none. -/
  dialect : Option Dialect := none

/-- The columns that a selection names: any number in a list, or one by itself. -/
inductive Columns where
  | listed (names : List String)
  | one (name : String)

def Columns.names : Columns → List String
  | .listed names => names
  | .one name => [name]

namespace Table

/-- Prepares a text for the given values and runs `use` on the filled statement. -/
def complete {α : Type} (table : Table) (loaded : LoadedModules) (target : Target)
    (sql : Dialect → Except Error String) (count : Nat) (assignments : List Assignment)
    (use : Statement → Exchange α) : Exchange α := do
  let db := target.resolve loaded table.dialect
  let text ← sql db.dialect
  let st ← db.preparePositional text (some count)
  st.complete assignments use

def insert (table : Table) (loaded : LoadedModules) (target : Target) (values : NamedValues) :
    Exchange (Option Int) :=
  table.complete loaded target (TableSql.insert · table.name values.names) values.size
    (Assignment.ofColumns values 0) Statement.executeUpdate

def update (table : Table) (loaded : LoadedModules) (target : Target)
    (values conditions : NamedValues) : Exchange (Option Int) :=
  table.complete loaded target (TableSql.update · table.name values.names conditions.names)
    (values.size + conditions.size)
    (Assignment.ofColumns values 0 ++ Assignment.ofColumns conditions values.size)
    Statement.executeUpdate

def delete (table : Table) (loaded : LoadedModules) (target : Target) (conditions : NamedValues) :
    Exchange (Option Int) :=
  table.complete loaded target (TableSql.delete · table.name conditions.names) conditions.size
    (Assignment.ofColumns conditions 0) Statement.executeUpdate

/-- The rows that meet every condition; all columns if none is named. -/
def select (table : Table) (loaded : LoadedModules) (target : Target) (columns : Columns)
    (conditions : NamedValues) : Exchange (List Row) := do
  let rows ← table.complete loaded target
    (TableSql.select · table.name columns.names conditions.names) conditions.size
    (Assignment.ofColumns conditions 0) Statement.executeRows
  Exchange.log (.selected table.name rows.length)
  return rows

def written (table : Table) : String := "TableOperation(" ++ Text.quoted table.name ++ ")"

end Table
end SqlTemplate
