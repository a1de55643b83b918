import SqlTemplate.Dialect.Detection
import SqlTemplate.Statement.Basic

/-!
# Databases

A database is a connection together with the dialect its texts are written in. It prepares texts
with named placeholders, which it rewrites for the driver, and texts that are positional already;
either way a fresh cursor is opened for the statement. It refuses once it is closed or when there
is no connection, before anything else is looked at. A query or table call accepts a connection as
well as a database, and resolving gives it a database of the dialect it asks for.
-/

namespace SqlTemplate

structure Database where
  /-- None once the database is closed. -/
  connection : Option Connection
  dialect : Dialect
  closed : Bool := false

/-- What a call is made on: a bare connection, which may be missing, or a database. -/
inductive Target where
  | connection (connection : Option Connection)
  | database (db : Database)

namespace Dialect

/-- The dialect a connection brings along, or else the one of its driver. A missing connection
counts as one defined by the module of built-in types. -/
def ofConnection (loaded : LoadedModules) : Option Connection → Dialect
  | none => ofDriver loaded "builtins"
  | some connection => connection.dialect.getD (ofDriver loaded connection.module)

def ofTarget (loaded : LoadedModules) : Target → Dialect
  | .connection connection => ofConnection loaded connection
  | .database db => db.dialect

end Dialect

namespace Database

/-- A database over a connection, in the given dialect or the connection's own. -/
def holding (loaded : LoadedModules) (connection : Option Connection) (dialect : Option Dialect) :
    Database :=
  ⟨connection, dialect.getD (Dialect.ofConnection loaded connection), false⟩

def usable (db : Database) : Except Error Connection :=
  match db.closed, db.connection with
  | false, some connection => .ok connection
  | _, _ => .error .connectionClosed

def prepare (db : Database) (sql : String) : Exchange Statement := do
  let connection ← db.usable
  let positional ← db.dialect.rewrite sql
  let slots := (Template.placeholders sql).length
  Exchange.log (.preparing positional slots)
  let cursor ← connection.openCursor
  return { cursor, sql := positional, count := some slots }

/-- Prepares a text that has the dialect's markers already. -/
def preparePositional (db : Database) (sql : String) (count : Option Int) : Exchange Statement := do
  let connection ← db.usable
  Exchange.log (.preparingPositional sql)
  let cursor ← connection.openCursor
  return { cursor, sql, count }

def shut (db : Database) : Database := { db with connection := none, closed := true }

/-- Closes the connection unless the database is closed. -/
def disconnect (db : Database) : Exchange Unit :=
  match db.closed, db.connection with
  | false, some connection => connection.close
  | _, _ => pure ()

end Database

namespace Target

/-- The dialect asked for, if any, is the database's own. -/
def serves (db : Database) : Option Dialect → Bool
  | none => true
  | some dialect => dialect.same db.dialect

/-- The database a call works on: the target itself if it serves, else one over its connection. -/
def resolve (loaded : LoadedModules) (target : Target) (dialect : Option Dialect) : Database :=
  match target with
  | .connection bare => .holding loaded bare dialect
  | .database db => if serves db dialect then db else .holding loaded db.connection dialect

def isResolved (target : Target) (dialect : Option Dialect) : Bool :=
  match target with
  | .connection _ => false
  | .database db => serves db dialect

end Target
end SqlTemplate
