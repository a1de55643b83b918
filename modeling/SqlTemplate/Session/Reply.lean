import SqlTemplate.Database

/-!
# Replies and statement steps

A session is driven by steps, and every step ends in a reply or an error. This module has the
replies and the steps on a single prepared statement. A step on a statement gives its new state
also where it fails: a pass that is refused halfway keeps its writes, and a statement whose cursor
fails to close is closed.
-/

namespace SqlTemplate

inductive Reply where
  | done
  /-- How many slots a pass filled. -/
  | bound (slots : Nat)
  | affected (rows : Option Int)
  /-- The cursor on which a result can be read. -/
  | cursor (index : Nat)
  | truth (holds : Bool)
  | values (items : List Value)
  | rows (items : List Row)
  | statement (sql : String) (count : Option Int)
  | dialect (d : Dialect)
  /-- The dialect of a resolved target, and whether that is the target itself. -/
  | resolved (same : Bool) (d : Dialect)

inductive StatementStep where
  | set (position : Int) (value : Value) (key : Option String)
  | setNull (position : Int) (key : Option String)
  | clear
  | parameters
  | bindText (sql : String) (params : NamedValues) (start : Int)
  | bindColumns (columns : NamedValues) (start : Int)
  | executeQuery
  | executeUpdate
  | readRows
  | isClosed
  | describe
  | close
  /-- Executes for the number of affected rows and closes on leaving. -/
  | executeAndClose

namespace Statement

def shut (st : Statement) : Statement := { st with closed := true }

/-- A new state of the slots, or the refusal and the old one. -/
def settle (st : Statement) (outcome : Except Error Statement) : Except Error Reply × Statement :=
  match outcome with
  | .ok next => (.ok .done, next)
  | .error e => (.error e, st)

def bindAll (st : Statement) (assignments : List Assignment) : Except Error Reply × Statement :=
  let (outcome, next) := st.assignAll assignments
  (outcome.map fun _ => .bound assignments.length, next)

/-- Runs an exchange that leaves the statement as it is. -/
def exchange {α : Type} (st : Statement) (x : Exchange α) (reply : α → Reply) :
    StateM Trace (Except Error Reply × Statement) := do
  let outcome ← x.run
  return (outcome.map reply, st)

def perform (st : Statement) : StatementStep → StateM Trace (Except Error Reply × Statement)
  | .set position value key => return st.settle (st.assign position value key)
  | .setNull position key => return st.settle (st.assign position (.tagged .null .null) key)
  | .clear => return (.ok .done, st.clear)
  | .parameters => return (st.parameters.map .values, st)
  | .bindText sql params start => return st.bindAll (Assignment.ofText sql params start)
  | .bindColumns columns start => return st.bindAll (Assignment.ofColumns columns start)
  | .executeQuery => st.exchange st.execute fun _ => .cursor st.cursor.index
  | .executeUpdate => st.exchange st.executeUpdate .affected
  | .readRows => return (st.cursor.script.mapRows.map .rows, st)
  | .isClosed => return (.ok (.truth st.closed), st)
  | .describe => return (.ok (.statement st.sql st.count), st)
  | .close => do
    let (outcome, _) ← st.exchange st.release fun _ => .done
    return (outcome, st.shut)
  | .executeAndClose => do
    let (outcome, _) ← st.exchange (st.scope st.executeUpdate) .affected
    return (outcome, st.shut)

end Statement
end SqlTemplate
