import SqlTemplate.Connection.Row
import SqlTemplate.Statement.Assignment
import SqlTemplate.Value.Conversion

/-!
# Prepared statements

A prepared statement owns a cursor and keeps driver values in slots, counted from one, until it is
executed. A statement that knows the number of its slots refuses positions beyond them. A value is
converted before it is kept, so a refused value leaves the slots as they were, and a pass that
fails keeps what it wrote before. Parameters are the values of all slots up to the highest that is
filled or known; a gap among them is an error and nothing is executed. A statement closes its
cursor once.
-/

namespace SqlTemplate

structure Statement where
  cursor : Cursor
  sql : String
  /-- The number of slots, where it is known. -/
  count : Option Int
  slots : List (Nat × Value) := []
  closed : Bool := false

namespace Statement

/-- The position lies beyond the slots that the statement is known to have. -/
def beyond? (st : Statement) (position : Int) : Option Int :=
  st.count.filter (· < position)

def assign (st : Statement) (position : Int) (value : Value) (key : Option String) :
    Except Error Statement :=
  if position < 1 then .error (Error.positionBelowOne position).worded
  else
    match st.beyond? position with
    | some count => .error (Error.positionBeyond position count key).worded
    | none =>
      (value.toDriver key).map fun converted =>
        { st with slots := Entries.put st.slots position.toNat converted }

/-- Makes assignments up to the first that is refused. -/
def assignAll (st : Statement) : List Assignment → Except Error Unit × Statement
  | [] => (.ok (), st)
  | a :: rest =>
    match st.assign a.position a.value (some a.key) with
    | .ok next => next.assignAll rest
    | .error e => (.error e, st)

def clear (st : Statement) : Statement := { st with slots := [] }

/-- The highest slot that is filled or known. -/
def highest (st : Statement) : Nat :=
  (Entries.keys st.slots).foldr max (st.count.getD 0).toNat

/-- The values of a number of slots from a position on. -/
def readSlots (slots : List (Nat × Value)) : Nat → Nat → Except Error (List Value)
  | _, 0 => .ok []
  | position, n + 1 =>
    match Entries.find? slots position with
    | none => .error (.unbound position)
    | some value => (readSlots slots (position + 1) n).map (value :: ·)

def parameters (st : Statement) : Except Error (List Value) :=
  readSlots st.slots 1 st.highest

def execute (st : Statement) : Exchange Unit := do
  if st.closed then throw .statementClosed
  let params ← st.parameters
  Exchange.log (.executing st.sql params.length)
  st.cursor.execute st.sql params

/-- Executes and gives the number of rows affected, as the cursor reports it. -/
def executeUpdate (st : Statement) : Exchange (Option Int) := do
  st.execute
  Exchange.log (.affected st.cursor.script.rowcount)
  return st.cursor.script.rowcount

def executeRows (st : Statement) : Exchange (List Row) := do
  st.execute
  st.cursor.script.mapRows

/-- Closes the cursor unless that was done before. -/
def release (st : Statement) : Exchange Unit :=
  if st.closed then pure () else st.cursor.close

/-- Runs `body` and closes the cursor whatever came of it; an error in closing takes the place of
any outcome. -/
def scope {α : Type} (st : Statement) (body : Exchange α) : Exchange α :=
  tryFinally body st.release

def complete {α : Type} (st : Statement) (assignments : List Assignment)
    (use : Statement → Exchange α) : Exchange α :=
  st.scope do
    let (outcome, filled) := st.assignAll assignments
    outcome
    use filled

end Statement
end SqlTemplate
