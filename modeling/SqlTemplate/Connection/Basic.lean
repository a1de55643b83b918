import SqlTemplate.Connection.Trace
import SqlTemplate.Dialect.Basic

/-!
# Connections and cursors

A connection hands out cursors, and a cursor executes texts and describes and returns rows. How
they answer is laid down in advance by scripts, including the errors they raise, call by call:
where a call can be made again, its errors are given by the number of such calls before it. What
reaches a connection or a cursor goes into the trace, and there the calls are counted. A cursor is
closed once, and one that fails to close counts as closed all the same.
-/

namespace SqlTemplate

structure CursorScript where
  /-- One entry for each column of the result, its label first; none without a result. -/
  description : Option (List Value) := none
  rows : List Value := []
  rowcount : Option Int := some (-1)
  /-- The error raised in executing, by the number of executions before. -/
  executeFault : Nat → Option Fault := fun _ => none
  fetchFault : Option Fault := none
  closeFault : Option Fault := none
  deriving Inhabited

structure Cursor where
  index : Nat
  script : CursorScript

structure Connection where
  /-- The module that defines the connection's type. -/
  module : String
  /-- The dialect the connection brings along. -/
  dialect : Option Dialect := none
  /-- The scripts of its cursors in order; the last one serves for all cursors after it. -/
  cursors : List CursorScript := []
  /-- The error raised in opening a cursor, by the number of cursors asked for before. -/
  cursorFault : Nat → Option Fault := fun _ => none
  /-- The connection can be closed. -/
  closable : Bool := true
  /-- The error raised in closing, by the number of closings before. -/
  closeFault : Nat → Option Fault := fun _ => none

namespace Cursor

def execute (cursor : Cursor) (sql : String) (params : List Value) : Exchange Unit := do
  let trace ← get
  Exchange.emit (.executed cursor.index sql params)
  Exchange.raiseIf (cursor.script.executeFault (trace.executionsOn cursor.index))

def close (cursor : Cursor) : Exchange Unit := do
  Exchange.emit (.released cursor.index)
  Exchange.raiseIf cursor.script.closeFault

/-- Opens the next cursor of a trace under a script. -/
def openUnder (script : CursorScript) : Exchange Cursor := do
  let trace ← get
  let index := trace.openedCursors.length
  Exchange.emit (.opened index)
  return ⟨index, script⟩

end Cursor

namespace Connection

def script (connection : Connection) (index : Nat) : CursorScript :=
  match connection.cursors[index]? with
  | some script => script
  | none => connection.cursors.getLast?.getD {}

def openCursor (connection : Connection) : Exchange Cursor := do
  let trace ← get
  match connection.cursorFault trace.cursorCalls with
  | some raised =>
    Exchange.emit .denied
    throw (.fault raised)
  | none => Cursor.openUnder (connection.script trace.openedCursors.length)

def close (connection : Connection) : Exchange Unit := do
  if connection.closable then
    let trace ← get
    Exchange.emit .disconnected
    Exchange.raiseIf (connection.closeFault trace.disconnections)

end Connection
end SqlTemplate
