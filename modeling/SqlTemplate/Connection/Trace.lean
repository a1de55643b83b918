import SqlTemplate.Error
import SqlTemplate.LogRecord

/-!
# Traces

All that happens between the library and one connection, and every debug record, is an event. The
trace of a session lists its events from the first to the last and only ever grows. Which cursors
are open, what was executed, how often the connection was closed and what the log holds are views
of the trace.
-/

namespace SqlTemplate

/-- One thing that happened. Cursors are numbered in the order in which they were opened. -/
inductive Event where
  | opened (cursor : Nat)
  /-- The connection was asked for a cursor and raised an error. -/
  | denied
  | executed (cursor : Nat) (sql : String) (params : List Value)
  | released (cursor : Nat)
  | disconnected
  | logged (record : LogRecord)

abbrev Trace := List Event

namespace Event

def opened? : Event → Option Nat
  | .opened cursor => some cursor
  | _ => none

def execution? : Event → Option (String × List Value)
  | .executed _ sql params => some (sql, params)
  | _ => none

def released? : Event → Option Nat
  | .released cursor => some cursor
  | _ => none

def record? : Event → Option LogRecord
  | .logged record => some record
  | _ => none

def isDisconnection : Event → Bool
  | .disconnected => true
  | _ => false

def asksForCursor : Event → Bool
  | .opened _ | .denied => true
  | _ => false

/-- How often a cursor was handed a text after the event, by how often before. -/
def countOn (cursor ran : Nat) : Event → Nat
  | .opened other => if other = cursor then 0 else ran
  | .executed other _ _ => if other = cursor then ran + 1 else ran
  | _ => ran

end Event

namespace Trace

def openedCursors (trace : Trace) : List Nat := trace.filterMap Event.opened?

/-- The closings of cursors, in order; a cursor closed twice is listed twice. -/
def releasedCursors (trace : Trace) : List Nat := trace.filterMap Event.released?

def openCursors (trace : Trace) : List Nat :=
  trace.openedCursors.filter fun cursor => !trace.releasedCursors.contains cursor

/-- The texts handed to cursors, each with its parameters, in order. -/
def executions (trace : Trace) : List (String × List Value) := trace.filterMap Event.execution?

def records (trace : Trace) : List LogRecord := trace.filterMap Event.record?

def disconnections (trace : Trace) : Nat := trace.countP Event.isDisconnection

def cursorCalls (trace : Trace) : Nat := trace.countP Event.asksForCursor

/-- How often a cursor was handed a text since it was opened. -/
def executionsOn (trace : Trace) (cursor : Nat) : Nat :=
  trace.foldl (fun ran event => event.countOn cursor ran) 0

end Trace

/-- An exchange with a connection: it ends in a value or an error, and adds its events to the
trace either way. -/
abbrev Exchange := ExceptT Error (StateM Trace)

namespace Exchange

def emit (event : Event) : Exchange Unit :=
  modify fun trace => trace ++ [event]

def log (record : LogRecord) : Exchange Unit :=
  emit (.logged record)

/-- Fails if the connection or a cursor was told to fail here. -/
def raiseIf : Option Fault → Exchange Unit
  | some fault => throw (.fault fault)
  | none => pure ()

end Exchange
end SqlTemplate
