import SqlTemplate.Proofs.Exchange
import SqlTemplate.Proofs.Slots
import SqlTemplate.Query
import SqlTemplate.Table.Basic

/-!
# The course of a call

A call on a query or a table is either refused while no cursor exists, or it comes down to a
request: a text and a value for each of its slots, on one connection. The course of a request is
settled by the values and by the scripts of the connection and its next cursor; it is given here
once, as an outcome and a list of events, and the six calls are shown to take it.
-/

namespace SqlTemplate

/-- What is done with a statement whose slots are filled: what is made of the cursor's answers, and
what the log is told once the text was handed over, both by how often the cursor executed before.
The answers give no cause to complain about a slot. -/
structure Reading (α : Type) where
  use : Statement → Exchange α
  answer : CursorScript → Nat → Except Error α
  records : CursorScript → Nat → List LogRecord
  answer_not_aboutSlot : ∀ (script : CursorScript) (ran : Nat) (e : Error),
    answer script ran = .error e → ¬ e.IsAboutSlot
  after_use : ∀ (st : Statement) (values : List Value) (trace : Trace),
    st.closed = false → st.parameters = .ok values →
      (use st).after trace =
        (answer st.cursor.script (trace.executionsOn st.cursor.index),
          trace ++ .logged (.executing st.sql values.length) ::
            .executed st.cursor.index st.sql values ::
              (records st.cursor.script (trace.executionsOn st.cursor.index)).map .logged)

namespace Statement

theorem execute_of_open {st : Statement} (isOpen : st.closed = false) :
    st.execute = (do
      let params ← st.parameters
      Exchange.log (.executing st.sql params.length)
      st.cursor.execute st.sql params) := by
  rw [execute, isOpen]
  rfl

/-- An open statement with all its parameters hands its text and them to its cursor. -/
theorem after_execute {st : Statement} {values : List Value} (isOpen : st.closed = false)
    (filled : st.parameters = .ok values) (trace : Trace) :
    st.execute.after trace =
      (unlessFault (st.cursor.script.executeFault (trace.executionsOn st.cursor.index)) (.ok ()),
        trace ++ [.logged (.executing st.sql values.length),
          .executed st.cursor.index st.sql values]) := by
  rw [execute_of_open isOpen, filled, Exchange.after_bind_ok (Exchange.after_lift _ _),
    Exchange.after_bind_ok (Exchange.after_log _ _), Cursor.after_execute,
    Trace.executionsOn_logged, List.append_assoc]
  rfl

/-- An open statement that lacks a parameter reaches no cursor. -/
theorem after_execute_unfilled {st : Statement} {e : Error} (isOpen : st.closed = false)
    (gap : st.parameters = .error e) (trace : Trace) :
    st.execute.after trace = (.error e, trace) := by
  rw [execute_of_open isOpen, gap, Exchange.after_bind_error (Exchange.after_lift _ _)]

theorem after_execute_closed {st : Statement} (isClosed : st.closed = true) (trace : Trace) :
    st.execute.after trace = (.error .statementClosed, trace) := by
  rw [execute, isClosed, if_pos rfl]
  exact Exchange.after_bind_error rfl

theorem after_release {st : Statement} (isOpen : st.closed = false) (trace : Trace) :
    st.release.after trace =
      (unlessFault st.cursor.script.closeFault (.ok ()), trace ++ [.released st.cursor.index]) := by
  rw [release, isOpen, if_neg Bool.false_ne_true, Cursor.after_close]

end Statement

namespace Reading

def count : Reading (Option Int) where
  use := Statement.executeUpdate
  answer script ran := unlessFault (script.executeFault ran) (.ok script.rowcount)
  records script ran :=
    if (script.executeFault ran).isNone then [.affected script.rowcount] else []
  answer_not_aboutSlot := by
    intro script ran e fails
    cases faulty : script.executeFault ran <;> rw [faulty] at fails <;> cases fails
    exact id
  after_use := by
    intro st values trace isOpen filled
    rw [Statement.executeUpdate, Exchange.after_bind, Statement.after_execute isOpen filled]
    cases st.cursor.script.executeFault (trace.executionsOn st.cursor.index) with
    | some raised => rfl
    | none =>
      simp only [unlessFault_none]
      rw [Exchange.after_bind_ok (Exchange.after_log _ _), Exchange.after_pure, List.append_assoc]
      rfl

def rows : Reading (List Row) where
  use := Statement.executeRows
  answer script ran := unlessFault (script.executeFault ran) script.mapRows
  records _ _ := []
  answer_not_aboutSlot := by
    intro script ran e fails
    cases faulty : script.executeFault ran <;> rw [faulty] at fails
    · exact script.mapRows_not_aboutSlot fails
    · cases fails
      exact id
  after_use := by
    intro st values trace isOpen filled
    rw [Statement.executeRows, Exchange.after_bind, Statement.after_execute isOpen filled]
    cases st.cursor.script.executeFault (trace.executionsOn st.cursor.index) <;> rfl

end Reading

/-- What a call asks of a connection when nothing was refused. -/
structure Request where
  connection : Connection
  sql : String
  /-- What the log is told before a cursor is opened. -/
  notice : LogRecord
  /-- A value for each slot, under the name it comes from. -/
  values : List (String × Value)

namespace Request

variable {α : Type}

def script (r : Request) (before : Trace) : CursorScript :=
  r.connection.script before.openedCursors.length

def denial (r : Request) (before : Trace) : Option Fault :=
  r.connection.cursorFault before.cursorCalls

/-- How a request ends after a trace: a fault in opening or closing decides, then the first value
that cannot be bound, then what the reading makes of the answers. -/
def outcome (r : Request) (reading : Reading α) (before : Trace) : Except Error α :=
  unlessFault (r.denial before) <|
    unlessFault (r.script before).closeFault <|
      match driverValues r.values with
      | .ok _ => reading.answer (r.script before) 0
      | .error e => .error e

def execution (r : Request) (reading : Reading α) (cursor : Cursor) : Trace :=
  match driverValues r.values with
  | .ok params =>
    .logged (.executing r.sql params.length) :: .executed cursor.index r.sql params ::
      (reading.records cursor.script 0).map .logged
  | .error _ => []

def events (r : Request) (reading : Reading α) (before : Trace) : Trace :=
  let cursor := r.connection.nextCursor before
  .logged r.notice ::
    match r.denial before with
    | some _ => [.denied]
    | none => .opened cursor.index :: (r.execution reading cursor ++ [.released cursor.index])

def statement (r : Request) (cursor : Cursor) : Statement :=
  { cursor, sql := r.sql, count := some r.values.length }

/-- Opens a cursor for the text, fills its slots, uses it and closes it. -/
def carryOut (r : Request) (reading : Reading α) : Exchange α := do
  Exchange.log r.notice
  let cursor ← r.connection.openCursor
  (r.statement cursor).complete (Assignment.number 0 r.values) reading.use

/-- The prepared statement is filled, used if all its values can be bound, and closed. -/
theorem after_complete (r : Request) (reading : Reading α) (cursor : Cursor) {trace : Trace}
    (fresh : trace.executionsOn cursor.index = 0) :
    ((r.statement cursor).complete (Assignment.number 0 r.values) reading.use).after trace =
      (unlessFault cursor.script.closeFault
        (match driverValues r.values with
          | .ok _ => reading.answer cursor.script 0
          | .error e => .error e),
        trace ++ (r.execution reading cursor ++ [.released cursor.index])) := by
  have pass := (r.statement cursor).assignAll_fresh r.values rfl rfl
  have release : ∀ later : Trace, (r.statement cursor).release.after later =
      (unlessFault cursor.script.closeFault (.ok ()), later ++ [.released cursor.index]) :=
    fun later => Statement.after_release rfl later
  rw [Statement.complete, Statement.scope, Exchange.after_tryFinally]
  simp only [execution, release]
  cases converted : driverValues r.values with
  | error e =>
    rw [converted] at pass
    generalize (r.statement cursor).assignAll (Assignment.number 0 r.values) = done at pass
    obtain ⟨result, filled⟩ := done
    simp only at pass
    subst pass
    rw [Exchange.after_bind_error (Exchange.after_lift _ _)]
    cases cursor.script.closeFault <;> rfl
  | ok params =>
    rw [converted] at pass
    obtain ⟨slots, filled, all⟩ := pass
    have used := reading.after_use { r.statement cursor with slots } params trace rfl all
    have first : trace.executionsOn (r.statement cursor).cursor.index = 0 := fresh
    simp only [first] at used
    rw [filled]
    simp only
    rw [Exchange.after_bind_ok (Exchange.after_lift _ _), used, List.append_assoc]
    cases cursor.script.closeFault <;> rfl

theorem after_carryOut (r : Request) (reading : Reading α) (trace : Trace) :
    (r.carryOut reading).after trace =
      (r.outcome reading trace, trace ++ r.events reading trace) := by
  have opened : Trace.openedCursors (trace ++ [.logged r.notice]) = trace.openedCursors := by
    simp [Trace.openedCursors, Event.opened?]
  rw [carryOut, Exchange.after_bind_ok (Exchange.after_log _ _), Exchange.after_bind,
    Connection.after_openCursor, Connection.nextCursor, opened, Trace.cursorCalls_logged]
  cases faulty : r.connection.cursorFault trace.cursorCalls with
  | some raised => simp [outcome, events, denial, faulty]
  | none =>
    have fresh := Trace.executionsOn_opened (trace ++ [.logged r.notice]) trace.openedCursors.length
    have completed := r.after_complete reading (r.connection.nextCursor trace) fresh
    rw [Connection.nextCursor] at completed
    simp only [completed]
    simp [outcome, events, denial, faulty, script, Connection.nextCursor]

end Request

/-- The outcome of a call and the trace it leaves, by what it asks for. -/
def course {α : Type} (asked : Except Error Request) (reading : Reading α) (trace : Trace) :
    Except Error α × Trace :=
  match asked with
  | .error e => (.error e, trace)
  | .ok r => (r.outcome reading trace, trace ++ r.events reading trace)

/-- Rows that were read are told to the log. -/
def reported (record : Nat → LogRecord) (ended : Except Error (List Row) × Trace) :
    Except Error (List Row) × Trace :=
  match ended with
  | (.ok rows, trace) => (.ok rows, trace ++ [.logged (record rows.length)])
  | (.error e, trace) => (.error e, trace)

theorem after_reporting (x : Exchange (List Row)) (record : Nat → LogRecord) (trace : Trace) :
    (do let rows ← x; Exchange.log (record rows.length); return rows : Exchange (List Row)).after
      trace = reported record (x.after trace) := by
  rw [Exchange.after_bind]
  obtain ⟨outcome, later⟩ := x.after trace
  cases outcome <;> rfl

namespace Query

/-- What a query asks for: its rendered text with markers, and a value for each placeholder. -/
def request (q : Query) (loaded : LoadedModules) (target : Target) (params : NamedValues) :
    Except Error Request := do
  let db := target.resolve loaded q.dialect
  let connection ← db.usable
  let positional ← db.dialect.rewrite (q.render params)
  let names := Template.placeholders (q.render params)
  return {
    connection, sql := positional, notice := .preparing positional names.length
    values := names.map fun name => (name, params.get name) }

def prepared (q : Query) (loaded : LoadedModules) (target : Target) (params : NamedValues) :
    Exchange Statement :=
  (target.resolve loaded q.dialect).prepare (q.render params)

theorem complete_eq_prepared {α : Type} (q : Query) (loaded : LoadedModules) (target : Target)
    (params : NamedValues) (use : Statement → Exchange α) :
    q.complete loaded target params use = (do
      let st ← q.prepared loaded target params
      st.complete (Assignment.ofText (q.render params) params 0) use) := rfl

theorem after_complete {α : Type} (q : Query) (loaded : LoadedModules) (target : Target)
    (params : NamedValues) (reading : Reading α) (trace : Trace) :
    (q.complete loaded target params reading.use).after trace =
      course (q.request loaded target params) reading trace := by
  rw [complete_eq_prepared, prepared, Database.prepare, request]
  generalize target.resolve loaded q.dialect = db
  cases db.usable with
  | error e =>
    rw [Exchange.after_bind_error (Exchange.after_bind_error (Exchange.after_lift _ _))]
    rfl
  | ok connection =>
    cases db.dialect.rewrite (q.render params) with
    | error e =>
      simp only [Exchange.lift_ok, pure_bind]
      rw [Exchange.after_bind_error (Exchange.after_bind_error (Exchange.after_lift _ _))]
      rfl
    | ok positional =>
      simp only [Exchange.lift_ok, pure_bind, bind_assoc]
      generalize values : ((Template.placeholders (q.render params)).map
        fun name => (name, params.get name)) = pairs
      have length : (Template.placeholders (q.render params)).length = pairs.length := by
        rw [← values, List.length_map]
      rw [Assignment.ofText, values, length]
      exact Request.after_carryOut
        ⟨connection, positional, .preparing positional pairs.length, pairs⟩ reading trace

theorem after_update (q : Query) (loaded : LoadedModules) (target : Target)
    (params : NamedValues) (trace : Trace) :
    (q.update loaded target params).after trace =
      course (q.request loaded target params) .count trace :=
  q.after_complete loaded target params .count trace

theorem after_rows (q : Query) (loaded : LoadedModules) (target : Target) (params : NamedValues)
    (trace : Trace) :
    (q.rows loaded target params).after trace =
      reported .returned (course (q.request loaded target params) .rows trace) := by
  rw [← q.after_complete loaded target params .rows trace]
  exact after_reporting _ _ _

end Query

namespace Table

/-- What an operation asks for: a text with markers, and a value for each of them. -/
def request (table : Table) (loaded : LoadedModules) (target : Target)
    (sql : Dialect → Except Error String) (values : List (String × Value)) :
    Except Error Request := do
  let db := target.resolve loaded table.dialect
  let text ← sql db.dialect
  let connection ← db.usable
  return { connection, sql := text, notice := .preparingPositional text, values }

theorem after_complete {α : Type} (table : Table) (loaded : LoadedModules) (target : Target)
    (sql : Dialect → Except Error String) (values : List (String × Value)) (reading : Reading α)
    (trace : Trace) :
    (table.complete loaded target sql values.length (Assignment.number 0 values) reading.use).after
        trace = course (table.request loaded target sql values) reading trace := by
  rw [complete, request]
  generalize target.resolve loaded table.dialect = db
  cases sql db.dialect with
  | error e =>
    rw [Exchange.after_bind_error (Exchange.after_lift _ _)]
    rfl
  | ok text =>
    simp only [Exchange.lift_ok, pure_bind, Database.preparePositional]
    cases db.usable with
    | error e =>
      rw [Exchange.after_bind_error (Exchange.after_bind_error (Exchange.after_lift _ _))]
      rfl
    | ok connection =>
      simp only [Exchange.lift_ok, pure_bind, bind_assoc]
      exact Request.after_carryOut ⟨connection, text, .preparingPositional text, values⟩ reading
        trace

theorem after_insert (table : Table) (loaded : LoadedModules) (target : Target)
    (values : NamedValues) (trace : Trace) :
    (table.insert loaded target values).after trace =
      course (table.request loaded target (TableSql.insert · table.name values.names)
        values.entries) .count trace :=
  table.after_complete loaded target _ _ .count trace

/-- The values of an update fill the slots first, and those of its conditions follow. -/
theorem after_update (table : Table) (loaded : LoadedModules) (target : Target)
    (values conditions : NamedValues) (trace : Trace) :
    (table.update loaded target values conditions).after trace =
      course (table.request loaded target
        (TableSql.update · table.name values.names conditions.names)
        (values.entries ++ conditions.entries)) .count trace := by
  have slots : Assignment.ofColumns values 0 ++ Assignment.ofColumns conditions values.size =
      Assignment.number 0 (values.entries ++ conditions.entries) := by
    rw [Assignment.number_append, Int.zero_add]
    rfl
  have size : values.size + conditions.size = (values.entries ++ conditions.entries).length :=
    List.length_append.symm
  rw [update, slots, size]
  exact table.after_complete loaded target _ _ .count trace

theorem after_delete (table : Table) (loaded : LoadedModules) (target : Target)
    (conditions : NamedValues) (trace : Trace) :
    (table.delete loaded target conditions).after trace =
      course (table.request loaded target (TableSql.delete · table.name conditions.names)
        conditions.entries) .count trace :=
  table.after_complete loaded target _ _ .count trace

theorem after_select (table : Table) (loaded : LoadedModules) (target : Target)
    (columns : Columns) (conditions : NamedValues) (trace : Trace) :
    (table.select loaded target columns conditions).after trace =
      reported (.selected table.name) (course (table.request loaded target
        (TableSql.select · table.name columns.names conditions.names) conditions.entries)
        .rows trace) := by
  rw [← table.after_complete loaded target _ _ .rows trace]
  exact after_reporting _ _ _

end Table
end SqlTemplate
