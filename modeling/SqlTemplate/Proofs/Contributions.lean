import SqlTemplate.Proofs.SessionSteps

/-!
# What an exchange contributes

An exchange looks at the trace before it to count what went before: cursors and calls for cursors,
closings of the connection, and executions on its own cursor. So its outcome and the events it adds
are settled once these numbers are known. The rules below give both for the ways exchanges are put
together, and from them what is contributed by the use of a statement, by a preparation and by the
closing of a database.
-/

namespace SqlTemplate

namespace LogRecord

def prepared? : LogRecord → Option String
  | .preparing sql _ | .preparingPositional sql => some sql
  | _ => none

end LogRecord

namespace Trace

theorem records_append (first second : Trace) :
    records (first ++ second) = first.records ++ second.records := List.filterMap_append

structure Plain (events : Trace) : Prop where
  unasked : events.cursorCalls = 0
  unprepared : events.records.filterMap LogRecord.prepared? = []

theorem plain_nil : Plain [] := ⟨rfl, rfl⟩

theorem Plain.append {first second : Trace} (plain : first.Plain) (more : second.Plain) :
    Plain (first ++ second) := by
  constructor
  · rw [cursorCalls_append, plain.unasked, more.unasked]
  · rw [records_append, List.filterMap_append, plain.unprepared, more.unprepared]
    rfl

theorem Plain.unopened {events : Trace} (plain : events.Plain) : events.openedCursors = [] := by
  refine List.filterMap_eq_nil_iff.mpr fun event member => ?_
  have unasked := List.countP_eq_zero.mp plain.unasked event member
  cases event <;> first | rfl | exact absurd rfl unasked

/-- A cursor was handed so many texts since it was opened. -/
def Ran (cursor ran : Nat) (trace : Trace) : Prop := trace.executionsOn cursor = ran

/-- The trace has counts equal to those of another one. -/
structure Matches (past trace : Trace) : Prop where
  opened : trace.openedCursors.length = past.openedCursors.length
  asked : trace.cursorCalls = past.cursorCalls
  disconnected : trace.disconnections = past.disconnections
  ran : ∀ cursor, trace.Ran cursor (past.executionsOn cursor)

theorem Matches.refl (past : Trace) : past.Matches past := ⟨rfl, rfl, rfl, fun _ => rfl⟩

/-- The log is not counted. -/
theorem Matches.logged {past trace : Trace} (alike : past.Matches trace) (record : LogRecord) :
    past.Matches (trace ++ [.logged record]) := by
  refine ⟨?_, ?_, ?_, fun cursor => ?_⟩
  · rw [openedCursors_append, List.length_append, alike.opened]
    rfl
  · rw [cursorCalls_logged, alike.asked]
  · rw [disconnections_append, alike.disconnected]
    rfl
  · rw [Ran, executionsOn_logged]
    exact alike.ran cursor

end Trace

namespace Exchange

variable {α β : Type}

/-- On every trace of a kind, the exchange comes to the outcome and adds the events. -/
def Yields (x : Exchange α) (kind : Trace → Prop) (outcome : Except Error α) (events : Trace) :
    Prop :=
  ∀ trace : Trace, kind trace → x.after trace = (outcome, trace ++ events)

variable (kind : Trace → Prop)

theorem yields_lift (r : Except Error α) : (liftM r : Exchange α).Yields kind r [] := by
  intro trace _
  rw [after_lift, List.append_nil]

theorem yields_log (record : LogRecord) : (log record).Yields kind (.ok ()) [.logged record] :=
  fun trace _ => after_log record trace

namespace Yields

variable {x : Exchange α} {f : α → Exchange β} {kind next : Trace → Prop} {events more : Trace}

/-- What comes after an exchange that succeeds adds its events to those of the exchange. -/
theorem bind {a : α} {outcome : Except Error β} (first : x.Yields kind (.ok a) events)
    (second : (f a).Yields next outcome more)
    (reaches : ∀ trace, kind trace → next (trace ++ events)) :
    (x >>= f).Yields kind outcome (events ++ more) := by
  intro trace given
  rw [after_bind_ok (first trace given), second _ (reaches trace given), List.append_assoc]

theorem bind_error {e : Error} (first : x.Yields kind (.error e) events) :
    (x >>= f).Yields kind (.error e) events :=
  fun trace given => after_bind_error (first trace given)

theorem map {outcome : Except Error α} (g : α → β) (yields : x.Yields kind outcome events) :
    (g <$> x).Yields kind (outcome.map g) events := by
  intro trace given
  rw [after_map, yields trace given]

/-- What is done at last adds its events in any case, and its failure takes the place of the
outcome. -/
theorem tryFinally {last : Exchange Unit} {outcome : Except Error α} {ended : Except Error Unit}
    (body : x.Yields kind outcome events)
    (closing : ∀ kind, last.Yields kind ended more) :
    (tryFinally x last).Yields kind (ended.bind fun _ => outcome) (events ++ more) := by
  intro trace given
  have later := closing (fun _ => True) (trace ++ events) trivial
  rw [after_tryFinally, body trace given]
  simp only [later, List.append_assoc]
  cases ended <;> rfl

end Yields
end Exchange

namespace Statement

variable {α : Type}

/-- The events of executing a statement whose cursor executed so often before: an open statement
with all its parameters tells the log and hands its text over, and an update that is not refused
tells how many rows it affected. -/
def executionEvents (st : Statement) (updates : Bool) (ran : Nat) : Trace :=
  match st.closed, st.parameters with
  | false, .ok values =>
    .logged (.executing st.sql values.length) :: .executed st.cursor.index st.sql values ::
      if updates && (st.cursor.script.executeFault ran).isNone then
        [.logged (.affected st.cursor.script.rowcount)]
      else []
  | _, _ => []

def closingEvents (st : Statement) : Trace :=
  if st.closed then [] else [.released st.cursor.index]

theorem plain_executionEvents (st : Statement) (updates : Bool) (ran : Nat) :
    (st.executionEvents updates ran).Plain := by
  unfold executionEvents
  split
  · split <;> exact ⟨rfl, rfl⟩
  · exact Trace.plain_nil

theorem plain_closingEvents (st : Statement) : st.closingEvents.Plain := by
  unfold closingEvents
  split <;> exact ⟨rfl, rfl⟩

/-- Whatever is done with a statement, it comes to the same whenever its cursor executed as often
before, and its events are those of one execution. -/
def Uses (use : Statement → Exchange α) (updates : Bool) : Prop :=
  ∀ st ran, ∃ outcome,
    (use st).Yields (Trace.Ran st.cursor.index ran) outcome (st.executionEvents updates ran)

theorem uses_execute : Uses execute false := by
  intro st ran
  unfold executionEvents
  cases closed : st.closed with
  | true =>
    refine ⟨.error .statementClosed, fun trace _ => ?_⟩
    simp [after_execute_closed closed]
  | false =>
    cases filled : st.parameters with
    | error e =>
      refine ⟨.error e, fun trace _ => ?_⟩
      simp [after_execute_unfilled closed filled]
    | ok values =>
      refine ⟨unlessFault (st.cursor.script.executeFault ran) (.ok ()), fun trace before => ?_⟩
      rw [after_execute closed filled, show trace.executionsOn st.cursor.index = ran from before]
      rfl

theorem uses_executeRows : Uses executeRows false := by
  intro st ran
  obtain ⟨outcome, executes⟩ := uses_execute st ran
  cases outcome with
  | error e => exact ⟨.error e, executes.bind_error⟩
  | ok _ =>
    have reads := executes.bind (f := fun _ => (liftM st.cursor.script.mapRows : Exchange _))
      (Exchange.yields_lift (fun _ => True) st.cursor.script.mapRows) fun _ _ => trivial
    rw [List.append_nil] at reads
    exact ⟨_, reads⟩

/-- An update that is executed without fault tells the log how many rows it affected. -/
theorem uses_executeUpdate : Uses executeUpdate true := by
  intro st ran
  unfold executionEvents
  cases closed : st.closed with
  | true =>
    refine ⟨.error .statementClosed, fun trace _ => ?_⟩
    have stops := after_execute_closed closed trace
    simp [executeUpdate, Exchange.after_bind_error stops]
  | false =>
    cases filled : st.parameters with
    | error e =>
      refine ⟨.error e, fun trace _ => ?_⟩
      have stops := after_execute_unfilled closed filled trace
      simp [executeUpdate, Exchange.after_bind_error stops]
    | ok values =>
      refine ⟨Reading.count.answer st.cursor.script ran, fun trace before => ?_⟩
      have used := Reading.count.after_use st values trace closed filled
      change st.executeUpdate.after trace = _ at used
      rw [used, show trace.executionsOn st.cursor.index = ran from before]
      cases faulty : st.cursor.script.executeFault ran <;> simp [Reading.count, faulty]

theorem release_yields (st : Statement) :
    ∃ outcome, ∀ kind, st.release.Yields kind outcome st.closingEvents := by
  unfold closingEvents
  cases closed : st.closed with
  | true =>
    refine ⟨.ok (), fun kind trace _ => ?_⟩
    simp [release, closed]
  | false => exact ⟨_, fun kind trace _ => after_release closed trace⟩

/-- Leaving the scope of a statement closes it whatever was done in there. -/
theorem scope_yields (st : Statement) {body : Exchange α} {kind : Trace → Prop}
    {outcome : Except Error α} {events : Trace} (runs : body.Yields kind outcome events) :
    ∃ result, (st.scope body).Yields kind result (events ++ st.closingEvents) := by
  obtain ⟨ended, closing⟩ := st.release_yields
  exact ⟨_, runs.tryFinally closing⟩

/-- A pass over the slots leaves a statement its cursor and its text. -/
theorem assignAll_frame (st : Statement) {assignments : List Assignment}
    {outcome : Except Error Unit} {filled : Statement}
    (pass : st.assignAll assignments = (outcome, filled)) :
    filled.cursor = st.cursor ∧ filled.sql = st.sql := by
  have same := st.assignAll_snd assignments
  rw [pass] at same
  rw [show filled = _ from same]
  exact ⟨rfl, rfl⟩

/-- The events of filling a statement, using it and closing it: nothing is executed where a value is
refused. -/
def completionEvents (st : Statement) (assignments : List Assignment) (updates : Bool) (ran : Nat) :
    Trace :=
  (match st.assignAll assignments with
    | (.ok _, filled) => filled.executionEvents updates ran
    | (.error _, _) => []) ++ st.closingEvents

theorem complete_yields {use : Statement → Exchange α} {updates : Bool} (uses : Uses use updates)
    (st : Statement) (assignments : List Assignment) (ran : Nat) :
    ∃ outcome, (st.complete assignments use).Yields (Trace.Ran st.cursor.index ran) outcome
      (st.completionEvents assignments updates ran) := by
  unfold completionEvents complete
  cases pass : st.assignAll assignments with
  | mk bound filled =>
    cases bound with
    | error e => exact st.scope_yields (Exchange.yields_lift _ (.error e)).bind_error
    | ok _ =>
      obtain ⟨outcome, used⟩ := uses filled ran
      rw [(st.assignAll_frame pass).1] at used
      have runs := (Exchange.yields_lift _ (.ok ())).bind (f := fun _ => use filled) used
        fun trace before => (List.append_nil trace).symm ▸ before
      exact st.scope_yields runs

def stepEvents (st : Statement) (ran : Nat) : StatementStep → Trace
  | .executeQuery => st.executionEvents false ran
  | .executeUpdate => st.executionEvents true ran
  | .close => st.closingEvents
  | .executeAndClose => st.executionEvents true ran ++ st.closingEvents
  | _ => []

/-- A step on a statement comes to the same whenever the cursor of the statement executed as often
before. -/
theorem run_perform (st : Statement) (step : StatementStep) (ran : Nat) :
    ∃ reply, ∀ trace, Trace.Ran st.cursor.index ran trace →
      (st.perform step).run trace = (reply, trace ++ st.stepEvents ran step) := by
  cases step with
  | executeQuery =>
    obtain ⟨outcome, yields⟩ := uses_execute st ran
    refine ⟨(outcome.map fun _ => .cursor st.cursor.index, st), fun trace before => ?_⟩
    rw [perform, run_exchange, yields trace before]
    rfl
  | executeUpdate =>
    obtain ⟨outcome, yields⟩ := uses_executeUpdate st ran
    refine ⟨(outcome.map .affected, st), fun trace before => ?_⟩
    rw [perform, run_exchange, yields trace before]
    rfl
  | close =>
    obtain ⟨outcome, yields⟩ := st.release_yields
    refine ⟨(outcome.map fun _ => .done, st.shut), fun trace before => ?_⟩
    have runs : (st.perform .close).run trace =
        (((st.release.after trace).1.map fun _ => .done, st.shut),
          (st.release.after trace).2) := rfl
    rw [runs, yields _ trace before]
    rfl
  | executeAndClose =>
    obtain ⟨_, executes⟩ := uses_executeUpdate st ran
    obtain ⟨outcome, yields⟩ := st.scope_yields executes
    refine ⟨(outcome.map .affected, st.shut), fun trace before => ?_⟩
    have runs : (st.perform .executeAndClose).run trace =
        ((((st.scope st.executeUpdate).after trace).1.map .affected, st.shut),
          ((st.scope st.executeUpdate).after trace).2) := rfl
    rw [runs, yields trace before]
    rfl
  | _ => exact ⟨_, fun trace _ => congrArg (Prod.mk _) (List.append_nil trace).symm⟩

/-- What holds of executing a statement, and still holds when the statement is closed after it,
holds of every step on the statement. -/
theorem stepEvents_induction {motive : Trace → Prop} (st : Statement) {ran : Nat} (nil : motive [])
    (execution : ∀ updates, motive (st.executionEvents updates ran))
    (closing : ∀ events, motive events → motive (events ++ st.closingEvents))
    (step : StatementStep) : motive (st.stepEvents ran step) := by
  cases step with
  | executeQuery | executeUpdate => exact execution _
  | close => exact closing [] nil
  | executeAndClose => exact closing _ (execution true)
  | _ => exact nil

/-- The same of what a call does with its statement, where the execution is one of the statement
that its values filled. -/
theorem completionEvents_induction {motive : Trace → Prop} (st : Statement)
    {assignments : List Assignment} {updates : Bool} {ran : Nat} (nil : motive [])
    (execution : ∀ filled, st.assignAll assignments = (.ok (), filled) →
      motive (filled.executionEvents updates ran))
    (closing : ∀ events, motive events → motive (events ++ st.closingEvents)) :
    motive (st.completionEvents assignments updates ran) := by
  refine closing _ ?_
  split
  · next filled pass => exact execution filled pass
  · exact nil

theorem plain_stepEvents (st : Statement) (ran : Nat) (step : StatementStep) :
    (st.stepEvents ran step).Plain :=
  st.stepEvents_induction Trace.plain_nil (st.plain_executionEvents · ran)
    (fun _ plain => plain.append st.plain_closingEvents) step

theorem plain_completionEvents (st : Statement) (assignments : List Assignment) (updates : Bool)
    (ran : Nat) : (st.completionEvents assignments updates ran).Plain :=
  st.completionEvents_induction Trace.plain_nil
    (fun filled _ => filled.plain_executionEvents updates ran)
    fun _ plain => plain.append st.plain_closingEvents

end Statement

/-- What a preparation over a connection comes to after a trace: it is refused before anything
happens, or it tells the log which text it prepares, and then the connection fails to open a cursor
or opens the next one for a statement on this text. -/
inductive Preparation (connection : Option Connection) (past : Trace) :
    Except Error Statement → Trace → Prop where
  | refused (e : Error) : Preparation connection past (.error e) []
  | unopened {used : Connection} {raised : Fault} {notice : LogRecord} {sql : String}
    (held : connection = some used) (faulty : used.cursorFault past.cursorCalls = some raised)
    (tells : notice.prepared? = some sql) :
    Preparation connection past (.error (.fault raised)) [.logged notice, .denied]
  | opened {used : Connection} {notice : LogRecord} {st : Statement}
    (held : connection = some used) (sound : used.cursorFault past.cursorCalls = none)
    (own : st.cursor = used.nextCursor past) (fresh : st.closed = false)
    (tells : notice.prepared? = some st.sql) :
    Preparation connection past (.ok st) [.logged notice, .opened past.openedCursors.length]

/-- Where there is no connection, a preparation is refused. -/
theorem Preparation.of_missing {past : Trace} {outcome : Except Error Statement} {events : Trace}
    (prepared : Preparation none past outcome events) (connection : Option Connection) :
    Preparation connection past outcome events := by
  cases prepared with
  | refused e => exact .refused e
  | unopened held => cases held
  | opened held => cases held

/-- The cursor of a statement that was just prepared has executed nothing. -/
theorem Preparation.unused {connection : Option Connection} {past : Trace} {st : Statement}
    {events : Trace} (prepared : Preparation connection past (.ok st) events) (trace : Trace) :
    Trace.Ran st.cursor.index 0 (trace ++ events) := by
  cases prepared with
  | @opened used notice _ _ _ own =>
    have opened := Trace.executionsOn_opened (trace ++ [.logged notice]) past.openedCursors.length
    rw [List.append_assoc] at opened
    rw [own]
    exact opened

def PreparesOn (connection : Option Connection) (prepared : Exchange Statement) : Prop :=
  ∀ past : Trace, ∃ outcome events,
    prepared.Yields past.Matches outcome events ∧ Preparation connection past outcome events

/-- A preparation may be preceded by what only can be refused. -/
theorem PreparesOn.bind_lift {α : Type} {connection : Option Connection} {part : Except Error α}
    {f : α → Exchange Statement} (prepares : ∀ a, part = .ok a → PreparesOn connection (f a)) :
    PreparesOn connection (liftM part >>= f) := by
  intro past
  cases found : part with
  | error e => exact ⟨.error e, [], (Exchange.yields_lift _ (.error e)).bind_error, .refused e⟩
  | ok a =>
    rw [Exchange.lift_ok, pure_bind]
    exact prepares a found past

theorem Connection.openCursor_yields (connection : Connection) (past : Trace) :
    match connection.cursorFault past.cursorCalls with
    | some raised => connection.openCursor.Yields past.Matches (.error (.fault raised)) [.denied]
    | none => connection.openCursor.Yields past.Matches (.ok (connection.nextCursor past))
        [.opened past.openedCursors.length] := by
  cases faulty : connection.cursorFault past.cursorCalls with
  | some raised =>
    intro trace alike
    rw [after_openCursor, alike.asked, faulty]
  | none =>
    intro trace alike
    rw [after_openCursor, alike.asked, faulty, nextCursor, alike.opened]
    rfl

/-- A connection that can be used is told which text is prepared, and opens a cursor for it. -/
theorem preparesOn_connection (connection : Connection) {notice : LogRecord} {sql : String}
    {make : Cursor → Statement} (tells : notice.prepared? = some sql)
    (made : ∀ cursor, (make cursor).cursor = cursor ∧ (make cursor).sql = sql ∧
      (make cursor).closed = false) :
    PreparesOn (some connection) (do
      Exchange.log notice
      let cursor ← connection.openCursor
      return make cursor) := by
  intro past
  have told := Exchange.yields_log past.Matches notice
  have reaches : ∀ trace, past.Matches trace → past.Matches (trace ++ [.logged notice]) :=
    fun _ alike => alike.logged notice
  have opening := connection.openCursor_yields past
  cases faulty : connection.cursorFault past.cursorCalls with
  | some raised =>
    rw [faulty] at opening
    exact ⟨_, _, told.bind opening.bind_error reaches, .unopened rfl faulty tells⟩
  | none =>
    rw [faulty] at opening
    obtain ⟨cursor, text, fresh⟩ := made (connection.nextCursor past)
    refine ⟨_, _, told.bind (opening.map make) reaches, .opened rfl faulty cursor fresh ?_⟩
    rw [text]
    exact tells

namespace Database

variable (db : Database)

theorem usable_eq_ok {connection : Connection} (usable : db.usable = .ok connection) :
    db.connection = some connection := by
  unfold Database.usable at usable
  split at usable
  · next held =>
    cases usable
    exact held
  · cases usable

theorem preparesOn_prepare (sql : String) : PreparesOn db.connection (db.prepare sql) := by
  refine .bind_lift fun connection usable => ?_
  rw [db.usable_eq_ok usable]
  refine .bind_lift fun positional _ => ?_
  exact preparesOn_connection connection rfl fun _ => ⟨rfl, rfl, rfl⟩

theorem preparesOn_preparePositional (sql : String) (count : Option Int) :
    PreparesOn db.connection (db.preparePositional sql count) := by
  refine .bind_lift fun connection usable => ?_
  rw [db.usable_eq_ok usable]
  exact preparesOn_connection connection rfl fun _ => ⟨rfl, rfl, rfl⟩

theorem disconnect_yields (past : Trace) :
    ∃ outcome, db.disconnect.Yields past.Matches outcome db.farewell := by
  unfold disconnect farewell
  obtain ⟨connection, dialect, closed⟩ := db
  cases closed with
  | true => exact ⟨.ok (), fun trace _ => by simp⟩
  | false =>
    cases connection with
    | none => exact ⟨.ok (), fun trace _ => by simp⟩
    | some connection =>
      cases closable : connection.closable with
      | false => exact ⟨.ok (), fun trace _ => by simp [Connection.after_close, closable]⟩
      | true =>
        refine ⟨unlessFault (connection.closeFault past.disconnections) (.ok ()),
          fun trace alike => ?_⟩
        simp [Connection.after_close, closable, alike.disconnected]

end Database

end SqlTemplate
