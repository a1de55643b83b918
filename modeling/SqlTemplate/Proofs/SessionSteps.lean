import SqlTemplate.Proofs.SlotHistory

/-!
# What the steps of a session add to its trace

A call on a query or a table comes to one visit of the connection at most: it opens a cursor,
executes once or not at all, and closes the cursor. A preparation opens a cursor for its statement,
a step on a statement uses or closes the cursor of the statement, and closing a database closes the
connection. Each step does one of these things and changes what it names; what a whole session does
to its cursors and its connection follows from these moves alone. -/

namespace SqlTemplate

namespace Trace

variable (first second trace : Trace)

theorem openedCursors_append :
    openedCursors (first ++ second) = first.openedCursors ++ second.openedCursors :=
  List.filterMap_append

theorem releasedCursors_append :
    releasedCursors (first ++ second) = first.releasedCursors ++ second.releasedCursors :=
  List.filterMap_append

theorem disconnections_append :
    disconnections (first ++ second) = first.disconnections + second.disconnections :=
  List.countP_append

theorem filterMap_traffic {β : Type} {view : Event → Option β}
    (blind : ∀ record, view (.logged record) = none) :
    trace.traffic.filterMap view = trace.filterMap view := by
  have same : (fun event : Event => if event.record?.isNone then view event else none) = view := by
    funext event
    cases event with
    | logged record => exact (blind record).symm
    | _ => rfl
  rw [traffic, List.filterMap_filter, same]

theorem openedCursors_traffic : trace.traffic.openedCursors = trace.openedCursors :=
  trace.filterMap_traffic fun _ => rfl

theorem releasedCursors_traffic : trace.traffic.releasedCursors = trace.releasedCursors :=
  trace.filterMap_traffic fun _ => rfl

theorem executions_traffic : trace.traffic.executions = trace.executions :=
  trace.filterMap_traffic fun _ => rfl

theorem disconnections_traffic : trace.traffic.disconnections = trace.disconnections := by
  rw [disconnections, traffic, List.countP_filter]
  refine List.countP_congr fun event _ => ?_
  cases event <;> simp [Event.isDisconnection, Event.record?]

end Trace

/-- The traffic of a call that gets the cursor with the given number, if any. -/
inductive Visit (cursor : Nat) : Trace → Prop where
  | refused : Visit cursor []
  | denied : Visit cursor [.denied]
  | unused : Visit cursor [.opened cursor, .released cursor]
  | used (sql : String) (params : List Value) :
    Visit cursor [.opened cursor, .executed cursor sql params, .released cursor]

def Visits (before after : Trace) : Prop :=
  ∃ events, after = before ++ events ∧ Visit before.openedCursors.length events.traffic

theorem Visits.refl (trace : Trace) : Visits trace trace :=
  ⟨[], (List.append_nil trace).symm, .refused⟩

theorem course_visits {α : Type} (asked : Except Error Request) (reading : Reading α)
    (trace : Trace) : Visits trace (course asked reading trace).2 := by
  cases asked with
  | error e => exact .refl trace
  | ok r =>
    refine ⟨_, rfl, ?_⟩
    cases faulty : r.denial trace with
    | some raised =>
      rw [Request.traffic_events_denied reading faulty]
      exact .denied
    | none =>
      rw [Request.traffic_events reading faulty, Request.traffic_execution]
      cases driverValues r.values with
      | error e => exact .unused
      | ok params => exact .used r.sql params

theorem Visits.reported {before : Trace} {ended : Except Error (List Row) × Trace}
    (record : Nat → LogRecord) (visits : Visits before ended.2) :
    Visits before (reported record ended).2 := by
  obtain ⟨outcome, after⟩ := ended
  obtain ⟨events, rfl, visit⟩ := visits
  cases outcome with
  | error e => exact ⟨events, rfl, visit⟩
  | ok rows =>
    have quiet : Trace.traffic [.logged (record rows.length)] = [] := rfl
    refine ⟨events ++ [.logged (record rows.length)], ?_, ?_⟩
    · exact List.append_assoc before events _
    · rw [Trace.traffic_append, quiet, List.append_nil]
      exact visit

def Trace.Numbered (trace : Trace) : Prop :=
  trace.openedCursors = List.range trace.openedCursors.length

def OpensNext (before after : Trace) : Prop :=
  after.openedCursors = before.openedCursors ∨
    after.openedCursors = before.openedCursors ++ [before.openedCursors.length]

theorem Trace.Numbered.next {before after : Trace} (numbered : before.Numbered)
    (opens : OpensNext before after) : after.Numbered := by
  rcases opens with same | another
  · rw [Trace.Numbered, same]
    exact numbered
  · rw [Trace.Numbered, another, List.length_append, List.length_singleton, List.range_succ,
      ← numbered]

theorem Trace.Numbered.fresh {trace : Trace} (numbered : trace.Numbered) :
    trace.openedCursors.length ∉ trace.openedCursors := by
  intro held
  rw [numbered, List.mem_range, List.length_range] at held
  exact Nat.lt_irrefl _ held

/-- What a step on a statement with the given cursor can come to: whether the statement was closed
before, what the cursor is told, and whether the statement is closed after it. -/
inductive StatementMove (cursor : Nat) : Bool → Trace → Bool → Prop where
  | idle (closed : Bool) : StatementMove cursor closed [] closed
  | executed (sql : String) (params : List Value) :
    StatementMove cursor false [.executed cursor sql params] false
  | closed : StatementMove cursor false [.released cursor] true
  | executedAndClosed (sql : String) (params : List Value) :
    StatementMove cursor false [.executed cursor sql params, .released cursor] true

theorem StatementMove.opensNone {cursor : Nat} {traffic : Trace} {closed now : Bool}
    (move : StatementMove cursor closed traffic now) : traffic.openedCursors = [] := by
  cases move <;> rfl

namespace Statement

theorem Executes.move {st : Statement} {before : Trace}
    {ended : (Except Error Reply × Statement) × Trace} (executes : Executes st before ended) :
    ∃ events, ended.2 = before ++ events ∧
      StatementMove st.cursor.index st.closed events.traffic st.closed := by
  obtain ⟨_, course⟩ := executes
  have silent : ended.2 = before → ∃ events, ended.2 = before ++ events ∧
      StatementMove st.cursor.index st.closed events.traffic st.closed :=
    fun same => ⟨[], same.trans (List.append_nil _).symm, .idle _⟩
  cases closed : st.closed with
  | true =>
    rw [closed] at course silent
    exact silent course.2
  | false =>
    rw [closed] at course silent
    cases filled : st.parameters with
    | error e =>
      rw [filled] at course
      exact silent course.2
    | ok values =>
      rw [filled] at course
      obtain ⟨events, trace, handed⟩ := course
      refine ⟨events, trace, ?_⟩
      rw [handed]
      exact .executed st.sql values

theorem trace_after_release (st : Statement) (trace : Trace) :
    (st.release.after trace).2 =
      trace ++ if st.closed then [] else [.released st.cursor.index] := by
  cases closed : st.closed with
  | true =>
    rw [release, closed]
    exact (List.append_nil trace).symm
  | false => rw [after_release closed, if_neg Bool.false_ne_true]

/-- A statement that is executed and closed on leaving hands over its text at most once, and then
its cursor is closed unless that was done before. -/
theorem executeAndClose_move (st : Statement) (trace : Trace) :
    ∃ events, ((st.scope st.executeUpdate).after trace).2 = trace ++ events ∧
      StatementMove st.cursor.index st.closed events.traffic true := by
  have executes : StatementStep.executes .executeUpdate = true := rfl
  obtain ⟨events, between, move⟩ := (st.perform_executes executes trace).move
  change (st.executeUpdate.after trace).2 = _ at between
  have whole : ((st.scope st.executeUpdate).after trace).2 =
      trace ++ (events ++ if st.closed then [] else [.released st.cursor.index]) := by
    have last := st.trace_after_release (st.executeUpdate.after trace).2
    rw [scope, Exchange.after_tryFinally, ← List.append_assoc, ← between, ← last]
    generalize st.release.after (st.executeUpdate.after trace).2 = ended
    obtain ⟨outcome, later⟩ := ended
    cases outcome <;> rfl
  refine ⟨_, whole, ?_⟩
  rw [Trace.traffic_append]
  generalize events.traffic = told at move
  generalize st.closed = closed at move
  cases move with
  | idle =>
    cases closed with
    | true => exact .idle true
    | false => exact .closed
  | executed sql params => exact .executedAndClosed sql params

/-- What one step on a statement comes to. -/
theorem perform_move (st : Statement) (step : StatementStep) (trace : Trace) :
    let ended := (st.perform step).run trace
    ended.1.2.cursor = st.cursor ∧ ∃ events, ended.2 = trace ++ events ∧
      StatementMove st.cursor.index st.closed events.traffic ended.1.2.closed := by
  intro ended
  have next : ended.1.2 = { st with
      slots := (step.deeds st.count).foldl SlotDeed.apply st.slots
      closed := st.closed || step.closes } := st.perform_statement step trace
  have closed : ended.1.2.closed = (st.closed || step.closes) := by rw [next]
  have cursor : ended.1.2.cursor = st.cursor := by rw [next]
  refine ⟨cursor, ?_⟩
  rw [closed]
  cases step with
  | executeQuery | executeUpdate =>
    change ∃ events, _ ∧ StatementMove _ _ _ (st.closed || false)
    rw [Bool.or_false]
    exact (st.perform_executes rfl trace).move
  | close =>
    change ∃ events, _ ∧ StatementMove _ _ _ (st.closed || true)
    rw [Bool.or_true]
    refine ⟨_, st.trace_after_release trace, ?_⟩
    cases st.closed with
    | true => exact .idle true
    | false => exact .closed
  | executeAndClose =>
    change ∃ events, _ ∧ StatementMove _ _ _ (st.closed || true)
    rw [Bool.or_true]
    exact st.executeAndClose_move trace
  | _ =>
    change ∃ events, _ ∧ StatementMove _ _ _ (st.closed || false)
    rw [Bool.or_false]
    exact ⟨[], (List.append_nil trace).symm, .idle _⟩

end Statement

/-- A preparation opens the next cursor for a new statement. Or it fails and opens none, whether it
asked for one or not. -/
def Prepares (before : Trace) (ended : Except Error Statement × Trace) : Prop :=
  ∃ events, ended.2 = before ++ events ∧
    match ended.1 with
    | .ok st => events.traffic = [.opened before.openedCursors.length] ∧
        st.cursor.index = before.openedCursors.length ∧ st.closed = false
    | .error _ => events.traffic = [] ∨ events.traffic = [.denied]

namespace Database

theorem prepares_nothing (e : Error) (trace : Trace) : Prepares trace (.error e, trace) :=
  ⟨[], (List.append_nil trace).symm, .inl rfl⟩

/-- On a connection that can be used, a preparation tells the log and opens a cursor. -/
theorem prepares_on (connection : Connection) (record : LogRecord) {make : Cursor → Statement}
    (fresh : ∀ cursor, (make cursor).cursor = cursor ∧ (make cursor).closed = false)
    (trace : Trace) :
    Prepares trace ((do
      Exchange.log record
      let cursor ← connection.openCursor
      return make cursor : Exchange Statement).after trace) := by
  have logged : Trace.openedCursors (trace ++ [.logged record]) = trace.openedCursors := by
    rw [Trace.openedCursors_append]
    exact List.append_nil _
  rw [Exchange.after_bind_ok (Exchange.after_log _ _), Exchange.after_bind,
    Connection.after_openCursor, Connection.nextCursor, logged, Trace.cursorCalls_logged]
  cases connection.cursorFault trace.cursorCalls with
  | some raised =>
    exact ⟨[.logged record, .denied], List.append_assoc trace _ _, .inr rfl⟩
  | none =>
    obtain ⟨cursor, closed⟩ := fresh ⟨_, connection.script trace.openedCursors.length⟩
    refine ⟨[.logged record, .opened trace.openedCursors.length], List.append_assoc trace _ _, rfl,
      ?_, closed⟩
    rw [cursor]

theorem prepare_prepares (db : Database) (sql : String) (trace : Trace) :
    Prepares trace ((db.prepare sql).after trace) := by
  rw [prepare]
  cases db.usable with
  | error e => exact prepares_nothing e trace
  | ok connection =>
    cases db.dialect.rewrite sql with
    | error e => exact prepares_nothing e trace
    | ok positional => exact prepares_on connection _ (fun _ => ⟨rfl, rfl⟩) trace

theorem preparePositional_prepares (db : Database) (sql : String) (count : Option Int)
    (trace : Trace) : Prepares trace ((db.preparePositional sql count).after trace) := by
  rw [preparePositional]
  cases db.usable with
  | error e => exact prepares_nothing e trace
  | ok connection => exact prepares_on connection _ (fun _ => ⟨rfl, rfl⟩) trace

def farewell (db : Database) : Trace :=
  match db.closed, db.connection with
  | false, some connection => if connection.closable then [.disconnected] else []
  | _, _ => []

theorem trace_after_disconnect (db : Database) (trace : Trace) :
    (db.disconnect.after trace).2 = trace ++ db.farewell := by
  obtain ⟨connection, dialect, closed⟩ := db
  have silent : trace = trace ++ [] := (List.append_nil trace).symm
  cases closed with
  | true => exact silent
  | false => cases connection with
    | none => exact silent
    | some connection =>
      change (connection.close.after trace).2 =
        trace ++ if connection.closable then [.disconnected] else []
      rw [Connection.after_close]
      split
      · rfl
      · exact silent

theorem farewell_cases (db : Database) : db.farewell = [] ∨ db.farewell = [.disconnected] := by
  rw [farewell]
  split
  · split
    · exact .inr rfl
    · exact .inl rfl
  · exact .inl rfl

theorem traffic_farewell (db : Database) : db.farewell.traffic = db.farewell := by
  rcases db.farewell_cases with same | same <;> rw [same] <;> rfl

end Database

def Step.isCall : Step → Bool
  | .queryRows .. | .queryUpdate .. | .insert .. | .update .. | .delete .. | .select .. => true
  | _ => false

namespace Session

def performOver (s : Session) (step : Option Connection × Step) : Except Error Reply × Session :=
  { s with connection := step.1 }.perform step.2

def runOver (s : Session) (steps : List (Option Connection × Step)) : Session :=
  steps.foldl (fun reached step => (reached.performOver step).2) s

/-- Choosing a dialect changes the session's tags at most. -/
theorem choose_frame {s next : Session} {choice : DialectChoice} {dialect : Option Dialect}
    (chose : s.choose choice = .ok (dialect, next)) :
    next.connection = s.connection ∧ next.databases = s.databases ∧
      next.statements = s.statements ∧ next.trace = s.trace := by
  cases choice with
  | unspecified =>
    cases chose
    exact ⟨rfl, rfl, rfl, rfl⟩
  | made family styleName =>
    cases chose
    exact ⟨rfl, rfl, rfl, rfl⟩
  | ofDatabase index =>
    rw [choose] at chose
    cases found : s.database? index with
    | error e =>
      rw [found] at chose
      cases chose
    | ok db =>
      rw [found] at chose
      cases chose
      exact ⟨rfl, rfl, rfl, rfl⟩

/-- Introducing a dialect changes the session's tags at most. -/
theorem introduce_frame (s : Session) (d : Dialect) :
    let now := (s.introduce d).2
    now.connection = s.connection ∧ now.databases = s.databases ∧ now.statements = s.statements ∧
      now.trace = s.trace := by
  rw [introduce]
  split <;> exact ⟨rfl, rfl, rfl, rfl⟩

/-- A call changes no database and no statement, and visits the connection as its exchange does. -/
theorem call_frame (s : Session) (name : TargetName) (choice : DialectChoice)
    (run : Target → Option Dialect → Exchange Reply)
    (visits : ∀ target dialect, Visits s.trace ((run target dialect).after s.trace).2) :
    let now := (s.call name choice run).2
    now.connection = s.connection ∧ now.databases = s.databases ∧ now.statements = s.statements ∧
      Visits s.trace now.trace := by
  rw [call]
  cases s.target? name with
  | error e => exact ⟨rfl, rfl, rfl, .refl s.trace⟩
  | ok target =>
    cases chose : s.choose choice with
    | error e => exact ⟨rfl, rfl, rfl, .refl s.trace⟩
    | ok pair =>
      obtain ⟨dialect, next⟩ := pair
      obtain ⟨connection, databases, statements, trace⟩ := choose_frame chose
      have visited := visits target dialect
      rw [← trace] at visited ⊢
      exact ⟨connection, databases, statements, visited⟩

theorem perform_of_isCall (s : Session) {step : Step} (isCall : step.isCall = true) :
    let now := (s.perform step).2
    now.connection = s.connection ∧ now.databases = s.databases ∧ now.statements = s.statements ∧
      Visits s.trace now.trace := by
  cases step with
  | queryRows name choice template params =>
    refine s.call_frame name choice _ fun target dialect => ?_
    rw [Exchange.after_map, Query.after_rows]
    exact (course_visits _ _ _).reported _
  | queryUpdate name choice template params =>
    refine s.call_frame name choice _ fun target dialect => ?_
    rw [Exchange.after_map, Query.after_update]
    exact course_visits _ _ _
  | insert name choice table values =>
    refine s.call_frame name choice _ fun target dialect => ?_
    rw [Exchange.after_map, Table.after_insert]
    exact course_visits _ _ _
  | update name choice table values conditions =>
    refine s.call_frame name choice _ fun target dialect => ?_
    rw [Exchange.after_map, Table.after_update]
    exact course_visits _ _ _
  | delete name choice table conditions =>
    refine s.call_frame name choice _ fun target dialect => ?_
    rw [Exchange.after_map, Table.after_delete]
    exact course_visits _ _ _
  | select name choice table columns conditions =>
    refine s.call_frame name choice _ fun target dialect => ?_
    rw [Exchange.after_map, Table.after_select]
    exact (course_visits _ _ _).reported _
  | _ => cases isCall

/-- What a step of a session can come to: what becomes of the databases and statements, and what the
connection and its cursors are told. -/
inductive Move (s now : Session) : Trace → Prop where
  | visit {traffic : Trace} (visit : Visit s.trace.openedCursors.length traffic)
    (databases : now.databases = s.databases) (statements : now.statements = s.statements) :
    Move s now traffic
  | addDatabase (db : Database) (connection : db.connection = s.connection)
    (fresh : db.closed = false) (databases : now.databases = s.databases ++ [db])
    (statements : now.statements = s.statements) :
    Move s now []
  | addStatement (st : Statement) (cursor : st.cursor.index = s.trace.openedCursors.length)
    (fresh : st.closed = false) (databases : now.databases = s.databases)
    (statements : now.statements = s.statements ++ [st]) :
    Move s now [.opened s.trace.openedCursors.length]
  | useStatement {index : Nat} {st next : Statement} {traffic : Trace}
    (held : s.statements[index]? = some st) (cursor : next.cursor = st.cursor)
    (move : StatementMove st.cursor.index st.closed traffic next.closed)
    (databases : now.databases = s.databases)
    (statements : now.statements = s.statements.set index next) : Move s now traffic
  | shutDatabase {index : Nat} {db : Database} (held : s.databases[index]? = some db)
    (databases : now.databases = s.databases.set index db.shut)
    (statements : now.statements = s.statements) : Move s now db.farewell

def Moves (s now : Session) : Prop :=
  now.connection = s.connection ∧
    ∃ events, now.trace = s.trace ++ events ∧ s.Move now events.traffic

theorem moves_of_frame {s now : Session} (connection : now.connection = s.connection)
    (databases : now.databases = s.databases) (statements : now.statements = s.statements)
    (trace : now.trace = s.trace) : s.Moves now :=
  ⟨connection, [], trace.trans (List.append_nil _).symm, .visit .refused databases statements⟩

theorem moves_refl (s : Session) : s.Moves s := moves_of_frame rfl rfl rfl rfl

theorem database?_eq_ok {s : Session} {index : Nat} {db : Database}
    (found : s.database? index = .ok db) : s.databases[index]? = some db := by
  rw [database?] at found
  split at found
  · next held =>
    cases found
    exact held
  · cases found

/-- A target that is a database is one of the session's. -/
theorem mem_databases_of_target? {s : Session} {name : TargetName} {db : Database}
    (found : s.target? name = .ok (.database db)) : db ∈ s.databases := by
  cases name with
  | connection => cases found
  | database index =>
    rw [target?] at found
    cases held : s.database? index with
    | error e =>
      rw [held] at found
      cases found
    | ok other =>
      rw [held] at found
      cases found
      exact List.mem_of_getElem? (database?_eq_ok held)

theorem statement?_eq_ok {s : Session} {index : Nat} {st : Statement}
    (found : s.statement? index = .ok st) : s.statements[index]? = some st := by
  rw [statement?] at found
  split at found
  · next held =>
    cases found
    exact held
  · cases found

theorem exchange_eq {α : Type} (s : Session) (x : Exchange α) :
    s.exchange x = ((x.after s.trace).1, { s with trace := (x.after s.trace).2 }) := rfl

theorem keep_moves (s : Session) {prepared : Exchange Statement}
    (prepares : Prepares s.trace (prepared.after s.trace)) : s.Moves (s.keep prepared).2 := by
  rw [keep, exchange_eq]
  generalize prepared.after s.trace = ended at prepares
  obtain ⟨outcome, later⟩ := ended
  obtain ⟨events, trace, prepared⟩ := prepares
  cases outcome with
  | error e =>
    refine ⟨rfl, events, trace, ?_⟩
    rcases prepared with silent | denied
    · rw [silent]
      exact .visit .refused rfl rfl
    · rw [denied]
      exact .visit .denied rfl rfl
  | ok st =>
    obtain ⟨opened, cursor, fresh⟩ := prepared
    refine ⟨rfl, events, trace, ?_⟩
    rw [opened]
    exact .addStatement st cursor fresh rfl rfl

theorem shutDatabase_moves (s : Session) (index : Nat) (reply : Reply) :
    s.Moves (s.shutDatabase index reply).2 := by
  rw [shutDatabase]
  cases found : s.database? index with
  | error e => exact s.moves_refl
  | ok db =>
    refine ⟨rfl, db.farewell, db.trace_after_disconnect s.trace, ?_⟩
    rw [db.traffic_farewell]
    exact .shutDatabase (database?_eq_ok found) rfl rfl

theorem moves_of_isCall (s : Session) {step : Step} (isCall : step.isCall = true) :
    s.Moves (s.perform step).2 := by
  obtain ⟨connection, databases, statements, events, trace, visit⟩ := s.perform_of_isCall isCall
  exact ⟨connection, events, trace, .visit visit databases statements⟩

/-- Every step of a session makes one move. -/
theorem perform_moves (s : Session) (step : Step) : s.Moves (s.perform step).2 := by
  cases step with
  | openDatabase choice =>
    rw [perform]
    cases chose : s.choose choice with
    | error e => exact s.moves_refl
    | ok pair =>
      obtain ⟨dialect, next⟩ := pair
      obtain ⟨connection, databases, statements, trace⟩ := choose_frame chose
      let db := Database.holding next.loaded next.connection dialect
      obtain ⟨sameConnection, sameDatabases, sameStatements, sameTrace⟩ :=
        next.introduce_frame db.dialect
      refine ⟨sameConnection.trans connection, [], ?_, ?_⟩
      · exact (sameTrace.trans trace).trans (List.append_nil _).symm
      · refine .addDatabase { db with dialect := (next.introduce db.dialect).1 } connection rfl
          ?_ ?_
        · exact congrArg (· ++ _) (sameDatabases.trans databases)
        · exact sameStatements.trans statements
  | prepare index sql =>
    rw [perform]
    cases s.database? index with
    | error e => exact s.moves_refl
    | ok db => exact s.keep_moves (db.prepare_prepares sql s.trace)
  | preparePositional index sql count =>
    rw [perform]
    cases s.database? index with
    | error e => exact s.moves_refl
    | ok db => exact s.keep_moves (db.preparePositional_prepares sql count s.trace)
  | onStatement index step =>
    rw [perform]
    cases found : s.statement? index with
    | error e => exact s.moves_refl
    | ok st =>
      obtain ⟨cursor, events, trace, move⟩ := st.perform_move step s.trace
      exact ⟨rfl, events, trace, .useStatement (statement?_eq_ok found) cursor move rfl rfl⟩
  | closeDatabase index => exact s.shutDatabase_moves index _
  | enterDatabase index => exact s.shutDatabase_moves index _
  | isDisconnected index =>
    rw [perform]
    cases s.database? index <;> exact s.moves_refl
  | dialectOf name =>
    rw [perform]
    cases s.target? name <;> exact s.moves_refl
  | resolve name choice =>
    rw [perform]
    cases s.target? name with
    | error e => exact s.moves_refl
    | ok target =>
      cases chose : s.choose choice with
      | error e => exact s.moves_refl
      | ok pair =>
        obtain ⟨connection, databases, statements, trace⟩ := choose_frame chose
        exact moves_of_frame connection databases statements trace
  | queryRows | queryUpdate | insert | update | delete | select =>
    exact s.moves_of_isCall rfl

/-- No step changes the connection a session works over. -/
theorem perform_connection (s : Session) (step : Step) :
    (s.perform step).2.connection = s.connection := (s.perform_moves step).1

/-- Every step of a session opens the next cursor or none. -/
theorem perform_opensNext (s : Session) (step : Step) :
    OpensNext s.trace (s.perform step).2.trace := by
  obtain ⟨_, events, trace, move⟩ := s.perform_moves step
  rw [OpensNext, trace, Trace.openedCursors_append, ← events.openedCursors_traffic]
  generalize events.traffic = traffic at move
  cases move with
  | visit visit _ _ =>
    cases visit with
    | refused | denied => exact .inl (List.append_nil _)
    | unused | used => exact .inr rfl
  | addDatabase => exact .inl (List.append_nil _)
  | addStatement => exact .inr rfl
  | useStatement _ _ move _ _ =>
    rw [move.opensNone]
    exact .inl (List.append_nil _)
  | @shutDatabase _ db =>
    rcases db.farewell_cases with same | same <;> rw [same] <;> exact .inl (List.append_nil _)

/-- Cursors stay numbered throughout a session. -/
theorem runOver_numbered {s : Session} (numbered : s.trace.Numbered)
    (steps : List (Option Connection × Step)) : (s.runOver steps).trace.Numbered := by
  induction steps generalizing s with
  | nil => exact numbered
  | cons step rest ih =>
    have opens := { s with connection := step.1 }.perform_opensNext step.2
    exact ih (numbered.next opens)

/-- A session that stays on its own connection runs its steps as any session does. -/
theorem run_eq_runOver (s : Session) (steps : List Step) :
    (s.run steps).2 = s.runOver (steps.map fun step => (s.connection, step)) := by
  induction steps generalizing s with
  | nil => rfl
  | cons step rest ih =>
    have later := ih (s.perform step).2
    rw [s.perform_connection step] at later
    exact later

end Session
end SqlTemplate
