import SqlTemplate.Proofs.Ownership

/-!
# The log is an account of the traffic

The log is told what is prepared before a cursor is opened, and what is executed before it is handed
over, so the records stand for what reached the driver also where the driver raises an error. Every
step adds a part that prepares, or none, and a part that uses a statement. Each part accounts for
itself, and with them the whole log.
-/

namespace SqlTemplate

namespace LogRecord

def isExecution : LogRecord → Bool
  | .executing .. => true
  | _ => false

def affected? : LogRecord → Option (Option Int)
  | .affected rows => some rows
  | _ => none

def tellsRows : LogRecord → Bool
  | .returned _ | .selected .. => true
  | _ => false

end LogRecord

namespace Trace

/-- The texts of which the log was told that they are prepared, each with the cursor that was opened
directly after it, if one was. -/
def preparations : Trace → List (String × Option Nat)
  | [] => []
  | .logged record :: rest =>
    match record.prepared? with
    | some sql => (sql, rest.head?.bind Event.opened?) :: preparations rest
    | none => preparations rest
  | _ :: rest => preparations rest

def rowcount? (script : Nat → CursorScript) (past : Trace) : Event → Option (Option Int)
  | .executed cursor _ _ =>
    match (script cursor).executeFault (past.executionsOn cursor) with
    | some _ => none
    | none => some (script cursor).rowcount
  | _ => none

/-- The numbers of rows affected by those executions after a trace that raised no error. -/
def rowcounts (script : Nat → CursorScript) : (events past : Trace) → List (Option Int)
  | [], _ => []
  | event :: rest, past =>
    (rowcount? script past event).toList ++ rowcounts script rest (past ++ [event])

theorem executions_append (first second : Trace) :
    executions (first ++ second) = first.executions ++ second.executions := List.filterMap_append

theorem rowcounts_append (script : Nat → CursorScript) (first second past : Trace) :
    rowcounts script (first ++ second) past =
      first.rowcounts script past ++ second.rowcounts script (past ++ first) := by
  induction first generalizing past with
  | nil => rw [List.append_nil]; rfl
  | cons event rest ih =>
    rw [List.cons_append, rowcounts, ih, rowcounts, List.append_assoc, List.append_assoc]
    rfl

theorem preparations_eq_nil {events : Trace}
    (unprepared : events.records.filterMap LogRecord.prepared? = []) :
    events.preparations = [] := by
  induction events with
  | nil => rfl
  | cons event rest ih =>
    cases event with
    | logged record =>
      change (record :: Trace.records rest).filterMap _ = [] at unprepared
      cases known : record.prepared? with
      | none =>
        rw [List.filterMap_cons_none known] at unprepared
        rw [Trace.preparations, known]
        exact ih unprepared
      | some sql =>
        rw [List.filterMap_cons_some known] at unprepared
        cases unprepared
    | opened | denied | executed | released | disconnected => exact ih unprepared

/-- Preparations are listed one after the other, but for an opening that comes first. -/
theorem preparations_append {first second : Trace}
    (closed : second.head?.bind Event.opened? = none) :
    preparations (first ++ second) = first.preparations ++ second.preparations := by
  induction first with
  | nil => rfl
  | cons event rest ih =>
    cases event with
    | logged record =>
      simp only [List.cons_append, preparations]
      cases record.prepared? with
      | none => exact ih
      | some sql =>
        have next : (rest ++ second).head?.bind Event.opened? = rest.head?.bind Event.opened? := by
          cases rest with
          | nil => exact closed
          | cons => rfl
        rw [next, ih]
        rfl
    | opened | denied | executed | released | disconnected => exact ih

theorem Plain.head {events : Trace} (plain : events.Plain) :
    events.head?.bind Event.opened? = none := by
  cases events with
  | nil => rfl
  | cons event rest =>
    cases event with
    | opened cursor => cases plain.unopened
    | _ => rfl

/-- Events after a trace account for themselves: the log is told of each execution with its text
and the number of its parameters, in an update also of the rows affected by each that raised no
error, and of the rows given back as listed. -/
structure Accounts (script : Nat → CursorScript) (updates : Bool) (rows : List LogRecord)
    (events past : Trace) : Prop where
  executions : events.records.filter LogRecord.isExecution =
    events.executions.map fun handed => .executing handed.1 handed.2.length
  affected : events.records.filterMap LogRecord.affected? =
    if updates then events.rowcounts script past else []
  rows : events.records.filter LogRecord.tellsRows = rows

theorem accounts_nil (script : Nat → CursorScript) (updates : Bool) (past : Trace) :
    Accounts script updates [] [] past := by
  refine ⟨rfl, ?_, rfl⟩
  cases updates <;> rfl

theorem Accounts.append {script : Nat → CursorScript} {updates : Bool} {rows more : List LogRecord}
    {first second past : Trace} (account : first.Accounts script updates rows past)
    (later : second.Accounts script updates more (past ++ first)) :
    Accounts script updates (rows ++ more) (first ++ second) past := by
  constructor
  · rw [records_append, List.filter_append, account.executions, later.executions,
      executions_append, List.map_append]
  · rw [records_append, List.filterMap_append, account.affected, later.affected, rowcounts_append]
    cases updates <;> rfl
  · rw [records_append, List.filter_append, account.rows, later.rows]

end Trace

namespace Statement

variable (st : Statement)

theorem accounts_closingEvents (script : Nat → CursorScript) (updates : Bool) (past : Trace) :
    st.closingEvents.Accounts script updates [] past := by
  unfold closingEvents
  constructor
  all_goals
    split <;> cases updates <;> rfl

section Known

variable {script : Nat → CursorScript} (known : script st.cursor.index = st.cursor.script)
  {past : Trace} {ran : Nat} (before : past.Ran st.cursor.index ran)

include known before

theorem accounts_executionEvents (updates : Bool) :
    (st.executionEvents updates ran).Accounts script updates [] past := by
  unfold executionEvents
  cases st.closed with
  | true => exact Trace.accounts_nil script updates past
  | false =>
    cases st.parameters with
    | error e => exact Trace.accounts_nil script updates past
    | ok values =>
      -- Only an update that raised no error adds a record of the rows affected.
      cases updates with
      | false => exact ⟨rfl, rfl, rfl⟩
      | true =>
        have count : ∀ record,
            Trace.executionsOn (past ++ [.logged record]) st.cursor.index = ran :=
          fun record => (past.executionsOn_logged record _).trans before
        cases faulty : st.cursor.script.executeFault ran with
        | some raised =>
          refine ⟨rfl, ?_, rfl⟩
          change [] = Trace.rowcounts script [_, .executed st.cursor.index st.sql values] past
          simp [Trace.rowcounts, Trace.rowcount?, known, count, faulty]
        | none =>
          refine ⟨rfl, ?_, rfl⟩
          change [st.cursor.script.rowcount] =
            Trace.rowcounts script [_, .executed st.cursor.index st.sql values, _] past
          simp [Trace.rowcounts, Trace.rowcount?, known, count, faulty]

/-- The statement that a pass filled answers on the same cursor. -/
theorem accounts_completionEvents (assignments : List Assignment) (updates : Bool) :
    (st.completionEvents assignments updates ran).Accounts script updates [] past := by
  refine st.completionEvents_induction (motive := (Trace.Accounts script updates [] · past))
    (Trace.accounts_nil script updates past) ?_
    fun events account => account.append (st.accounts_closingEvents script updates (past ++ events))
  intro filled pass
  rw [← (st.assignAll_frame pass).1] at known before
  exact filled.accounts_executionEvents known before updates

theorem accounts_stepEvents (index : Nat) (action : StatementStep) :
    (st.stepEvents ran action).Accounts script (Step.onStatement index action).updates [] past := by
  cases action with
  | executeQuery => exact st.accounts_executionEvents known before false
  | executeUpdate => exact st.accounts_executionEvents known before true
  | close => exact st.accounts_closingEvents script false past
  | executeAndClose =>
    exact (st.accounts_executionEvents known before true).append
      (st.accounts_closingEvents script true _)
  | _ => exact Trace.accounts_nil script false past

end Known
end Statement

namespace Step

variable {step : Step}

/-- Only calls tell the log about rows. -/
theorem report_of_not_isCall (still : step.isCall = false) (reply : Except Error Reply) :
    step.report reply = [] := by
  have silent : step.announces = none := by
    cases step <;> first | rfl | cases still
  unfold report
  rw [silent]

theorem records_of_announces {record : Nat → LogRecord} (announces : step.announces = some record)
    (n : Nat) : (record n).isExecution = false ∧ (record n).affected? = none ∧
      (record n).tellsRows = true ∧ (record n).prepared? = none := by
  cases step <;> cases announces <;> exact ⟨rfl, rfl, rfl, rfl⟩

theorem report_cases (step : Step) (reply : Except Error Reply) : step.report reply = [] ∨
    ∃ record n, step.announces = some record ∧ step.report reply = [record n] := by
  unfold report
  split
  · next record items announces => exact .inr ⟨record, items.length, announces, rfl⟩
  · exact .inl rfl

theorem accounts_report (script : Nat → CursorScript) (updates : Bool) (reply : Except Error Reply)
    (past : Trace) :
    Trace.Accounts script updates (step.report reply) ((step.report reply).map .logged) past := by
  rcases step.report_cases reply with none_ | ⟨record, n, announces, same⟩
  · rw [none_]
    exact Trace.accounts_nil script updates past
  · obtain ⟨execution, affected, rows, _⟩ := records_of_announces announces n
    rw [same]
    refine ⟨?_, ?_, ?_⟩
    · change [record n].filter _ = []
      simp [execution]
    · change [record n].filterMap _ = if updates then [] else []
      simp [affected]
    · change [record n].filter _ = [record n]
      simp [rows]

theorem plain_report (reply : Except Error Reply) :
    Trace.Plain ((step.report reply).map .logged) := by
  rcases step.report_cases reply with none_ | ⟨record, n, announces, same⟩
  · rw [none_]
    exact Trace.plain_nil
  · obtain ⟨_, _, _, prepared⟩ := records_of_announces announces n
    rw [same]
    refine ⟨rfl, ?_⟩
    change [record n].filterMap _ = []
    simp [prepared]

end Step

namespace Trace

/-- For every text of which the log was told that it is prepared, a cursor was asked for, once.
Every cursor was opened for a text of which the log was told directly before, and a text for which
no cursor was opened was one for which the connection failed to open it, in one of the given number
of calls. -/
structure Told (connection : Option Connection) (calls : Nat) (events : Trace) : Prop where
  first : events.head?.bind Event.opened? = none
  asked : events.preparations.length = events.cursorCalls
  opened : events.preparations.filterMap Prod.snd = events.openedCursors
  unopened : ∀ sql, (sql, none) ∈ events.preparations → ∃ used call raised,
    connection = some used ∧ call < calls ∧ used.cursorFault call = some raised

theorem Plain.told {events : Trace} (plain : events.Plain) (connection : Option Connection)
    (calls : Nat) : events.Told connection calls := by
  have nothing := preparations_eq_nil plain.unprepared
  refine ⟨plain.head, ?_, ?_, ?_⟩
  · rw [nothing, plain.unasked]
    rfl
  · rw [nothing, plain.unopened]
    rfl
  · rw [nothing]
    exact fun sql member => absurd member List.not_mem_nil

theorem Told.append {connection : Option Connection} {calls more : Nat} {first second : Trace}
    (told : first.Told connection calls) (later : second.Told connection more)
    (bound : calls ≤ more) : Told connection more (first ++ second) := by
  have split : preparations (first ++ second) = _ := preparations_append later.first
  refine ⟨?_, ?_, ?_, fun sql member => ?_⟩
  · cases first with
    | nil => exact later.first
    | cons => exact told.first
  · rw [split, List.length_append, told.asked, later.asked, cursorCalls_append]
  · rw [split, List.filterMap_append, told.opened, later.opened, openedCursors_append]
  · rw [split] at member
    rcases List.mem_append.mp member with before | after
    · obtain ⟨used, call, raised, held, early, faulty⟩ := told.unopened sql before
      exact ⟨used, call, raised, held, Nat.lt_of_lt_of_le early bound, faulty⟩
    · exact later.unopened sql after

end Trace

theorem LogRecord.of_prepared? {record : LogRecord} {sql : String}
    (tells : record.prepared? = some sql) :
    record.isExecution = false ∧ record.affected? = none ∧ record.tellsRows = false := by
  cases record <;> first | exact ⟨rfl, rfl, rfl⟩ | cases tells

namespace Preparation

variable {connection : Option Connection} {past : Trace} {outcome : Except Error Statement}
  {events : Trace} (prepared : Preparation connection past outcome events)

include prepared

theorem accounts (script : Nat → CursorScript) (updates : Bool) :
    events.Accounts script updates [] past := by
  cases prepared with
  | refused => exact Trace.accounts_nil script updates past
  | @unopened _ _ notice _ _ _ tells | @opened _ notice _ _ _ _ _ tells =>
    obtain ⟨execution, affected, rows⟩ := LogRecord.of_prepared? tells
    refine ⟨?_, ?_, ?_⟩
    · change [notice].filter _ = []
      simp [execution]
    · change [notice].filterMap _ = if updates then [] else []
      simp [affected]
    · change [notice].filter _ = []
      simp [rows]

/-- The log is told of a statement that is prepared, with its text and before its cursor is opened.
-/
theorem preparations_ok {st : Statement} (succeeds : outcome = .ok st) :
    events.preparations = [(st.sql, some st.cursor.index)] := by
  have own := prepared.cursor_eq succeeds
  cases prepared with
  | refused | unopened => cases succeeds
  | opened _ _ _ _ tells =>
    obtain rfl := Except.ok.inj succeeds
    rw [own]
    simp [Trace.preparations, tells, Event.opened?]

/-- Where nothing is prepared, the log was told nothing, or told before the connection failed. -/
theorem preparations_error {e : Error} (fails : outcome = .error e) : events.preparations = [] ∨
    ∃ sql used raised, events.preparations = [(sql, none)] ∧ connection = some used ∧
      used.cursorFault past.cursorCalls = some raised ∧ e = .fault raised := by
  cases prepared with
  | refused => exact .inl rfl
  | @unopened used raised _ sql held faulty tells =>
    obtain rfl := Except.error.inj fails
    refine .inr ⟨sql, used, raised, ?_, held, faulty, rfl⟩
    simp [Trace.preparations, tells, Event.opened?]
  | opened => cases fails

theorem told : events.Told connection (past.cursorCalls + events.cursorCalls) := by
  cases prepared with
  | refused => exact Trace.plain_nil.told connection _
  | @unopened used raised notice sql held faulty tells =>
    refine ⟨rfl, ?_, ?_, fun _ _ => ⟨used, _, raised, held, Nat.lt_add_one _, faulty⟩⟩
    · simp only [Trace.preparations, tells]
      rfl
    · simp [Trace.preparations, tells, Trace.openedCursors, Event.opened?]
  | @opened used notice st held sound own fresh tells =>
    refine ⟨rfl, ?_, ?_, ?_⟩
    · simp only [Trace.preparations, tells]
      rfl
    · simp only [Trace.preparations, tells]
      rfl
    · simp [Trace.preparations, tells, Event.opened?]

end Preparation

/-- How the cursor with the given number answers, if there is a connection to open it. -/
def scriptOver (connection : Option Connection) (cursor : Nat) : CursorScript :=
  match connection with
  | some used => used.script cursor
  | none => {}

theorem Preparation.script_eq {connection : Option Connection} {past : Trace} {st : Statement}
    {events : Trace} (prepared : Preparation connection past (.ok st) events) :
    scriptOver connection st.cursor.index = st.cursor.script := by
  cases prepared with
  | opened held _ own =>
    rw [held, own]
    rfl

namespace Session

/-- What the events of a step begin with: those of its preparation, if it makes one. -/
inductive Begins (s : Session) (step : Step) (reply : Except Error Reply) : Trace → Prop where
  | unmade (unmade : s.preparation? step = none) : Begins s step reply []
  | made {prepare : Exchange Statement} {outcome : Except Error Statement} {events : Trace}
    (made : s.preparation? step = some prepare) (ran : (prepare.after s.trace).1 = outcome)
    (prepared : Preparation s.connection s.trace outcome events)
    (fails : ∀ e, outcome = .error e → reply = .error e) : Begins s step reply events

namespace Begins

variable {s : Session} {step : Step} {reply : Except Error Reply} {events : Trace}
  (begins : s.Begins step reply events)

include begins

theorem accounts (script : Nat → CursorScript) (updates : Bool) :
    events.Accounts script updates [] s.trace := by
  cases begins with
  | unmade => exact Trace.accounts_nil script updates s.trace
  | made _ _ prepared => exact prepared.accounts script updates

theorem told : events.Told s.connection (s.trace.cursorCalls + events.cursorCalls) := by
  cases begins with
  | unmade => exact Trace.plain_nil.told s.connection _
  | made _ _ prepared => exact prepared.told

end Begins

theorem isCall_of_unmade {s : Session} {step : Step} (unmade : s.preparation? step = none) :
    step.isCall = false := by
  cases step <;> first | rfl | cases unmade

/-- The events of a step are those of its preparation and, after them, those of using a statement.
-/
theorem Effect.split {s : Session} {step : Step} {reply : Except Error Reply}
    {statements : List Statement} {events : Trace} (effect : s.Effect step reply statements events)
    (scripts : ∀ st ∈ s.statements, scriptOver s.connection st.cursor.index = st.cursor.script) :
    ∃ begun used, events = begun ++ used ∧ s.Begins step reply begun ∧ used.Plain ∧
      used.Accounts (scriptOver s.connection) step.updates (step.report reply)
        (s.trace ++ begun) := by
  cases effect with
  | quiet unmade told =>
    have still := Step.report_of_not_isCall (isCall_of_unmade unmade) reply
    refine ⟨[], events, rfl, .unmade unmade, ?_⟩
    rw [still]
    rcases told with rfl | rfl
    · exact ⟨Trace.plain_nil, Trace.accounts_nil _ _ _⟩
    · refine ⟨⟨rfl, rfl⟩, rfl, ?_, rfl⟩
      cases step.updates <;> rfl
  | @used _ index action st _ on held =>
    subst on
    have known := scripts st (List.mem_of_getElem? held)
    refine ⟨[], _, rfl, .unmade rfl, st.plain_stepEvents _ action, ?_⟩
    rw [List.append_nil]
    exact st.accounts_stepEvents known rfl index action
  | @unprepared _ e _ made ran prepared =>
    refine ⟨events, [], (List.append_nil events).symm, ?_, Trace.plain_nil, ?_⟩
    · exact .made made (congrArg Prod.fst ran) prepared fun _ same => by rw [Except.error.inj same]
    · have none_ : step.report (.error e) = [] := by
        unfold Step.report
        cases step.announces <;> rfl
      rw [none_]
      exact Trace.accounts_nil _ _ _
  | kept made keeps ran prepared =>
    refine ⟨events, [], (List.append_nil events).symm, ?_, Trace.plain_nil, ?_⟩
    · exact .made made (congrArg Prod.fst ran) prepared fun _ same => by cases same
    · rw [Step.report_of_not_isCall keeps]
      exact Trace.accounts_nil _ _ _
  | @called _ st begun _ made isCall ran prepared =>
    refine ⟨begun, _, rfl, ?_, ?_, ?_⟩
    · exact .made made (congrArg Prod.fst ran) prepared fun _ same => by cases same
    · exact (st.plain_completionEvents _ _ 0).append (Step.plain_report reply)
    · have completion := st.accounts_completionEvents prepared.script_eq (prepared.unused s.trace)
        step.assignments step.updates
      exact completion.append (Step.accounts_report _ _ reply _)

/-- What the log was told of preparations in a step is what the step prepared: nothing if it
prepared nothing, a statement's text directly before its cursor was opened, and otherwise at most a
text for which the connection raised an error, which is then the reply. -/
def PreparesAsTold (s : Session) (step : Step) (reply : Except Error Reply) (events : Trace) :
    Prop :=
  match (s.preparation? step).map fun prepare => (Exchange.after prepare s.trace).1 with
  | none => events.preparations = []
  | some (.ok st) => events.preparations = [(st.sql, some st.cursor.index)]
  | some (.error e) => reply = .error e ∧ (events.preparations = [] ∨ ∃ sql used raised,
      events.preparations = [(sql, none)] ∧ s.connection = some used ∧
        used.cursorFault s.trace.cursorCalls = some raised ∧ e = .fault raised)

theorem Begins.preparesAsTold {s : Session} {step : Step} {reply : Except Error Reply}
    {begun used : Trace} (begins : s.Begins step reply begun) (plain : used.Plain) :
    s.PreparesAsTold step reply (begun ++ used) := by
  have same : Trace.preparations (begun ++ used) = begun.preparations := by
    rw [Trace.preparations_append plain.head, Trace.preparations_eq_nil plain.unprepared,
      List.append_nil]
  unfold PreparesAsTold
  rw [same]
  cases begins with
  | unmade unmade =>
    rw [unmade]
    rfl
  | @made prepare outcome _ made ran prepared fails =>
    rw [made]
    simp only [Option.map_some, ran]
    cases outcome with
    | ok st => exact prepared.preparations_ok rfl
    | error e => exact ⟨fails e rfl, prepared.preparations_error rfl⟩

theorem PreparesAsTold.of_ok {s : Session} {step : Step} {reply : Except Error Reply}
    {events : Trace} (told : s.PreparesAsTold step reply events) {prepare : Exchange Statement}
    {st : Statement}
    (made : s.preparation? step = some prepare) (ran : (prepare.after s.trace).1 = .ok st) :
    events.preparations = [(st.sql, some st.cursor.index)] := by
  unfold PreparesAsTold at told
  rw [made] at told
  simp only [Option.map_some, ran] at told
  exact told

/-- The log has an account of the trace: of every execution, of the text of every cursor that was
opened, and of nothing else but texts for which the connection fails to open cursors. -/
structure LogAccounted (s : Session) : Prop where
  executions : s.trace.records.filter LogRecord.isExecution =
    s.trace.executions.map fun handed => .executing handed.1 handed.2.length
  told : s.trace.Told s.connection s.trace.cursorCalls
  texts : ∀ st ∈ s.statements, (st.sql, some st.cursor.index) ∈ s.trace.preparations
  handed : ∀ cursor sql params, Event.executed cursor sql params ∈ s.trace →
    (sql, some cursor) ∈ s.trace.preparations
  scripts : ∀ st ∈ s.statements, scriptOver s.connection st.cursor.index = st.cursor.script

namespace LogAccounted

variable {s : Session} (accounted : s.LogAccounted)

include accounted

theorem perform (databases : s.DatabasesAccounted) (step : Step) :
    LogAccounted (s.perform step).2 := by
  have connection := s.perform_connection step
  obtain ⟨reply, next, events, yields, effect⟩ := perform_hasEffect databases step
  rw [yields.performed] at connection ⊢
  obtain ⟨begun, used, rfl, begins, plain, account⟩ := effect.split accounted.scripts
  have prepares := begins.preparesAsTold plain
  have later := begins.told.append (plain.told s.connection _) (Nat.le_refl _)
  have calls : Trace.cursorCalls (s.trace ++ (begun ++ used)) =
      s.trace.cursorCalls + begun.cursorCalls := by
    rw [Trace.cursorCalls_append, Trace.cursorCalls_append, plain.unasked, Nat.add_zero]
  have preparations : Trace.preparations (s.trace ++ (begun ++ used)) = _ :=
    Trace.preparations_append later.first
  constructor
  · have whole := (begins.accounts (scriptOver s.connection) step.updates).append account
    rw [Trace.records_append, List.filter_append, accounted.executions, whole.executions,
      Trace.executions_append s.trace, List.map_append]
  · rw [connection, calls]
    exact accounted.told.append later (Nat.le_add_right _ _)
  · intro st member
    change _ ∈ Trace.preparations (s.trace ++ (begun ++ used))
    rw [preparations]
    rcases effect.origin member with ⟨old, among, cursor, text⟩ | prepared
    · rw [cursor, text]
      exact List.mem_append_left _ (accounted.texts old among)
    · rw [prepared.preparations_ok rfl]
      exact List.mem_append_right _ List.mem_cons_self
  · intro cursor sql params executed
    change _ ∈ Trace.preparations (s.trace ++ (begun ++ used))
    rw [preparations]
    rcases List.mem_append.mp executed with before | now
    · exact List.mem_append_left _ (accounted.handed _ _ _ before)
    · obtain ⟨st, uses, _, rfl, rfl, _⟩ := effect.executed now
      cases uses with
      | kept _ held => exact List.mem_append_left _ (accounted.texts st (List.mem_of_getElem? held))
      | @own _ fresh made _ ran bound =>
        obtain ⟨cursor, text⟩ := fresh.assignAll_frame bound
        rw [prepares.of_ok made ran, cursor, text]
        exact List.mem_append_right _ List.mem_cons_self
  · intro st member
    rw [connection]
    rcases effect.origin member with ⟨old, among, cursor, _⟩ | prepared
    · rw [cursor]
      exact accounted.scripts old among
    · exact prepared.script_eq

end LogAccounted

theorem start_logAccounted (loaded : LoadedModules) (connection : Option Connection) :
    LogAccounted (start loaded connection) := by
  obtain ⟨_, statements, trace, _, _⟩ := start_blank loaded connection
  generalize start loaded connection = s at statements trace
  constructor
  · rw [trace]
    rfl
  · rw [trace]
    exact Trace.plain_nil.told s.connection _
  · rw [statements]
    exact fun st member => absurd member List.not_mem_nil
  · rw [trace]
    exact fun cursor sql params executed => absurd executed List.not_mem_nil
  · rw [statements]
    exact fun st member => absurd member List.not_mem_nil

/-- A session keeps the cursors and the faults of the connection that it is started over. -/
theorem start_connection (loaded : LoadedModules) (connection : Option Connection) :
    let used := (start loaded connection).connection
    used.map Connection.cursorFault = connection.map Connection.cursorFault ∧
      scriptOver used = scriptOver connection := by
  cases connection with
  | none => exact ⟨rfl, rfl⟩
  | some c =>
    rw [start]
    cases dialect : c.dialect with
    | none => exact ⟨rfl, rfl⟩
    | some d => exact ⟨rfl, rfl⟩

theorem run_logAccounted (loaded : LoadedModules) (connection : Option Connection)
    (steps : List Step) :
    let s := ((start loaded connection).run steps).2
    s.DatabasesAccounted ∧ s.LogAccounted ∧
      s.connection = (start loaded connection).connection := by
  refine run_preserves (fun s => s.DatabasesAccounted ∧ s.LogAccounted ∧
    s.connection = (start loaded connection).connection) ?_
    ⟨start_databasesAccounted loaded connection, start_logAccounted loaded connection, rfl⟩ steps
  rintro s step ⟨databases, account, same⟩
  exact ⟨databases.perform step, account.perform databases step,
    (s.perform_connection step).trans same⟩

end Session

/-- After any steps of a session, whatever errors its connection and cursors raise: the log was
told of each execution that reached a cursor, and of no other, in order and with the text and the
number of parameters that were handed over. It was told of a text that is prepared as often as a
cursor was asked for. Each cursor was opened directly after the log was told of such a text, the
text of its statement and the only one that the cursor was handed; other texts that the log was
told of are those for which the connection failed to open a cursor. And the records of each next
step tell of just what it prepared, of the rows affected by each execution of an update that raised
no error, and of the rows that a query or a selection gave back. -/
theorem log_accounts_for_traffic (loaded : LoadedModules) (connection : Option Connection)
    (steps : List Step) :
    let s := ((Session.start loaded connection).run steps).2
    s.trace.records.filter LogRecord.isExecution =
      s.trace.executions.map (fun handed => .executing handed.1 handed.2.length) ∧
    (s.trace.preparations.length = s.trace.cursorCalls ∧
      s.trace.preparations.filterMap Prod.snd = s.trace.openedCursors ∧
      (∀ st ∈ s.statements, (st.sql, some st.cursor.index) ∈ s.trace.preparations) ∧
      (∀ cursor sql params, Event.executed cursor sql params ∈ s.trace →
        (sql, some cursor) ∈ s.trace.preparations) ∧
      ∀ sql, (sql, none) ∈ s.trace.preparations → ∃ call raised, call < s.trace.cursorCalls ∧
        connection.map (fun used => used.cursorFault call) = some (some raised)) ∧
    (∀ step : Step, ∃ events, (s.perform step).2.trace = s.trace ++ events ∧
      s.PreparesAsTold step (s.perform step).1 events ∧
      events.records.filterMap LogRecord.affected? =
        (if step.updates then events.rowcounts (scriptOver connection) s.trace else []) ∧
      events.records.filter LogRecord.tellsRows = step.report (s.perform step).1) ∧
    ∀ (sql : String) (count : Nat), (LogRecord.executing sql count).message =
      "Executing " ++ sql ++ " with " ++ toString count ++ " parameter(s)" := by
  intro s
  obtain ⟨databases, account, same⟩ := Session.run_logAccounted loaded connection steps
  obtain ⟨faults, scripts⟩ := Session.start_connection loaded connection
  rw [← same] at faults scripts
  refine ⟨account.executions, ⟨account.told.asked, account.told.opened, account.texts,
    account.handed, ?_⟩, ?_, fun _ _ => rfl⟩
  · intro sql unopened
    obtain ⟨used, call, raised, held, early, faulty⟩ := account.told.unopened sql unopened
    have same : (connection.map Connection.cursorFault).map (fun fault => fault call) =
        some (some raised) := by
      rw [← faults, held, Option.map_some, Option.map_some, faulty]
    rw [Option.map_map] at same
    exact ⟨call, raised, early, same⟩
  · intro step
    obtain ⟨reply, next, events, yields, effect⟩ := Session.perform_hasEffect databases step
    obtain ⟨begun, used, rfl, begins, plain, accounts⟩ := effect.split account.scripts
    have whole := (begins.accounts (scriptOver s.connection) step.updates).append accounts
    rw [yields.performed]
    exact ⟨_, rfl, begins.preparesAsTold plain, scripts ▸ whole.affected, whole.rows⟩

/-- A selection that is executed but fails to close its cursor is told of as executed, not as
returned. -/
theorem log_of_unclosable_selection :
    let script : CursorScript := {
      description := some [.tuple [.text "a"]], rows := [.tuple [.int 1]]
      closeFault := some ⟨.operational, "gone"⟩ }
    let connection : Connection := { module := "sqlite3", cursors := [script] }
    let step : Step := .select .connection .unspecified "t" (.listed []) (.ofPairs [])
    let s := ((Session.start [] (some connection)).run [step]).2
    s.trace.records.filter LogRecord.isExecution = [.executing "SELECT * FROM t" 0] ∧
      ∃ events, (s.perform step).2.trace = s.trace ++ events ∧
        events.records.filter LogRecord.tellsRows = [] := by
  intro script connection step
  have all := log_accounts_for_traffic [] (some connection) [step]
  have handed : ((Session.start [] (some connection)).run [step]).2.trace.executions.map
      (fun handed => LogRecord.executing handed.1 handed.2.length) =
        [.executing "SELECT * FROM t" 0] := by decide +kernel
  have quiet : step.report
      ((((Session.start [] (some connection)).run [step]).2.perform step).1) = [] := by
    decide +kernel
  generalize ((Session.start [] (some connection)).run [step]).2 = s at all handed quiet ⊢
  obtain ⟨executions, _, next, _⟩ := all
  obtain ⟨events, trace, _, _, rows⟩ := next step
  exact ⟨executions.trans handed, events, trace, rows.trans quiet⟩

end SqlTemplate
