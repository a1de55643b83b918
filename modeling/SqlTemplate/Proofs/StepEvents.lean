import SqlTemplate.Proofs.Contributions
import SqlTemplate.Proofs.Closing

/-!
# The events of every step

A preparation and a call both prepare a statement. The one keeps it, the other fills it, uses it and
closes it. A step on a statement adds the events of that step, and all else adds at most the
closing of the connection. A step looks at the trace of its session only for its counts, so what it
comes to stays the same wherever these do.
-/

namespace SqlTemplate

def Target.held : Target → Option Connection
  | .connection bare => bare
  | .database db => db.connection

/-- Resolving a target does not change the connection. -/
theorem Target.connection_resolve (loaded : LoadedModules) (target : Target)
    (dialect : Option Dialect) : (target.resolve loaded dialect).connection = target.held := by
  cases target with
  | connection bare => rfl
  | database db =>
    rw [resolve]
    split <;> rfl

namespace Table

def prepared (table : Table) (loaded : LoadedModules) (target : Target)
    (sql : Dialect → Except Error String) (count : Nat) : Exchange Statement := do
  let db := target.resolve loaded table.dialect
  let text ← sql db.dialect
  db.preparePositional text (some count)

theorem complete_eq_prepared {α : Type} (table : Table) (loaded : LoadedModules) (target : Target)
    (sql : Dialect → Except Error String) (count : Nat) (assignments : List Assignment)
    (use : Statement → Exchange α) :
    table.complete loaded target sql count assignments use = (do
      let st ← table.prepared loaded target sql count
      st.complete assignments use) := by
  rw [complete, prepared, bind_assoc]

theorem preparesOn_prepared (table : Table) (loaded : LoadedModules) (target : Target)
    (sql : Dialect → Except Error String) (count : Nat) :
    PreparesOn target.held (table.prepared loaded target sql count) := by
  rw [← Target.connection_resolve loaded target table.dialect]
  exact .bind_lift fun text _ => Database.preparesOn_preparePositional _ text _

end Table

theorem Query.preparesOn_prepared (q : Query) (loaded : LoadedModules) (target : Target)
    (params : NamedValues) : PreparesOn target.held (q.prepared loaded target params) := by
  rw [← Target.connection_resolve loaded target q.dialect]
  exact Database.preparesOn_prepare _ _

namespace Step

def assignments : Step → List Assignment
  | .queryRows _ _ template params | .queryUpdate _ _ template params =>
    Assignment.ofText (Template.render template params) params 0
  | .insert _ _ _ values => Assignment.ofColumns values 0
  | .update _ _ _ values conditions =>
    Assignment.ofColumns values 0 ++ Assignment.ofColumns conditions values.size
  | .delete _ _ _ conditions | .select _ _ _ _ conditions => Assignment.ofColumns conditions 0
  | _ => []

def updates : Step → Bool
  | .queryUpdate .. | .insert .. | .update .. | .delete .. | .onStatement _ .executeUpdate
  | .onStatement _ .executeAndClose => true
  | _ => false

def announces : Step → Option (Nat → LogRecord)
  | .queryRows .. => some .returned
  | .select _ _ table _ _ => some (.selected table)
  | _ => none

def report (step : Step) (reply : Except Error Reply) : List LogRecord :=
  match step.announces, reply with
  | some record, .ok (.rows items) => [record items.length]
  | _, _ => []

def finish (step : Step) (st : Statement) : Exchange Reply :=
  match step.announces with
  | some record => Reply.rows <$> do
    let rows ← st.complete step.assignments Statement.executeRows
    Exchange.log (record rows.length)
    return rows
  | none => Reply.affected <$> st.complete step.assignments Statement.executeUpdate

/-- A call whose cursor is new adds the events of its completion and its report. Only rows that were
read, on a statement that could be closed, are told to the log. -/
theorem finish_yields {step : Step} (isCall : step.isCall = true) (st : Statement) :
    ∃ reply, (step.finish st).Yields (Trace.Ran st.cursor.index 0) reply
      (st.completionEvents step.assignments step.updates 0 ++
        (step.report reply).map .logged) := by
  have counts : step.updates = step.announces.isNone := by cases step <;> first | rfl | cases isCall
  unfold finish report
  rw [counts]
  cases step.announces with
  | none =>
    obtain ⟨outcome, yields⟩ := st.complete_yields Statement.uses_executeUpdate step.assignments 0
    refine ⟨outcome.map .affected, ?_⟩
    rw [List.map_nil, List.append_nil]
    exact yields.map Reply.affected
  | some record =>
    obtain ⟨outcome, yields⟩ := st.complete_yields Statement.uses_executeRows step.assignments 0
    refine ⟨outcome.map .rows, ?_⟩
    cases outcome with
    | error e =>
      rw [show Except.map Reply.rows (.error e) = .error e from rfl, List.map_nil, List.append_nil]
      exact yields.bind_error.map Reply.rows
    | ok rows =>
      have told : (do Exchange.log (record rows.length); return rows : Exchange _).Yields
          (fun _ => True) (.ok rows) [.logged (record rows.length)] := fun _ _ => rfl
      exact (yields.bind told fun _ _ => trivial).map Reply.rows

end Step

namespace Session

variable {α β : Type}

def calling (s : Session) (name : TargetName) (choice : DialectChoice)
    (run : Target → Option Dialect → Exchange α) : Exchange α := do
  let target ← s.target? name
  let chosen ← s.choose choice
  run target chosen.1

theorem calling_bind (s : Session) (name : TargetName) (choice : DialectChoice)
    (run : Target → Option Dialect → Exchange α) (f : α → Exchange β) :
    s.calling name choice run >>= f = s.calling name choice fun target dialect =>
      run target dialect >>= f := by
  simp only [calling, bind_assoc]

/-- The preparation that a step makes, if it makes one: either the step is nothing else, or it is a
call that begins with it (`completes_of_isCall`). -/
def preparation? (s : Session) : Step → Option (Exchange Statement)
  | .prepare index sql => some do
    let db ← s.database? index
    db.prepare sql
  | .preparePositional index sql count => some do
    let db ← s.database? index
    db.preparePositional sql count
  | .queryRows name choice template params | .queryUpdate name choice template params =>
    some <| s.calling name choice fun target dialect =>
      Query.prepared { template, dialect } s.loaded target params
  | .insert name choice table values =>
    some <| s.calling name choice fun target dialect =>
      Table.prepared { name := table, dialect } s.loaded target
        (TableSql.insert · table values.names) values.size
  | .update name choice table values conditions =>
    some <| s.calling name choice fun target dialect =>
      Table.prepared { name := table, dialect } s.loaded target
        (TableSql.update · table values.names conditions.names) (values.size + conditions.size)
  | .delete name choice table conditions =>
    some <| s.calling name choice fun target dialect =>
      Table.prepared { name := table, dialect } s.loaded target
        (TableSql.delete · table conditions.names) conditions.size
  | .select name choice table columns conditions =>
    some <| s.calling name choice fun target dialect =>
      Table.prepared { name := table, dialect } s.loaded target
        (TableSql.select · table columns.names conditions.names) conditions.size
  | _ => none

section Connection

variable {s : Session} (accounted : s.DatabasesAccounted)

include accounted

/-- What is prepared on a database of a session is prepared over the connection of the session. -/
theorem DatabasesAccounted.preparesOn_database {index : Nat} {db : Database}
    {prepare : Exchange Statement} (found : s.database? index = .ok db)
    (prepares : PreparesOn db.connection prepare) : PreparesOn s.connection prepare := by
  have held := accounted.connections db (List.mem_of_getElem? (database?_eq_ok found))
  cases closed : db.closed with
  | false =>
    rw [closed, if_neg Bool.false_ne_true] at held
    rwa [held] at prepares
  | true =>
    rw [closed, if_pos rfl] at held
    intro past
    obtain ⟨outcome, events, yields, prepared⟩ := prepares past
    rw [held] at prepared
    exact ⟨outcome, events, yields, prepared.of_missing s.connection⟩

theorem DatabasesAccounted.preparesOn_calling (name : TargetName) (choice : DialectChoice)
    {prepare : Target → Option Dialect → Exchange Statement}
    (prepares : ∀ target dialect, PreparesOn target.held (prepare target dialect)) :
    PreparesOn s.connection (s.calling name choice prepare) := by
  refine .bind_lift fun target found => .bind_lift fun chosen _ => ?_
  cases name with
  | connection =>
    cases found
    exact prepares _ _
  | database index =>
    rw [target?] at found
    cases known : s.database? index with
    | error e =>
      rw [known] at found
      cases found
    | ok db =>
      rw [known] at found
      cases found
      exact accounted.preparesOn_database known (prepares (.database db) chosen.1)

/-- Whatever a step prepares, it prepares over the connection of its session. -/
theorem DatabasesAccounted.preparesOn_preparation {step : Step} {prepare : Exchange Statement}
    (made : s.preparation? step = some prepare) : PreparesOn s.connection prepare := by
  cases step with
  | prepare index sql =>
    cases made
    exact .bind_lift fun db found => accounted.preparesOn_database found (db.preparesOn_prepare sql)
  | preparePositional index sql count =>
    cases made
    exact .bind_lift fun db found =>
      accounted.preparesOn_database found (db.preparesOn_preparePositional sql count)
  | queryRows | queryUpdate =>
    cases made
    exact accounted.preparesOn_calling _ _ fun target _ => Query.preparesOn_prepared _ _ target _
  | insert | update | delete | select =>
    cases made
    exact accounted.preparesOn_calling _ _ fun target _ => Table.preparesOn_prepared _ _ target _ _
  | _ => cases made

end Connection

theorem choose_on_trace (s : Session) (trace : Trace) (choice : DialectChoice) :
    { s with trace }.choose choice =
      (s.choose choice).map fun chosen => (chosen.1, { chosen.2 with trace }) := by
  cases choice with
  | unspecified | made => rfl
  | ofDatabase index =>
    change (s.database? index).map _ = ((s.database? index).map _).map _
    cases s.database? index <;> rfl

/-- A call runs its exchange and changes no statement. -/
theorem call_on_trace (s : Session) (name : TargetName) (choice : DialectChoice)
    (run : Target → Option Dialect → Exchange Reply) :
    ∃ next : Session, next.statements = s.statements ∧ ∀ trace,
      { s with trace }.call name choice run =
        let ended := (s.calling name choice run).after trace
        (ended.1, { next with trace := ended.2 }) := by
  unfold calling
  cases found : s.target? name with
  | error e =>
    refine ⟨s, rfl, fun trace => ?_⟩
    have same : { s with trace }.target? name = .error e := found
    rw [call, same, Exchange.after_bind_error (Exchange.after_lift _ _)]
    rfl
  | ok target =>
    cases chose : s.choose choice with
    | error e =>
      refine ⟨s, rfl, fun trace => ?_⟩
      have same : { s with trace }.target? name = .ok target := found
      rw [call, same, withPart, choose_on_trace, chose]
      rfl
    | ok chosen =>
      refine ⟨chosen.2, (choose_frame chose).2.2.1, fun trace => ?_⟩
      have same : { s with trace }.target? name = .ok target := found
      rw [call, same, withPart, choose_on_trace, chose]
      rfl

/-- On any trace the step makes its preparation, does the rest with the statement it gets, and
changes no statement of the session. -/
def Completes (s : Session) (step : Step) : Prop :=
  ∃ (prepare : Exchange Statement) (next : Session), s.preparation? step = some prepare ∧
    next.statements = s.statements ∧ ∀ trace, { s with trace }.perform step =
      let ended := (prepare >>= step.finish).after trace
      (ended.1, { next with trace := ended.2 })

theorem completes_of_call {s : Session} {step : Step} {name : TargetName} {choice : DialectChoice}
    {prepare : Target → Option Dialect → Exchange Statement}
    (run : Target → Option Dialect → Exchange Reply)
    (performs : ∀ trace, { s with trace }.perform step = { s with trace }.call name choice run)
    (made : s.preparation? step = some (s.calling name choice prepare))
    (split : ∀ target dialect, run target dialect = prepare target dialect >>= step.finish) :
    s.Completes step := by
  obtain ⟨next, statements, runs⟩ := s.call_on_trace name choice run
  refine ⟨_, next, made, statements, fun trace => ?_⟩
  have same : run = fun target dialect => prepare target dialect >>= step.finish := by
    funext target dialect
    exact split target dialect
  rw [performs, runs, calling_bind, ← same]

/-- Every call prepares a statement and does the rest with it. -/
theorem completes_of_isCall (s : Session) {step : Step} (isCall : step.isCall = true) :
    s.Completes step := by
  cases step with
  | queryRows name choice template params =>
    refine completes_of_call (fun target dialect =>
      Reply.rows <$> Query.rows { template, dialect } s.loaded target params)
      (fun _ => rfl) rfl fun target dialect => ?_
    rw [Query.rows, Query.complete_eq_prepared, bind_assoc, map_bind]
    rfl
  | queryUpdate name choice template params =>
    refine completes_of_call (fun target dialect =>
      Reply.affected <$> Query.update { template, dialect } s.loaded target params)
      (fun _ => rfl) rfl fun target dialect => ?_
    rw [Query.update, Query.complete_eq_prepared, map_bind]
    rfl
  | insert name choice table values =>
    refine completes_of_call (fun target dialect =>
      Reply.affected <$> Table.insert { name := table, dialect } s.loaded target values)
      (fun _ => rfl) rfl fun target dialect => ?_
    rw [Table.insert, Table.complete_eq_prepared, map_bind]
    rfl
  | update name choice table values conditions =>
    refine completes_of_call (fun target dialect =>
      Reply.affected <$> Table.update { name := table, dialect } s.loaded target values conditions)
      (fun _ => rfl) rfl fun target dialect => ?_
    rw [Table.update, Table.complete_eq_prepared, map_bind]
    rfl
  | delete name choice table conditions =>
    refine completes_of_call (fun target dialect =>
      Reply.affected <$> Table.delete { name := table, dialect } s.loaded target conditions)
      (fun _ => rfl) rfl fun target dialect => ?_
    rw [Table.delete, Table.complete_eq_prepared, map_bind]
    rfl
  | select name choice table columns conditions =>
    refine completes_of_call (fun target dialect =>
      Reply.rows <$> Table.select { name := table, dialect } s.loaded target columns conditions)
      (fun _ => rfl) rfl fun target dialect => ?_
    rw [Table.select, Table.complete_eq_prepared, bind_assoc, map_bind]
    rfl
  | _ => cases isCall

/-- Wherever the trace has equal counts, the step comes to the reply, adds the events, and leaves
the next session up to its trace. -/
def Yields (s : Session) (step : Step) (reply : Except Error Reply) (next : Session)
    (events : Trace) : Prop :=
  ∀ trace : Trace, s.trace.Matches trace →
    { s with trace }.perform step = (reply, { next with trace := trace ++ events })

theorem Yields.performed {s next : Session} {step : Step} {reply : Except Error Reply}
    {events : Trace} (yields : s.Yields step reply next events) :
    s.perform step = (reply, { next with trace := s.trace ++ events }) := yields s.trace (.refl _)

inductive Effect (s : Session) (step : Step) :
    Except Error Reply → List Statement → Trace → Prop where
  | quiet {reply : Except Error Reply} {events : Trace} (unmade : s.preparation? step = none)
    (told : events = [] ∨ events = [.disconnected]) : Effect s step reply s.statements events
  | used {reply : Except Error Reply} {index : Nat} {action : StatementStep} {st next : Statement}
    (on : step = .onStatement index action) (held : s.statements[index]? = some st)
    (cursor : next.cursor = st.cursor) (text : next.sql = st.sql) :
    Effect s step reply (s.statements.set index next)
      (st.stepEvents (s.trace.executionsOn st.cursor.index) action)
  | unprepared {prepare : Exchange Statement} {e : Error} {events : Trace}
    (made : s.preparation? step = some prepare)
    (ran : prepare.after s.trace = (.error e, s.trace ++ events))
    (prepared : Preparation s.connection s.trace (.error e) events) :
    Effect s step (.error e) s.statements events
  | kept {prepare : Exchange Statement} {st : Statement} {events : Trace}
    (made : s.preparation? step = some prepare) (keeps : step.isCall = false)
    (ran : prepare.after s.trace = (.ok st, s.trace ++ events))
    (prepared : Preparation s.connection s.trace (.ok st) events) :
    Effect s step (.ok (.statement st.sql st.count)) (s.statements ++ [st]) events
  | called {prepare : Exchange Statement} {st : Statement} {events : Trace}
    {reply : Except Error Reply} (made : s.preparation? step = some prepare)
    (isCall : step.isCall = true) (ran : prepare.after s.trace = (.ok st, s.trace ++ events))
    (prepared : Preparation s.connection s.trace (.ok st) events) :
    Effect s step reply s.statements
      (events ++ (st.completionEvents step.assignments step.updates 0 ++
        (step.report reply).map .logged))

def HasEffect (s : Session) (step : Step) : Prop :=
  ∃ reply next events, s.Yields step reply next events ∧ s.Effect step reply next.statements events

/-- A preparation over the connection of the session comes to an outcome and events. -/
theorem prepared_cases {s : Session} {prepare : Exchange Statement}
    (prepares : PreparesOn s.connection prepare) : ∃ outcome events,
      prepare.Yields s.trace.Matches outcome events ∧
      prepare.after s.trace = (outcome, s.trace ++ events) ∧
      Preparation s.connection s.trace outcome events := by
  obtain ⟨outcome, events, yields, prepared⟩ := prepares s.trace
  exact ⟨outcome, events, yields, yields s.trace (.refl _), prepared⟩

theorem hasEffect_of_completes {s : Session} {step : Step} (isCall : step.isCall = true)
    (completes : s.Completes step)
    (prepares : ∀ prepare, s.preparation? step = some prepare → PreparesOn s.connection prepare) :
    s.HasEffect step := by
  obtain ⟨prepare, next, made, statements, runs⟩ := completes
  obtain ⟨outcome, events, yields, ran, prepared⟩ := prepared_cases (prepares prepare made)
  cases outcome with
  | error e =>
    refine ⟨.error e, next, events, fun trace alike => ?_, ?_⟩
    · rw [runs, yields.bind_error trace alike]
    · rw [statements]
      exact .unprepared made ran prepared
  | ok st =>
    obtain ⟨reply, finishes⟩ := Step.finish_yields isCall st
    refine ⟨reply, next,
      events ++ (st.completionEvents step.assignments step.updates 0 ++
        (step.report reply).map .logged),
      fun trace alike => ?_, ?_⟩
    · rw [runs, yields.bind finishes (fun now _ => prepared.unused now) trace alike]
    · rw [statements]
      exact .called made isCall ran prepared

theorem hasEffect_of_keep {s : Session} {step : Step} {prepare : Exchange Statement}
    (keeps : step.isCall = false) (made : s.preparation? step = some prepare)
    (performs : ∀ trace, { s with trace }.perform step = { s with trace }.keep prepare)
    (prepares : PreparesOn s.connection prepare) : s.HasEffect step := by
  obtain ⟨outcome, events, yields, ran, prepared⟩ := prepared_cases prepares
  cases outcome with
  | error e =>
    refine ⟨.error e, s, events, fun trace alike => ?_, .unprepared made ran prepared⟩
    have ended : prepare.after { s with trace }.trace = _ := yields trace alike
    rw [performs, keep, exchange_eq, ended]
  | ok st =>
    refine ⟨_, { s with statements := s.statements ++ [st] }, events, fun trace alike => ?_,
      .kept made keeps ran prepared⟩
    have ended : prepare.after { s with trace }.trace = _ := yields trace alike
    rw [performs, keep, exchange_eq, ended]

/-- A step that only looks, or fails at once, is quiet. -/
theorem hasEffect_of_still {s : Session} {step : Step} (unmade : s.preparation? step = none)
    (reply : Except Error Reply) (next : Session) (statements : next.statements = s.statements)
    (performs : ∀ trace, { s with trace }.perform step = (reply, { next with trace })) :
    s.HasEffect step := by
  refine ⟨reply, next, [], fun trace _ => ?_, ?_⟩
  · rw [performs, List.append_nil]
  · rw [statements]
    exact .quiet unmade (.inl rfl)

theorem hasEffect_shutDatabase (s : Session) {step : Step} {index : Nat} {reply : Reply}
    (unmade : s.preparation? step = none)
    (performs : ∀ trace,
      { s with trace }.perform step = { s with trace }.shutDatabase index reply) :
    s.HasEffect step := by
  cases found : s.database? index with
  | error e =>
    refine hasEffect_of_still unmade (.error e) s rfl fun trace => ?_
    have same : { s with trace }.database? index = .error e := found
    rw [performs, shutDatabase, same]
    rfl
  | ok db =>
    obtain ⟨outcome, yields⟩ := db.disconnect_yields s.trace
    refine ⟨outcome.map fun _ => reply, { s with databases := s.databases.set index db.shut },
      db.farewell, fun trace alike => ?_, .quiet unmade db.farewell_cases⟩
    have same : { s with trace }.database? index = .ok db := found
    have ended : db.disconnect.after { s with trace }.trace = _ := yields trace alike
    rw [performs, shutDatabase, same, withPart, exchange_eq, ended]

theorem hasEffect_onStatement (s : Session) (index : Nat) (action : StatementStep) :
    s.HasEffect (.onStatement index action) := by
  cases found : s.statement? index with
  | error e =>
    refine hasEffect_of_still rfl (.error e) s rfl fun trace => ?_
    have same : { s with trace }.statement? index = .error e := found
    rw [perform, same]
    rfl
  | ok st =>
    let ran := s.trace.executionsOn st.cursor.index
    obtain ⟨ended, runs⟩ := st.run_perform action ran
    have changed : ended.2 = _ := runs s.trace rfl ▸ st.perform_statement action s.trace
    refine ⟨ended.1, { s with statements := s.statements.set index ended.2 },
      st.stepEvents ran action, fun trace alike => ?_, .used rfl (statement?_eq_ok found) ?_ ?_⟩
    · have same : { s with trace }.statement? index = .ok st := found
      rw [perform, same, withPart]
      exact congrArg (fun result : (Except Error Reply × Statement) × Trace => (result.1.1, { s with
        statements := s.statements.set index result.1.2, trace := result.2 }))
        (runs trace (alike.ran st.cursor.index))
    · rw [changed]
    · rw [changed]

/-- Keeping what a database of the session prepares. -/
theorem keep_on_database (s : Session) (index : Nat) (prepare : Database → Exchange Statement) :
    s.withPart (s.database? index) (fun db => s.keep (prepare db)) =
      s.keep (do let db ← s.database? index; prepare db) := by
  cases s.database? index with
  | error e =>
    rw [keep, exchange_eq, Exchange.after_bind_error (Exchange.after_lift _ _)]
    rfl
  | ok db => rfl

theorem introduce_on_trace (s : Session) (trace : Trace) (d : Dialect) :
    { s with trace }.introduce d = ((s.introduce d).1, { (s.introduce d).2 with trace }) := by
  unfold introduce
  split <;> rfl

theorem hasEffect_openDatabase (s : Session) (choice : DialectChoice) :
    s.HasEffect (.openDatabase choice) := by
  cases chose : s.choose choice with
  | error e =>
    refine hasEffect_of_still rfl (.error e) s rfl fun trace => ?_
    rw [perform, choose_on_trace, chose]
    rfl
  | ok chosen =>
    obtain ⟨dialect, now⟩ := chosen
    obtain ⟨_, _, statements, _⟩ := choose_frame chose
    let db := Database.holding now.loaded now.connection dialect
    obtain ⟨_, _, kept, _⟩ := now.introduce_frame db.dialect
    refine hasEffect_of_still rfl (.ok (.dialect (now.introduce db.dialect).1))
      { (now.introduce db.dialect).2 with
        databases := (now.introduce db.dialect).2.databases ++
          [{ db with dialect := (now.introduce db.dialect).1 }] }
      (kept.trans statements) fun trace => ?_
    have introduced := now.introduce_on_trace trace db.dialect
    rw [perform, choose_on_trace, chose]
    simp only [Except.map, withPart]
    rw [introduced]

theorem hasEffect_resolve (s : Session) (name : TargetName) (choice : DialectChoice) :
    s.HasEffect (.resolve name choice) := by
  cases found : s.target? name with
  | error e =>
    refine hasEffect_of_still rfl (.error e) s rfl fun trace => ?_
    have same : { s with trace }.target? name = .error e := found
    rw [perform, same]
    rfl
  | ok target =>
    cases chose : s.choose choice with
    | error e =>
      refine hasEffect_of_still rfl (.error e) s rfl fun trace => ?_
      have same : { s with trace }.target? name = .ok target := found
      rw [perform, same, withPart, choose_on_trace, chose]
      rfl
    | ok chosen =>
      refine hasEffect_of_still rfl (.ok (.resolved (target.isResolved chosen.1)
        (target.resolve chosen.2.loaded chosen.1).dialect)) chosen.2 (choose_frame chose).2.2.1
        fun trace => ?_
      have same : { s with trace }.target? name = .ok target := found
      rw [perform, same, withPart, choose_on_trace, chose]
      rfl

/-- Every step of a session has an effect. -/
theorem perform_hasEffect {s : Session} (accounted : s.DatabasesAccounted) (step : Step) :
    s.HasEffect step := by
  have still : ∀ reply, s.preparation? step = none →
      (∀ trace, { s with trace }.perform step = (reply, { s with trace })) → s.HasEffect step :=
    fun reply unmade performs => hasEffect_of_still unmade reply s rfl performs
  cases step with
  | openDatabase choice => exact s.hasEffect_openDatabase choice
  | prepare index sql =>
    have made : s.preparation? (.prepare index sql) = some _ := rfl
    have performs := fun trace => { s with trace }.keep_on_database index (·.prepare sql)
    exact hasEffect_of_keep rfl made performs (accounted.preparesOn_preparation made)
  | preparePositional index sql count =>
    have made : s.preparation? (.preparePositional index sql count) = some _ := rfl
    have performs := fun trace =>
      { s with trace }.keep_on_database index (·.preparePositional sql count)
    exact hasEffect_of_keep rfl made performs (accounted.preparesOn_preparation made)
  | onStatement index action => exact s.hasEffect_onStatement index action
  | closeDatabase index => exact s.hasEffect_shutDatabase rfl fun _ => rfl
  | enterDatabase index => exact s.hasEffect_shutDatabase rfl fun _ => rfl
  | isDisconnected index =>
    refine still ((s.database? index).map fun db => .truth db.connection.isNone) rfl fun trace => ?_
    change { s with trace }.withPart (s.database? index) _ = _
    cases s.database? index <;> rfl
  | dialectOf name =>
    refine still ((s.target? name).map fun target => .dialect (.ofTarget s.loaded target)) rfl
      fun trace => ?_
    have same : { s with trace }.target? name = s.target? name := rfl
    rw [perform, same]
    cases s.target? name <;> rfl
  | resolve name choice => exact s.hasEffect_resolve name choice
  | queryRows | queryUpdate | insert | update | delete | select =>
    exact hasEffect_of_completes rfl (s.completes_of_isCall rfl) fun _ =>
      accounted.preparesOn_preparation

end Session
end SqlTemplate
