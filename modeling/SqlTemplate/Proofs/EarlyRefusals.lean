import SqlTemplate.Proofs.FirstFailure
import SqlTemplate.Proofs.QueryBinding
import SqlTemplate.Proofs.StepEvents
import SqlTemplate.Proofs.TableBinding

/-!
# Refusals before any cursor

A call is refused for want of a connection, for a style without markers where a marker is needed,
or, on a table, for want of values or conditions. A query looks at the connection first and an
operation at its text. Either way a refused call leaves no trace at all, and nothing that can go
wrong later is an error of these sorts. A call that is not refused asks its connection for one
cursor, and whatever it does with that cursor, it asks for no other. -/

namespace SqlTemplate

def Dialect.Unsupported (d : Dialect) : Prop :=
  d.styleName ∉ ["qmark", "format", "numeric"]

instance (d : Dialect) : Decidable d.Unsupported :=
  inferInstanceAs (Decidable (d.styleName ∉ ["qmark", "format", "numeric"]))

namespace Dialect

variable {d : Dialect}

theorem style?_eq_none_iff : d.style? = none ↔ d.Unsupported := by
  simp only [style?, Unsupported, List.mem_cons, List.not_mem_nil, or_false, not_or]
  unfold MarkerStyle.ofName?
  split <;> simp_all

theorem exists_style (supported : ¬ d.Unsupported) : ∃ style, d.style? = some style :=
  Option.ne_none_iff_exists'.mp (mt style?_eq_none_iff.mp supported)

theorem marker_of_unsupported (unsupported : d.Unsupported) (position : Int) :
    d.marker position = .error (.unsupportedStyle d.styleName) := by
  rw [marker, style?_eq_none_iff.mpr unsupported]

/-- Tokens cannot be rewritten if a marker is needed that the style does not have. -/
theorem rewriteTokens_of_unsupported (unsupported : d.Unsupported) (position : Nat)
    (tokens : List Template.Token) :
    (tokens.filterMap Template.Token.name? = [] ∧
        ∃ text, d.rewriteTokens position tokens = .ok text) ∨
      (tokens.filterMap Template.Token.name? ≠ [] ∧
        d.rewriteTokens position tokens = .error (.unsupportedStyle d.styleName)) := by
  induction tokens generalizing position with
  | nil => exact .inl ⟨rfl, [], rfl⟩
  | cons token rest ih =>
    cases token with
    | literal c =>
      rcases ih position with ⟨none_, text, rewritten⟩ | ⟨some_, refused⟩
      · exact .inl ⟨none_, d.literal c ++ text, by rw [rewriteTokens, rewritten]; rfl⟩
      · exact .inr ⟨some_, by rw [rewriteTokens, refused]; rfl⟩
    | placeholder name =>
      refine .inr ⟨List.cons_ne_nil _ _, ?_⟩
      rw [rewriteTokens, marker_of_unsupported unsupported]
      rfl

theorem rewrite_eq_error_iff {sql : String} {e : Error} :
    d.rewrite sql = .error e ↔
      d.Unsupported ∧ Template.placeholders sql ≠ [] ∧ e = .unsupportedStyle d.styleName := by
  have needed : Template.placeholders sql ≠ [] ↔
      (Template.tokens sql.toList).filterMap Template.Token.name? ≠ [] := by
    rw [Template.placeholders, ne_eq, List.map_eq_nil_iff]
  by_cases unsupported : d.Unsupported
  · rw [rewrite, needed]
    rcases rewriteTokens_of_unsupported unsupported 1 (Template.tokens sql.toList) with
      ⟨none_, text, rewritten⟩ | ⟨some_, refused⟩
    · rw [rewritten]
      constructor
      · intro same
        cases same
      · rintro ⟨_, some_, _⟩
        exact absurd none_ some_
    · rw [refused]
      constructor
      · intro same
        exact ⟨unsupported, some_, (Except.error.inj same).symm⟩
      · rintro ⟨_, _, rfl⟩
        rfl
  · obtain ⟨_, styled⟩ := exists_style unsupported
    rw [rewrite_of_style styled]
    constructor
    · intro same
      cases same
    · rintro ⟨unmarked, _⟩
      exact absurd unmarked unsupported

end Dialect

namespace TableSql

variable {d : Dialect} {table : String} {columns conditions : List String} {e : Error}

theorem equations_of_unsupported (unsupported : d.Unsupported) (start : Int)
    (some_ : columns ≠ []) :
    equations d start columns = .error (.unsupportedStyle d.styleName) := by
  obtain ⟨column, rest, rfl⟩ := List.exists_cons_of_ne_nil some_
  rw [equations, Dialect.marker_of_unsupported unsupported]
  rfl

theorem whereClause_of_unsupported (unsupported : d.Unsupported) (start : Int)
    (some_ : columns ≠ []) :
    whereClause d columns start = .error (.unsupportedStyle d.styleName) := by
  rw [whereClause, if_neg (by simpa using some_), equations_of_unsupported unsupported start some_]
  rfl

theorem insert_eq_error_iff :
    insert d table columns = .error e ↔
      columns ≠ [] ∧ d.Unsupported ∧ e = .unsupportedStyle d.styleName := by
  by_cases none_ : columns = []
  · subst none_
    simp [insert]
  by_cases unsupported : d.Unsupported
  · have refused : insert d table columns = .error (.unsupportedStyle d.styleName) := by
      obtain ⟨column, rest, rfl⟩ := List.exists_cons_of_ne_nil none_
      rw [insert, if_neg (by simp), List.length_cons, markers,
        Dialect.marker_of_unsupported unsupported]
      rfl
    rw [refused]
    simp [none_, unsupported, eq_comm]
  · obtain ⟨style, styled⟩ := Dialect.exists_style unsupported
    rw [insert_of_style styled table none_]
    simp [unsupported]

theorem update_eq_error_iff :
    update d table columns conditions = .error e ↔
      (columns = [] ∧ e = .noAssignments table) ∨
      (columns ≠ [] ∧ conditions = [] ∧ e = .updateWithoutConditions table) ∨
      (columns ≠ [] ∧ conditions ≠ [] ∧ d.Unsupported ∧ e = .unsupportedStyle d.styleName) := by
  by_cases none_ : columns = []
  · subst none_
    rw [update, if_pos (by simp)]
    simp [eq_comm]
  by_cases unlimited : conditions = []
  · subst unlimited
    rw [update, if_neg (by simpa using none_), if_pos (by simp)]
    simp [none_, eq_comm]
  by_cases unsupported : d.Unsupported
  · have refused : update d table columns conditions = .error (.unsupportedStyle d.styleName) := by
      rw [update, if_neg (by simpa using none_), if_neg (by simpa using unlimited), assignments,
        equations_of_unsupported unsupported 1 none_]
      rfl
    rw [refused]
    simp [none_, unlimited, unsupported, eq_comm]
  · obtain ⟨style, styled⟩ := Dialect.exists_style unsupported
    rw [update_of_style styled table none_ unlimited]
    simp [none_, unlimited, unsupported]

theorem delete_eq_error_iff :
    delete d table conditions = .error e ↔
      (conditions = [] ∧ e = .deleteWithoutConditions table) ∨
      (conditions ≠ [] ∧ d.Unsupported ∧ e = .unsupportedStyle d.styleName) := by
  by_cases unlimited : conditions = []
  · subst unlimited
    rw [delete, if_pos (by simp)]
    simp [eq_comm]
  by_cases unsupported : d.Unsupported
  · rw [delete, if_neg (by simpa using unlimited),
      whereClause_of_unsupported unsupported 1 unlimited]
    simp [Except.map, unlimited, unsupported, eq_comm]
  · obtain ⟨style, styled⟩ := Dialect.exists_style unsupported
    rw [delete_of_style styled table unlimited]
    simp [unlimited, unsupported]

theorem select_eq_error_iff :
    select d table columns conditions = .error e ↔
      conditions ≠ [] ∧ d.Unsupported ∧ e = .unsupportedStyle d.styleName := by
  by_cases unlimited : conditions = []
  · subst unlimited
    simp [select, whereClause, Except.map]
  by_cases unsupported : d.Unsupported
  · rw [select, whereClause_of_unsupported unsupported 1 unlimited]
    simp [Except.map, unlimited, unsupported, eq_comm]
  · obtain ⟨style, styled⟩ := Dialect.exists_style unsupported
    rw [select_of_style styled]
    simp [unsupported]

end TableSql

/-- A database that was closed gave its connection up. -/
def Target.ClosedForGood (target : Target) : Prop :=
  ∀ db, target = .database db → db.closed = true → db.connection = none

theorem Target.usable_resolve_eq_error_iff {target : Target} (final : target.ClosedForGood)
    (loaded : LoadedModules) (dialect : Option Dialect) {e : Error} :
    (target.resolve loaded dialect).usable = .error e ↔
      target.usable? = none ∧ e = .connectionClosed := by
  have held : target.usable? = target.held := by
    cases target with
    | connection bare => rfl
    | database db =>
      cases closed : db.closed with
      | false => simp [usable?, Target.held, closed]
      | true => simp [usable?, Target.held, closed, final db rfl closed]
  cases usable : target.usable? with
  | some connection =>
    rw [target.usable_resolve usable loaded dialect]
    constructor
    · intro same
      cases same
    · rintro ⟨none_, _⟩
      cases none_
  | none =>
    have missing : (target.resolve loaded dialect).connection = none := by
      rw [Target.connection_resolve, ← held, usable]
    rw [Database.usable_of_missing missing]
    exact ⟨fun same => ⟨rfl, (Except.error.inj same).symm⟩, fun both => by rw [both.2]⟩

variable {α : Type}

def Connection.visit (connection : Connection) (notice : LogRecord) (rest : Cursor → Exchange α) :
    Exchange α := do
  Exchange.log notice
  let cursor ← connection.openCursor
  rest cursor

def AsksForNone (x : Exchange α) : Prop :=
  ∀ trace, (x.after trace).2.cursorCalls = trace.cursorCalls ∧
    (x.after trace).2.openedCursors = trace.openedCursors

/-- The exchange asks the connection for exactly one cursor, and what it does then asks for none.
Either the connection raises its fault, which ends the exchange, or one more cursor is open. -/
structure AsksOnce (x : Exchange α) (connection : Connection) : Prop where
  once : ∃ (notice : LogRecord) (rest : Cursor → Exchange α),
    (∀ trace, x.after trace = (connection.visit notice rest).after trace) ∧
      ∀ cursor, AsksForNone (rest cursor)
  ended : ∀ trace, (x.after trace).2.cursorCalls = trace.cursorCalls + 1 ∧
    match connection.cursorFault trace.cursorCalls with
    | some raised => (x.after trace).1 = .error (.fault raised) ∧
        (x.after trace).2.openedCursors = trace.openedCursors
    | none => (x.after trace).2.openedCursors =
        trace.openedCursors ++ [trace.openedCursors.length]

theorem Trace.openedCursors_logged (trace : Trace) (record : LogRecord) :
    Trace.openedCursors (trace ++ [.logged record]) = trace.openedCursors := by
  simp [Trace.openedCursors, Event.opened?]

theorem asksOnce_of_visit {x : Exchange α} {connection : Connection} {notice : LogRecord}
    {rest : Cursor → Exchange α}
    (visits : ∀ trace, x.after trace = (connection.visit notice rest).after trace)
    (asksForNone : ∀ cursor, AsksForNone (rest cursor)) : AsksOnce x connection := by
  refine ⟨⟨notice, rest, visits, asksForNone⟩, fun trace => ?_⟩
  rw [visits, Connection.visit, Exchange.after_bind_ok (Exchange.after_log _ _),
    Exchange.after_bind, Connection.after_openCursor, Trace.cursorCalls_logged]
  cases connection.cursorFault trace.cursorCalls with
  | some raised =>
    refine ⟨?_, rfl, ?_⟩
    · simp only [Trace.cursorCalls_append]
      rfl
    · simp only [Trace.openedCursors_append]
      exact (List.append_nil _).trans (List.append_nil _)
  | none =>
    simp only [(asksForNone _ _).1, (asksForNone _ _).2]
    rw [Trace.openedCursors_logged, Trace.cursorCalls_append, Trace.cursorCalls_logged,
      Trace.openedCursors_append, Trace.openedCursors_logged]
    exact ⟨rfl, rfl⟩

theorem AsksOnce.reported {x y : Exchange (List Row)} {connection : Connection}
    {record : Nat → LogRecord} (asks : AsksOnce x connection)
    (reports : ∀ trace, y.after trace = SqlTemplate.reported record (x.after trace)) :
    AsksOnce y connection := by
  obtain ⟨notice, rest, visits, asksForNone⟩ := asks.once
  let told : Cursor → Exchange (List Row) := fun cursor => do
    let rows ← rest cursor
    Exchange.log (record rows.length)
    return rows
  have visited : ∀ trace, y.after trace = (connection.visit notice told).after trace := by
    intro trace
    rw [reports, visits, ← after_reporting]
    simp only [Connection.visit, told, bind_assoc]
  refine asksOnce_of_visit visited fun cursor trace => ?_
  have asked := asksForNone cursor trace
  rw [after_reporting]
  generalize (rest cursor).after trace = ended at asked
  obtain ⟨outcome, later⟩ := ended
  cases outcome with
  | error e => exact asked
  | ok rows =>
    exact ⟨(later.cursorCalls_logged _).trans asked.1, (later.openedCursors_logged _).trans asked.2⟩

/-- A request asks its connection for one cursor. -/
theorem Request.asksOnce {x : Exchange α} {reading : Reading α} {updates : Bool}
    (uses : Statement.Uses reading.use updates) (r : Request)
    (runs : ∀ trace, x.after trace = course (.ok r) reading trace) : AsksOnce x r.connection := by
  let rest : Cursor → Exchange α := fun cursor =>
    (r.statement cursor).complete (Assignment.number 0 r.values) reading.use
  have visits : ∀ trace, x.after trace = (r.connection.visit r.notice rest).after trace :=
    fun trace => (runs trace).trans (r.after_carryOut reading trace).symm
  refine asksOnce_of_visit visits fun cursor trace => ?_
  obtain ⟨outcome, yields⟩ := Statement.complete_yields uses (r.statement cursor)
    (Assignment.number 0 r.values) (trace.executionsOn (r.statement cursor).cursor.index)
  have plain := (r.statement cursor).plain_completionEvents (Assignment.number 0 r.values) updates
    (trace.executionsOn (r.statement cursor).cursor.index)
  rw [yields trace rfl, Trace.cursorCalls_append, plain.unasked, Trace.openedCursors_append,
    plain.unopened, List.append_nil]
  exact ⟨rfl, rfl⟩

/-- The error is of a sort that a call ends in only if it is refused. -/
def Error.IsRefusal (e : Error) : Prop := e.category = .badState ∨ e.category = .badValue

theorem Error.IsMalformed.not_isRefusal {e : Error} (form : e.IsMalformed) : ¬ e.IsRefusal := by
  rintro (same | same) <;> rcases form with other | other | other | other <;>
    cases same.symm.trans other

theorem Error.not_isRefusal_fault (raised : Fault) : ¬ (Error.fault raised).IsRefusal := by
  rintro (same | same) <;> cases same

theorem not_isRefusal_of_toDriver {value : Value} {key : Option String} {e : Error}
    (fails : value.toDriver key = .error e) : ¬ e.IsRefusal := by
  rcases Value.toDriver_category fails with (sort | sort) | sort | sort <;>
    rintro (same | same) <;> cases sort.symm.trans same

theorem Wanted.not_isRefusal {wanted : Wanted α} {script : CursorScript} {e : Error}
    (fails : firstOf (script.executionFailures ++ wanted.failures script) (wanted.result script) =
      .error e) : ¬ e.IsRefusal := by
  rcases List.mem_append.mp (mem_of_firstOf fails) with executing | wanting
  · obtain ⟨raised, _, rfl⟩ := List.mem_map.mp executing
    exact Error.not_isRefusal_fault raised
  · rcases wanted.sorts script e wanting with form | ⟨raised, _, rfl⟩
    · exact form.not_isRefusal
    · exact Error.not_isRefusal_fault raised

theorem not_isRefusal_unlessFault {fault : Option Fault} {outcome : Except Error α} {e : Error}
    (later : ∀ e, outcome = .error e → ¬ e.IsRefusal)
    (fails : unlessFault fault outcome = .error e) : ¬ e.IsRefusal := by
  cases fault with
  | none => exact later e fails
  | some raised =>
    obtain rfl := Except.error.inj fails
    exact Error.not_isRefusal_fault raised

/-- What goes wrong with a request is no refusal. -/
theorem Request.not_isRefusal {r : Request} {reading : Reading α}
    (answers : ∀ (script : CursorScript) (e : Error), reading.answer script 0 = .error e →
      ¬ e.IsRefusal) {before : Trace} {e : Error} (fails : r.outcome reading before = .error e) :
    ¬ e.IsRefusal := by
  refine not_isRefusal_unlessFault (fun e => not_isRefusal_unlessFault fun e fails => ?_) fails
  cases converted : driverValues r.values with
  | ok params =>
    rw [converted] at fails
    exact answers _ e fails
  | error reason =>
    rw [converted] at fails
    cases fails
    obtain ⟨pair, _, refused⟩ := exists_error_of_mapM converted
    exact not_isRefusal_of_toDriver refused

/-- A call is refused for want of a connection just where it is `closed`, and with an error about
its text or style just where that is `unfit`, and then leaves no trace. Any other call asks the
connection of its target for exactly one cursor. -/
structure RefusedJustFor (x : Exchange α) (target : Target) (closed : Prop) (unfit : Error → Prop) :
    Prop where
  closed_iff : ∀ trace, (x.after trace).1 = .error .connectionClosed ↔ closed
  unfit_iff : ∀ trace e, ((x.after trace).1 = .error e ∧ e.category = .badValue) ↔ unfit e
  untouched : ∀ trace, (closed ∨ ∃ e, unfit e) → (x.after trace).2 = trace
  otherwise : ¬ closed → (∀ e, ¬ unfit e) →
    ∃ connection, target.usable? = some connection ∧ AsksOnce x connection

theorem RefusedJustFor.reported {x y : Exchange (List Row)} {target : Target} {closed : Prop}
    {unfit : Error → Prop} {record : Nat → LogRecord}
    (refused : RefusedJustFor x target closed unfit)
    (reports : ∀ trace, y.after trace = SqlTemplate.reported record (x.after trace)) :
    RefusedJustFor y target closed unfit := by
  have outcome : ∀ trace, (y.after trace).1 = (x.after trace).1 := by
    intro trace
    rw [reports, reported_fst]
  refine ⟨?_, ?_, ?_, ?_⟩
  · intro trace
    rw [outcome]
    exact refused.closed_iff trace
  · intro trace e
    rw [outcome]
    exact refused.unfit_iff trace e
  · intro trace reason
    have silent := refused.untouched trace reason
    have fails : ∃ e, (x.after trace).1 = .error e := by
      rcases reason with closed | ⟨e, unfit⟩
      · exact ⟨_, (refused.closed_iff trace).mpr closed⟩
      · exact ⟨e, ((refused.unfit_iff trace e).mpr unfit).1⟩
    obtain ⟨e, fails⟩ := fails
    rw [reports]
    generalize x.after trace = ended at silent fails
    obtain ⟨_, later⟩ := ended
    subst fails
    exact silent
  · intro isOpen fit
    obtain ⟨connection, usable, asks⟩ := refused.otherwise isOpen fit
    exact ⟨connection, usable, asks.reported reports⟩

/-- A call that takes its course is refused just where its request is. -/
theorem refusedJustFor_course {x : Exchange α} {reading : Reading α} {updates : Bool}
    {target : Target} {asked : Except Error Request} {closed : Prop} {unfit : Error → Prop}
    (uses : Statement.Uses reading.use updates)
    (answers : ∀ (script : CursorScript) (e : Error), reading.answer script 0 = .error e →
      ¬ e.IsRefusal)
    (runs : ∀ trace, x.after trace = course asked reading trace)
    (refused : ∀ e, asked = .error e ↔ (closed ∧ e = .connectionClosed) ∨ unfit e)
    (sort : ∀ e, unfit e → e.category = .badValue)
    (held : ∀ r, asked = .ok r → target.usable? = some r.connection) :
    RefusedJustFor x target closed unfit := by
  cases asked with
  | error reason =>
    -- Without a request nothing happens, so its error is the outcome.
    have ended : ∀ trace, x.after trace = (.error reason, trace) := runs
    have known := (refused reason).mp rfl
    refine ⟨?_, ?_, ?_, ?_⟩
    · intro trace
      rw [ended]
      constructor
      · intro same
        cases same
        rcases known with ⟨isClosed, _⟩ | isUnfit
        · exact isClosed
        · cases sort _ isUnfit
      · intro isClosed
        cases (refused _).mpr (.inl ⟨isClosed, rfl⟩)
        rfl
    · intro trace e
      rw [ended]
      constructor
      · rintro ⟨same, value⟩
        cases same
        rcases known with ⟨_, rfl⟩ | isUnfit
        · cases value
        · exact isUnfit
      · intro isUnfit
        cases (refused e).mpr (.inr isUnfit)
        exact ⟨rfl, sort _ isUnfit⟩
    · intro trace _
      rw [ended]
    · intro isOpen fit
      rcases known with ⟨isClosed, _⟩ | isUnfit
      · exact absurd isClosed isOpen
      · exact absurd isUnfit (fit _)
  | ok r =>
    -- A call may still fail once it has a request, but not in an error of these sorts.
    have outcome : ∀ trace e, (x.after trace).1 = .error e → ¬ e.IsRefusal := by
      intro trace e fails
      rw [runs] at fails
      exact Request.not_isRefusal answers fails
    have isOpen : ¬ closed := fun isClosed => by cases (refused _).mpr (.inl ⟨isClosed, rfl⟩)
    have fit : ∀ e, ¬ unfit e := fun e isUnfit => by cases (refused e).mpr (.inr isUnfit)
    refine ⟨?_, ?_, ?_, fun _ _ => ⟨r.connection, held r rfl, r.asksOnce uses runs⟩⟩
    · intro trace
      exact ⟨fun fails => absurd (.inl rfl) (outcome trace _ fails), fun is => absurd is isOpen⟩
    · intro trace e
      exact ⟨fun fails => absurd (.inr fails.2) (outcome trace e fails.1),
        fun isUnfit => absurd isUnfit (fit e)⟩
    · rintro trace (isClosed | ⟨e, isUnfit⟩)
      · exact absurd isClosed isOpen
      · exact absurd isUnfit (fit e)

theorem Target.usable?_of_resolve {target : Target} (final : target.ClosedForGood)
    {loaded : LoadedModules} {dialect : Option Dialect} {connection : Connection}
    (usable : (target.resolve loaded dialect).usable = .ok connection) :
    target.usable? = some connection := by
  cases known : target.usable? with
  | none =>
    rw [(target.usable_resolve_eq_error_iff final loaded dialect).mpr ⟨known, rfl⟩] at usable
    cases usable
  | some other =>
    rw [target.usable_resolve known loaded dialect] at usable
    rw [Except.ok.inj usable]

section Requests

variable {target : Target} (final : target.ClosedForGood) (loaded : LoadedModules)

include final

/-- A query is refused for want of a connection, and otherwise for its style. -/
theorem Query.request_eq_error_iff (q : Query) (params : NamedValues) (e : Error) :
    let d := (target.resolve loaded q.dialect).dialect
    q.request loaded target params = .error e ↔
      (target.usable? = none ∧ e = .connectionClosed) ∨
      (target.usable? ≠ none ∧ d.Unsupported ∧ Template.placeholders (q.render params) ≠ [] ∧
        e = .unsupportedStyle d.styleName) := by
  intro d
  have connected := target.usable_resolve_eq_error_iff final loaded q.dialect (e := e)
  rw [request]
  cases usable : (target.resolve loaded q.dialect).usable with
  | error reason =>
    rw [usable] at connected
    have missing := ((target.usable_resolve_eq_error_iff final loaded q.dialect).mp usable).1
    change Except.error reason = .error e ↔ _
    rw [Except.error.injEq, ← Except.error.injEq (ε := Error) (α := Connection), connected]
    simp [missing]
  | ok connection =>
    have known := Target.usable?_of_resolve final usable
    have rewritten : d.rewrite (q.render params) = .error e ↔ _ := d.rewrite_eq_error_iff
    cases made : d.rewrite (q.render params) with
    | error reason =>
      rw [made] at rewritten
      change Except.error reason = .error e ↔ _
      rw [Except.error.injEq, ← Except.error.injEq (ε := Error) (α := String), rewritten]
      simp [known]
    | ok positional =>
      rw [made] at rewritten
      constructor
      · intro same
        cases same
      · rintro (⟨missing, _⟩ | ⟨_, unfit⟩)
        · rw [known] at missing
          cases missing
        · cases rewritten.mpr unfit

/-- An operation is refused for its text, and otherwise for want of a connection. -/
theorem Table.request_eq_error_iff (table : Table) (sql : Dialect → Except Error String)
    (values : List (String × Value)) (e : Error) :
    let d := (target.resolve loaded table.dialect).dialect
    table.request loaded target sql values = .error e ↔
      (((∀ e, sql d ≠ .error e) ∧ target.usable? = none) ∧ e = .connectionClosed) ∨
      sql d = .error e := by
  intro d
  have connected := target.usable_resolve_eq_error_iff final loaded table.dialect (e := e)
  rw [request]
  cases built : sql d with
  | error reason =>
    change Except.error reason = .error e ↔ _
    simp
  | ok text =>
    cases usable : (target.resolve loaded table.dialect).usable with
    | error reason =>
      rw [usable] at connected
      change Except.error reason = .error e ↔ _
      rw [Except.error.injEq, ← Except.error.injEq (ε := Error) (α := Connection), connected]
      simp
    | ok connection =>
      have known := Target.usable?_of_resolve final usable
      constructor
      · intro same
        cases same
      · rintro (⟨⟨_, missing⟩, _⟩ | same)
        · rw [known] at missing
          cases missing
        · cases same

theorem Table.held_of_request {table : Table} {sql : Dialect → Except Error String}
    {values : List (String × Value)} {r : Request}
    (asked : table.request loaded target sql values = .ok r) :
    target.usable? = some r.connection :=
  Target.usable?_of_resolve final (Table.usable_of_request asked)

end Requests

theorem count_not_isRefusal (script : CursorScript) (e : Error)
    (fails : Reading.count.answer script 0 = .error e) : ¬ e.IsRefusal := by
  rw [count_answers] at fails
  exact Wanted.not_isRefusal fails

theorem rows_not_isRefusal (script : CursorScript) (e : Error)
    (fails : Reading.rows.answer script 0 = .error e) : ¬ e.IsRefusal := by
  rw [rows_answers] at fails
  exact Wanted.not_isRefusal fails

/-- A query on a target, with whatever is read in the end, is refused just where there is no
connection, or else where its rendered text needs a marker that its style does not have. -/
theorem Query.refusedJustFor {x : Exchange α} {reading : Reading α} {updates : Bool}
    {target : Target} (final : target.ClosedForGood) {loaded : LoadedModules} {q : Query}
    {params : NamedValues}
    (uses : Statement.Uses reading.use updates)
    (answers : ∀ (script : CursorScript) (e : Error), reading.answer script 0 = .error e →
      ¬ e.IsRefusal)
    (runs : ∀ trace, x.after trace = course (q.request loaded target params) reading trace) :
    let d := (target.resolve loaded q.dialect).dialect
    RefusedJustFor x target (target.usable? = none) fun e => target.usable? ≠ none ∧
      d.Unsupported ∧ Template.placeholders (q.render params) ≠ [] ∧
        e = .unsupportedStyle d.styleName := by
  refine refusedJustFor_course uses answers runs (q.request_eq_error_iff final loaded params) ?_
    fun r asked => Target.usable?_of_resolve final (Query.usable_of_request asked)
  rintro e ⟨_, _, _, rfl⟩
  rfl

/-- An operation on a target, with whatever is read in the end, is refused just where its text is,
or else where there is no connection. -/
theorem Table.refusedJustFor {x : Exchange α} {reading : Reading α} {updates : Bool}
    {target : Target} (final : target.ClosedForGood) {loaded : LoadedModules} {table : Table}
    {sql : Dialect → Except Error String} {values : List (String × Value)} {unfit : Error → Prop}
    (uses : Statement.Uses reading.use updates)
    (answers : ∀ (script : CursorScript) (e : Error), reading.answer script 0 = .error e →
      ¬ e.IsRefusal)
    (runs : ∀ trace, x.after trace = course (table.request loaded target sql values) reading trace)
    (refused : ∀ e, sql (target.resolve loaded table.dialect).dialect = .error e ↔ unfit e)
    (sort : ∀ e, unfit e → e.category = .badValue) :
    RefusedJustFor x target ((∀ e, ¬ unfit e) ∧ target.usable? = none) unfit := by
  refine refusedJustFor_course uses answers runs (fun e => ?_) sort fun r asked =>
    Table.held_of_request final loaded asked
  have asked := Table.request_eq_error_iff final loaded table sql values e
  simpa only [ne_eq, refused] using asked

/-- Every target of a session that was started over a connection gave up its connection if it is
closed. -/
theorem Session.closedForGood (loaded : LoadedModules) (connection : Option Connection)
    (steps : List Step) (name : TargetName) (target : Target)
    (found : ((start loaded connection).run steps).2.target? name = .ok target) :
    target.ClosedForGood := by
  have accounted : ((start loaded connection).run steps).2.DatabasesAccounted :=
    run_preserves _ (fun _ step accounted => accounted.perform step)
      (start_databasesAccounted loaded connection) steps
  rintro db rfl closed
  rw [accounted.connections db (mem_databases_of_target? found), if_pos closed]

/-- A query is refused where its target has no connection, because it is closed or was none, and
otherwise where its style is none of the three with markers and the rendered text has a
placeholder. An operation is refused where an update or a deletion lacks values or conditions, or a
value is to be bound in a style without markers, and otherwise where its target has no connection.
A call that is refused leaves no trace, and any other asks the connection for exactly one cursor.
Closed databases gave up their connection, as those of every session did. -/
theorem refusals_precede_cursors (loaded : LoadedModules) (target : Target)
    (final : target.ClosedForGood) :
    let lost := target.usable? = none
    (∀ (q : Query) (params : NamedValues),
      let d := (target.resolve loaded q.dialect).dialect
      let unfit := fun e => ¬ lost ∧ d.Unsupported ∧
        Template.placeholders (Template.render q.template params) ≠ [] ∧
          e = .unsupportedStyle d.styleName
      RefusedJustFor (q.rows loaded target params) target lost unfit ∧
      RefusedJustFor (q.update loaded target params) target lost unfit) ∧
    (∀ table : Table,
      let d := (target.resolve loaded table.dialect).dialect
      let unmarked := fun e => d.Unsupported ∧ e = .unsupportedStyle d.styleName
      let otherwise := fun unfit : Error → Prop => (∀ e, ¬ unfit e) ∧ lost
      (∀ values : NamedValues,
        let unfit := fun e => values.names ≠ [] ∧ unmarked e
        RefusedJustFor (table.insert loaded target values) target (otherwise unfit) unfit) ∧
      (∀ values conditions : NamedValues,
        let unfit := fun e =>
          (values.names = [] ∧ e = .noAssignments table.name) ∨
          (values.names ≠ [] ∧ conditions.names = [] ∧ e = .updateWithoutConditions table.name) ∨
          (values.names ≠ [] ∧ conditions.names ≠ [] ∧ unmarked e)
        RefusedJustFor (table.update loaded target values conditions) target (otherwise unfit)
          unfit) ∧
      (∀ conditions : NamedValues,
        let unfit := fun e =>
          (conditions.names = [] ∧ e = .deleteWithoutConditions table.name) ∨
          (conditions.names ≠ [] ∧ unmarked e)
        RefusedJustFor (table.delete loaded target conditions) target (otherwise unfit) unfit) ∧
      ∀ (columns : Columns) (conditions : NamedValues),
        let unfit := fun e => conditions.names ≠ [] ∧ unmarked e
        RefusedJustFor (table.select loaded target columns conditions) target (otherwise unfit)
          unfit) ∧
    (Error.connectionClosed.category = .badState ∧
      Error.connectionClosed.message = "connection is closed" ∧
      ∀ style, (Error.unsupportedStyle style).category = .badValue ∧
        (Error.unsupportedStyle style).message = "Unsupported paramstyle: " ++ style) ∧
    ∀ (connection : Option Connection) (steps : List Step) (name : TargetName) (other : Target),
      ((Session.start loaded connection).run steps).2.target? name = .ok other →
        other.ClosedForGood := by
  intro lost
  refine ⟨?_, ?_, ⟨rfl, rfl, fun style => ⟨rfl, rfl⟩⟩, fun connection steps =>
    Session.closedForGood loaded connection steps⟩
  · intro q params d unfit
    have read := Query.refusedJustFor final Statement.uses_executeRows rows_not_isRefusal
      (q.after_complete loaded target params .rows)
    exact ⟨read.reported fun trace => after_reporting _ _ trace,
      Query.refusedJustFor final Statement.uses_executeUpdate count_not_isRefusal
        (q.after_update loaded target params)⟩
  · intro table d unmarked otherwise
    refine ⟨fun values => ?_, fun values conditions => ?_, fun conditions => ?_,
      fun columns conditions => ?_⟩
    · refine Table.refusedJustFor final Statement.uses_executeUpdate count_not_isRefusal
        (table.after_insert loaded target values) (fun e => TableSql.insert_eq_error_iff) ?_
      rintro e ⟨_, _, rfl⟩
      rfl
    · refine Table.refusedJustFor final Statement.uses_executeUpdate count_not_isRefusal
        (table.after_update loaded target values conditions)
        (fun e => TableSql.update_eq_error_iff) ?_
      rintro e (⟨_, rfl⟩ | ⟨_, _, rfl⟩ | ⟨_, _, _, rfl⟩) <;> rfl
    · refine Table.refusedJustFor final Statement.uses_executeUpdate count_not_isRefusal
        (table.after_delete loaded target conditions) (fun e => TableSql.delete_eq_error_iff) ?_
      rintro e (⟨_, rfl⟩ | ⟨_, _, rfl⟩) <;> rfl
    · intro unfit
      let sql : Dialect → Except Error String :=
        (TableSql.select · table.name columns.names conditions.names)
      have sort : ∀ e, unfit e → e.category = .badValue := by
        rintro e ⟨_, _, rfl⟩
        rfl
      have refused : ∀ e, sql d = .error e ↔ unfit e := fun _ => TableSql.select_eq_error_iff
      have read : RefusedJustFor
          (table.complete loaded target sql conditions.size (Assignment.ofColumns conditions 0)
            Statement.executeRows) target (otherwise unfit) unfit :=
        Table.refusedJustFor final Statement.uses_executeRows rows_not_isRefusal
          (table.after_complete loaded target sql conditions.entries .rows) refused sort
      exact read.reported fun trace => after_reporting _ _ trace

/-- On a database without markers that was closed, a query is refused for the connection and not
for its style, and an update without values for the values; a query on the open database is refused
for its style, and an insertion without values is not refused. -/
theorem refusals_precede_cursors_unmarked :
    let connection : Connection := { module := "sqlite3" }
    let db : Database := { connection := some connection, dialect := ⟨.generic, "named", some 0⟩ }
    let shut := Target.database db.shut
    let table : Table := { name := "t" }
    let q : Query := { template := "SELECT :a" }
    let none_ : NamedValues := .ofPairs []
    shut.ClosedForGood ∧ (Target.database db).ClosedForGood ∧
      (∀ trace, ((q.rows [] shut none_).after trace).1 = .error .connectionClosed) ∧
      (∀ trace, ((table.update [] shut none_ none_).after trace).1 = .error (.noAssignments "t") ∧
        ((table.update [] shut none_ none_).after trace).2 = trace) ∧
      (∀ trace, ((q.rows [] (.database db) none_).after trace).1 =
        .error (.unsupportedStyle "named")) ∧
      AsksOnce (table.insert [] (.database db) none_) connection := by
  intro connection db shut table q none_
  have given : shut.ClosedForGood := by
    intro other same _
    cases Target.database.inj same
    rfl
  have isOpen : (Target.database db).ClosedForGood := by
    intro other same closed
    cases Target.database.inj same
    cases closed
  obtain ⟨queriesShut, tablesShut, _⟩ := refusals_precede_cursors [] shut given
  obtain ⟨queries, tables, _⟩ := refusals_precede_cursors [] (.database db) isOpen
  refine ⟨given, isOpen, fun trace => ?_, fun trace => ?_, fun trace => ?_, ?_⟩
  · exact ((queriesShut q none_).1.closed_iff trace).mpr rfl
  · have refused := (tablesShut table).2.1 none_ none_
    exact ⟨((refused.unfit_iff trace _).mpr (.inl ⟨rfl, rfl⟩)).1,
      refused.untouched trace (.inr ⟨_, .inl ⟨rfl, rfl⟩⟩)⟩
  · have named : Template.placeholders (Template.render q.template none_) ≠ [] := by decide +kernel
    have style : ¬ (Target.database db).usable? = none := nofun
    exact (((queries q none_).1.unfit_iff trace _).mpr ⟨style, by decide, named, rfl⟩).1
  · have passes := ((tables table).1 none_).otherwise (by simp [Target.usable?, db])
      fun e unfit => unfit.1 rfl
    obtain ⟨_, usable, asks⟩ := passes
    obtain rfl := Option.some.inj usable
    exact asks

end SqlTemplate
