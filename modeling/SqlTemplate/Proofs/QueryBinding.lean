import SqlTemplate.Proofs.Handover
import SqlTemplate.Proofs.Scanning

/-!
# Queries bind what they render

A query executes its rendered text with a marker for every placeholder of it, and binds the
parameter of that name to the marker. Every placeholder takes one slot, a repeated one included, so
the statement that is prepared has as many slots as values are bound.
-/

namespace SqlTemplate

/-- A dialect of a known style rewrites any text. -/
theorem Dialect.exists_rewrite {d : Dialect} {style : MarkerStyle}
    (styled : d.style? = some style) (sql : String) : ∃ text, d.rewrite sql = .ok text :=
  ⟨_, rewrite_of_style styled sql⟩

/-- An open connection that hands out cursors prepares a statement with a slot for each
placeholder. -/
theorem Database.after_prepare {db : Database} {connection : Connection} {sql positional : String}
    (usable : db.usable = .ok connection) (rewritten : db.dialect.rewrite sql = .ok positional)
    {trace : Trace}
    (opens : connection.cursorFault trace.cursorCalls = none) :
    ∃ st later, (db.prepare sql).after trace = (.ok st, later) ∧ st.sql = positional ∧
      st.count = some ((Template.placeholders sql).length : Int) := by
  rw [prepare, usable, rewritten]
  simp only [Exchange.lift_ok, pure_bind]
  rw [Exchange.after_bind_ok (Exchange.after_log _ _), Exchange.after_bind,
    Connection.after_openCursor, Trace.cursorCalls_logged, opens]
  exact ⟨_, _, rfl, rfl, rfl⟩

/-- A query on a usable connection, in a dialect of a known style, opens exactly one cursor. If
every placeholder of the rendered text has a driver value, the rewritten text is executed once with
these values in order; otherwise nothing is executed, and the call ends in the refusal of the first
placeholder without one. -/
theorem query_binds_rendered_placeholders (q : Query) (loaded : LoadedModules) (target : Target)
    (params : NamedValues) (trace : Trace) (connection : Connection) (style : MarkerStyle)
    (usable : target.usable? = some connection)
    (styled : (target.resolve loaded q.dialect).dialect.style? = some style)
    (opens : connection.cursorFault trace.cursorCalls = none)
    (closes : (connection.script trace.openedCursors.length).closeFault = none) :
    let db := target.resolve loaded q.dialect
    let sql := Template.render q.template params
    let names := Template.placeholders sql
    let converted := names.map fun name => (params.get name).toDriver (some name)
    let script := connection.script trace.openedCursors.length
    let rowsEnded := (q.rows loaded target params).after trace
    let updateEnded := (q.update loaded target params).after trace
    ∃ positional, db.dialect.rewrite sql = .ok positional ∧
      (∃ st later, (db.prepare sql).after trace = (.ok st, later) ∧ st.sql = positional ∧
        st.count = some (converted.length : Int)) ∧
      ((∀ result ∈ converted, ∃ value, result = .ok value) →
        HandsOver rowsEnded trace positional converted
          (unlessFault (script.executeFault 0) script.mapRows) ∧
        HandsOver updateEnded trace positional converted
          (unlessFault (script.executeFault 0) (.ok script.rowcount))) ∧
      ((∃ e, Except.error e ∈ converted) →
        BreaksOff rowsEnded trace converted ∧ BreaksOff updateEnded trace converted) := by
  intro db sql names converted script rowsEnded updateEnded
  obtain ⟨positional, rewritten⟩ := db.dialect.exists_rewrite styled sql
  have held : db.usable = .ok connection := target.usable_resolve usable loaded q.dialect
  have asked : q.request loaded target params = .ok {
      connection, sql := positional, notice := .preparing positional names.length
      values := names.map fun name => (name, params.get name) } := by
    rw [Query.request]
    change (db.usable >>= fun c => db.dialect.rewrite sql >>= fun p => pure _) = _
    rw [held, rewritten]
    rfl
  have same : (names.map fun name => (name, params.get name)).map driverValue = converted := by
    rw [List.map_map]
    rfl
  have rowsCourse := q.after_rows loaded target params trace
  have updateCourse := q.after_update loaded target params trace
  rw [asked] at rowsCourse updateCourse
  refine ⟨positional, rewritten, ?_, ?_, ?_⟩
  · obtain ⟨st, later, ended, text, count⟩ := Database.after_prepare held rewritten opens
    refine ⟨st, later, ended, text, ?_⟩
    rw [count, List.length_map]
  · intro good
    have converts : ∀ pair ∈ names.map fun name => (name, params.get name),
        ∃ value, driverValue pair = .ok value := by
      intro pair member
      exact good _ (same ▸ List.mem_map_of_mem member)
    constructor
    · rw [← same, show rowsEnded = _ from rowsCourse]
      exact (course_handsOver .rows trace opens closes converts).reported .returned
    · rw [← same, show updateEnded = _ from updateCourse]
      exact course_handsOver .count trace opens closes converts
  · rintro ⟨e, member⟩
    have refused : ∃ pair ∈ names.map fun name => (name, params.get name),
        ∃ e, driverValue pair = .error e := by
      rw [← same] at member
      obtain ⟨pair, present, refusal⟩ := List.mem_map.mp member
      exact ⟨pair, present, e, refusal⟩
    constructor
    · rw [← same, show rowsEnded = _ from rowsCourse]
      exact (course_breaksOff .rows trace opens closes refused).reported .returned
    · rw [← same, show updateEnded = _ from updateCourse]
      exact course_breaksOff .count trace opens closes refused

/-- A name that is used twice takes two slots, and a block whose key is false is kept. -/
theorem query_binds_repeated_placeholder :
    HandsOver
      (({ template := "UPDATE t SET a = :a[b |  WHERE b = :a]" } : Query).update []
        (.connection (some { module := "sqlite3" }))
        (.ofPairs [("a", .int 1), ("b", .boolean false)]) |>.after [])
      [] "UPDATE t SET a = ? WHERE b = ?" [.ok (.int 1), .ok (.int 1)] (.ok (some (-1))) := by
  obtain ⟨positional, rewritten, _, handed, _⟩ := query_binds_rendered_placeholders
    { template := "UPDATE t SET a = :a[b |  WHERE b = :a]" } []
    (.connection (some { module := "sqlite3" }))
    (.ofPairs [("a", .int 1), ("b", .boolean false)]) [] { module := "sqlite3" }
    .question rfl (by decide +kernel) rfl rfl
  have names : Template.placeholders (Template.render "UPDATE t SET a = :a[b |  WHERE b = :a]"
      (.ofPairs [("a", .int 1), ("b", .boolean false)])) = ["a", "a"] := by decide +kernel
  rw [names] at handed
  have text := congrArg Except.toOption rewritten
  have : positional = "UPDATE t SET a = ? WHERE b = ?" := by
    refine Option.some.inj (text.symm.trans ?_)
    decide +kernel
  subst this
  refine (handed ?_).2
  intro result member
  simp only [List.map_cons, List.map_nil, List.mem_cons, List.not_mem_nil, or_false, or_self]
    at member
  exact ⟨.int 1, member⟩

end SqlTemplate
