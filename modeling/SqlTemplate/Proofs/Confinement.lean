import SqlTemplate.Proofs.Handover

/-!
# Values reach slots only

The text that a call prepares and all that it tells the log depend on which blocks of a template
are kept and on the names of columns, and on no value. Two calls that differ in values only, all of
which can be bound, come to the same outcome and leave traces that are alike once the values handed
to cursors are struck out. Values that no placeholder of the rendered text asks for have no effect
at all. -/

namespace SqlTemplate

/-- The event with null in the place of every value handed to a cursor. -/
def Event.redacted : Event → Event
  | .executed cursor sql params => .executed cursor sql (params.map fun _ => .null)
  | event => event

namespace Trace

def redacted (trace : Trace) : Trace := trace.map Event.redacted

def texts (trace : Trace) : List String := trace.executions.map Prod.fst

theorem redacted_append (first second : Trace) :
    redacted (first ++ second) = first.redacted ++ second.redacted := List.map_append

theorem records_redacted (trace : Trace) : trace.redacted.records = trace.records := by
  have same : Event.record? ∘ Event.redacted = Event.record? := by
    funext event
    cases event <;> rfl
  rw [records, redacted, List.filterMap_map, same]
  rfl

theorem texts_redacted (trace : Trace) : trace.redacted.texts = trace.texts := by
  rw [texts, texts, executions, executions, redacted, List.filterMap_map, List.map_filterMap,
    List.map_filterMap]
  congr 1
  funext event
  cases event <;> rfl

end Trace

/-- Two calls that nobody can tell apart who does not see the values handed to cursors: they end
alike, hand over the same texts, tell the log the same, and their events agree in all else. -/
structure Indistinct {α : Type} (first second : Except Error α × Trace) : Prop where
  outcome : first.1 = second.1
  texts : first.2.texts = second.2.texts
  records : first.2.records = second.2.records
  events : first.2.redacted = second.2.redacted

section Calls

variable {α : Type}

theorem Indistinct.of_redacted {first second : Except Error α × Trace}
    (outcome : first.1 = second.1) (events : first.2.redacted = second.2.redacted) :
    Indistinct first second := by
  refine ⟨outcome, ?_, ?_, events⟩
  · rw [← Trace.texts_redacted, events, Trace.texts_redacted]
  · rw [← Trace.records_redacted, events, Trace.records_redacted]

/-- Rows are reported by their number, which is part of the outcome. -/
theorem Indistinct.reported {first second : Except Error (List Row) × Trace}
    (record : Nat → LogRecord) (alike : Indistinct first second) :
    Indistinct (reported record first) (reported record second) := by
  obtain ⟨outcome, before⟩ := first
  obtain ⟨other, after⟩ := second
  have same : outcome = other := alike.outcome
  have events : before.redacted = after.redacted := alike.events
  subst same
  cases outcome with
  | error e => exact alike
  | ok rows =>
    refine .of_redacted rfl ?_
    change Trace.redacted (before ++ _) = Trace.redacted (after ++ _)
    rw [Trace.redacted_append, Trace.redacted_append, events]

def Request.redacted (r : Request) : Request :=
  { r with values := r.values.map fun pair => (pair.1, .null) }

/-- A request whose values can be bound takes its course by all but the values. -/
theorem course_of_bindable {r : Request} (reading : Reading α) (trace : Trace)
    (bindable : Bindable r.values) :
    let cursor := trace.openedCursors.length
    let script := r.script trace
    (course (.ok r) reading trace).1 =
        unlessFault (r.denial trace) (unlessFault script.closeFault (reading.answer script 0)) ∧
      (course (.ok r) reading trace).2.redacted =
        trace.redacted ++ .logged r.notice ::
          match r.denial trace with
          | some _ => [.denied]
          | none => .opened cursor :: .logged (.executing r.sql r.values.length) ::
              .executed cursor r.sql (List.replicate r.values.length .null) ::
              (Trace.redacted ((reading.records script 0).map .logged) ++ [.released cursor]) := by
  intro cursor script
  obtain ⟨params, converted, all⟩ := exists_driverValues bindable
  have length : params.length = r.values.length := by
    have lengths := congrArg List.length all
    rw [List.length_map, List.length_map] at lengths
    exact lengths.symm
  have nulls : (params.map fun _ => Value.null) = List.replicate r.values.length .null := by
    rw [List.map_const', length]
  refine ⟨?_, ?_⟩
  · simp only [course, Request.outcome, converted]
    rfl
  · rw [course, Trace.redacted_append, Request.events]
    cases r.denial trace with
    | some raised => rfl
    | none =>
      simp only [Request.execution, converted, Trace.redacted, List.map_cons, List.map_append,
        Event.redacted, nulls, length]
      rfl

/-- Requests that agree but for their values, all of which can be bound, take courses that cannot be
told apart. -/
theorem course_indistinct {asked other : Except Error Request} (reading : Reading α) (trace : Trace)
    (same : asked.map Request.redacted = other.map Request.redacted)
    (bindable : ∀ r, asked = .ok r → Bindable r.values)
    (bindableOther : ∀ r, other = .ok r → Bindable r.values) :
    Indistinct (course asked reading trace) (course other reading trace) := by
  cases asked with
  | error e =>
    cases other with
    | error f =>
      cases same
      exact .of_redacted rfl rfl
    | ok s => cases same
  | ok r =>
    cases other with
    | error f => cases same
    | ok s =>
      have agree := Except.ok.inj same
      simp only [Request.redacted, Request.mk.injEq] at agree
      obtain ⟨connection, sql, notice, values⟩ := agree
      have length := congrArg List.length values
      rw [List.length_map, List.length_map] at length
      obtain ⟨outcome, events⟩ := course_of_bindable reading trace (bindable r rfl)
      obtain ⟨otherOutcome, otherEvents⟩ := course_of_bindable reading trace (bindableOther s rfl)
      refine .of_redacted ?_ ?_
      · simp only [outcome, otherOutcome, Request.denial, Request.script, connection]
      · simp only [events, otherEvents, Request.denial, Request.script, connection, sql, notice,
          length]

end Calls

namespace Template

theorem exists_placed_of_mem {b : Block} {pieces : List Piece} (member : .block b ∈ pieces)
    (offset : Nat) : ∃ placed ∈ placeBlocks offset pieces, placed.key = String.ofList b.key := by
  induction pieces generalizing offset with
  | nil => cases member
  | cons piece rest ih =>
    rcases List.mem_cons.mp member with rfl | later
    · exact ⟨_, List.mem_cons_self, rfl⟩
    · cases piece with
      | literal c => exact ih later (offset + 1)
      | block other =>
        obtain ⟨placed, found, key⟩ := ih later (offset + other.text.length)
        exact ⟨placed, List.mem_cons_of_mem _ found, key⟩

/-- A template is rendered by which keys of its blocks are provided, and by nothing else. -/
theorem render_congr {template : String} {first second : NamedValues}
    (same : ∀ block ∈ blocks template, first.provides block.key = second.provides block.key) :
    render template first = render template second := by
  have pieceSame : ∀ piece ∈ pieces template.toList,
      piece.rendered first = piece.rendered second := by
    intro piece member
    cases piece with
    | literal c => rfl
    | block b =>
      obtain ⟨placed, found, key⟩ := exists_placed_of_mem member 0
      have agree := same placed found
      rw [key] at agree
      rw [Piece.rendered, Piece.rendered, agree]
  rw [render, render, List.flatMap_def, List.flatMap_def, List.map_congr_left pieceSame]

end Template

namespace Query

section TwoMaps

variable {q : Query} {first second : NamedValues} (rendered : q.render first = q.render second)
  (loaded : LoadedModules) (target : Target)

include rendered

theorem prepared_congr : q.prepared loaded target first = q.prepared loaded target second := by
  rw [prepared, prepared, rendered]

theorem request_redacted :
    (q.request loaded target first).map Request.redacted =
      (q.request loaded target second).map Request.redacted := by
  rw [request, request, rendered]
  generalize target.resolve loaded q.dialect = db
  cases db.usable with
  | error e => rfl
  | ok connection =>
    cases db.dialect.rewrite (q.render second) with
    | error e => rfl
    | ok positional =>
      change Except.ok (Request.redacted _) = Except.ok (Request.redacted _)
      simp only [Request.redacted, List.map_map]
      rfl

/-- Values under other names than those of the rendered placeholders are not looked at. -/
theorem request_congr
    (same : ∀ name ∈ Template.placeholders (q.render first), first.get name = second.get name) :
    q.request loaded target first = q.request loaded target second := by
  have values : (Template.placeholders (q.render first)).map (fun name => (name, first.get name)) =
      (Template.placeholders (q.render first)).map fun name => (name, second.get name) := by
    refine List.map_congr_left fun name member => ?_
    rw [same name member]
  rw [rendered] at values
  simp only [request, rendered, values]

end TwoMaps

/-- A query asks for the values of its placeholders to be bound. -/
theorem values_of_request {q : Query} {loaded : LoadedModules} {target : Target}
    {params : NamedValues} {r : Request} (asked : q.request loaded target params = .ok r) :
    r.values =
      (Template.placeholders (q.render params)).map fun name => (name, params.get name) := by
  rw [request] at asked
  generalize target.resolve loaded q.dialect = db at asked
  cases usable : db.usable with
  | error e =>
    rw [usable] at asked
    cases asked
  | ok connection =>
    cases rewritten : db.dialect.rewrite (q.render params) with
    | error e =>
      rw [usable, rewritten] at asked
      cases asked
    | ok positional =>
      rw [usable, rewritten] at asked
      cases asked
      rfl

theorem bindable_of_request {q : Query} {loaded : LoadedModules} {target : Target}
    {params : NamedValues}
    (bindable : ∀ name ∈ Template.placeholders (q.render params),
      ∃ value, (params.get name).toDriver (some name) = .ok value)
    (r : Request) (asked : q.request loaded target params = .ok r) : Bindable r.values := by
  rw [values_of_request asked]
  intro pair member
  obtain ⟨name, present, rfl⟩ := List.mem_map.mp member
  exact bindable name present

end Query

namespace Table

theorem request_redacted (table : Table) (loaded : LoadedModules) (target : Target)
    (sql : Dialect → Except Error String) {first second : List (String × Value)}
    (names : first.map Prod.fst = second.map Prod.fst) :
    (table.request loaded target sql first).map Request.redacted =
      (table.request loaded target sql second).map Request.redacted := by
  have blank : ∀ pairs : List (String × Value), (pairs.map fun pair => (pair.1, Value.null)) =
      (pairs.map Prod.fst).map fun name => (name, .null) := by
    intro pairs
    rw [List.map_map]
    rfl
  rw [request, request]
  generalize target.resolve loaded table.dialect = db
  cases sql db.dialect with
  | error e => rfl
  | ok text =>
    cases db.usable with
    | error e => rfl
    | ok connection =>
      change Except.ok (Request.redacted _) = Except.ok (Request.redacted _)
      simp only [Request.redacted, blank, names]

theorem values_of_request {table : Table} {loaded : LoadedModules} {target : Target}
    {sql : Dialect → Except Error String} {values : List (String × Value)} {r : Request}
    (asked : table.request loaded target sql values = .ok r) : r.values = values := by
  rw [request] at asked
  generalize target.resolve loaded table.dialect = db at asked
  cases built : sql db.dialect with
  | error e =>
    rw [built] at asked
    cases asked
  | ok text =>
    cases usable : db.usable with
    | error e =>
      rw [built, usable] at asked
      cases asked
    | ok connection =>
      rw [built, usable] at asked
      cases asked
      rfl

/-- Operations whose maps have the same columns ask for the same text, whatever the values. -/
theorem course_indistinct {α : Type} (table : Table) (loaded : LoadedModules) (target : Target)
    (sql : Dialect → Except Error String) {first second : List (String × Value)}
    (names : first.map Prod.fst = second.map Prod.fst) (bindable : Bindable first)
    (bindableOther : Bindable second) (reading : Reading α) (trace : Trace) :
    Indistinct (course (table.request loaded target sql first) reading trace)
      (course (table.request loaded target sql second) reading trace) := by
  refine SqlTemplate.course_indistinct reading trace
    (table.request_redacted loaded target sql names)
    (fun r asked => ?_) fun r asked => ?_
  · rw [values_of_request asked]
    exact bindable
  · rw [values_of_request asked]
    exact bindableOther

end Table

/-- Parameters that keep the same blocks of a template render it alike and prepare the same
statement. If all of either can be bound, the calls hand over the same texts, tell the log the same
and end alike. If they agree on the placeholders of the rendered text, the calls are the same in all
respects, whatever stands under other names. Operations on a table with the same columns in the same
order, whose values can be bound, cannot be told apart by their texts and log either. -/
theorem values_reach_slots_only (loaded : LoadedModules) (target : Target) (trace : Trace) :
    (∀ (q : Query) (first second : NamedValues),
      (∀ block ∈ q.blocks, first.provides block.key = second.provides block.key) →
      let names := Template.placeholders (q.render first)
      let bindable := fun params : NamedValues =>
        ∀ name ∈ names, ∃ value, (params.get name).toDriver (some name) = .ok value
      q.render first = q.render second ∧
      q.prepared loaded target first = q.prepared loaded target second ∧
      (bindable first → bindable second →
        Indistinct ((q.rows loaded target first).after trace)
          ((q.rows loaded target second).after trace) ∧
        Indistinct ((q.update loaded target first).after trace)
          ((q.update loaded target second).after trace)) ∧
      ((∀ name ∈ names, first.get name = second.get name) →
        (q.rows loaded target first).after trace = (q.rows loaded target second).after trace ∧
        (q.update loaded target first).after trace = (q.update loaded target second).after trace)) ∧
    ∀ (table : Table) (first second : NamedValues), first.names = second.names →
      Bindable first.entries → Bindable second.entries →
      Indistinct ((table.insert loaded target first).after trace)
        ((table.insert loaded target second).after trace) ∧
      Indistinct ((table.delete loaded target first).after trace)
        ((table.delete loaded target second).after trace) ∧
      (∀ columns, Indistinct ((table.select loaded target columns first).after trace)
        ((table.select loaded target columns second).after trace)) ∧
      ∀ conditions others : NamedValues, conditions.names = others.names →
        Bindable conditions.entries → Bindable others.entries →
        Indistinct ((table.update loaded target first conditions).after trace)
          ((table.update loaded target second others).after trace) := by
  constructor
  · intro q first second kept names bindable
    have rendered : q.render first = q.render second := Template.render_congr kept
    refine ⟨rendered, Query.prepared_congr rendered loaded target, ?_, ?_⟩
    · intro binds bindsOther
      have same := Query.request_redacted rendered loaded target
      have ready : ∀ r, q.request loaded target first = .ok r → Bindable r.values :=
        Query.bindable_of_request binds
      have readyOther : ∀ r, q.request loaded target second = .ok r → Bindable r.values :=
        Query.bindable_of_request (rendered ▸ bindsOther)
      rw [Query.after_rows, Query.after_rows, Query.after_update, Query.after_update]
      constructor
      · exact (course_indistinct .rows trace same ready readyOther).reported .returned
      · exact course_indistinct .count trace same ready readyOther
    · intro agree
      have same := Query.request_congr rendered loaded target agree
      rw [Query.after_rows, Query.after_rows, Query.after_update, Query.after_update, same]
      exact ⟨rfl, rfl⟩
  · intro table first second names binds bindsOther
    refine ⟨?_, ?_, ?_, ?_⟩
    · rw [Table.after_insert, Table.after_insert, names]
      exact table.course_indistinct loaded target _ names binds bindsOther .count trace
    · rw [Table.after_delete, Table.after_delete, names]
      exact table.course_indistinct loaded target _ names binds bindsOther .count trace
    · intro columns
      rw [Table.after_select, Table.after_select, names]
      exact (table.course_indistinct loaded target _ names binds bindsOther .rows trace).reported _
    · intro conditions others limits limited limitedOther
      have both : (first.entries ++ conditions.entries).map Prod.fst =
          (second.entries ++ others.entries).map Prod.fst := by
        rw [List.map_append, List.map_append]
        change first.names ++ conditions.names = second.names ++ others.names
        rw [names, limits]
      have ready : Bindable (first.entries ++ conditions.entries) :=
        List.forall_mem_append.mpr ⟨binds, limited⟩
      have readyOther : Bindable (second.entries ++ others.entries) :=
        List.forall_mem_append.mpr ⟨bindsOther, limitedOther⟩
      rw [Table.after_update, Table.after_update, names, limits]
      exact table.course_indistinct loaded target _ both ready readyOther .count trace

/-- A value written like a block, a placeholder and a marker leaves no trace of itself, and neither
does a value that could not be bound but is not asked for. -/
theorem hostile_value_leaves_no_mark :
    let q : Query := { template := "UPDATE t SET a = :a[b |  WHERE b = :b]" }
    let target : Target := .connection (some { module := "sqlite3" })
    Indistinct ((q.update [] target (.ofPairs [("a", .text "[b | :c] %s")])).after [])
      ((q.update [] target
        (.ofPairs [("a", .boolean false), ("c", .object "Thing")])).after []) := by
  intro q target
  obtain ⟨queries, _⟩ := values_reach_slots_only [] target []
  obtain ⟨_, _, alike, _⟩ := queries q (.ofPairs [("a", .text "[b | :c] %s")])
    (.ofPairs [("a", .boolean false), ("c", .object "Thing")]) (by decide +kernel)
  have names :
      Template.placeholders (q.render (.ofPairs [("a", .text "[b | :c] %s")])) = ["a"] := by
    decide +kernel
  rw [names] at alike
  refine (alike ?_ ?_).2
  · intro name member
    rw [List.mem_singleton.mp member]
    exact ⟨.text "[b | :c] %s", rfl⟩
  · intro name member
    rw [List.mem_singleton.mp member]
    exact ⟨.boolean false, rfl⟩

end SqlTemplate
