import SqlTemplate.Proofs.Confinement
import SqlTemplate.Proofs.SessionSteps

/-!
# The first failure decides

Several things can go wrong in one call: values that cannot be bound, the execution, and, where
rows are wanted, the labels of their columns, the fetching, and rows that do not fit. They are
listed here in this order, all that the values and the scripts hold in store. A call that got its
cursor ends in the first of them, or with its result where there are none; only an error in closing
the cursor takes the place of either. Nothing is executed unless all values can be bound. -/

namespace SqlTemplate

variable {α β : Type}

def failures (results : List (Except Error α)) : List Error :=
  results.filterMap fun result =>
    match result with
    | .ok _ => none
    | .error e => some e

def successes (results : List (Except Error α)) : List α := results.filterMap Except.toOption

def firstOf (errors : List Error) (result : α) : Except Error α :=
  match errors.head? with
  | some e => .error e
  | none => .ok result

theorem mem_of_firstOf {errors : List Error} {result : α} {e : Error}
    (fails : firstOf errors result = .error e) : e ∈ errors := by
  cases errors with
  | nil => cases fails
  | cons first rest =>
    obtain rfl := Except.error.inj fails
    exact List.mem_cons_self

theorem mem_failures {results : List (Except Error α)} {e : Error} :
    e ∈ failures results ↔ Except.error e ∈ results := by
  rw [failures, List.mem_filterMap]
  constructor
  · rintro ⟨_ | reason, member, same⟩
    · cases Option.some.inj same
      exact member
    · cases same
  · intro member
    exact ⟨_, member, rfl⟩

/-- What is done item by item ends in the first of its failures. -/
theorem mapM_eq_firstOf (f : α → Except Error β) (items : List α) :
    items.mapM f = firstOf (failures (items.map f)) (successes (items.map f)) := by
  induction items with
  | nil => rfl
  | cons item rest ih =>
    rw [mapM_cons, ih, List.map_cons]
    cases made : f item with
    | error e => rfl
    | ok value =>
      simp only [failures, successes, firstOf, List.filterMap_cons, Except.toOption]
      split <;> rfl

/-- What is done after something that can fail comes to no more than its own failures. -/
theorem firstOf_append (first second : List Error) (between : β) (result : α) :
    firstOf (first ++ second) result =
      match firstOf first between with
      | .ok _ => firstOf second result
      | .error e => .error e := by
  cases first <;> rfl

theorem unlessFault_eq_firstOf (fault : Option Fault) (errors : List Error) (result : α) :
    unlessFault fault (firstOf errors result) =
      firstOf (fault.toList.map .fault ++ errors) result := by
  cases fault <;> rfl

namespace CursorScript

variable (script : CursorScript)

/-- The errors that the driver raises on a cursor that is used for one execution. -/
def faults : List Fault :=
  script.closeFault.toList ++ (script.executeFault 0).toList ++ script.fetchFault.toList

def executionFailures : List Error := (script.executeFault 0).toList.map .fault

def labelResults : List (Except Error String) :=
  (script.description.getD []).map Value.columnLabel

def described : Bool := !(script.description.getD []).isEmpty

/-- What goes wrong in fetching, which is not done without a description. -/
def fetchFailures : List Error :=
  if script.described then script.fetchFault.toList.map .fault else []

def rowResults : List (Except Error Row) :=
  if script.described then script.rows.map (Row.ofValue (successes script.labelResults)) else []

def readingFailures : List Error :=
  failures script.labelResults ++ script.fetchFailures ++ failures script.rowResults

/-- There are labels just if the result is described. -/
theorem isEmpty_labels {labels : List String} (known : script.labels = .ok labels) :
    labels.isEmpty = !script.described := by
  have length := congrArg List.length (mapM_eq_ok_iff.mp known)
  rw [List.length_map, List.length_map] at length
  rw [described, Bool.not_not, Bool.eq_iff_iff, List.isEmpty_iff_length_eq_zero,
    List.isEmpty_iff_length_eq_zero, length]

/-- Rows are read in three stages, each of which is left out where an earlier one fails. -/
theorem mapRows_eq_firstOf :
    script.mapRows = firstOf script.readingFailures (successes script.rowResults) := by
  have labelled : script.labels =
      firstOf (failures script.labelResults) (successes script.labelResults) :=
    mapM_eq_firstOf _ _
  rw [mapRows, readingFailures, List.append_assoc,
    firstOf_append _ _ (successes script.labelResults), ← labelled]
  cases known : script.labels with
  | error e => rfl
  | ok labels =>
    have same : successes script.labelResults = labels := by
      rw [known] at labelled
      cases none_ : failures script.labelResults with
      | nil =>
        rw [none_] at labelled
        exact (Except.ok.inj labelled).symm
      | cons e rest =>
        rw [none_] at labelled
        cases labelled
    have empty := script.isEmpty_labels known
    change (if labels.isEmpty then pure [] else
      script.fetch >>= fun rows => rows.mapM (Row.ofValue labels)) = _
    by_cases described : script.described = true
    · simp only [empty, described, fetchFailures, rowResults, same, firstOf_append _ _ script.rows,
        ← mapM_eq_firstOf, Bool.not_true, Bool.false_eq_true, if_true, if_false, fetch]
      cases script.fetchFault <;> rfl
    · simp only [empty, described, fetchFailures, rowResults]
      rfl

end CursorScript

def Error.IsBinding (e : Error) : Prop :=
  e.category = .binding ∨ e.category = .unsupportedParameter

def Error.IsRaised (e : Error) : Prop := ∃ origin, e.category = .raised origin

/-- The error says that an integer is too large for a double or too long for a message. -/
def Error.IsExcess (e : Error) : Prop := e.category = .overflow ∨ e.category = .unwritable

/-- The error says that an entry of the description or a row has a wrong form. -/
def Error.IsMalformed (e : Error) : Prop :=
  e.category = .badIndex ∨ e.category = .badKey ∨ e.category = .badType ∨ e.category = .unwritable

theorem Value.toDriver_category {value : Value} {key : Option String} {e : Error}
    (fails : value.toDriver key = .error e) : e.IsBinding ∨ e.IsExcess := by
  rcases toDriver_refusal fails with rfl | ⟨t, conversion⟩
  · exact .inl (.inr rfl)
  · cases conversion with
    | unbindable | floatRange => exact .inl (.inl rfl)
    | tooLarge => exact .inr (.inl rfl)
    | tooLong => exact .inr (.inr rfl)

theorem Value.columnLabel_malformed {entry : Value} {e : Error}
    (fails : entry.columnLabel = .error e) : e.IsMalformed := by
  rcases columnLabel_refusal fails with refused | rfl
  · unfold firstItem at refused
    repeat' split at refused
    all_goals
      cases refused
      try simp [Error.IsMalformed, Error.category]
  · exact .inr (.inr (.inr rfl))

theorem Row.ofValue_category {labels : List String} {row : Value} {e : Error}
    (fails : ofValue labels row = .error e) : e.category = .badType := by
  unfold ofValue at fails
  repeat' split at fails
  all_goals
    cases fails
    try rfl

/-- What goes wrong in getting rows is an entry or a row of the wrong form, or raised in fetching.
-/
theorem CursorScript.category_of_mem_readingFailures {script : CursorScript} {e : Error}
    (member : e ∈ script.readingFailures) :
    e.IsMalformed ∨ ∃ raised, script.fetchFault = some raised ∧ e = .fault raised := by
  simp only [readingFailures, List.mem_append, mem_failures] at member
  rcases member with (label | fetched) | row
  · obtain ⟨entry, _, refused⟩ := List.mem_map.mp label
    exact .inl (Value.columnLabel_malformed refused)
  · rw [fetchFailures] at fetched
    split at fetched
    · obtain ⟨raised, faulty, rfl⟩ := List.mem_map.mp fetched
      exact .inr ⟨raised, by simpa using faulty, rfl⟩
    · cases fetched
  · rw [rowResults] at row
    split at row
    · obtain ⟨value, _, refused⟩ := List.mem_map.mp row
      exact .inl (.inr (.inr (.inl (Row.ofValue_category refused))))
    · cases row

/-- What a call is made for beyond executing: its result, and what can go wrong in getting it. -/
structure Wanted (α : Type) where
  failures : CursorScript → List Error
  result : CursorScript → α
  /-- What goes wrong has a wrong form, or is raised in fetching. -/
  sorts : ∀ (script : CursorScript) (e : Error), e ∈ failures script →
    e.IsMalformed ∨ ∃ raised, script.fetchFault = some raised ∧ e = .fault raised

namespace Wanted

def count : Wanted (Option Int) where
  failures _ := []
  result := CursorScript.rowcount
  sorts := by simp

def rows : Wanted (List Row) where
  failures := CursorScript.readingFailures
  result script := successes script.rowResults
  sorts _ _ := CursorScript.category_of_mem_readingFailures

end Wanted

def bindingFailures (values : List (String × Value)) : List Error :=
  failures (values.map driverValue)

theorem bindingFailures_eq_nil {values : List (String × Value)} :
    bindingFailures values = [] ↔ Bindable values := by
  rw [bindingFailures, List.eq_nil_iff_forall_not_mem]
  constructor
  · intro none_ pair member
    cases converted : driverValue pair with
    | ok value => exact ⟨value, rfl⟩
    | error e =>
      refine absurd (mem_failures.mpr ?_) (none_ e)
      exact converted ▸ List.mem_map_of_mem member
  · intro bindable e fails
    obtain ⟨pair, member, refused⟩ := List.mem_map.mp (mem_failures.mp fails)
    obtain ⟨value, accepted⟩ := bindable pair member
    rw [refused] at accepted
    cases accepted

/-- A call that got a cursor with this script ended in the first of its failures, or with its result
where there were none, unless the cursor failed to close. It executed once if all values could be
bound, and otherwise not at all. -/
structure EndsInFirst (script : CursorScript) (values : List (String × Value)) (wanted : Wanted α)
    (outcome : Except Error α) (events : Trace) : Prop where
  first : outcome = unlessFault script.closeFault
    (firstOf (bindingFailures values ++ script.executionFailures ++ wanted.failures script)
      (wanted.result script))
  executed : Bindable values → ∃ sql params, events.executions = [(sql, params)]
  unexecuted : ¬ Bindable values → events.executions = []
  binding : ∀ e, outcome = .error e → e.IsBinding → events.executions = []
  raised : ∀ e, outcome = .error e → e.IsRaised → ∃ fault ∈ script.faults,
    e = .fault fault ∧ e.category = .raised fault.origin ∧ e.message = fault.message

/-- Whenever a call got a cursor, it is one of the given connection, and the first failure decides.
-/
def FirstDecides (connection : Except Error Connection) (values : List (String × Value))
    (wanted : Wanted α) (before : Trace) (ended : Except Error α × Trace) : Prop :=
  ended.2.openedCursors ≠ before.openedCursors →
    ∃ (used : Connection) (events : Trace), connection = .ok used ∧ ended.2 = before ++ events ∧
      EndsInFirst (used.script before.openedCursors.length) values wanted ended.1 events

/-- Where an error that decides comes from. -/
theorem origin_of_first {script : CursorScript} {values : List (String × Value)} {wanted : Wanted α}
    {e : Error} (fails : .error e = unlessFault script.closeFault
      (firstOf (bindingFailures values ++ script.executionFailures ++ wanted.failures script)
        (wanted.result script))) :
    (e ∈ bindingFailures values ∧ (e.IsBinding ∨ e.IsExcess)) ∨ e.IsMalformed ∨
      ∃ fault ∈ script.faults, e = .fault fault := by
  rw [unlessFault_eq_firstOf] at fails
  have member := mem_of_firstOf fails.symm
  simp only [List.mem_append, List.mem_map] at member
  rcases member with ⟨raised, closing, rfl⟩ | (refused | executing) | wanting
  · exact .inr (.inr ⟨raised, by simp [CursorScript.faults, closing], rfl⟩)
  · obtain ⟨pair, _, reason⟩ := List.mem_map.mp (mem_failures.mp refused)
    exact .inl ⟨refused, Value.toDriver_category reason⟩
  · obtain ⟨raised, faulty, rfl⟩ := List.mem_map.mp executing
    exact .inr (.inr ⟨raised, by simp [CursorScript.faults, Option.mem_toList.mp faulty], rfl⟩)
  · rcases wanted.sorts script e wanting with form | ⟨raised, fetching, rfl⟩
    · exact .inr (.inl form)
    · exact .inr (.inr ⟨raised, by simp [CursorScript.faults, fetching], rfl⟩)

theorem endsInFirst {script : CursorScript} {values : List (String × Value)} {wanted : Wanted α}
    {outcome : Except Error α} {events : Trace} (sql : String)
    (first : outcome = unlessFault script.closeFault
      (firstOf (bindingFailures values ++ script.executionFailures ++ wanted.failures script)
        (wanted.result script)))
    (handed : events.executions =
      match driverValues values with
      | .ok params => [(sql, params)]
      | .error _ => []) :
    EndsInFirst script values wanted outcome events := by
  have unexecuted : ¬ Bindable values → events.executions = [] := by
    intro unbindable
    rw [handed]
    cases converted : driverValues values with
    | error e => rfl
    | ok params =>
      refine absurd (fun pair member => ?_) unbindable
      have known : driverValue pair ∈ params.map Except.ok := by
        rw [← mapM_eq_ok_iff.mp converted]
        exact List.mem_map_of_mem member
      obtain ⟨value, _, accepted⟩ := List.mem_map.mp known
      exact ⟨value, accepted.symm⟩
  refine ⟨first, ?_, unexecuted, ?_, ?_⟩
  · intro bindable
    obtain ⟨params, converted, _⟩ := exists_driverValues bindable
    exact ⟨sql, params, by rw [handed, converted]⟩
  · intro e fails binding
    refine unexecuted fun bindable => ?_
    have none_ := bindingFailures_eq_nil.mpr bindable
    rcases origin_of_first (fails.symm.trans first) with ⟨refused, _⟩ | form | ⟨fault, _, rfl⟩
    · rw [none_] at refused
      cases refused
    · rcases binding with same | same <;> rcases form with other | other | other | other <;>
        cases same.symm.trans other
    · rcases binding with same | same <;> cases same
  · rintro e fails ⟨origin, raised⟩
    rcases origin_of_first (fails.symm.trans first) with ⟨_, sort⟩ | form | ⟨fault, among, rfl⟩
    · rcases sort with (same | same) | same | same <;> cases raised.symm.trans same
    · rcases form with same | same | same | same <;> cases raised.symm.trans same
    · exact ⟨fault, among, rfl, rfl, rfl⟩

/-- A course that got its cursor ended in the first failure. -/
theorem course_firstDecides {asked : Except Error Request} {reading : Reading α} {wanted : Wanted α}
    (answers : ∀ script : CursorScript, reading.answer script 0 =
      firstOf (script.executionFailures ++ wanted.failures script) (wanted.result script))
    {connection : Except Error Connection} {values : List (String × Value)}
    (request : ∀ r, asked = .ok r → connection = .ok r.connection ∧ r.values = values)
    (before : Trace) :
    FirstDecides connection values wanted before (course asked reading before) := by
  intro opened
  cases asked with
  | error e => exact absurd rfl opened
  | ok r =>
    obtain ⟨used, rfl⟩ := request r rfl
    have all : (course (.ok r) reading before).2 =
        before ++ r.events reading before := rfl
    refine ⟨r.connection, _, used, all, ?_⟩
    cases faulty : r.denial before with
    | some raised =>
      rw [all, Trace.openedCursors_append, ← Trace.openedCursors_traffic (r.events _ _),
        Request.traffic_events_denied reading faulty] at opened
      exact absurd (List.append_nil _) opened
    | none =>
      refine endsInFirst r.sql ?_ ?_
      · change r.outcome reading _ = _
        rw [Request.outcome, faulty, unlessFault_none, Request.script, List.append_assoc,
          firstOf_append (bindingFailures r.values) _ (successes (r.values.map driverValue)),
          driverValues, mapM_eq_firstOf, ← answers, bindingFailures]
        cases firstOf (failures (r.values.map driverValue)) _ <;> rfl
      · rw [← Trace.executions_traffic, Request.traffic_events reading faulty,
          Request.traffic_execution]
        cases driverValues r.values <;> rfl

theorem FirstDecides.reported {connection : Except Error Connection}
    {values : List (String × Value)} {wanted : Wanted (List Row)} {before : Trace}
    {ended : Except Error (List Row) × Trace} (record : Nat → LogRecord)
    (decides : FirstDecides connection values wanted before ended) :
    FirstDecides connection values wanted before (reported record ended) := by
  obtain ⟨_ | rows, after⟩ := ended
  · exact decides
  · intro opened
    have same :
        Trace.openedCursors (after ++ [.logged (record rows.length)]) = after.openedCursors := by
      rw [Trace.openedCursors_append]
      exact List.append_nil _
    obtain ⟨used, events, connected, trace, first, executed, unexecuted, binding, raised⟩ :=
      decides (same ▸ opened)
    have executions : Trace.executions (events ++ [.logged (record rows.length)]) =
        events.executions := by
      simp [Trace.executions, Event.execution?]
    refine ⟨used, events ++ [.logged (record rows.length)], connected, ?_, first, ?_, ?_, ?_,
      raised⟩
    · simp [SqlTemplate.reported, show after = before ++ events from trace]
    · simpa only [executions] using executed
    · simpa only [executions] using unexecuted
    · intro e fails isBinding
      rw [executions]
      exact binding e fails isBinding

theorem count_answers (script : CursorScript) :
    Reading.count.answer script 0 =
      firstOf (script.executionFailures ++ Wanted.count.failures script)
        (Wanted.count.result script) := by
  change unlessFault (script.executeFault 0) (firstOf [] script.rowcount) = _
  rw [unlessFault_eq_firstOf]
  rfl

theorem rows_answers (script : CursorScript) :
    Reading.rows.answer script 0 =
      firstOf (script.executionFailures ++ Wanted.rows.failures script)
        (Wanted.rows.result script) := by
  change unlessFault (script.executeFault 0) script.mapRows = _
  rw [script.mapRows_eq_firstOf, unlessFault_eq_firstOf]
  rfl

theorem Query.usable_of_request {q : Query} {loaded : LoadedModules} {target : Target}
    {params : NamedValues} {r : Request} (asked : q.request loaded target params = .ok r) :
    (target.resolve loaded q.dialect).usable = .ok r.connection := by
  rw [request] at asked
  cases usable : (target.resolve loaded q.dialect).usable with
  | error e =>
    simp only [usable] at asked
    cases asked
  | ok connection =>
    cases rewritten : (target.resolve loaded q.dialect).dialect.rewrite (q.render params) with
    | error e =>
      simp only [usable, rewritten] at asked
      cases asked
    | ok positional =>
      simp only [usable, rewritten] at asked
      cases asked
      rfl

theorem Table.usable_of_request {table : Table} {loaded : LoadedModules} {target : Target}
    {sql : Dialect → Except Error String} {values : List (String × Value)} {r : Request}
    (asked : table.request loaded target sql values = .ok r) :
    (target.resolve loaded table.dialect).usable = .ok r.connection := by
  rw [request] at asked
  cases built : sql (target.resolve loaded table.dialect).dialect with
  | error e =>
    simp only [built] at asked
    cases asked
  | ok text =>
    cases usable : (target.resolve loaded table.dialect).usable with
    | error e =>
      simp only [built, usable] at asked
      cases asked
    | ok connection =>
      simp only [built, usable] at asked
      cases asked
      rfl

/-- Every call on a query or a table that gets a cursor ends in the first of these: an error in
closing the cursor, the refusal of the first value that cannot be bound, an error in executing and,
where rows are wanted, errors in the labels, in fetching and in the rows; it has its result just if
there is none of them. The text is executed, once, just if all values can be bound, so a call that
ends in the refusal of a value has executed nothing; and errors of the driver come out as they are.
-/
theorem first_failure_decides (loaded : LoadedModules) (target : Target) (before : Trace) :
    (∀ (q : Query) (params : NamedValues),
      let connection := (target.resolve loaded q.dialect).usable
      let values :=
        (Template.placeholders (q.render params)).map fun name => (name, params.get name)
      FirstDecides connection values .rows before ((q.rows loaded target params).after before) ∧
      FirstDecides connection values .count before ((q.update loaded target params).after before)) ∧
    ∀ table : Table,
      let connection := (target.resolve loaded table.dialect).usable
      (∀ values : NamedValues, FirstDecides connection values.entries .count before
        ((table.insert loaded target values).after before)) ∧
      (∀ values conditions : NamedValues,
        FirstDecides connection (values.entries ++ conditions.entries) .count before
          ((table.update loaded target values conditions).after before)) ∧
      (∀ conditions : NamedValues, FirstDecides connection conditions.entries .count before
        ((table.delete loaded target conditions).after before)) ∧
      ∀ (columns : Columns) (conditions : NamedValues),
        FirstDecides connection conditions.entries .rows before
          ((table.select loaded target columns conditions).after before) := by
  constructor
  · intro q params connection values
    have request : ∀ r, q.request loaded target params = .ok r →
        connection = .ok r.connection ∧ r.values = values :=
      fun r asked => ⟨Query.usable_of_request asked, Query.values_of_request asked⟩
    rw [Query.after_rows, Query.after_update]
    exact ⟨(course_firstDecides rows_answers request before).reported _,
      course_firstDecides count_answers request before⟩
  · intro table connection
    have request : ∀ sql values r, table.request loaded target sql values = .ok r →
        connection = .ok r.connection ∧ r.values = values :=
      fun _ _ _ asked => ⟨Table.usable_of_request asked, Table.values_of_request asked⟩
    refine ⟨fun values => ?_, fun values conditions => ?_, fun conditions => ?_,
      fun columns conditions => ?_⟩
    · rw [Table.after_insert]
      exact course_firstDecides count_answers (request _ _) before
    · rw [Table.after_update]
      exact course_firstDecides count_answers (request _ _) before
    · rw [Table.after_delete]
      exact course_firstDecides count_answers (request _ _) before
    · rw [Table.after_select]
      exact (course_firstDecides rows_answers (request _ _) before).reported _

/-- An error in closing outranks the others, and an error in fetching stays hidden where the result
has no description. -/
theorem closing_outranks_and_fetching_hides :
    let locked : Fault := ⟨.operational, "locked"⟩
    let gone : Fault := ⟨.operational, "gone"⟩
    let target := fun script : CursorScript =>
      Target.connection (some { module := "sqlite3", cursors := [script] })
    let failing := target { executeFault := fun _ => some locked, closeFault := some gone }
    let hidden := target { fetchFault := some locked }
    let update := Query.update { template := "UPDATE t SET a = 1" } [] failing (.ofPairs [])
    let select := Table.select { name := "t" } [] hidden (.listed []) (.ofPairs [])
    (update.after []).1 = .error (.fault gone) ∧ (select.after []).1 = .ok [] := by
  intro locked gone target failing hidden update select
  constructor
  · have decides := ((first_failure_decides [] failing []).1
      { template := "UPDATE t SET a = 1" } (.ofPairs [])).2
    obtain ⟨used, events, usable, _, ends⟩ := decides (by decide +kernel)
    obtain rfl := Except.ok.inj usable
    exact ends.first
  · have decides := ((first_failure_decides [] hidden []).2 { name := "t" }).2.2.2 (.listed [])
      (.ofPairs [])
    obtain ⟨used, events, usable, _, ends⟩ := decides (by decide +kernel)
    obtain rfl := Except.ok.inj usable
    exact ends.first

end SqlTemplate
