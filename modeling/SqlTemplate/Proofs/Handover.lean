import SqlTemplate.Proofs.Course

/-!
# What a call hands over

Of the events of a call those matter to the connection that are not records of the log. A call that
is not refused opens one cursor and closes it. In between it either hands its text over, with the
driver values of all its parameters in order, or it breaks off at the first value that has none. It
never has to complain about a slot, because it fills exactly the slots that its statement has.
-/

namespace SqlTemplate

/-- The events that reach the connection or a cursor: all but the records of the log. -/
def Trace.traffic (trace : Trace) : Trace :=
  trace.filter fun event => event.record?.isNone

theorem Trace.traffic_append (first second : Trace) :
    Trace.traffic (first ++ second) = first.traffic ++ second.traffic :=
  List.filter_append first second

theorem Trace.traffic_logged (records : List LogRecord) :
    Trace.traffic (records.map .logged) = [] := by
  induction records with
  | nil => rfl
  | cons record rest ih => exact ih

namespace Request

variable {α : Type}

theorem traffic_execution (r : Request) (reading : Reading α) (cursor : Cursor) :
    (r.execution reading cursor).traffic =
      match driverValues r.values with
      | .ok params => [.executed cursor.index r.sql params]
      | .error _ => [] := by
  rw [execution]
  cases driverValues r.values with
  | error e => rfl
  | ok params =>
    have told := Trace.traffic_logged (reading.records cursor.script 0)
    exact congrArg (Event.executed cursor.index r.sql params :: ·) told

/-- A request that can open a cursor opens it first, closes it last, and uses only this one. -/
theorem traffic_events {r : Request} (reading : Reading α) {before : Trace}
    (opens : r.denial before = none) :
    let cursor := r.connection.nextCursor before
    (r.events reading before).traffic = .opened cursor.index ::
      ((r.execution reading cursor).traffic ++ [.released cursor.index]) := by
  intro cursor
  have inner := Trace.traffic_append (r.execution reading cursor) [.released cursor.index]
  rw [events, opens]
  exact congrArg (Event.opened cursor.index :: ·) inner

/-- Otherwise it asks for a cursor and does no more. -/
theorem traffic_events_denied {r : Request} (reading : Reading α) {before : Trace} {raised : Fault}
    (denied : r.denial before = some raised) : (r.events reading before).traffic = [.denied] := by
  rw [events, denied]
  rfl

end Request

variable {α : Type}

/-- From a trace on, a call came to an outcome and had the given traffic. -/
structure Reached (ended : Except Error α × Trace) (before : Trace) (outcome : Except Error α)
    (traffic : Trace) : Prop where
  outcome : ended.1 = outcome
  traffic : ∃ events, ended.2 = before ++ events ∧ events.traffic = traffic

/-- A call opened one cursor, handed it a text once, with the driver values of all parameters as
they were converted, and closed it. It did not complain about a slot. -/
def HandsOver (ended : Except Error α × Trace) (before : Trace) (sql : String)
    (converted : List (Except Error Value)) (outcome : Except Error α) : Prop :=
  let cursor := before.openedCursors.length
  ∃ params, converted = params.map .ok ∧
    Reached ended before outcome
      [.opened cursor, .executed cursor sql params, .released cursor] ∧
    ∀ e, ended.1 = .error e → ¬ e.IsAboutSlot

/-- A call opened one cursor and closed it without handing anything over, and ended in the refusal
of the first parameter that was not converted, which is no complaint about a slot. -/
def BreaksOff (ended : Except Error α × Trace) (before : Trace)
    (converted : List (Except Error Value)) : Prop :=
  let cursor := before.openedCursors.length
  ∃ (accepted : List Value) (e : Error) (rest : List (Except Error Value)),
    converted = accepted.map .ok ++ .error e :: rest ∧
    Reached ended before (.error e) [.opened cursor, .released cursor] ∧ ¬ e.IsAboutSlot

theorem driverValues_not_aboutSlot {pairs : List (String × Value)} {e : Error}
    (fails : driverValues pairs = .error e) : ¬ e.IsAboutSlot := by
  obtain ⟨pair, _, refused⟩ := exists_error_of_mapM fails
  exact Value.toDriver_not_aboutSlot refused

def Bindable (pairs : List (String × Value)) : Prop :=
  ∀ pair ∈ pairs, ∃ value, driverValue pair = .ok value

theorem exists_driverValues {pairs : List (String × Value)} (bindable : Bindable pairs) :
    ∃ params, driverValues pairs = .ok params ∧ pairs.map driverValue = params.map .ok := by
  cases converted : driverValues pairs with
  | error e =>
    obtain ⟨pair, member, refused⟩ := exists_error_of_mapM converted
    obtain ⟨value, accepted⟩ := bindable pair member
    rw [refused] at accepted
    cases accepted
  | ok params => exact ⟨params, rfl, mapM_eq_ok_iff.mp converted⟩

section Course

variable {r : Request} (reading : Reading α) (before : Trace)
  (opens : r.connection.cursorFault before.cursorCalls = none)
  (closes : (r.connection.script before.openedCursors.length).closeFault = none)

include opens closes

theorem course_handsOver (converts : ∀ pair ∈ r.values, ∃ value, driverValue pair = .ok value) :
    HandsOver (course (.ok r) reading before) before r.sql (r.values.map driverValue)
      (reading.answer (r.script before) 0) := by
  obtain ⟨params, converted, all⟩ := exists_driverValues converts
  have outcome : (course (.ok r) reading before).1 =
      reading.answer (r.script before) 0 := by
    simp only [course, Request.outcome, Request.denial, Request.script, opens, closes, converted,
      unlessFault_none]
  refine ⟨params, all, ⟨outcome, _, rfl, ?_⟩, fun e fails => ?_⟩
  · rw [Request.traffic_events reading opens, Request.traffic_execution, converted]
    rfl
  · exact reading.answer_not_aboutSlot _ _ e (outcome.symm.trans fails)

theorem course_breaksOff (refused : ∃ pair ∈ r.values, ∃ e, driverValue pair = .error e) :
    BreaksOff (course (.ok r) reading before) before (r.values.map driverValue) := by
  cases converted : driverValues r.values with
  | ok params =>
    obtain ⟨pair, member, e, refusal⟩ := refused
    have known : driverValue pair ∈ params.map Except.ok := by
      rw [← mapM_eq_ok_iff.mp converted]
      exact List.mem_map_of_mem member
    obtain ⟨value, _, accepted⟩ := List.mem_map.mp known
    rw [refusal] at accepted
    cases accepted
  | error e =>
    obtain ⟨accepted, rest, split⟩ := mapM_eq_error_iff.mp converted
    have outcome : (course (.ok r) reading before).1 = .error e := by
      simp only [course, Request.outcome, Request.denial, Request.script, opens, closes, converted,
        unlessFault_none]
    refine ⟨accepted, e, rest, split, ⟨outcome, _, rfl, ?_⟩, driverValues_not_aboutSlot converted⟩
    rw [Request.traffic_events reading opens, Request.traffic_execution, converted]
    rfl

end Course

/-- Telling the log how many rows came back changes neither the outcome nor the traffic. -/
theorem Reached.reported {ended : Except Error (List Row) × Trace} {before : Trace}
    {outcome : Except Error (List Row)} {traffic : Trace} (record : Nat → LogRecord)
    (reached : Reached ended before outcome traffic) :
    Reached (reported record ended) before outcome traffic := by
  obtain ⟨ending, later⟩ := ended
  obtain ⟨rfl, events, rfl, rfl⟩ := reached
  cases ending with
  | error e => exact ⟨rfl, events, rfl, rfl⟩
  | ok rows =>
    refine ⟨rfl, events ++ [.logged (record rows.length)], ?_, ?_⟩
    · exact List.append_assoc before events _
    · rw [Trace.traffic_append]
      exact List.append_nil _

theorem reported_fst (record : Nat → LogRecord) (ended : Except Error (List Row) × Trace) :
    (reported record ended).1 = ended.1 := by
  obtain ⟨ending, later⟩ := ended
  cases ending <;> rfl

theorem traffic_reported (record : Nat → LogRecord) (ended : Except Error (List Row) × Trace) :
    (reported record ended).2.traffic = ended.2.traffic := by
  obtain ⟨ending, later⟩ := ended
  cases ending with
  | error e => rfl
  | ok rows => exact (later.traffic_append _).trans (List.append_nil _)

theorem HandsOver.reported {ended : Except Error (List Row) × Trace} {before : Trace}
    {sql : String} {converted : List (Except Error Value)} {outcome : Except Error (List Row)}
    (record : Nat → LogRecord) (handed : HandsOver ended before sql converted outcome) :
    HandsOver (reported record ended) before sql converted outcome := by
  obtain ⟨params, all, reached, sound⟩ := handed
  refine ⟨params, all, reached.reported record, ?_⟩
  rw [reported_fst]
  exact sound

theorem BreaksOff.reported {ended : Except Error (List Row) × Trace} {before : Trace}
    {converted : List (Except Error Value)} (record : Nat → LogRecord)
    (off : BreaksOff ended before converted) :
    BreaksOff (reported record ended) before converted := by
  obtain ⟨accepted, e, rest, split, reached, sound⟩ := off
  exact ⟨accepted, e, rest, split, reached.reported record, sound⟩

namespace Target

/-- The connection that can be used through a target: a bare one that is there, or that of a
database which was not closed. -/
def usable? : Target → Option Connection
  | .connection bare => bare
  | .database db => if db.closed then none else db.connection

theorem usable_resolve {target : Target} {connection : Connection}
    (usable : target.usable? = some connection) (loaded : LoadedModules)
    (dialect : Option Dialect) : (target.resolve loaded dialect).usable = .ok connection := by
  cases target with
  | connection bare =>
    change bare = some connection at usable
    subst bare
    rfl
  | database db =>
    obtain ⟨held, own, closed⟩ := db
    cases closed with
    | true => cases usable
    | false =>
      change held = some connection at usable
      subst held
      rw [resolve]
      split <;> rfl

end Target
end SqlTemplate
