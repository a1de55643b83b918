import SqlTemplate.Proofs.SessionSteps

/-!
# Cursors are closed by the call that opened them

A call on a query or a table leaves no cursor behind, however it ends, and does not come upon a
cursor that was there before it. What one call adds to the trace is contained in this sense;
containment is passed on from one call to the next, and a run of calls is contained as a whole.
-/

namespace SqlTemplate

def Event.cursor? : Event → Option Nat
  | .opened cursor | .executed cursor _ _ | .released cursor => some cursor
  | .denied | .disconnected | .logged _ => none

namespace Trace

variable (trace : Trace)

theorem mem_openedCursors {cursor : Nat} :
    cursor ∈ trace.openedCursors ↔ Event.opened cursor ∈ trace := by
  constructor
  · intro opened
    obtain ⟨event, member, same⟩ := List.mem_filterMap.mp opened
    cases event <;> cases same
    exact member
  · intro member
    exact List.mem_filterMap.mpr ⟨_, member, rfl⟩

theorem mem_traffic {event : Event} {cursor : Nat} (member : event ∈ trace)
    (about : event.cursor? = some cursor) : event ∈ trace.traffic := by
  refine List.mem_filter.mpr ⟨member, ?_⟩
  cases event <;> first | rfl | cases about

end Trace

/-- Events that leave nothing behind: they close the cursors they open, each of them once, are
about no other cursor and none that was there before, and do not close the connection. -/
structure Contained (before events : Trace) : Prop where
  released : events.releasedCursors = events.openedCursors
  distinct : events.openedCursors.Nodup
  own : ∀ event ∈ events, ∀ cursor, event.cursor? = some cursor →
    cursor ∈ events.openedCursors ∧ cursor ∉ before.openedCursors
  connected : events.disconnections = 0

namespace Contained

theorem nil (before : Trace) : Contained before [] := ⟨rfl, List.nodup_nil, by simp, rfl⟩

theorem append {before first second : Trace} (earlier : Contained before first)
    (later : Contained (before ++ first) second) : Contained before (first ++ second) := by
  refine ⟨?_, ?_, ?_, ?_⟩
  · rw [Trace.releasedCursors_append, Trace.openedCursors_append, earlier.released, later.released]
  · rw [Trace.openedCursors_append]
    refine List.nodup_append.mpr ⟨earlier.distinct, later.distinct, ?_⟩
    rintro cursor old other new rfl
    have member := (Trace.mem_openedCursors second).mp new
    have absent := (later.own _ member cursor rfl).2
    rw [Trace.openedCursors_append] at absent
    exact absent (List.mem_append_right _ old)
  · intro event member cursor about
    rw [Trace.openedCursors_append]
    rcases List.mem_append.mp member with old | new
    · obtain ⟨mine, fresh⟩ := earlier.own event old cursor about
      exact ⟨List.mem_append_left _ mine, fresh⟩
    · obtain ⟨mine, fresh⟩ := later.own event new cursor about
      rw [Trace.openedCursors_append] at fresh
      exact ⟨List.mem_append_right _ mine, fun held => fresh (List.mem_append_left _ held)⟩
  · rw [Trace.disconnections_append, earlier.connected, later.connected]

/-- The cursors that are open stay the same. -/
theorem openCursors {before events : Trace} (contained : Contained before events) :
    Trace.openCursors (before ++ events) = before.openCursors := by
  have old : ∀ cursor ∈ before.openedCursors, cursor ∉ events.releasedCursors := by
    intro cursor held closed
    rw [contained.released] at closed
    have member := (Trace.mem_openedCursors events).mp closed
    exact (contained.own _ member cursor rfl).2 held
  rw [Trace.openCursors, Trace.openCursors, Trace.openedCursors_append,
    Trace.releasedCursors_append, List.filter_append]
  have kept : before.openedCursors.filter
        (fun cursor => !(before.releasedCursors ++ events.releasedCursors).contains cursor) =
      before.openedCursors.filter fun cursor => !before.releasedCursors.contains cursor := by
    refine List.filter_congr fun cursor held => ?_
    simp [old cursor held]
  have gone : events.openedCursors.filter
      (fun cursor => !(before.releasedCursors ++ events.releasedCursors).contains cursor) = [] := by
    rw [List.filter_eq_nil_iff]
    intro cursor opened
    rw [contained.released]
    simp [opened]
  rw [kept, gone, List.append_nil]

end Contained

namespace Visit

theorem contained {before events : Trace} {cursor : Nat} (visit : Visit cursor events.traffic)
    (fresh : cursor ∉ before.openedCursors) : Contained before events := by
  have opened := events.openedCursors_traffic
  have released := events.releasedCursors_traffic
  have disconnections := events.disconnections_traffic
  have inside := fun event member cursor => @Trace.mem_traffic events event cursor member
  generalize events.traffic = traffic at *
  refine ⟨?_, ?_, ?_, ?_⟩
  · rw [← opened, ← released]
    cases visit <;> rfl
  · rw [← opened]
    cases visit with
    | refused | denied => exact List.nodup_nil
    | _ => exact List.pairwise_singleton _ cursor
  · intro event member other about
    have seen := inside event member other about
    rw [← opened]
    have same : other = cursor ∧ other ∈ traffic.openedCursors := by
      cases visit with
      | refused => cases seen
      | denied =>
        obtain rfl := List.mem_singleton.mp seen
        cases about
      | unused =>
        simp only [List.mem_cons, List.not_mem_nil, or_false] at seen
        rcases seen with rfl | rfl <;> cases about <;> exact ⟨rfl, List.mem_singleton_self _⟩
      | used sql params =>
        simp only [List.mem_cons, List.not_mem_nil, or_false] at seen
        rcases seen with rfl | rfl | rfl <;> cases about <;> exact ⟨rfl, List.mem_singleton_self _⟩
    exact ⟨same.2, same.1 ▸ fresh⟩
  · rw [← disconnections]
    cases visit <;> rfl

theorem opens_atMost_one {events : Trace} {cursor : Nat} (visit : Visit cursor events.traffic) :
    events.openedCursors.length ≤ 1 := by
  rw [← events.openedCursors_traffic]
  generalize events.traffic = traffic at visit
  cases visit with
  | refused | denied => exact Nat.zero_le 1
  | unused | used => exact Nat.le_refl 1

theorem executes_atMost_once {events : Trace} {cursor : Nat}
    (visit : Visit cursor events.traffic) : events.executions.length ≤ 1 := by
  rw [← events.executions_traffic]
  generalize events.traffic = traffic at visit
  cases visit with
  | used sql params => exact Nat.le_refl 1
  | _ => exact Nat.zero_le 1

end Visit

namespace Session

/-- One call on any connection, in a session whose cursors are numbered. -/
theorem performOver_of_isCall {s : Session} (numbered : s.trace.Numbered)
    {call : Option Connection × Step} (isCall : call.2.isCall = true) :
    let now := (s.performOver call).2
    now.databases = s.databases ∧ now.statements = s.statements ∧
      ∃ events, now.trace = s.trace ++ events ∧ Contained s.trace events ∧
        events.openedCursors.length ≤ 1 ∧ events.executions.length ≤ 1 := by
  obtain ⟨_, databases, statements, events, trace, visit⟩ :=
    { s with connection := call.1 }.perform_of_isCall isCall
  exact ⟨databases, statements, events, trace, visit.contained numbered.fresh,
    visit.opens_atMost_one, visit.executes_atMost_once⟩

/-- A run of calls, each on any connection. -/
theorem runOver_of_isCall {s : Session} (numbered : s.trace.Numbered)
    {calls : List (Option Connection × Step)} (areCalls : ∀ call ∈ calls, call.2.isCall = true) :
    let now := s.runOver calls
    now.databases = s.databases ∧ now.statements = s.statements ∧
      ∃ events, now.trace = s.trace ++ events ∧ Contained s.trace events := by
  induction calls generalizing s with
  | nil => exact ⟨rfl, rfl, [], (List.append_nil _).symm, .nil _⟩
  | cons call rest ih =>
    obtain ⟨databases, statements, first, trace, contained, _⟩ :=
      performOver_of_isCall numbered (areCalls call List.mem_cons_self)
    have later := ih (numbered.next ({ s with connection := call.1 }.perform_opensNext call.2))
      fun other member => areCalls other (List.mem_cons_of_mem call member)
    change let now := (s.performOver call).2.runOver rest
      now.databases = (s.performOver call).2.databases ∧
        now.statements = (s.performOver call).2.statements ∧
        ∃ events, now.trace = (s.performOver call).2.trace ++ events ∧
          Contained (s.performOver call).2.trace events at later
    rw [databases, statements, trace] at later
    obtain ⟨sameDatabases, sameStatements, second, ended, contained'⟩ := later
    refine ⟨sameDatabases, sameStatements, first ++ second, ?_, contained.append contained'⟩
    rw [← List.append_assoc]
    exact ended

end Session

/-- In a session over any databases, after any steps on any connections, every call opens at most
one cursor, executes at most once, and has closed its cursor exactly once when it ends, whether it
returns or fails. It is about no earlier cursor, closes no connection and changes no database. So a
run of calls leaves the same cursors open as were open before. -/
theorem calls_leave_no_cursor_open (loaded : LoadedModules) (databases : List Database)
    (history : List (Option Connection × Step)) :
    let s := ({ loaded, connection := none, databases } : Session).runOver history
    (∀ call : Option Connection × Step, call.2.isCall = true →
      let now := (s.performOver call).2
      now.databases = s.databases ∧ now.statements = s.statements ∧
        ∃ events, now.trace = s.trace ++ events ∧ Contained s.trace events ∧
          events.openedCursors.length ≤ 1 ∧ events.executions.length ≤ 1) ∧
    ∀ calls : List (Option Connection × Step), (∀ call ∈ calls, call.2.isCall = true) →
      let now := s.runOver calls
      now.databases = s.databases ∧ now.statements = s.statements ∧
        (∃ events, now.trace = s.trace ++ events ∧ Contained s.trace events) ∧
        now.trace.openCursors = s.trace.openCursors := by
  intro s
  have start : ({ loaded, connection := none, databases } : Session).trace.Numbered := rfl
  have numbered : s.trace.Numbered := Session.runOver_numbered start history
  refine ⟨fun call isCall => Session.performOver_of_isCall numbered isCall, ?_⟩
  intro calls areCalls now
  obtain ⟨sameDatabases, sameStatements, events, trace, contained⟩ :=
    Session.runOver_of_isCall numbered areCalls
  refine ⟨sameDatabases, sameStatements, ⟨events, trace, contained⟩, ?_⟩
  rw [show now.trace = _ from trace]
  exact contained.openCursors

end SqlTemplate
