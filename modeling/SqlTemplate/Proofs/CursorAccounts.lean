import SqlTemplate.Proofs.CursorScope

/-!
# Every cursor is accounted for

Through any steps of a session the cursor of a statement is closed as often as the statement is,
once or not at all, and every other cursor was closed once by the call that opened it. A closed
cursor is handed no text and is not closed again. This holds of a session that starts, and each of
the moves that a step can make preserves it. -/

namespace SqlTemplate

namespace Trace

variable (first second trace : Trace)

def closings (cursor : Nat) : Nat := trace.releasedCursors.count cursor

/-- No text is handed to a cursor after the cursor was closed. -/
def Silent : Prop :=
  trace.Pairwise fun earlier later =>
    ∀ cursor sql params, earlier = .released cursor → later ≠ .executed cursor sql params

theorem closings_append (cursor : Nat) :
    closings (first ++ second) cursor = first.closings cursor + second.closings cursor := by
  rw [closings, releasedCursors_append, List.count_append]
  rfl

theorem closings_traffic (cursor : Nat) :
    trace.traffic.closings cursor = trace.closings cursor := by
  rw [closings, releasedCursors_traffic]
  rfl

theorem closings_ne_zero {cursor : Nat} :
    trace.closings cursor ≠ 0 ↔ Event.released cursor ∈ trace := by
  rw [closings, Ne, List.count_eq_zero, Classical.not_not]
  constructor
  · intro closed
    obtain ⟨event, member, same⟩ := List.mem_filterMap.mp closed
    cases event <;> cases same
    exact member
  · intro member
    exact List.mem_filterMap.mpr ⟨_, member, rfl⟩

variable {trace}

/-- Records of the log do not count. -/
theorem silent_of_traffic (silent : trace.traffic.Silent) : trace.Silent := by
  refine (List.pairwise_filter.mp silent).imp ?_
  intro earlier later apart cursor sql params released executed
  subst released executed
  exact apart rfl rfl cursor sql params rfl rfl

theorem Silent.append {before events : Trace} (silent : before.Silent)
    (after : events.traffic.Silent)
    (open_ : ∀ cursor sql params, Event.executed cursor sql params ∈ events.traffic →
      before.closings cursor = 0) : Silent (before ++ events) := by
  refine List.pairwise_append.mpr ⟨silent, silent_of_traffic after, ?_⟩
  rintro earlier old later new cursor sql params rfl rfl
  exact before.closings_ne_zero.mpr old (open_ cursor sql params (events.mem_traffic new rfl))

end Trace

namespace StatementMove

variable {cursor : Nat} {traffic : Trace} {closed now : Bool}
  (move : StatementMove cursor closed traffic now)

include move

theorem closings : (if closed then 1 else 0) + traffic.closings cursor = if now then 1 else 0 := by
  cases move with
  | idle => exact Nat.add_zero _
  | executed => rfl
  | closed | executedAndClosed =>
    change 0 + [cursor].count cursor = 1
    rw [List.count_singleton_self]

theorem closings_other {other : Nat} (apart : other ≠ cursor) : traffic.closings other = 0 := by
  rw [Trace.closings, List.count_eq_zero]
  cases move with
  | idle | executed => exact List.not_mem_nil
  | closed | executedAndClosed => exact fun closed => apart (List.mem_singleton.mp closed)

theorem silent : traffic.Silent := by
  cases move <;> simp [Trace.Silent]

/-- Only a statement that is open hands its text over. -/
theorem open_of_executed {other : Nat} {sql : String} {params : List Value}
    (executed : Event.executed other sql params ∈ traffic) : other = cursor ∧ closed = false := by
  cases move <;> simp_all

theorem disconnections : traffic.disconnections = 0 := by
  cases move <;> rfl

end StatementMove

/-- Traffic that leaves no cursor behind: it opens the given cursor and closes it once, or neither,
and hands nothing to any other or after the closing. -/
structure Passing (cursor : Nat) (traffic : Trace) : Prop where
  opened : traffic.openedCursors = [] ∨ traffic.openedCursors = [cursor]
  released : traffic.releasedCursors = traffic.openedCursors
  silent : traffic.Silent
  executed : ∀ other sql params, Event.executed other sql params ∈ traffic → other = cursor

theorem Passing.distinct_fresh {before traffic : Trace}
    (passing : Passing before.openedCursors.length traffic) (numbered : before.Numbered) :
    traffic.openedCursors.Nodup ∧
      ∀ cursor ∈ traffic.openedCursors, cursor ∉ before.openedCursors := by
  rcases passing.opened with none_ | next
  · rw [none_]
    exact ⟨List.nodup_nil, by simp⟩
  · rw [next]
    refine ⟨List.pairwise_singleton _ _, fun cursor member => ?_⟩
    rw [List.mem_singleton.mp member]
    exact numbered.fresh

theorem Visit.disconnections {cursor : Nat} {traffic : Trace} (visit : Visit cursor traffic) :
    traffic.disconnections = 0 := by
  cases visit <;> rfl

theorem Visit.passing {cursor : Nat} {traffic : Trace} (visit : Visit cursor traffic) :
    Passing cursor traffic := by
  constructor
  · cases visit with
    | refused | denied => exact .inl rfl
    | unused | used => exact .inr rfl
  · cases visit <;> rfl
  · cases visit <;> simp [Trace.Silent]
  · intro other sql params executed
    cases visit <;> simp_all

theorem Database.farewell_passing (db : Database) (cursor : Nat) : Passing cursor db.farewell := by
  rcases db.farewell_cases with same | same <;> rw [same]
  · exact Visit.refused.passing
  · constructor
    · exact .inl rfl
    · rfl
    · exact List.pairwise_singleton _ _
    · intro other sql params executed
      cases List.mem_singleton.mp executed

/-- A member of a list after a replacement is the new one, or it is another than the one replaced.
-/
theorem mem_set_apart {α β : Type} {view : α → β} {items : List α} {index : Nat} {old new item : α}
    (distinct : (items.map view).Nodup) (held : items[index]? = some old)
    (member : item ∈ items.set index new) : item = new ∨ (item ∈ items ∧ view item ≠ view old) := by
  induction items generalizing index with
  | nil => cases member
  | cons first rest ih =>
    obtain ⟨absent, distinct⟩ := List.nodup_cons.mp distinct
    cases index with
    | zero =>
      obtain rfl := Option.some.inj held
      rcases List.mem_cons.mp member with rfl | later
      · exact .inl rfl
      · refine .inr ⟨List.mem_cons_of_mem _ later, fun same => absent ?_⟩
        exact List.mem_map.mpr ⟨item, later, same⟩
    | succ index =>
      rcases List.mem_cons.mp member with rfl | later
      · refine .inr ⟨List.mem_cons_self, fun same => absent ?_⟩
        exact List.mem_map.mpr ⟨old, List.mem_of_getElem? held, same.symm⟩
      · rcases ih distinct held later with same | ⟨among, other⟩
        · exact .inl same
        · exact .inr ⟨List.mem_cons_of_mem _ among, other⟩

namespace Session

def ownCursors (s : Session) : List Nat := s.statements.map fun st => st.cursor.index

/-- Every cursor is accounted for: a statement's own cursor was closed as often as the statement,
and any other that was opened was closed once. No cursor was handed a text after it was closed. -/
structure CursorsAccounted (s : Session) : Prop where
  numbered : s.trace.Numbered
  unopened : ∀ cursor, cursor ∉ s.trace.openedCursors → s.trace.closings cursor = 0
  held : ∀ cursor ∈ s.ownCursors, cursor ∈ s.trace.openedCursors
  apart : s.ownCursors.Nodup
  own : ∀ st ∈ s.statements, s.trace.closings st.cursor.index = if st.closed then 1 else 0
  others : ∀ cursor ∈ s.trace.openedCursors, cursor ∉ s.ownCursors → s.trace.closings cursor = 1
  silent : s.trace.Silent

namespace CursorsAccounted

section Step

variable {s now : Session} {events : Trace} (accounted : CursorsAccounted s)
  (numbered : now.trace.Numbered) (trace : now.trace = s.trace ++ events)

include accounted numbered trace

/-- A cursor that is opened in passing is closed as well. -/
theorem pass (passing : Passing s.trace.openedCursors.length events.traffic)
    (statements : now.statements = s.statements) : CursorsAccounted now := by
  have own : now.ownCursors = s.ownCursors := by rw [ownCursors, statements, ownCursors]
  have opened : now.trace.openedCursors =
      s.trace.openedCursors ++ events.traffic.openedCursors := by
    rw [trace, Trace.openedCursors_append, events.openedCursors_traffic]
  have closings : ∀ cursor, now.trace.closings cursor =
      s.trace.closings cursor + events.traffic.openedCursors.count cursor := by
    intro cursor
    rw [trace, Trace.closings_append, ← events.closings_traffic, ← passing.released]
    rfl
  have silent : now.trace.Silent := by
    rw [trace]
    refine accounted.silent.append passing.silent ?_
    intro cursor sql params executed
    rw [passing.executed cursor sql params executed]
    exact accounted.unopened _ accounted.numbered.fresh
  obtain ⟨distinct, fresh⟩ := passing.distinct_fresh accounted.numbered
  generalize events.traffic.openedCursors = more at opened closings distinct fresh
  have quiet : ∀ cursor ∈ s.trace.openedCursors, more.count cursor = 0 := fun cursor old =>
    List.count_eq_zero.mpr fun new => fresh cursor new old
  refine ⟨numbered, ?_, ?_, own ▸ accounted.apart, ?_, ?_, silent⟩
  · intro cursor unopened
    rw [opened, List.mem_append, not_or] at unopened
    rw [closings, accounted.unopened cursor unopened.1, List.count_eq_zero.mpr unopened.2]
  · intro cursor mine
    rw [own] at mine
    rw [opened]
    exact List.mem_append_left _ (accounted.held cursor mine)
  · intro st member
    rw [statements] at member
    have old := accounted.held _ (List.mem_map_of_mem member)
    rw [closings, quiet _ old, accounted.own st member, Nat.add_zero]
  · intro cursor member other
    rw [own] at other
    rw [opened] at member
    rw [closings]
    rcases List.mem_append.mp member with old | new
    · rw [quiet cursor old, accounted.others cursor old other]
    · rw [accounted.unopened cursor (fresh cursor new), distinct.count, if_pos new]

/-- A new statement has a cursor of its own that nothing has happened to. -/
theorem addStatement {st : Statement} (cursor : st.cursor.index = s.trace.openedCursors.length)
    (fresh : st.closed = false) (opens : events.traffic = [.opened s.trace.openedCursors.length])
    (statements : now.statements = s.statements ++ [st]) : CursorsAccounted now := by
  have new := accounted.numbered.fresh
  have own : now.ownCursors = s.ownCursors ++ [s.trace.openedCursors.length] := by
    rw [ownCursors, statements, List.map_append, ← cursor]
    rfl
  have opened : now.trace.openedCursors =
      s.trace.openedCursors ++ [s.trace.openedCursors.length] := by
    rw [trace, Trace.openedCursors_append, ← events.openedCursors_traffic, opens]
    rfl
  have closings : ∀ cursor, now.trace.closings cursor = s.trace.closings cursor := by
    intro cursor
    rw [trace, Trace.closings_append, ← events.closings_traffic, opens]
    rfl
  constructor
  · exact numbered
  · intro cursor unopened
    rw [opened, List.mem_append, not_or] at unopened
    rw [closings, accounted.unopened cursor unopened.1]
  · intro cursor mine
    rw [own] at mine
    rw [opened]
    rcases List.mem_append.mp mine with old | last
    · exact List.mem_append_left _ (accounted.held cursor old)
    · exact List.mem_append_right _ last
  · rw [own]
    refine List.nodup_append.mpr ⟨accounted.apart, List.pairwise_singleton _ _, ?_⟩
    rintro cursor old other last rfl
    rw [List.mem_singleton.mp last] at old
    exact new (accounted.held _ old)
  · intro other member
    rw [statements] at member
    rw [closings]
    rcases List.mem_append.mp member with old | last
    · exact accounted.own other old
    · rw [List.mem_singleton.mp last, cursor, accounted.unopened _ new, fresh]
      rfl
  · intro cursor member other
    rw [own, List.mem_append, not_or] at other
    rw [opened] at member
    rw [closings]
    rcases List.mem_append.mp member with old | last
    · exact accounted.others cursor old other.1
    · exact absurd last other.2
  · rw [trace]
    refine accounted.silent.append ?_ ?_
    · rw [opens]
      exact List.pairwise_singleton _ _
    · intro cursor sql params executed
      rw [opens] at executed
      cases List.mem_singleton.mp executed

/-- A statement that is used closes its own cursor at most, and only when it is closed itself. -/
theorem useStatement {index : Nat} {st next : Statement}
    (held : s.statements[index]? = some st) (cursor : next.cursor = st.cursor)
    (move : StatementMove st.cursor.index st.closed events.traffic next.closed)
    (statements : now.statements = s.statements.set index next) : CursorsAccounted now := by
  have mine : st.cursor.index ∈ s.ownCursors := List.mem_map_of_mem (List.mem_of_getElem? held)
  have own : now.ownCursors = s.ownCursors := by
    have kept : s.ownCursors[index]? = some next.cursor.index := by
      rw [ownCursors, List.getElem?_map, held, cursor]
      rfl
    rw [ownCursors, statements, List.map_set]
    exact set_of_getElem? kept
  have opened : now.trace.openedCursors = s.trace.openedCursors := by
    rw [trace, Trace.openedCursors_append, ← events.openedCursors_traffic, move.opensNone,
      List.append_nil]
  have closings : ∀ cursor, now.trace.closings cursor =
      s.trace.closings cursor + events.traffic.closings cursor := by
    intro cursor
    rw [trace, Trace.closings_append, ← events.closings_traffic]
  have apart : ∀ cursor, cursor ≠ st.cursor.index →
      now.trace.closings cursor = s.trace.closings cursor := by
    intro cursor other
    rw [closings, move.closings_other other, Nat.add_zero]
  refine ⟨numbered, ?_, ?_, own ▸ accounted.apart, ?_, ?_, ?_⟩
  · intro cursor unopened
    rw [opened] at unopened
    have other : cursor ≠ st.cursor.index := fun same => unopened (same ▸ accounted.held _ mine)
    rw [apart cursor other, accounted.unopened cursor unopened]
  · rw [own, opened]
    exact accounted.held
  · intro item member
    rw [statements] at member
    rcases mem_set_apart accounted.apart held member with rfl | ⟨among, other⟩
    · rw [cursor, closings, accounted.own st (List.mem_of_getElem? held)]
      exact move.closings
    · rw [apart _ other, accounted.own item among]
  · intro cursor member other
    rw [opened] at member
    rw [own] at other
    have elsewhere : cursor ≠ st.cursor.index := fun same => other (same ▸ mine)
    rw [apart cursor elsewhere, accounted.others cursor member other]
  · rw [trace]
    refine accounted.silent.append move.silent ?_
    intro cursor sql params executed
    obtain ⟨rfl, open_⟩ := move.open_of_executed executed
    rw [accounted.own st (List.mem_of_getElem? held), open_]
    rfl

end Step

theorem perform {s : Session} (accounted : CursorsAccounted s) (step : Step) :
    CursorsAccounted (s.perform step).2 := by
  have numbered := accounted.numbered.next (s.perform_opensNext step)
  obtain ⟨_, events, trace, move⟩ := s.perform_moves step
  generalize (s.perform step).2 = now at numbered trace move
  generalize told : events.traffic = traffic at move
  cases move with
  | visit visit _ statements =>
    exact accounted.pass numbered trace (told ▸ visit.passing) statements
  | addDatabase _ _ _ _ statements =>
    exact accounted.pass numbered trace (told ▸ Visit.refused.passing) statements
  | addStatement _ cursor fresh _ statements =>
    exact accounted.addStatement numbered trace cursor fresh told statements
  | useStatement held cursor move _ statements =>
    exact accounted.useStatement numbered trace held cursor (told ▸ move) statements
  | @shutDatabase _ db _ _ statements =>
    exact accounted.pass numbered trace (told ▸ db.farewell_passing _) statements

/-- No cursor is closed twice. -/
theorem closings_le_one {s : Session} (accounted : CursorsAccounted s) (cursor : Nat) :
    s.trace.closings cursor ≤ 1 := by
  by_cases opened : cursor ∈ s.trace.openedCursors
  · by_cases mine : cursor ∈ s.ownCursors
    · obtain ⟨st, member, rfl⟩ := List.mem_map.mp mine
      rw [accounted.own st member]
      split <;> omega
    · exact Nat.le_of_eq (accounted.others cursor opened mine)
  · exact Nat.le_trans (Nat.le_of_eq (accounted.unopened cursor opened)) (Nat.zero_le 1)

/-- Nothing happens any more to a cursor that was closed. -/
theorem rests {s now : Session} {events : Trace} (accounted : CursorsAccounted now)
    (trace : now.trace = s.trace ++ events) {cursor : Nat}
    (opened : cursor ∈ s.trace.openedCursors) (closed : s.trace.closings cursor = 1) :
    ∀ event ∈ events, event.cursor? ≠ some cursor := by
  have released := s.trace.closings_ne_zero.mp (closed ▸ Nat.one_ne_zero)
  intro event member about
  cases event with
  | opened other =>
    obtain rfl := Option.some.inj about
    have distinct : now.trace.openedCursors.Nodup := by
      rw [accounted.numbered]
      exact List.nodup_range
    rw [trace, Trace.openedCursors_append, List.nodup_append] at distinct
    exact distinct.2.2 other opened other ((Trace.mem_openedCursors events).mpr member) rfl
  | executed other sql params =>
    obtain rfl := Option.some.inj about
    have silent := accounted.silent
    rw [trace] at silent
    exact (List.pairwise_append.mp silent).2.2 _ released _ member other sql params rfl rfl
  | released other =>
    obtain rfl := Option.some.inj about
    have again := events.closings_ne_zero.mpr member
    have once := accounted.closings_le_one other
    rw [trace, Trace.closings_append] at once
    omega
  | denied | disconnected | logged => cases about

end CursorsAccounted

/-- What every step preserves holds after a run of steps. -/
theorem run_preserves (holds : Session → Prop)
    (preserved : ∀ (s : Session) (step : Step), holds s → holds (s.perform step).2) {s : Session}
    (initially : holds s) (steps : List Step) : holds (s.run steps).2 := by
  induction steps generalizing s with
  | nil => exact initially
  | cons step rest ih => exact ih (preserved s step initially)

theorem run_trace (s : Session) (steps : List Step) :
    ∃ events, (s.run steps).2.trace = s.trace ++ events := by
  refine run_preserves (fun now => ∃ events, now.trace = s.trace ++ events) ?_
    ⟨[], (List.append_nil _).symm⟩ steps
  rintro now step ⟨events, trace⟩
  obtain ⟨_, more, later, _⟩ := now.perform_moves step
  exact ⟨events ++ more, by rw [later, trace, List.append_assoc]⟩

/-- A session starts with nothing but its connection, to which it only introduces the dialect. -/
theorem start_blank (loaded : LoadedModules) (connection : Option Connection) :
    let s := start loaded connection
    s.databases = [] ∧ s.statements = [] ∧ s.trace = [] ∧
      s.connection.isSome = connection.isSome ∧
      s.connection.any Connection.closable = connection.any Connection.closable := by
  cases connection with
  | none => exact ⟨rfl, rfl, rfl, rfl, rfl⟩
  | some c =>
    rw [start]
    cases dialect : c.dialect with
    | none => exact ⟨rfl, rfl, rfl, rfl, rfl⟩
    | some d =>
      simp only [introduce]
      split <;> exact ⟨rfl, rfl, rfl, rfl, rfl⟩

theorem start_cursorsAccounted (loaded : LoadedModules) (connection : Option Connection) :
    CursorsAccounted (start loaded connection) := by
  obtain ⟨_, statements, trace, _, _⟩ := start_blank loaded connection
  generalize start loaded connection = s at statements trace
  have own : s.ownCursors = [] := by
    rw [ownCursors, statements]
    rfl
  constructor
  · rw [trace]
    rfl
  · intro cursor _
    rw [trace]
    rfl
  · rw [own]
    exact fun cursor mine => absurd mine List.not_mem_nil
  · rw [own]
    exact List.nodup_nil
  · rw [statements]
    exact fun st member => absurd member List.not_mem_nil
  · rw [trace]
    exact fun cursor opened => absurd opened List.not_mem_nil
  · rw [trace]
    exact List.Pairwise.nil

end Session

end SqlTemplate
