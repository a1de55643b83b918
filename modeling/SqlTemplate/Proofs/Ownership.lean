import SqlTemplate.Proofs.StepEvents

/-!
# Statements own their cursors

No two statements of a session have a cursor in common, and what happens to a cursor comes from the
statement that owns it. So a cursor is only ever handed the text of its statement, and a step that
is not on a statement leaves this statement and its cursor alone. Steps on different statements can
change places: each of them, and all that comes later, is answered as before, and every statement
and every cursor is left as before. -/

namespace SqlTemplate

namespace Trace

def about (trace : Trace) (cursor : Nat) : Trace :=
  trace.filter fun event => event.cursor? = some cursor

def Concerns (events : Trace) (cursor : Nat) : Prop :=
  ∀ event ∈ events, ∀ other, event.cursor? = some other → other = cursor

theorem about_append (first second : Trace) (cursor : Nat) :
    about (first ++ second) cursor = first.about cursor ++ second.about cursor :=
  List.filter_append first second

theorem concerns_nil (cursor : Nat) : Concerns [] cursor := by simp [Concerns]

theorem Concerns.append {first second : Trace} {cursor : Nat} (concerns : first.Concerns cursor)
    (more : second.Concerns cursor) : Concerns (first ++ second) cursor :=
  List.forall_mem_append.mpr ⟨concerns, more⟩

theorem Concerns.about_other {events : Trace} {cursor other : Nat}
    (concerns : events.Concerns cursor) (apart : other ≠ cursor) : events.about other = [] := by
  refine List.filter_eq_nil_iff.mpr fun event member same => ?_
  exact apart (concerns event member other (of_decide_eq_true same))

/-- What happened to other cursors does not count. -/
theorem executionsOn_about (trace : Trace) (cursor : Nat) :
    (trace.about cursor).executionsOn cursor = trace.executionsOn cursor := by
  rw [executionsOn, about, List.foldl_filter, executionsOn]
  congr 1
  funext ran event
  cases event with
  | opened other | executed other =>
    simp only [Event.cursor?, Event.countOn, Option.some.injEq, decide_eq_true_eq]
    split <;> rfl
  | denied | released | disconnected | logged =>
    simp [Event.countOn]

end Trace

namespace Statement

variable (st : Statement)

theorem concerns_executionEvents (updates : Bool) (ran : Nat) :
    (st.executionEvents updates ran).Concerns st.cursor.index := by
  unfold executionEvents
  split
  · split <;> simp [Trace.Concerns, Event.cursor?]
  · simp [Trace.Concerns]

theorem concerns_closingEvents : st.closingEvents.Concerns st.cursor.index := by
  unfold closingEvents
  split <;> simp [Trace.Concerns, Event.cursor?]

theorem concerns_stepEvents (ran : Nat) (step : StatementStep) :
    (st.stepEvents ran step).Concerns st.cursor.index :=
  st.stepEvents_induction (motive := (Trace.Concerns · st.cursor.index)) (Trace.concerns_nil _)
    (st.concerns_executionEvents · ran) (fun _ earlier => earlier.append st.concerns_closingEvents)
    step

theorem concerns_completionEvents (assignments : List Assignment) (updates : Bool) (ran : Nat) :
    (st.completionEvents assignments updates ran).Concerns st.cursor.index := by
  refine st.completionEvents_induction (motive := (Trace.Concerns · st.cursor.index))
    (Trace.concerns_nil _) ?_ fun _ earlier => earlier.append st.concerns_closingEvents
  intro filled pass
  rw [← (st.assignAll_frame pass).1]
  exact filled.concerns_executionEvents updates ran

end Statement

/-- Whatever is executed in the events is this statement, on its cursor, with its text and its
parameters. -/
def Statement.Hands (st : Statement) (events : Trace) : Prop :=
  ∀ cursor sql params, Event.executed cursor sql params ∈ events →
    st.cursor.index = cursor ∧ st.sql = sql ∧ st.parameters = .ok params

namespace Statement

variable (st : Statement)

theorem hands_executionEvents (updates : Bool) (ran : Nat) :
    st.Hands (st.executionEvents updates ran) := by
  intro cursor sql params executed
  unfold executionEvents at executed
  split at executed
  · next values _ filled =>
    have same : cursor = st.cursor.index ∧ sql = st.sql ∧ params = values := by
      split at executed <;> simpa using executed
    obtain ⟨rfl, rfl, rfl⟩ := same
    exact ⟨rfl, rfl, filled⟩
  · cases executed

theorem not_executed_closingEvents {cursor : Nat} {sql : String} {params : List Value} :
    Event.executed cursor sql params ∉ st.closingEvents := by
  unfold closingEvents
  split <;> simp

theorem hands_stepEvents (ran : Nat) (step : StatementStep) : st.Hands (st.stepEvents ran step) :=
  st.stepEvents_induction (fun _ _ _ executed => absurd executed List.not_mem_nil)
    (st.hands_executionEvents · ran)
    (fun _ hands _ _ _ executed => (List.mem_append.mp executed).elim (hands _ _ _)
      fun last => absurd last st.not_executed_closingEvents) step

/-- A call executes the statement that its values filled. -/
theorem executed_of_mem_completionEvents {assignments : List Assignment} {updates : Bool}
    {ran cursor : Nat} {sql : String} {params : List Value}
    (executed : Event.executed cursor sql params ∈ st.completionEvents assignments updates ran) :
    ∃ filled, st.assignAll assignments = (.ok (), filled) ∧ filled.cursor.index = cursor ∧
      filled.sql = sql ∧ filled.parameters = .ok params := by
  rcases List.mem_append.mp executed with body | last
  · split at body
    · next filled pass => exact ⟨filled, pass, filled.hands_executionEvents updates ran _ _ _ body⟩
    · cases body
  · exact absurd last st.not_executed_closingEvents

end Statement

namespace Preparation

variable {connection : Option Connection} {past : Trace} {outcome : Except Error Statement}
  {events : Trace} (prepared : Preparation connection past outcome events)

include prepared

theorem concerns : events.Concerns past.openedCursors.length := by
  cases prepared <;> simp [Trace.Concerns, Event.cursor?]

theorem not_executed {other : Nat} {sql : String} {params : List Value} :
    Event.executed other sql params ∉ events := by
  cases prepared <;> simp

/-- The statement gets the cursor that is opened, and its text is the one the log is told. -/
theorem cursor_eq {st : Statement} (succeeds : outcome = .ok st) :
    st.cursor.index = past.openedCursors.length := by
  cases prepared with
  | refused | unopened => cases succeeds
  | opened _ _ own =>
    obtain rfl := Except.ok.inj succeeds
    rw [own]
    rfl

end Preparation

/-- Records of the log are about no cursor. -/
theorem Trace.concerns_logged (records : List LogRecord) (cursor : Nat) :
    Concerns (records.map .logged) cursor := by
  intro event member other about
  obtain ⟨record, _, rfl⟩ := List.mem_map.mp member
  cases about

namespace Session

/-- The statement that a step executes, if it executes one: a statement of the session as it stands,
or the statement that a call prepared for itself, its slots filled by the call. -/
inductive Uses (s : Session) (step : Step) (st : Statement) : Prop where
  | kept {index : Nat} {action : StatementStep} (on : step = .onStatement index action)
    (held : s.statements[index]? = some st)
  | own {prepare : Exchange Statement} {fresh : Statement}
    (made : s.preparation? step = some prepare) (isCall : step.isCall = true)
    (ran : (prepare.after s.trace).1 = .ok fresh)
    (bound : fresh.assignAll step.assignments = (.ok (), st))

namespace Effect

variable {s : Session} {step : Step} {reply : Except Error Reply} {statements : List Statement}
  {events : Trace} (effect : s.Effect step reply statements events)

include effect

/-- All events of a step are about the cursor of the statement that it is on, or about the cursor
that is opened next. -/
theorem concerns : ∃ cursor, events.Concerns cursor ∧ (cursor = s.trace.openedCursors.length ∨
    ∃ index action st, step = .onStatement index action ∧ s.statements[index]? = some st ∧
      cursor = st.cursor.index) := by
  cases effect with
  | quiet _ told =>
    refine ⟨_, ?_, .inl rfl⟩
    rcases told with rfl | rfl <;> simp [Trace.Concerns, Event.cursor?]
  | used on held => exact ⟨_, Statement.concerns_stepEvents _ _ _, .inr ⟨_, _, _, on, held, rfl⟩⟩
  | unprepared _ _ prepared | kept _ _ _ prepared => exact ⟨_, prepared.concerns, .inl rfl⟩
  | @called _ st _ _ _ _ _ prepared =>
    have completion := st.concerns_completionEvents step.assignments step.updates 0
    rw [prepared.cursor_eq rfl] at completion
    exact ⟨_, prepared.concerns.append (completion.append (Trace.concerns_logged _ _)), .inl rfl⟩

/-- Whatever a step executes is the statement that it uses, one of the session or one whose cursor
the step opened. -/
theorem executed {cursor : Nat} {sql : String} {params : List Value}
    (executed : Event.executed cursor sql params ∈ events) : ∃ st, s.Uses step st ∧
      (st ∈ s.statements ∨ Event.opened cursor ∈ events) ∧
      st.cursor.index = cursor ∧ st.sql = sql ∧ st.parameters = .ok params := by
  cases effect with
  | quiet _ told => rcases told with rfl | rfl <;> simp at executed
  | @used _ _ _ st _ on held =>
    have member := List.mem_of_getElem? held
    exact ⟨st, .kept on held, .inl member, st.hands_stepEvents _ _ _ _ _ executed⟩
  | unprepared _ _ prepared | kept _ _ _ prepared => exact absurd executed prepared.not_executed
  | @called _ st _ _ made isCall ran prepared =>
    rw [List.mem_append, List.mem_append] at executed
    rcases executed with before | body | after
    · exact absurd before prepared.not_executed
    · obtain ⟨filled, bound, shared, handed⟩ := st.executed_of_mem_completionEvents body
      refine ⟨filled, .own made isCall (congrArg Prod.fst ran) bound, .inr ?_, shared, handed⟩
      rw [← shared, (st.assignAll_frame bound).1]
      cases prepared with
      | opened _ _ own => simp [own, Connection.nextCursor]
    · simp at after

/-- A statement that a step is not on stays as it is. -/
theorem elsewhere {index : Nat} {st : Statement} (held : s.statements[index]? = some st)
    (apart : ∀ action, step ≠ .onStatement index action) : statements[index]? = some st := by
  cases effect with
  | quiet | unprepared | called => exact held
  | @used _ other action _ _ on =>
    have different : other ≠ index := by
      rintro rfl
      exact apart action on
    rw [List.getElem?_set_ne different]
    exact held
  | kept =>
    obtain ⟨bound, _⟩ := List.getElem?_eq_some_iff.mp held
    rw [List.getElem?_append_left bound]
    exact held

/-- A statement after a step is one from before it, perhaps used, or the one that the step
prepared. -/
theorem origin {st : Statement} (member : st ∈ statements) :
    (∃ old ∈ s.statements, st.cursor = old.cursor ∧ st.sql = old.sql) ∨
      Preparation s.connection s.trace (.ok st) events := by
  cases effect with
  | quiet | unprepared | called => exact .inl ⟨st, member, rfl, rfl⟩
  | used _ held cursor text =>
    rcases List.mem_or_eq_of_mem_set member with old | rfl
    · exact .inl ⟨st, old, rfl, rfl⟩
    · exact .inl ⟨_, List.mem_of_getElem? held, cursor, text⟩
  | kept _ _ _ prepared =>
    rcases List.mem_append.mp member with old | last
    · exact .inl ⟨st, old, rfl, rfl⟩
    · obtain rfl := List.mem_singleton.mp last
      exact .inr prepared

end Effect

/-- The cursor of a statement that is used is the cursor of no other statement. -/
theorem Uses.unique {s : Session} {step : Step} {st other : Statement} (uses : s.Uses step st)
    (databases : s.DatabasesAccounted) (cursors : s.CursorsAccounted)
    (member : other ∈ s.statements) (shared : other.cursor.index = st.cursor.index) :
    other = st := by
  cases uses with
  | kept _ held =>
    rw [← set_of_getElem? held] at member
    rcases mem_set_apart cursors.apart held member with same | ⟨_, different⟩
    · exact same
    · exact absurd shared different
  | @own prepare fresh made _ ran bound =>
    obtain ⟨outcome, events, _, whole, prepared⟩ :=
      prepared_cases (databases.preparesOn_preparation made)
    rw [whole] at ran
    rw [show outcome = .ok fresh from ran] at prepared
    have held := cursors.held _ (List.mem_map_of_mem member)
    rw [shared, (fresh.assignAll_frame bound).1, prepared.cursor_eq rfl] at held
    exact absurd held cursors.numbered.fresh

/-- Only cursors that were opened were handed a text, and the cursor of a statement no other text
than that of the statement. -/
structure TextsOwned (s : Session) : Prop where
  reached : ∀ cursor sql params, Event.executed cursor sql params ∈ s.trace →
    cursor ∈ s.trace.openedCursors
  texts : ∀ st ∈ s.statements, ∀ sql params,
    Event.executed st.cursor.index sql params ∈ s.trace → st.sql = sql

theorem TextsOwned.perform {s : Session} (owned : s.TextsOwned) (databases : s.DatabasesAccounted)
    (cursors : s.CursorsAccounted) (step : Step) : TextsOwned (s.perform step).2 := by
  obtain ⟨reply, next, events, yields, effect⟩ := perform_hasEffect databases step
  rw [yields.performed]
  constructor
  · intro cursor sql params executed
    change cursor ∈ Trace.openedCursors (s.trace ++ events)
    rw [Trace.openedCursors_append, List.mem_append]
    rcases List.mem_append.mp executed with before | now
    · exact .inl (owned.reached _ _ _ before)
    · obtain ⟨used, _, old | new, rfl, _⟩ := effect.executed now
      · exact .inl (cursors.held _ (List.mem_map_of_mem old))
      · exact .inr ((Trace.mem_openedCursors events).mpr new)
  · intro st member sql params executed
    rcases effect.origin member with ⟨old, among, cursor, text⟩ | prepared
    · rw [cursor] at executed
      rw [text]
      rcases List.mem_append.mp executed with before | now
      · exact owned.texts old among sql params before
      · obtain ⟨used, uses, _, shared, same, _⟩ := effect.executed now
        rw [uses.unique databases cursors among shared.symm]
        exact same
    · rcases List.mem_append.mp executed with before | now
      · rw [prepared.cursor_eq rfl] at before
        exact absurd (owned.reached _ _ _ before) cursors.numbered.fresh
      · exact absurd now prepared.not_executed

/-- The answer to a step on a statement, which depends on this statement and its cursor only. -/
def answerOn (s : Session) (index : Nat) (action : StatementStep) : Except Error Reply :=
  match s.statements[index]? with
  | some st => ((st.perform action).run s.trace).1.1
  | none => .error (.unknownHandle index)

def eventsOn (s : Session) (index : Nat) (action : StatementStep) : Trace :=
  match s.statements[index]? with
  | some st => st.stepEvents (s.trace.executionsOn st.cursor.index) action
  | none => []

/-- A step on a statement changes this statement, and adds to the trace. -/
theorem perform_onStatement (s : Session) (index : Nat) (action : StatementStep) :
    s.perform (.onStatement index action) = (s.answerOn index action, { s with
      statements := s.statements.modify index fun st => ((st.perform action).run []).1.2
      trace := s.trace ++ s.eventsOn index action }) := by
  unfold answerOn eventsOn
  cases held : s.statements[index]? with
  | none =>
    have missing : s.statement? index = .error (.unknownHandle index) := by rw [statement?, held]
    have beyond := List.getElem?_eq_none_iff.mp held
    rw [perform, missing, List.modify_eq_self beyond, List.append_nil]
    rfl
  | some st =>
    have found : s.statement? index = .ok st := by rw [statement?, held]
    have set : s.statements.modify index (fun st => ((st.perform action).run []).1.2) =
        s.statements.set index ((st.perform action).run s.trace).1.2 := by
      have : Inhabited Statement := ⟨st⟩
      rw [st.perform_statement action s.trace, ← st.perform_statement action [],
        List.modify_eq_set, held]
      rfl
    obtain ⟨ended, runs⟩ := st.run_perform action (s.trace.executionsOn st.cursor.index)
    have ran : (st.perform action).run s.trace = _ := runs s.trace rfl
    rw [perform, found, withPart, set, ran]
    simp only [ran]

/-- The sessions differ in the order of what happened to different cursors, and in nothing else. -/
structure Alike (s t : Session) : Prop where
  same : t = { s with trace := t.trace }
  opened : t.trace.openedCursors = s.trace.openedCursors
  asked : t.trace.cursorCalls = s.trace.cursorCalls
  disconnected : t.trace.disconnections = s.trace.disconnections
  about : ∀ cursor, t.trace.about cursor = s.trace.about cursor

/-- Traces of sessions that are alike have equal counts. -/
theorem Alike.matches {s t : Session} (alike : Alike s t) : s.trace.Matches t.trace := by
  refine ⟨congrArg List.length alike.opened, alike.asked, alike.disconnected, fun cursor => ?_⟩
  rw [Trace.Ran, ← Trace.executionsOn_about, alike.about, Trace.executionsOn_about]

/-- A step is answered the same in sessions that are alike, and leaves them alike. -/
theorem Alike.perform {s t : Session} (alike : Alike s t) (databases : s.DatabasesAccounted)
    (step : Step) :
    (t.perform step).1 = (s.perform step).1 ∧ Alike (s.perform step).2 (t.perform step).2 := by
  obtain ⟨reply, next, events, yields, _⟩ := perform_hasEffect databases step
  have second := yields t.trace alike.matches
  rw [← alike.same] at second
  rw [yields.performed, second]
  refine ⟨rfl, rfl, ?_, ?_, ?_, fun cursor => ?_⟩
  · change Trace.openedCursors (t.trace ++ events) = Trace.openedCursors (s.trace ++ events)
    rw [Trace.openedCursors_append, Trace.openedCursors_append, alike.opened]
  · change Trace.cursorCalls (t.trace ++ events) = Trace.cursorCalls (s.trace ++ events)
    rw [Trace.cursorCalls_append, Trace.cursorCalls_append, alike.asked]
  · change Trace.disconnections (t.trace ++ events) = Trace.disconnections (s.trace ++ events)
    rw [Trace.disconnections_append, Trace.disconnections_append, alike.disconnected]
  · change Trace.about (t.trace ++ events) cursor = Trace.about (s.trace ++ events) cursor
    rw [Trace.about_append, Trace.about_append, alike.about]

theorem Alike.run {s t : Session} (alike : Alike s t) (databases : s.DatabasesAccounted)
    (steps : List Step) :
    (t.run steps).1 = (s.run steps).1 ∧ Alike (s.run steps).2 (t.run steps).2 := by
  induction steps generalizing s t with
  | nil => exact ⟨rfl, alike⟩
  | cons step rest ih =>
    obtain ⟨reply, next⟩ := alike.perform databases step
    obtain ⟨replies, last⟩ := ih next (databases.perform step)
    refine ⟨?_, last⟩
    change (t.perform step).1 :: ((t.perform step).2.run rest).1 =
      (s.perform step).1 :: ((s.perform step).2.run rest).1
    rw [reply, replies]

theorem concerns_eventsOn {s : Session} {index : Nat} {st : Statement}
    (held : s.statements[index]? = some st) (action : StatementStep) :
    (s.eventsOn index action).Concerns st.cursor.index := by
  rw [eventsOn, held]
  exact st.concerns_stepEvents _ action

theorem plain_eventsOn (s : Session) (index : Nat) (action : StatementStep) :
    (s.eventsOn index action).Plain := by
  unfold eventsOn
  cases s.statements[index]? with
  | none => exact Trace.plain_nil
  | some st => exact st.plain_stepEvents _ action

/-- Different statements have different cursors. -/
theorem CursorsAccounted.cursor_ne {s : Session} (cursors : s.CursorsAccounted) {i j : Nat}
    (apart : i ≠ j) {first second : Statement} (heldFirst : s.statements[i]? = some first)
    (heldSecond : s.statements[j]? = some second) : first.cursor.index ≠ second.cursor.index := by
  intro shared
  have bound : i < s.ownCursors.length := by
    rw [ownCursors, List.length_map]
    exact (List.getElem?_eq_some_iff.mp heldFirst).1
  have equal : s.ownCursors[i]? = s.ownCursors[j]? := by
    simp [ownCursors, heldFirst, heldSecond, shared]
  exact apart ((List.getElem?_inj bound cursors.apart).mp equal)

/-- Nothing happens to the cursor of a statement in a step on another one. -/
theorem about_eventsOn_other {s : Session} (cursors : s.CursorsAccounted) {i j : Nat}
    (apart : i ≠ j) (a : StatementStep) {st : Statement} (held : s.statements[j]? = some st) :
    (s.eventsOn i a).about st.cursor.index = [] := by
  cases found : s.statements[i]? with
  | none => simp [eventsOn, found, Trace.about]
  | some other =>
    exact (concerns_eventsOn found a).about_other (cursors.cursor_ne apart found held).symm

/-- What happens to a cursor does not depend on the order of steps on different statements. -/
theorem about_eventsOn_comm {s : Session} (cursors : s.CursorsAccounted) {i j : Nat} (apart : i ≠ j)
    (a b : StatementStep) (cursor : Nat) :
    Trace.about (s.eventsOn i a ++ s.eventsOn j b) cursor =
      Trace.about (s.eventsOn j b ++ s.eventsOn i a) cursor := by
  rw [Trace.about_append, Trace.about_append]
  cases held : s.statements[i]? with
  | none => simp [eventsOn, held, Trace.about]
  | some first =>
    by_cases mine : cursor = first.cursor.index
    · rw [mine, about_eventsOn_other cursors apart.symm b held, List.append_nil, List.nil_append]
    · rw [(concerns_eventsOn held a).about_other mine, List.append_nil, List.nil_append]

/-- A step on a statement is answered, and adds events, as before any step on another one. -/
theorem onStatement_after {s : Session} (cursors : s.CursorsAccounted) {i j : Nat} (apart : i ≠ j)
    (a b : StatementStep) :
    let next := (s.perform (.onStatement i a)).2
    next.answerOn j b = s.answerOn j b ∧ next.eventsOn j b = s.eventsOn j b := by
  intro next
  have performed : next = { s with
      statements := s.statements.modify i fun st => ((st.perform a).run []).1.2
      trace := s.trace ++ s.eventsOn i a } := congrArg Prod.snd (s.perform_onStatement i a)
  have stays : next.statements[j]? = s.statements[j]? := by
    rw [performed]
    exact List.getElem?_modify_ne _ _ apart
  have trace : next.trace = s.trace ++ s.eventsOn i a := by rw [performed]
  rw [answerOn, answerOn, eventsOn, eventsOn, stays, trace]
  cases held : s.statements[j]? with
  | none => exact ⟨rfl, rfl⟩
  | some st =>
    have rests := about_eventsOn_other cursors apart a held
    have count : Trace.executionsOn (s.trace ++ s.eventsOn i a) st.cursor.index =
        s.trace.executionsOn st.cursor.index := by
      rw [← Trace.executionsOn_about, Trace.about_append, rests, List.append_nil,
        Trace.executionsOn_about]
    obtain ⟨ended, runs⟩ := st.run_perform b (s.trace.executionsOn st.cursor.index)
    simp only [runs _ count, runs s.trace rfl, count]
    exact ⟨trivial, trivial⟩

/-- Steps on different statements can change places. -/
theorem perform_comm {s : Session} (cursors : s.CursorsAccounted) {i j : Nat} (apart : i ≠ j)
    (a b : StatementStep) :
    let first := s.perform (.onStatement i a)
    let second := s.perform (.onStatement j b)
    (first.2.perform (.onStatement j b)).1 = second.1 ∧
      (second.2.perform (.onStatement i a)).1 = first.1 ∧
      Alike (first.2.perform (.onStatement j b)).2 (second.2.perform (.onStatement i a)).2 := by
  intro first second
  obtain ⟨answerB, eventsB⟩ := onStatement_after cursors apart a b
  obtain ⟨answerA, eventsA⟩ := onStatement_after cursors apart.symm b a
  rw [perform_onStatement first.2, perform_onStatement second.2, answerA, answerB, eventsA, eventsB]
  have firstly : first = _ := s.perform_onStatement i a
  have secondly : second = _ := s.perform_onStatement j b
  rw [firstly, secondly]
  refine ⟨rfl, rfl, ?_, ?_, ?_, ?_, fun cursor => ?_⟩
  · simp only [List.modify_modify_ne _ _ _ apart]
  · simp only [Trace.openedCursors_append, (plain_eventsOn _ _ _).unopened, List.append_nil]
  · simp only [Trace.cursorCalls_append, (plain_eventsOn _ _ _).unasked]
  · simp only [Trace.disconnections_append, Nat.add_right_comm]
  · simp only [List.append_assoc]
    rw [Trace.about_append, about_eventsOn_comm cursors apart.symm, ← Trace.about_append]

/-- After steps on different statements that changed places, all goes on as before. -/
theorem run_comm {s : Session} (databases : s.DatabasesAccounted) (cursors : s.CursorsAccounted)
    {i j : Nat} (apart : i ≠ j) (a b : StatementStep) (later : List Step) :
    let one := s.run (.onStatement i a :: .onStatement j b :: later)
    let other := s.run (.onStatement j b :: .onStatement i a :: later)
    (∃ first second rest, one.1 = first :: second :: rest ∧ other.1 = second :: first :: rest) ∧
      Alike one.2 other.2 := by
  intro one other
  obtain ⟨second, first, alike⟩ := perform_comm cursors apart a b
  have accounted := (databases.perform (.onStatement i a)).perform (.onStatement j b)
  obtain ⟨replies, last⟩ := alike.run accounted later
  have runs : ∀ x y : Step, (s.run (x :: y :: later)).1 =
      (s.perform x).1 :: ((s.perform x).2.perform y).1 ::
        (((s.perform x).2.perform y).2.run later).1 := fun _ _ => rfl
  have swapped : other.1 = _ := runs _ _
  rw [first, replies] at swapped
  have ran : one.1 = _ := runs _ _
  rw [second] at ran
  exact ⟨⟨_, _, _, ran, swapped⟩, last⟩

/-- Nothing happens to a statement that a step is not on, nor to its cursor. -/
theorem Effect.apart {s : Session} {step : Step} {reply : Except Error Reply}
    {statements : List Statement} {events : Trace} (effect : s.Effect step reply statements events)
    (cursors : s.CursorsAccounted) {index : Nat} {st : Statement}
    (held : s.statements[index]? = some st) (apart : ∀ action, step ≠ .onStatement index action) :
    ∀ event ∈ events, event.cursor? ≠ some st.cursor.index := by
  intro event member about
  obtain ⟨cursor, concerns, whose⟩ := effect.concerns
  have mine := concerns event member _ about
  rcases whose with next | ⟨other, action, second, on, heldOther, owner⟩
  · have opened := cursors.held _ (List.mem_map_of_mem (List.mem_of_getElem? held))
    rw [mine, next] at opened
    exact cursors.numbered.fresh opened
  · have different : index ≠ other := by
      rintro rfl
      exact apart action on
    exact cursors.cursor_ne different held heldOther (mine.trans owner)

theorem start_textsOwned (loaded : LoadedModules) (connection : Option Connection) :
    TextsOwned (start loaded connection) := by
  obtain ⟨_, statements, trace, _, _⟩ := start_blank loaded connection
  constructor
  · rw [trace]
    exact fun cursor sql params executed => absurd executed List.not_mem_nil
  · rw [statements]
    exact fun st member => absurd member List.not_mem_nil

/-- What a run of a session preserves about its cursors and databases and about the texts. -/
theorem run_owned (loaded : LoadedModules) (connection : Option Connection) (steps : List Step) :
    let s := ((start loaded connection).run steps).2
    s.DatabasesAccounted ∧ s.CursorsAccounted ∧ s.TextsOwned := by
  refine run_preserves (fun s => s.DatabasesAccounted ∧ s.CursorsAccounted ∧ s.TextsOwned) ?_
    ⟨start_databasesAccounted loaded connection, start_cursorsAccounted loaded connection,
      start_textsOwned loaded connection⟩ steps
  rintro s step ⟨databases, cursors, texts⟩
  exact ⟨databases.perform step, cursors.perform step, texts.perform databases cursors step⟩

end Session

/-- After any steps of a session, every cursor was opened for one statement: no two statements have
a cursor in common, and the cursor of each of them was handed no text but that of the statement.
Whatever a step executes, it is the statement that the step is on, or the one that a call has
prepared for itself on a cursor that it opened: the cursor is handed the text of this statement and
the parameters that it has at this moment, and no other statement has this cursor. Any other
statement is left as it is, and nothing happens to its cursor. Steps on different statements can
change places: both, and all later steps, are answered as before, and in the end the session and
what happened to each cursor are the same. -/
theorem statements_do_not_interfere (loaded : LoadedModules) (connection : Option Connection)
    (steps : List Step) :
    let s := ((Session.start loaded connection).run steps).2
    (s.trace.openedCursors.Nodup ∧ s.ownCursors.Nodup ∧
      ∀ st ∈ s.statements, st.cursor.index ∈ s.trace.openedCursors) ∧
    (∀ st ∈ s.statements, ∀ sql params,
      Event.executed st.cursor.index sql params ∈ s.trace → st.sql = sql) ∧
    (∀ step : Step, ∃ events, (s.perform step).2.trace = s.trace ++ events ∧
      (∀ cursor sql params, Event.executed cursor sql params ∈ events → ∃ st, s.Uses step st ∧
        (st ∈ s.statements ∨ Event.opened cursor ∈ events) ∧
        st.cursor.index = cursor ∧ st.sql = sql ∧ st.parameters = .ok params ∧
          ∀ other ∈ s.statements, other.cursor.index = cursor → other = st) ∧
      ∀ (index : Nat) (st : Statement), s.statements[index]? = some st →
        (∀ action, step ≠ .onStatement index action) →
          (s.perform step).2.statements[index]? = some st ∧
            ∀ event ∈ events, event.cursor? ≠ some st.cursor.index) ∧
    ∀ (i j : Nat) (a b : StatementStep) (later : List Step), i ≠ j →
      let one := s.run (.onStatement i a :: .onStatement j b :: later)
      let other := s.run (.onStatement j b :: .onStatement i a :: later)
      (∃ first second rest, one.1 = first :: second :: rest ∧ other.1 = second :: first :: rest) ∧
        other.2 = { one.2 with trace := other.2.trace } ∧
          ∀ cursor, other.2.trace.about cursor = one.2.trace.about cursor := by
  intro s
  obtain ⟨databases, cursors, texts⟩ := Session.run_owned loaded connection steps
  refine ⟨⟨?_, cursors.apart, fun st member => cursors.held _ (List.mem_map_of_mem member)⟩,
    texts.texts, fun step => ?_, fun i j a b later apart => ?_⟩
  · rw [cursors.numbered]
    exact List.nodup_range
  · obtain ⟨reply, next, events, yields, effect⟩ := Session.perform_hasEffect databases step
    rw [yields.performed]
    refine ⟨events, rfl, fun cursor sql params executed => ?_, fun index st held apart => ?_⟩
    · obtain ⟨st, uses, whence, shared, text, filled⟩ := effect.executed executed
      refine ⟨st, uses, whence, shared, text, filled, fun other member same => ?_⟩
      exact uses.unique databases cursors member (same.trans shared.symm)
    · exact ⟨effect.elsewhere held apart, effect.apart cursors held apart⟩
  · obtain ⟨replies, alike⟩ := Session.run_comm databases cursors apart a b later
    exact ⟨replies, alike.same, alike.about⟩

/-- Filling one statement and a failing execution of another change places. -/
theorem filling_and_failing_swap :
    let locked : CursorScript :=
      { executeFault := fun ran => if ran = 0 then some ⟨.operational, "locked"⟩ else none }
    let connection : Connection := { module := "sqlite3", cursors := [{}, locked] }
    let s := ((Session.start [] (some connection)).run [.openDatabase .unspecified,
      .preparePositional 0 "DELETE FROM t WHERE a = ?" (some 1),
      .preparePositional 0 "DELETE FROM u" (some 0)]).2
    let one := s.run [.onStatement 0 (.set 1 (.int 7) none), .onStatement 1 .executeUpdate,
      .onStatement 0 .executeUpdate]
    let other := s.run [.onStatement 1 .executeUpdate, .onStatement 0 (.set 1 (.int 7) none),
      .onStatement 0 .executeUpdate]
    ((∃ first second rest, one.1 = first :: second :: rest ∧ other.1 = second :: first :: rest) ∧
      other.2 = { one.2 with trace := other.2.trace } ∧
        ∀ cursor, other.2.trace.about cursor = one.2.trace.about cursor) ∧
      (other.2.trace.executions.map Prod.fst) = ["DELETE FROM u", "DELETE FROM t WHERE a = ?"] := by
  intro locked connection
  refine ⟨(statements_do_not_interfere [] (some connection) [.openDatabase .unspecified,
    .preparePositional 0 "DELETE FROM t WHERE a = ?" (some 1),
    .preparePositional 0 "DELETE FROM u" (some 0)]).2.2.2 0 1 (.set 1 (.int 7) none) .executeUpdate
    [.onStatement 0 .executeUpdate] (by decide), ?_⟩
  decide +kernel

end SqlTemplate
