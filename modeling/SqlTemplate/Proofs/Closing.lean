import SqlTemplate.Proofs.CursorAccounts

/-!
# Closing is final

A statement closes its cursor when it is closed itself, and never again; a database does the same
with its connection. So the connection of a session was closed once for every closed database. What
is closed stays closed, and a closed database prepares nothing, also where it is made to serve
another dialect. -/

namespace SqlTemplate

/-- Closing a database makes one more closed, unless it was closed before. -/
theorem Database.countP_set_shut {databases : List Database} {index : Nat} {db : Database}
    (held : databases[index]? = some db) :
    (databases.set index db.shut).countP Database.closed =
      databases.countP Database.closed + if db.closed then 0 else 1 := by
  obtain ⟨bound, rfl⟩ := List.getElem?_eq_some_iff.mp held
  have counted : (if databases[index].closed then 1 else 0) ≤ databases.countP Database.closed :=
    List.boole_getElem_le_countP bound
  rw [List.countP_set bound, show databases[index].shut.closed = true from rfl, if_pos rfl]
  cases closed : databases[index].closed with
  | true =>
    rw [closed, if_pos rfl] at counted
    rw [if_pos rfl, if_pos rfl]
    omega
  | false => rfl

namespace Session

/-- A database that is open has the connection of the session and a closed one has none, and the
connection, if it can be closed, was closed once for each closed database. -/
structure DatabasesAccounted (s : Session) : Prop where
  connections : ∀ db ∈ s.databases, db.connection = if db.closed then none else s.connection
  disconnections : s.trace.disconnections =
    if s.connection.any Connection.closable then s.databases.countP Database.closed else 0

namespace DatabasesAccounted

variable {s : Session} (accounted : DatabasesAccounted s)

include accounted

/-- A database that is open takes its leave of the connection, a closed one is silent. -/
theorem disconnections_farewell {db : Database} (member : db ∈ s.databases) :
    db.farewell.disconnections =
      if db.closed then 0 else if s.connection.any Connection.closable then 1 else 0 := by
  have connection := accounted.connections db member
  rw [Database.farewell]
  cases closed : db.closed with
  | true => rfl
  | false =>
    rw [closed, if_neg Bool.false_ne_true] at connection
    rw [connection]
    cases s.connection with
    | none => rfl
    | some c =>
      cases closable : c.closable <;> simp [closable, Trace.disconnections, Event.isDisconnection]

theorem perform (step : Step) : DatabasesAccounted (s.perform step).2 := by
  obtain ⟨connection, events, trace, move⟩ := s.perform_moves step
  generalize (s.perform step).2 = now at connection trace move
  have disconnections : now.trace.disconnections =
      s.trace.disconnections + events.traffic.disconnections := by
    rw [trace, Trace.disconnections_append, events.disconnections_traffic]
  have unchanged : now.databases = s.databases → events.traffic.disconnections = 0 →
      DatabasesAccounted now := by
    intro databases silent
    constructor
    · rw [databases, connection]
      exact accounted.connections
    · rw [disconnections, silent, Nat.add_zero, connection, databases]
      exact accounted.disconnections
  generalize events.traffic = traffic at disconnections unchanged move
  cases move with
  | visit visit databases _ => exact unchanged databases visit.disconnections
  | addStatement _ _ _ databases _ => exact unchanged databases rfl
  | useStatement _ _ move databases _ => exact unchanged databases move.disconnections
  | addDatabase db sameConnection fresh databases _ =>
    constructor
    · intro other member
      rw [databases] at member
      rw [connection]
      rcases List.mem_append.mp member with old | last
      · exact accounted.connections other old
      · rw [List.mem_singleton.mp last, sameConnection, fresh]
        rfl
    · have none_ : [db].countP Database.closed = 0 := by simp [fresh]
      rw [disconnections, connection, databases, List.countP_append, none_]
      exact accounted.disconnections
  | @shutDatabase index db held databases _ =>
    have member := List.mem_of_getElem? held
    constructor
    · intro other present
      rw [databases] at present
      rw [connection]
      rcases List.mem_or_eq_of_mem_set present with old | rfl
      · exact accounted.connections other old
      · rfl
    · rw [disconnections, accounted.disconnections, accounted.disconnections_farewell member,
        connection, databases, Database.countP_set_shut held]
      cases db.closed <;> cases s.connection.any Connection.closable <;> rfl

/-- A closed database stays as it is. -/
theorem closed_stays {index : Nat} {db : Database} (held : s.databases[index]? = some db)
    (closed : db.closed = true) (step : Step) :
    (s.perform step).2.databases[index]? = some db := by
  obtain ⟨_, events, _, move⟩ := s.perform_moves step
  generalize (s.perform step).2 = now at move
  generalize events.traffic = traffic at move
  cases move with
  | visit _ databases _ | addStatement _ _ _ databases _ | useStatement _ _ _ databases _ =>
    rw [databases]
    exact held
  | addDatabase _ _ _ databases _ =>
    obtain ⟨bound, _⟩ := List.getElem?_eq_some_iff.mp held
    rw [databases, List.getElem?_append_left bound]
    exact held
  | @shutDatabase other found taken databases _ =>
    rw [databases]
    by_cases same : other = index
    · subst same
      have equal : found = db := Option.some.inj (taken.symm.trans held)
      have shut : db.shut = db := by
        have gone := accounted.connections db (List.mem_of_getElem? held)
        rw [if_pos closed] at gone
        rw [Database.shut, ← gone, ← closed]
      rw [equal, shut, set_of_getElem? held]
      exact held
    · rw [List.getElem?_set_ne same]
      exact held

end DatabasesAccounted

theorem start_databasesAccounted (loaded : LoadedModules) (connection : Option Connection) :
    DatabasesAccounted (start loaded connection) := by
  obtain ⟨databases, _, trace, _, _⟩ := start_blank loaded connection
  generalize start loaded connection = s at databases trace
  constructor
  · rw [databases]
    exact fun db member => absurd member List.not_mem_nil
  · rw [databases, trace]
    split <;> rfl

end Session

namespace Database

/-- The database refuses to prepare anything, and nothing happens. -/
def Refuses (db : Database) (trace : Trace) : Prop :=
  (∀ sql, (db.prepare sql).after trace = (.error .connectionClosed, trace)) ∧
    ∀ sql count, (db.preparePositional sql count).after trace = (.error .connectionClosed, trace)

variable {db : Database} (missing : db.connection = none)

include missing

theorem usable_of_missing : db.usable = .error .connectionClosed := by
  rw [usable, missing]
  cases db.closed <;> rfl

theorem refuses_of_missing (trace : Trace) : db.Refuses trace := by
  have unusable := usable_of_missing missing
  constructor
  · intro sql
    rw [prepare, unusable]
    exact Exchange.after_bind_error (Exchange.after_lift _ _)
  · intro sql count
    rw [preparePositional, unusable]
    exact Exchange.after_bind_error (Exchange.after_lift _ _)

/-- A database that is made to serve another dialect has no connection either. -/
theorem resolve_of_missing (loaded : LoadedModules) (dialect : Option Dialect) :
    ((Target.database db).resolve loaded dialect).connection = none := by
  rw [Target.resolve]
  split <;> exact missing

end Database

def Session.Refuses (s : Session) (index : Nat) : Prop :=
  (∀ sql, s.perform (.prepare index sql) = (.error .connectionClosed, s)) ∧
    ∀ sql count, s.perform (.preparePositional index sql count) = (.error .connectionClosed, s)

theorem Session.refuses_of_missing {s : Session} {index : Nat} {db : Database}
    (held : s.databases[index]? = some db) (missing : db.connection = none) : s.Refuses index := by
  have refuses := db.refuses_of_missing missing s.trace
  have found : s.database? index = .ok db := by rw [database?, held]
  constructor
  · intro sql
    rw [perform, found]
    change s.keep (db.prepare sql) = _
    rw [keep, exchange_eq, refuses.1]
  · intro sql count
    rw [perform, found]
    change s.keep (db.preparePositional sql count) = _
    rw [keep, exchange_eq, refuses.2]

/-- After any steps of a session, whatever faults its connection and cursors raise: the cursor of
each statement was closed once if the statement is closed and not otherwise, a closed statement's
cursor is left alone from then on, and any other cursor was closed once; no cursor was handed a
text after its closing. Over a connection, a database lacks it just if it is closed, and the
connection was closed, where it can be, once for each closed database. A closed database stays
closed and prepares nothing, and neither does what is resolved from it in any dialect. -/
theorem closing_is_final (loaded : LoadedModules) (connection : Option Connection)
    (steps : List Step) :
    let s := ((Session.start loaded connection).run steps).2
    (s.ownCursors.Nodup ∧ ∀ st ∈ s.statements, st.cursor.index ∈ s.trace.openedCursors ∧
      s.trace.closings st.cursor.index = if st.closed then 1 else 0) ∧
    (∀ cursor ∈ s.trace.openedCursors, cursor ∉ s.ownCursors → s.trace.closings cursor = 1) ∧
    s.trace.Silent ∧
    (∀ st ∈ s.statements, st.closed = true → ∀ later : List Step, ∃ events,
      (s.run later).2.trace = s.trace ++ events ∧
        ∀ event ∈ events, event.cursor? ≠ some st.cursor.index) ∧
    (connection ≠ none → ∀ db ∈ s.databases, db.connection = none ↔ db.closed = true) ∧
    (s.trace.disconnections =
      if connection.any Connection.closable then s.databases.countP Database.closed else 0) ∧
    (∀ (index : Nat) (db : Database), s.databases[index]? = some db → db.closed = true →
      ∀ later : List Step,
        let now := (s.run later).2
        now.databases[index]? = some db ∧ now.Refuses index ∧
          ∀ dialect, ((Target.database db).resolve now.loaded dialect).Refuses now.trace) ∧
    Error.connectionClosed.category = .badState ∧
      Error.connectionClosed.message = "connection is closed" := by
  intro s
  obtain ⟨_, _, _, present, closable⟩ := Session.start_blank loaded connection
  have cursors : s.CursorsAccounted := Session.run_preserves _ (fun _ step accounted =>
    accounted.perform step) (Session.start_cursorsAccounted loaded connection) steps
  have databases : s.DatabasesAccounted := Session.run_preserves _ (fun _ step accounted =>
    accounted.perform step) (Session.start_databasesAccounted loaded connection) steps
  have held : s.connection = (Session.start loaded connection).connection :=
    Session.run_preserves (fun now => now.connection = _)
      (fun now step same => (now.perform_connection step).trans same) rfl steps
  rw [← held] at present closable
  refine ⟨⟨cursors.apart, ?_⟩, cursors.others, cursors.silent, ?_, ?_, ?_, ?_, rfl, rfl⟩
  · intro st member
    exact ⟨cursors.held _ (List.mem_map_of_mem member), cursors.own st member⟩
  · intro st member closed later
    obtain ⟨events, trace⟩ := s.run_trace later
    have accounted : (s.run later).2.CursorsAccounted := Session.run_preserves _
      (fun _ step accounted => accounted.perform step) cursors later
    refine ⟨events, trace, accounted.rests trace ?_ ?_⟩
    · exact cursors.held _ (List.mem_map_of_mem member)
    · rw [cursors.own st member, if_pos closed]
  · intro some_ db member
    have held := databases.connections db member
    rw [held]
    cases db.closed with
    | true => exact ⟨fun _ => rfl, fun _ => rfl⟩
    | false =>
      constructor
      · intro gone
        rw [if_neg Bool.false_ne_true] at gone
        rw [gone] at present
        have none_ := Option.isNone_iff_eq_none.mp (Option.isSome_eq_false_iff.mp present.symm)
        exact absurd none_ some_
      · intro closed
        cases closed
  · rw [← closable]
    exact databases.disconnections
  · intro index db found closed later now
    have missing : db.connection = none := by
      rw [databases.connections db (List.mem_of_getElem? found), if_pos closed]
    obtain ⟨_, stays⟩ : now.DatabasesAccounted ∧ now.databases[index]? = some db :=
      Session.run_preserves (fun now => now.DatabasesAccounted ∧ now.databases[index]? = some db)
        (fun now step ⟨accounted, held⟩ =>
          ⟨accounted.perform step, accounted.closed_stays held closed step⟩)
        ⟨databases, found⟩ later
    refine ⟨stays, Session.refuses_of_missing stays missing, fun dialect => ?_⟩
    exact Database.refuses_of_missing (Database.resolve_of_missing missing _ dialect) _

/-- A cursor and a connection that fail to close count as closed, and are closed once. -/
theorem failing_close_is_final :
    let raised : Fault := ⟨.operational, "gone"⟩
    let connection : Connection :=
      { module := "sqlite3", cursors := [{ closeFault := some raised }]
        closeFault := fun _ => some raised }
    let s := ((Session.start [] (some connection)).run [.openDatabase .unspecified,
      .preparePositional 0 "DELETE FROM t" (some 0), .onStatement 0 .executeAndClose,
      .onStatement 0 .close, .closeDatabase 0, .enterDatabase 0]).2
    s.trace.closings 0 = 1 ∧ s.trace.disconnections = 1 ∧
      ∀ later : List Step, (s.run later).2.Refuses 0 := by
  intro raised connection s
  obtain ⟨⟨_, own⟩, _, _, _, _, disconnections, refuses, _⟩ :=
    closing_is_final [] (some connection) [.openDatabase .unspecified,
      .preparePositional 0 "DELETE FROM t" (some 0), .onStatement 0 .executeAndClose,
      .onStatement 0 .close, .closeDatabase 0, .enterDatabase 0]
  have statement : s.statements[0]? = some
      ⟨⟨0, { closeFault := some raised }⟩, "DELETE FROM t", some 0, [], true⟩ := rfl
  refine ⟨?_, ?_, ?_⟩
  · exact (own _ (List.mem_of_getElem? statement)).2
  · exact disconnections
  · intro later
    have shut : ∃ db, s.databases[0]? = some db ∧ db.closed = true := ⟨_, rfl, rfl⟩
    obtain ⟨db, held, closed⟩ := shut
    exact (refuses 0 db held closed later).2.1

end SqlTemplate
