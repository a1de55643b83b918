import SqlTemplate.Query
import SqlTemplate.Session.Reply
import SqlTemplate.Table.Basic

/-!
# Sessions

A session works over one connection, or over none. It keeps the databases it opened and the
statements it prepared, each under its number, and the trace of all that happened. A step changes
at most the database or statement it names and adds to the trace. A dialect gets a tag when it
enters the session: given to a step, found for a database, or brought by the connection. So two
uses can be told to be of one dialect.
-/

namespace SqlTemplate

inductive DialectChoice where
  | unspecified
  /-- A new dialect of a family, under the name of a style. -/
  | made (family : DialectFamily) (styleName : String)
  /-- The very dialect of a database of the session. -/
  | ofDatabase (index : Nat)

inductive TargetName where
  | connection
  | database (index : Nat)

inductive Step where
  | openDatabase (dialect : DialectChoice)
  | prepare (database : Nat) (sql : String)
  | preparePositional (database : Nat) (sql : String) (count : Option Int)
  | onStatement (statement : Nat) (step : StatementStep)
  | closeDatabase (database : Nat)
  /-- Enters the scope of a database and leaves it again, which closes it. -/
  | enterDatabase (database : Nat)
  | isDisconnected (database : Nat)
  | dialectOf (target : TargetName)
  | resolve (target : TargetName) (dialect : DialectChoice)
  | queryRows (target : TargetName) (dialect : DialectChoice) (template : String)
      (params : NamedValues)
  | queryUpdate (target : TargetName) (dialect : DialectChoice) (template : String)
      (params : NamedValues)
  | insert (target : TargetName) (dialect : DialectChoice) (table : String) (values : NamedValues)
  | update (target : TargetName) (dialect : DialectChoice) (table : String)
      (values conditions : NamedValues)
  | delete (target : TargetName) (dialect : DialectChoice) (table : String)
      (conditions : NamedValues)
  | select (target : TargetName) (dialect : DialectChoice) (table : String)
      (columns : Columns) (conditions : NamedValues)

structure Session where
  loaded : LoadedModules
  connection : Option Connection
  databases : List Database := []
  statements : List Statement := []
  trace : Trace := []
  /-- How many tags were given out. -/
  tags : Nat := 0

namespace Session

/-- Gives a dialect the next tag unless it has one. -/
def introduce (s : Session) (d : Dialect) : Dialect × Session :=
  if d.tag.isSome then (d, s) else ({ d with tag := some s.tags }, { s with tags := s.tags + 1 })

/-- A session over a connection, whose own dialect is introduced first. -/
def start (loaded : LoadedModules) (connection : Option Connection) : Session :=
  let blank : Session := { loaded, connection }
  match connection with
  | none => blank
  | some c =>
    match c.dialect with
    | none => blank
    | some d =>
      let (own, s) := blank.introduce d
      { s with connection := some { c with dialect := some own } }

/-- A session with one statement on a cursor of its own. -/
def ofStatement (script : CursorScript) (sql : String) (count : Option Int) : Session :=
  let blank : Session := { loaded := [], connection := none }
  let (opened, trace) := ((Cursor.openUnder script).run : StateM Trace _).run []
  match opened with
  | .ok cursor => { blank with statements := [{ cursor, sql, count }], trace }
  | .error _ => { blank with trace }

def database? (s : Session) (index : Nat) : Except Error Database :=
  match s.databases[index]? with
  | some db => .ok db
  | none => .error (.unknownHandle index)

def statement? (s : Session) (index : Nat) : Except Error Statement :=
  match s.statements[index]? with
  | some st => .ok st
  | none => .error (.unknownHandle index)

def target? (s : Session) : TargetName → Except Error Target
  | .connection => .ok (.connection s.connection)
  | .database index => (s.database? index).map .database

/-- The dialect of a choice, introduced where it is new. -/
def choose (s : Session) : DialectChoice → Except Error (Option Dialect × Session)
  | .unspecified => .ok (none, s)
  | .made family styleName =>
    let (d, s) := s.introduce ⟨family, styleName, none⟩
    .ok (some d, s)
  | .ofDatabase index => (s.database? index).map fun db => (some db.dialect, s)

def exchange {α : Type} (s : Session) (x : Exchange α) : Except Error α × Session :=
  let (outcome, trace) := (x.run : StateM Trace _).run s.trace
  (outcome, { s with trace })

/-- Goes on with a part of the session, or fails without effect where there is no such part. -/
def withPart {α : Type} (s : Session) (part : Except Error α)
    (use : α → Except Error Reply × Session) : Except Error Reply × Session :=
  match part with
  | .ok found => use found
  | .error e => (.error e, s)

def keep (s : Session) (prepared : Exchange Statement) : Except Error Reply × Session :=
  match s.exchange prepared with
  | (.ok st, s) => (.ok (.statement st.sql st.count), { s with statements := s.statements ++ [st] })
  | (.error e, s) => (.error e, s)

def shutDatabase (s : Session) (index : Nat) (reply : Reply) : Except Error Reply × Session :=
  s.withPart (s.database? index) fun db =>
    let (outcome, s) := s.exchange db.disconnect
    (outcome.map fun _ => reply, { s with databases := s.databases.set index db.shut })

def call (s : Session) (name : TargetName) (choice : DialectChoice)
    (run : Target → Option Dialect → Exchange Reply) : Except Error Reply × Session :=
  s.withPart (s.target? name) fun target =>
    s.withPart (s.choose choice) fun (dialect, s) =>
      s.exchange (run target dialect)

def perform (s : Session) : Step → Except Error Reply × Session
  | .openDatabase choice =>
    s.withPart (s.choose choice) fun (dialect, s) =>
      let db := Database.holding s.loaded s.connection dialect
      let (own, s) := s.introduce db.dialect
      (.ok (.dialect own), { s with databases := s.databases ++ [{ db with dialect := own }] })
  | .prepare index sql => s.withPart (s.database? index) fun db => s.keep (db.prepare sql)
  | .preparePositional index sql count =>
    s.withPart (s.database? index) fun db => s.keep (db.preparePositional sql count)
  | .onStatement index step =>
    s.withPart (s.statement? index) fun st =>
      let ((outcome, next), trace) := (st.perform step).run s.trace
      (outcome, { s with statements := s.statements.set index next, trace })
  | .closeDatabase index => s.shutDatabase index .done
  | .enterDatabase index => s.shutDatabase index (.truth true)
  | .isDisconnected index =>
    s.withPart (s.database? index) fun db => (.ok (.truth db.connection.isNone), s)
  | .dialectOf name =>
    s.withPart (s.target? name) fun target => (.ok (.dialect (.ofTarget s.loaded target)), s)
  | .resolve name choice =>
    s.withPart (s.target? name) fun target =>
      s.withPart (s.choose choice) fun (dialect, s) =>
        let db := target.resolve s.loaded dialect
        (.ok (.resolved (target.isResolved dialect) db.dialect), s)
  | .queryRows name choice template params =>
    s.call name choice fun target dialect =>
      Reply.rows <$> Query.rows { template, dialect } s.loaded target params
  | .queryUpdate name choice template params =>
    s.call name choice fun target dialect =>
      Reply.affected <$> Query.update { template, dialect } s.loaded target params
  | .insert name choice table values =>
    s.call name choice fun target dialect =>
      Reply.affected <$> Table.insert { name := table, dialect } s.loaded target values
  | .update name choice table values conditions =>
    s.call name choice fun target dialect =>
      Reply.affected <$> Table.update { name := table, dialect } s.loaded target values conditions
  | .delete name choice table conditions =>
    s.call name choice fun target dialect =>
      Reply.affected <$> Table.delete { name := table, dialect } s.loaded target conditions
  | .select name choice table columns conditions =>
    s.call name choice fun target dialect =>
      Reply.rows <$> Table.select { name := table, dialect } s.loaded target columns conditions

def run (s : Session) : List Step → List (Except Error Reply) × Session
  | [] => ([], s)
  | step :: rest =>
    let (reply, s) := s.perform step
    let (replies, s) := s.run rest
    (reply :: replies, s)

end Session
end SqlTemplate
