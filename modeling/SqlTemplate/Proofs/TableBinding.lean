import SqlTemplate.Proofs.Handover

/-!
# Table operations bind their columns

An operation writes a marker for each of its columns, counted through the values it sets and on
into its conditions, and binds the value of a column to the marker that stands beside it. Values
and conditions are bound one after the other, so a column that occurs in both is bound twice.
-/

namespace SqlTemplate

namespace TableSql

/-- Each column beside the marker of its slot; the first takes the slot after `start`. -/
def equated (style : MarkerStyle) (start : Nat) (columns : List String) : List String :=
  columns.mapIdx fun i column => column ++ " = " ++ style.marker (start + i + 1 : Nat)

def marked (style : MarkerStyle) (start n : Nat) : List String :=
  (List.range n).map fun i => style.marker (start + i + 1 : Nat)

section Known

variable {d : Dialect} {style : MarkerStyle} (styled : d.style? = some style)

include styled

theorem marker_of_style (position : Int) : d.marker position = .ok (style.marker position) := by
  rw [Dialect.marker, styled]

theorem equations_of_style (start : Nat) (columns : List String) :
    equations d (start + 1 : Nat) columns = .ok (equated style start columns) := by
  induction columns generalizing start with
  | nil => rfl
  | cons column rest ih =>
    have later := ih (start + 1)
    rw [Int.natCast_add, Int.natCast_one] at later
    rw [equations, marker_of_style styled, later, equated, equated, List.mapIdx_cons]
    have shift : ∀ i, start + 1 + i + 1 = start + (i + 1) + 1 := by omega
    simp only [shift]
    rfl

theorem markers_of_style (start n : Nat) :
    markers d (start + 1 : Nat) n = .ok (marked style start n) := by
  induction n generalizing start with
  | zero => rfl
  | succ n ih =>
    have later := ih (start + 1)
    rw [Int.natCast_add, Int.natCast_one] at later
    rw [markers, marker_of_style styled, later, marked, marked, List.range_succ_eq_map,
      List.map_cons, List.map_map]
    have shift : ∀ i, start + 1 + i + 1 = start + (i + 1) + 1 := by omega
    simp only [shift]
    rfl

theorem whereClause_of_style (start : Nat) {conditions : List String} (some_ : conditions ≠ []) :
    whereClause d conditions (start + 1 : Nat) =
      .ok (" WHERE " ++ " AND ".intercalate (equated style start conditions)) := by
  rw [whereClause, if_neg (by simpa using some_), equations_of_style styled]
  rfl

theorem insert_of_style (table : String) {columns : List String} (some_ : columns ≠ []) :
    insert d table columns =
      .ok ("INSERT INTO " ++ table ++ " (" ++ ", ".intercalate columns ++ ") VALUES (" ++
        ", ".intercalate (marked style 0 columns.length) ++ ")") := by
  rw [insert, if_neg (by simpa using some_), show (1 : Int) = ((0 + 1 : Nat) : Int) from rfl,
    markers_of_style styled]
  rfl

theorem update_of_style (table : String) {columns conditions : List String}
    (some_ : columns ≠ []) (limited : conditions ≠ []) :
    update d table columns conditions =
      .ok ("UPDATE " ++ table ++ " SET " ++ ", ".intercalate (equated style 0 columns) ++
        (" WHERE " ++ " AND ".intercalate (equated style columns.length conditions))) := by
  have filter := whereClause_of_style styled columns.length limited
  rw [Int.natCast_add, Int.natCast_one] at filter
  rw [update, if_neg (by simpa using some_), if_neg (by simpa using limited), filter, assignments,
    show (1 : Int) = ((0 + 1 : Nat) : Int) from rfl, equations_of_style styled]
  rfl

theorem delete_of_style (table : String) {conditions : List String} (limited : conditions ≠ []) :
    delete d table conditions =
      .ok ("DELETE FROM " ++ table ++
        (" WHERE " ++ " AND ".intercalate (equated style 0 conditions))) := by
  rw [delete, if_neg (by simpa using limited), show (1 : Int) = ((0 + 1 : Nat) : Int) from rfl,
    whereClause_of_style styled 0 limited]
  rfl

theorem select_of_style (table : String) (columns conditions : List String) :
    select d table columns conditions =
      .ok ("SELECT " ++ (if columns = [] then "*" else ", ".intercalate columns) ++ " FROM " ++
        table ++ (if conditions = [] then ""
          else " WHERE " ++ " AND ".intercalate (equated style 0 conditions))) := by
  have columnsText : (if columns.isEmpty then "*" else ", ".intercalate columns) =
      if columns = [] then "*" else ", ".intercalate columns := by
    cases columns <;> rfl
  rw [select, columnsText]
  by_cases limited : conditions = []
  · subst conditions
    rfl
  · rw [show (1 : Int) = ((0 + 1 : Nat) : Int) from rfl, whereClause_of_style styled 0 limited,
      if_neg limited]
    rfl

end Known
end TableSql

theorem Table.request_of_usable {table : Table} {loaded : LoadedModules} {target : Target}
    {connection : Connection} {sql : Dialect → Except Error String} {text : String}
    (usable : target.usable? = some connection)
    (built : sql (target.resolve loaded table.dialect).dialect = .ok text)
    (values : List (String × Value)) :
    table.request loaded target sql values =
      .ok { connection, sql := text, notice := .preparingPositional text, values } := by
  rw [request]
  simp only [built, target.usable_resolve usable loaded table.dialect]
  rfl

/-- An operation on a usable connection, in a dialect of a known style, whose values all have
driver values, executes one text on one cursor, and its parameters are the driver values of the
columns in the order of the markers beside them. -/
theorem operations_bind_their_columns (table : Table) (loaded : LoadedModules) (target : Target)
    (trace : Trace) (connection : Connection) (style : MarkerStyle)
    (usable : target.usable? = some connection)
    (styled : (target.resolve loaded table.dialect).dialect.style? = some style)
    (opens : connection.cursorFault trace.cursorCalls = none)
    (closes : (connection.script trace.openedCursors.length).closeFault = none) :
    let dialect := (target.resolve loaded table.dialect).dialect
    let script := connection.script trace.openedCursors.length
    let affected := unlessFault (script.executeFault 0) (.ok script.rowcount)
    let converts := fun pairs : List (String × Value) =>
      ∀ pair ∈ pairs, ∃ value, driverValue pair = .ok value
    (∀ position, dialect.marker position = .ok (style.marker position)) ∧
    (∀ values : NamedValues, converts values.entries →
      HandsOver ((table.insert loaded target values).after trace) trace
        (if values.names = [] then dialect.defaultInsert table.name
          else "INSERT INTO " ++ table.name ++ " (" ++ ", ".intercalate values.names ++
            ") VALUES (" ++ ", ".intercalate (TableSql.marked style 0 values.size) ++ ")")
        (values.entries.map driverValue) affected) ∧
    (∀ values conditions : NamedValues, values.names ≠ [] → conditions.names ≠ [] →
      converts (values.entries ++ conditions.entries) →
      HandsOver ((table.update loaded target values conditions).after trace) trace
        ("UPDATE " ++ table.name ++ " SET " ++
          ", ".intercalate (TableSql.equated style 0 values.names) ++
          (" WHERE " ++ " AND ".intercalate (TableSql.equated style values.size conditions.names)))
        ((values.entries ++ conditions.entries).map driverValue) affected) ∧
    (∀ conditions : NamedValues, conditions.names ≠ [] → converts conditions.entries →
      HandsOver ((table.delete loaded target conditions).after trace) trace
        ("DELETE FROM " ++ table.name ++
          (" WHERE " ++ " AND ".intercalate (TableSql.equated style 0 conditions.names)))
        (conditions.entries.map driverValue) affected) ∧
    ∀ (columns : Columns) (conditions : NamedValues), converts conditions.entries →
      HandsOver ((table.select loaded target columns conditions).after trace) trace
        ("SELECT " ++ (if columns.names = [] then "*" else ", ".intercalate columns.names) ++
          " FROM " ++ table.name ++ (if conditions.names = [] then ""
            else " WHERE " ++ " AND ".intercalate (TableSql.equated style 0 conditions.names)))
        (conditions.entries.map driverValue)
        (unlessFault (script.executeFault 0) script.mapRows) := by
  intro dialect script affected converts
  have length : ∀ values : NamedValues, values.names.length = values.size :=
    fun values => List.length_map _
  refine ⟨TableSql.marker_of_style styled, ?_, ?_, ?_, ?_⟩
  · intro values good
    have built : TableSql.insert dialect table.name values.names =
        .ok (if values.names = [] then dialect.defaultInsert table.name
          else "INSERT INTO " ++ table.name ++ " (" ++ ", ".intercalate values.names ++
            ") VALUES (" ++ ", ".intercalate (TableSql.marked style 0 values.size) ++ ")") := by
      by_cases none_ : values.names = []
      · rw [if_pos none_, none_]
        rfl
      · rw [if_neg none_, TableSql.insert_of_style styled table.name none_, length]
    rw [Table.after_insert, Table.request_of_usable usable built]
    exact course_handsOver .count trace opens closes good
  · intro values conditions some_ limited good
    have built := TableSql.update_of_style styled table.name some_ limited
    rw [Table.after_update, Table.request_of_usable usable built, length]
    exact course_handsOver .count trace opens closes good
  · intro conditions limited good
    have built := TableSql.delete_of_style styled table.name limited
    rw [Table.after_delete, Table.request_of_usable usable built]
    exact course_handsOver .count trace opens closes good
  · intro columns conditions good
    have built := TableSql.select_of_style styled table.name columns.names conditions.names
    rw [Table.after_select, Table.request_of_usable usable built]
    exact (course_handsOver .rows trace opens closes good).reported (.selected table.name)

/-- A column that is set and compared is bound to a marker in either place. -/
theorem update_binds_shared_column :
    HandsOver
      (({ name := "t", dialect := some (.ofFamily .numeric) } : Table).update []
        (.connection (some { module := "oracledb" }))
        (.ofPairs [("a", .int 1), ("b", .int 2)]) (.ofPairs [("a", .int 3)]) |>.after [])
      [] "UPDATE t SET a = :1, b = :2 WHERE a = :3" [.ok (.int 1), .ok (.int 2), .ok (.int 3)]
      (.ok (some (-1))) := by
  have all := operations_bind_their_columns { name := "t", dialect := some (.ofFamily .numeric) } []
    (.connection (some { module := "oracledb" })) []
    { module := "oracledb" } .numbered rfl rfl rfl rfl
  obtain ⟨_, _, updates, _⟩ := all
  have handed := updates (.ofPairs [("a", .int 1), ("b", .int 2)]) (.ofPairs [("a", .int 3)])
    (by decide +kernel) (by decide +kernel) ?_
  · have text : "UPDATE " ++ "t" ++ " SET " ++
        ", ".intercalate (TableSql.equated .numbered 0 ["a", "b"]) ++
        (" WHERE " ++ " AND ".intercalate (TableSql.equated .numbered 2 ["a"])) =
          "UPDATE t SET a = :1, b = :2 WHERE a = :3" := by decide +kernel
    rw [← text]
    exact handed
  · intro pair member
    change pair ∈ [("a", Value.int 1), ("b", .int 2), ("a", .int 3)] at member
    simp only [List.mem_cons, List.not_mem_nil, or_false] at member
    rcases member with rfl | rfl | rfl <;> exact ⟨_, rfl⟩

end SqlTemplate
