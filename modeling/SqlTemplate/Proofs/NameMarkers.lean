import SqlTemplate.Proofs.PercentReading
import SqlTemplate.Proofs.TableBinding
import Mathlib.Algebra.Order.BigOperators.Group.List
import Mathlib.Data.ENat.Basic
import Mathlib.Tactic.Ring

/-!
# Names in texts with percent markers

Operations on a table take the names of the table and of its columns as they are. A driver with
percent markers finds one marker for each value just in case every name, read by itself, stands for
characters only. Every name is followed by the end of the text or by a character that no percent
sign pairs with, so a name is read as if it stood alone, and a failure or a further marker in one
name is not made up for by anything that stands around it.
-/

namespace SqlTemplate

def ReadsWith (text : String) (markers : Nat) : Prop :=
  ∃ items, readPercent text.toList = some items ∧ items.count .marker = markers

def IsLiteral (text : String) : Prop :=
  ∃ items, readPercent text.toList = some items ∧ .marker ∉ items

/-- A percent sign before the text pairs with nothing in it. -/
def Unpaired (text : List Char) : Prop := ∀ c ∈ text.head?, c ≠ '%' ∧ c ≠ 's'

theorem readPercent_of_unpaired {text : List Char} (apart : Unpaired text) :
    readPercent ('%' :: text) = none := by
  cases text with
  | nil => rfl
  | cons c rest =>
    obtain ⟨sign, letter⟩ := apart c rfl
    simp [readPercent, sign, letter]

/-- A text is read by itself if the text after it does not complete a pair. -/
theorem readPercent_append {rest : List Char} (apart : Unpaired rest) (text : List Char) :
    readPercent (text ++ rest) =
      (readPercent text).bind fun items => (readPercent rest).map (items ++ ·) := by
  fun_induction readPercent text with
  | case1 => simp
  | case2 text ih | case3 text ih =>
    simp only [List.cons_append, readPercent, ih]
    cases readPercent text <;> cases readPercent rest <;> rfl
  | case4 text sign letter =>
    -- A sign that pairs with nothing in its own text does not pair with what comes after it either.
    have unpaired : Unpaired (text ++ rest) := by
      cases text with
      | nil => exact apart
      | cons c text =>
        rintro head ⟨⟩
        constructor
        · rintro rfl
          exact sign text rfl rfl
        · rintro rfl
          exact letter text rfl rfl
    exact readPercent_of_unpaired unpaired
  | case5 c text _ _ other ih =>
    rw [List.cons_append, readPercent_of_ne other, ih]
    cases readPercent text <;> cases readPercent rest <;> rfl

/-- A text without percent signs is read character by character, whatever comes after it. -/
theorem readPercent_free_append {text : List Char} (free : '%' ∉ text) (rest : List Char) :
    readPercent (text ++ rest) =
      (readPercent rest).map (text.map PercentItem.character ++ ·) := by
  induction text with
  | nil => simp
  | cons c text ih =>
    obtain ⟨other, free⟩ := not_or.mp (fun sign => free (List.mem_cons.mpr sign))
    rw [List.cons_append, readPercent_of_ne (Ne.symm other), ih free, Option.map_map]
    rfl

/-- The markers found in a text; without bound if reading it fails, so that no number of markers in
other parts makes up for a part that cannot be read. -/
def markersRead (text : String) : ENat :=
  (readPercent text.toList).elim ⊤ fun items => (items.count .marker : Nat)

theorem markersRead_eq_iff {text : String} {markers : Nat} :
    markersRead text = markers ↔ ReadsWith text markers := by
  rw [markersRead, ReadsWith]
  cases readPercent text.toList with
  | none => simp
  | some items => simp

theorem markersRead_eq_zero_iff {text : String} : markersRead text = 0 ↔ IsLiteral text := by
  rw [← Nat.cast_zero, markersRead_eq_iff]
  simp only [ReadsWith, IsLiteral, List.count_eq_zero]

theorem markersRead_append {first second : String} (apart : Unpaired second.toList) :
    markersRead (first ++ second) = markersRead first + markersRead second := by
  rw [markersRead, String.toList_append, readPercent_append apart, markersRead, markersRead]
  cases readPercent first.toList with
  | none => simp
  | some items => cases readPercent second.toList <;> simp

/-- A text without percent signs adds no markers to what comes after it. -/
theorem markersRead_free_append {first : String} (free : '%' ∉ first.toList) (second : String) :
    markersRead (first ++ second) = markersRead second := by
  have none_ : (first.toList.map PercentItem.character).count .marker = 0 := by
    apply List.count_eq_zero.mpr
    simp
  rw [markersRead, String.toList_append, readPercent_free_append free, markersRead]
  cases readPercent second.toList with
  | none => rfl
  | some items => simp [none_]

/-- The text has no percent sign, and no percent sign before it pairs with its first character. -/
def Separates (text : String) : Prop :=
  text.toList ≠ [] ∧ '%' ∉ text.toList ∧ text.toList.head? ≠ some 's'

instance (text : String) : Decidable (Separates text) :=
  inferInstanceAs (Decidable (_ ∧ _ ∧ _))

namespace Separates

variable {separator : String} (separates : Separates separator)

include separates

theorem unpaired (after : String) : Unpaired (separator ++ after).toList := by
  obtain ⟨some_, free, letter⟩ := separates
  rw [String.toList_append]
  cases shape : separator.toList with
  | nil => exact absurd shape some_
  | cons c rest =>
    rw [shape] at free letter
    rintro head ⟨⟩
    exact ⟨fun sign => free (sign ▸ List.mem_cons_self), fun same => letter (congrArg some same)⟩

/-- What stands before a separator is read by itself, and so is what stands after it. -/
theorem between (before after : String) :
    markersRead (before ++ (separator ++ after)) = markersRead before + markersRead after := by
  rw [markersRead_append (separates.unpaired after), markersRead_free_append separates.2.1]

theorem last (before : String) : markersRead (before ++ separator) = markersRead before := by
  have ended := separates.between before ""
  rwa [String.append_empty, show markersRead "" = 0 from rfl, add_zero] at ended

theorem joined (parts : List String) :
    markersRead (separator.intercalate parts) = (parts.map markersRead).sum := by
  induction parts with
  | nil => rfl
  | cons first rest ih =>
    cases rest with
    | nil => simp
    | cons second rest =>
      rw [String.intercalate_cons_cons, String.append_assoc, separates.between, ih]
      rfl

end Separates

/-- A text that is read like its names with a number of further markers has this number of markers
just in case the names have none. -/
theorem readsWith_iff_of_markersRead {text : String} {names : List String} {markers : Nat}
    (read : markersRead text = (names.map markersRead).sum + markers) :
    ReadsWith text markers ↔ ∀ name ∈ names, IsLiteral name := by
  have finite : (markers : ENat) ≠ ⊤ := ENat.natCast_ne_top markers
  have none_ : (names.map markersRead).sum + markers = markers ↔
      (names.map markersRead).sum = 0 := by
    constructor
    · intro same
      apply ENat.add_left_injective_of_ne_top finite
      simpa using same
    · intro zero
      rw [zero, zero_add]
  rw [← markersRead_eq_iff, read, none_, List.sum_eq_zero_iff, List.forall_mem_map]
  simp only [markersRead_eq_zero_iff]

namespace TableSql

theorem equated_percent (start : Nat) (columns : List String) :
    equated .percent start columns = columns.map (· ++ " = %s") := by
  refine List.ext_getElem (by simp [equated]) fun i inside within => ?_
  simp only [equated, List.getElem_mapIdx, List.getElem_map, String.append_assoc]
  rfl

theorem marked_percent (start n : Nat) : marked .percent start n = List.replicate n "%s" := by
  refine List.ext_getElem (by simp [marked]) fun i inside within => ?_
  simp only [marked, List.getElem_map, List.getElem_replicate]
  rfl

theorem markersRead_marker : markersRead "%s" = 1 := rfl

/-- Equations are read as their columns, with a marker for each. -/
theorem markersRead_equated {separator : String} (separates : Separates separator) (start : Nat)
    (columns : List String) :
    markersRead (separator.intercalate (equated .percent start columns)) =
      (columns.map markersRead).sum + columns.length := by
  have equals : Separates " = " := by decide
  have each : ∀ column, markersRead (column ++ " = %s") = markersRead column + 1 := by
    intro column
    exact (equals.between column "%s").trans (congrArg _ markersRead_marker)
  rw [separates.joined, equated_percent, List.map_map]
  induction columns with
  | nil => rfl
  | cons column rest ih =>
    simp only [List.map_cons, List.sum_cons, Function.comp_apply, each, List.length_cons] at ih ⊢
    rw [ih, Nat.cast_add, Nat.cast_one]
    ring

theorem markersRead_marked {separator : String} (separates : Separates separator) (start n : Nat) :
    markersRead (separator.intercalate (marked .percent start n)) = n := by
  rw [separates.joined, marked_percent, List.map_replicate, markersRead_marker]
  simp

/-- Conditions add to what stands before them their columns and a marker for each. -/
theorem markersRead_where (start : Nat) (before : String) (conditions : List String) :
    markersRead (before ++ (" WHERE " ++ " AND ".intercalate (equated .percent start conditions))) =
      markersRead before + ((conditions.map markersRead).sum + conditions.length) := by
  have filter : Separates " WHERE " := by decide
  rw [filter.between, markersRead_equated (by decide)]

section Built

variable {d : Dialect} (styled : d.style? = some .percent) {table text : String}

include styled

theorem insert_reads {columns : List String} (built : insert d table columns = .ok text) :
    markersRead text = ((table :: columns).map markersRead).sum + columns.length := by
  have begins : '%' ∉ "INSERT INTO ".toList := by decide
  by_cases none_ : columns = []
  · subst columns
    have defaults : ∀ ending, Separates ending → "INSERT INTO " ++ table ++ ending = text →
        markersRead text = markersRead table := by
      rintro ending separates rfl
      rw [String.append_assoc, markersRead_free_append begins, separates.last]
    have read : markersRead text = markersRead table := by
      change Except.ok (d.defaultInsert table) = .ok text at built
      rw [Dialect.defaultInsert] at built
      split at built
      · exact defaults " () VALUES ()" (by decide) (Except.ok.inj built)
      · exact defaults " DEFAULT VALUES" (by decide) (Except.ok.inj built)
    rw [read]
    simp
  · have opens : Separates " (" := by decide
    have values : Separates ") VALUES (" := by decide
    have comma : Separates ", " := by decide
    have closes : Separates ")" := by decide
    rw [insert_of_style styled table none_] at built
    rw [← Except.ok.inj built]
    simp only [String.append_assoc]
    rw [markersRead_free_append begins, opens.between, values.between, closes.last, comma.joined,
      markersRead_marked comma, List.map_cons, List.sum_cons, add_assoc]

theorem update_reads {columns conditions : List String}
    (built : update d table columns conditions = .ok text) :
    markersRead text = ((table :: (columns ++ conditions)).map markersRead).sum +
      (columns.length + conditions.length : Nat) := by
  have begins : '%' ∉ "UPDATE ".toList := by decide
  have sets : Separates " SET " := by decide
  have some_ : columns ≠ [] := by
    rintro rfl
    cases built
  have limited : conditions ≠ [] := by
    rintro rfl
    rw [update, if_neg (by simpa using some_)] at built
    cases built
  rw [update_of_style styled table some_ limited] at built
  rw [← Except.ok.inj built, markersRead_where]
  simp only [String.append_assoc]
  rw [markersRead_free_append begins, sets.between, markersRead_equated (by decide)]
  simp only [List.map_cons, List.sum_cons, List.map_append, List.sum_append, Nat.cast_add]
  ring

theorem delete_reads {conditions : List String} (built : delete d table conditions = .ok text) :
    markersRead text =
      ((table :: conditions).map markersRead).sum + conditions.length := by
  have begins : '%' ∉ "DELETE FROM ".toList := by decide
  have limited : conditions ≠ [] := by
    rintro rfl
    cases built
  rw [delete_of_style styled table limited] at built
  rw [← Except.ok.inj built, markersRead_where, markersRead_free_append begins]
  simp only [List.map_cons, List.sum_cons]
  ring

theorem select_reads {columns conditions : List String}
    (built : select d table columns conditions = .ok text) :
    markersRead text =
      ((table :: (columns ++ conditions)).map markersRead).sum + conditions.length := by
  have begins : '%' ∉ "SELECT ".toList := by decide
  have comma : Separates ", " := by decide
  have source : Separates " FROM " := by decide
  have shown : markersRead (if columns = [] then "*" else ", ".intercalate columns) =
      (columns.map markersRead).sum := by
    by_cases all : columns = []
    · subst columns
      rfl
    · rw [if_neg all, comma.joined]
  have listed : ∀ after, markersRead ("SELECT " ++ ((if columns = [] then "*" else
      ", ".intercalate columns) ++ (" FROM " ++ after))) =
      (columns.map markersRead).sum + markersRead after := by
    intro after
    rw [markersRead_free_append begins, source.between, shown]
  have filtered : markersRead (table ++ (if conditions = [] then "" else
      " WHERE " ++ " AND ".intercalate (equated .percent 0 conditions))) =
      markersRead table + ((conditions.map markersRead).sum + conditions.length) := by
    by_cases every : conditions = []
    · subst conditions
      simp
    · rw [if_neg every, markersRead_where]
  rw [select_of_style styled] at built
  rw [← Except.ok.inj built]
  simp only [String.append_assoc]
  rw [listed, filtered]
  simp only [List.map_cons, List.sum_cons, List.map_append, List.sum_append]
  ring

end Built
end TableSql

/-- A text that is positional already is prepared as it is. -/
theorem Database.after_preparePositional {db : Database} {connection : Connection}
    (usable : db.usable = .ok connection) {trace : Trace}
    (opens : connection.cursorFault trace.cursorCalls = none) (sql : String)
    (count : Option Int) :
    ∃ st later, (db.preparePositional sql count).after trace = (.ok st, later) ∧ st.sql = sql ∧
      st.count = count := by
  rw [preparePositional, usable]
  simp only [Exchange.lift_ok, pure_bind]
  rw [Exchange.after_bind_ok (Exchange.after_log _ _), Exchange.after_bind,
    Connection.after_openCursor, Trace.cursorCalls_logged, opens]
  exact ⟨_, _, rfl, rfl, rfl⟩

/-- The text of an operation in a dialect with percent markers is read with one marker for each
value just in case the name of the table and the names of all columns in it, each read by itself,
stand for characters only. A text that is rewritten is read so whatever stands in it; a text that is
prepared as positional already reaches the driver as it was built. -/
theorem marker_per_value_iff_names_literal (d : Dialect) (percent : d.styleName = "format")
    (table : String) :
    (∀ (values : NamedValues) (text : String),
      TableSql.insert d table values.names = .ok text →
      (ReadsWith text values.size ↔ ∀ name ∈ table :: values.names, IsLiteral name)) ∧
    (∀ (values conditions : NamedValues) (text : String),
      TableSql.update d table values.names conditions.names = .ok text →
      (ReadsWith text (values.size + conditions.size) ↔
        ∀ name ∈ table :: (values.names ++ conditions.names), IsLiteral name)) ∧
    (∀ (conditions : NamedValues) (text : String),
      TableSql.delete d table conditions.names = .ok text →
      (ReadsWith text conditions.size ↔ ∀ name ∈ table :: conditions.names, IsLiteral name)) ∧
    (∀ (columns : List String) (conditions : NamedValues) (text : String),
      TableSql.select d table columns conditions.names = .ok text →
      (ReadsWith text conditions.size ↔
        ∀ name ∈ table :: (columns ++ conditions.names), IsLiteral name)) ∧
    (∀ sql : String, ∃ positional, d.rewrite sql = .ok positional ∧
      ReadsWith positional (Template.placeholders sql).length) ∧
    ∀ (db : Database) (connection : Connection) (trace : Trace) (text : String)
      (count : Option Int), db.usable = .ok connection →
      connection.cursorFault trace.cursorCalls = none →
      ∃ st later, (db.preparePositional text count).after trace = (.ok st, later) ∧
        st.sql = text ∧ st.count = count := by
  have styled : d.style? = some .percent := by
    rw [Dialect.style?, percent]
    rfl
  have length : ∀ values : NamedValues, values.names.length = values.size :=
    fun values => List.length_map _
  refine ⟨?_, ?_, ?_, ?_, ?_, ?_⟩
  · intro values text built
    rw [← length]
    exact readsWith_iff_of_markersRead (TableSql.insert_reads styled built)
  · intro values conditions text built
    rw [← length, ← length]
    exact readsWith_iff_of_markersRead (TableSql.update_reads styled built)
  · intro conditions text built
    rw [← length]
    exact readsWith_iff_of_markersRead (TableSql.delete_reads styled built)
  · intro columns conditions text built
    rw [← length]
    exact readsWith_iff_of_markersRead (TableSql.select_reads styled built)
  · intro sql
    refine ⟨_, Dialect.rewrite_of_style styled sql,
      (Template.tokens sql.toList).map PercentItem.ofToken, ?_, ?_⟩
    · rw [String.toList_ofList]
      exact readPercent_written 1 (Template.tokens sql.toList)
    · rw [PercentItem.count_marker_ofToken, Template.placeholders, List.length_map]
      rfl
  · intro db connection trace text count usable opens
    exact db.after_preparePositional usable opens text count

/-- Two percent signs in a name stand for one, and a percent sign at its end does not pair with what
the operation writes after it. -/
theorem marker_per_value_iff_names_literal_tight :
    ReadsWith "INSERT INTO t%% () VALUES ()" 0 ∧
      ¬ ReadsWith "SELECT s, % FROM t WHERE s = %s" 1 := by
  constructor
  · obtain ⟨inserted, _⟩ := marker_per_value_iff_names_literal (.ofFamily .mysql) rfl "t%%"
    apply (inserted .empty _ rfl).mpr
    rintro name (_ | ⟨_, none_⟩)
    · exact ⟨_, rfl, by decide⟩
    · cases none_
  · obtain ⟨_, _, _, selected, _⟩ :=
      marker_per_value_iff_names_literal (.ofFamily .postgres) rfl "t"
    intro reads
    have literal := (selected ["s", "%"] (.ofPairs [("s", .int 1)]) _ rfl).mp reads "%" (by decide)
    obtain ⟨items, read, _⟩ := literal
    cases read

end SqlTemplate
