import SqlTemplate.Proofs.Scanning
import SqlTemplate.Proofs.TableBinding

/-!
# Operations as queries with named placeholders

Each operation on a table can be written as a query whose text has a placeholder where the
operation has a marker. Rewriting that text gives the text of the operation, its placeholders stand
in the order of the operation's values, and so the two calls ask the same of the connection. They
come to the same end as well, except that an error may name the placeholder where the operation
names the column. -/

namespace SqlTemplate

/-- The text has nothing in it that templates or drivers give a meaning to. -/
def Plain (text : String) : Prop := '[' ∉ text.toList ∧ ':' ∉ text.toList ∧ '%' ∉ text.toList

instance (text : String) : Decidable (Plain text) :=
  inferInstanceAs (Decidable (_ ∧ _ ∧ _))

def IsName (text : String) : Prop := text.toList ≠ [] ∧ ∀ c ∈ text.toList, Text.isWord c = true

instance (text : String) : Decidable (IsName text) :=
  decidable_of_iff (text.toList ≠ [] ∧ text.toList.all Text.isWord = true)
    (and_congr Iff.rfl List.all_eq_true)

theorem IsName.plain {text : String} (name : IsName text) : Plain text := by
  have absent : ∀ c, Text.isWord c = false → c ∉ text.toList := by
    intro c apart member
    rw [name.2 c member] at apart
    cases apart
  exact ⟨absent '[' (by decide), absent ':' (by decide), absent '%' (by decide)⟩

theorem IsName.append {first second : String} (word : IsName first) (name : IsName second) :
    IsName (first ++ second) := by
  constructor
  · rw [String.toList_append]
    exact fun none_ => word.1 (List.append_eq_nil_iff.mp none_).1
  · rw [String.toList_append]
    exact List.forall_mem_append.mpr ⟨word.2, name.2⟩

theorem Plain.append {first second : String} (plain : Plain first) (also : Plain second) :
    Plain (first ++ second) := by
  rw [Plain, String.toList_append]
  simp only [List.mem_append, not_or]
  exact ⟨⟨plain.1, also.1⟩, ⟨plain.2.1, also.2.1⟩, ⟨plain.2.2, also.2.2⟩⟩

theorem Plain.intercalate {separator : String} (plain : Plain separator) {parts : List String}
    (each : ∀ part ∈ parts, Plain part) : Plain (separator.intercalate parts) := by
  induction parts with
  | nil =>
    rw [String.intercalate_nil]
    decide
  | cons first rest ih =>
    have head := each first List.mem_cons_self
    have tail := ih fun part member => each part (List.mem_cons_of_mem first member)
    cases rest with
    | nil => rwa [String.intercalate_singleton]
    | cons second rest =>
      rw [String.intercalate_cons_cons]
      exact (head.append plain).append tail

/-- What holds no opening bracket is cut into single characters. -/
theorem Template.pieces_of_unblocked {text : List Char} (unblocked : '[' ∉ text) :
    pieces text = text.map .literal := by
  induction text with
  | nil => rw [pieces, List.map_nil]
  | cons c rest ih =>
    rw [List.mem_cons, not_or] at unblocked
    have none_ : Block.atStart? (c :: rest) = none := by
      unfold Block.atStart?
      split
      · next opened => exact absurd (List.cons.inj opened).1.symm unblocked.1
      · rfl
    rw [pieces, none_, ih unblocked.2, List.map_cons]

/-- Of numbered texts that are joined the first stands before the separator, and the numbers of the
others begin one later. -/
theorem intercalate_mapIdx_cons (separator : String) (result : String → Nat → String)
    (column : String) {rest : List String} (more : rest ≠ []) (before : Nat) :
    separator.intercalate ((column :: rest).mapIdx fun i other => result other (before + i)) =
      result column before ++ (separator ++ separator.intercalate
        (rest.mapIdx fun i other => result other (before + 1 + i))) := by
  have shift : (fun i other => result other (before + (i + 1))) =
      fun i other => result other (before + 1 + i) := by
    funext i other
    rw [Nat.add_assoc, Nat.add_comm 1 i]
  have results : rest.mapIdx (fun i other => result other (before + 1 + i)) ≠ [] :=
    fun none_ => more (List.mapIdx_eq_nil_iff.mp none_)
  rw [List.mapIdx_cons]
  change separator.intercalate (result column before ::
    rest.mapIdx fun i other => result other (before + (i + 1))) = _
  rw [shift, String.intercalate_cons_of_ne_nil results, String.append_assoc]

/-- A text without blocks, the names of its placeholders in order, and what it is rewritten to in a
style when a given number of slots comes before its own. -/
structure Rewrites (style : MarkerStyle) (text : String) (names : List String)
    (result : Nat → String) : Prop where
  unblocked : '[' ∉ text.toList
  names : Template.placeholders text = names
  written : ∀ before, style.written (before + 1) (Template.tokens text.toList) =
    (result before).toList

namespace Rewrites

variable {style : MarkerStyle}

theorem of_plain {text : String} (plain : Plain text) : Rewrites style text [] fun _ => text := by
  obtain ⟨unblocked, noColon, noPercent⟩ := plain
  refine ⟨unblocked, ?_, fun before => ?_⟩
  · have none_ : (Template.tokens text.toList).filterMap Template.Token.name? = [] := by
      rw [Template.tokens_plain noColon, List.filterMap_map]
      exact List.filterMap_eq_nil_iff.mpr fun c _ => rfl
    rw [Template.placeholders, none_, List.map_nil]
  · rw [Template.tokens_plain noColon, MarkerStyle.written, Template.written_literal]
    have same : ∀ c ∈ text.toList, style.escaped c = [c] := fun c member =>
      MarkerStyle.escaped_of_ne (fun percent => noPercent (percent ▸ member)) style
    rw [List.flatMap_def, List.map_congr_left same, ← List.flatMap_def, List.flatMap_singleton']

theorem of_placeholder {name : String} (isName : IsName name) :
    Rewrites style (":" ++ name) [name] fun before => style.marker (before + 1 : Nat) := by
  have token : Template.tokens (":" ++ name).toList = [.placeholder name.toList] := by
    rw [String.toList_append]
    exact Template.tokens_placeholder isName.1 isName.2
  refine ⟨?_, ?_, fun before => ?_⟩
  · have colon : '[' ∉ ":".toList := by decide
    rw [String.toList_append, List.mem_append, not_or]
    exact ⟨colon, isName.plain.1⟩
  · rw [Template.placeholders, token]
    exact congrArg (fun text => [text]) String.ofList_toList
  · rw [token]
    exact List.append_nil _

/-- Parts are rewritten one after the other, if no name goes across the cut between them. -/
theorem append {first second : String} {names more : List String} {result after : Nat → String}
    (rewrites : Rewrites style first names result) (then_ : Rewrites style second more after)
    (cut : Template.tokens (first ++ second).toList =
      Template.tokens first.toList ++ Template.tokens second.toList) :
    Rewrites style (first ++ second) (names ++ more)
      fun before => result before ++ after (before + names.length) := by
  have slots : Template.slots (Template.tokens first.toList) = names.length := by
    rw [← rewrites.names, Template.placeholders, List.length_map]
    rfl
  refine ⟨?_, ?_, fun before => ?_⟩
  · rw [String.toList_append, List.mem_append, not_or]
    exact ⟨rewrites.unblocked, then_.unblocked⟩
  · rw [Template.placeholders, cut, List.filterMap_append, List.map_append, ← rewrites.names,
      ← then_.names]
    rfl
  · have shift : before + 1 + names.length = before + names.length + 1 := by omega
    rw [cut, MarkerStyle.written, Template.written_append, slots, shift, String.toList_append,
      ← rewrites.written before, ← then_.written (before + names.length)]
    rfl

theorem append_of_boundary {first second : String} {names more : List String}
    {result after : Nat → String} (rewrites : Rewrites style first names result)
    (then_ : Rewrites style second more after) (ends : Template.Boundary second.toList) :
    Rewrites style (first ++ second) (names ++ more)
      fun before => result before ++ after (before + names.length) := by
  refine rewrites.append then_ ?_
  rw [String.toList_append, Template.tokens_append ends]

theorem plain_append {first second : String} {names : List String} {result : Nat → String}
    (plain : Plain first) (then_ : Rewrites style second names result) :
    Rewrites style (first ++ second) names fun before => first ++ result before := by
  refine (of_plain plain).append then_ ?_
  rw [String.toList_append, Template.tokens_plain_append plain.2.1, Template.tokens_plain plain.2.1]

section Joined

variable {separator : String} (plain : Plain separator)
  (apart : ∃ c ∈ separator.toList.head?, Text.isWord c = false)

include apart in
theorem boundary_of_separator (rest : String) :
    Template.Boundary (separator ++ rest).toList := by
  obtain ⟨c, first, other⟩ := apart
  intro head starts
  rw [String.toList_append, List.head?_append, first, Option.some_or, Option.mem_some_iff] at starts
  exact starts ▸ other

include plain apart in
/-- Parts with one placeholder each are rewritten with markers that count on. -/
theorem joined {text name : String → String} {result : String → Nat → String}
    {columns : List String}
    (each : ∀ column ∈ columns, Rewrites style (text column) [name column] (result column)) :
    Rewrites style (separator.intercalate (columns.map text)) (columns.map name) fun before =>
      separator.intercalate (columns.mapIdx fun i column => result column (before + i)) := by
  induction columns with
  | nil =>
    have empty : Rewrites style "" [] fun _ => "" := of_plain (by decide)
    exact empty
  | cons column rest ih =>
    have head := each column List.mem_cons_self
    by_cases last : rest = []
    · subst last
      exact head
    · have tail := ih fun other member => each other (List.mem_cons_of_mem column member)
      have both := head.append_of_boundary (plain_append plain tail) (boundary_of_separator apart _)
      have texts : rest.map text ≠ [] := fun none_ => last (List.map_eq_nil_iff.mp none_)
      have counted := intercalate_mapIdx_cons separator result column last
      rw [List.map_cons, List.map_cons, String.intercalate_cons_of_ne_nil texts,
        String.append_assoc, funext counted]
      exact both

end Joined

/-- In a dialect of the style the whole text is rewritten, with no slot before it. -/
theorem rewrite {text : String} {names : List String} {result : Nat → String}
    (rewrites : Rewrites style text names result) {d : Dialect} (styled : d.style? = some style) :
    d.rewrite text = .ok (result 0) := by
  rw [Dialect.rewrite_of_style styled, rewrites.written 0, String.ofList_toList]

/-- A text without blocks is its own rendering. -/
theorem render {text : String} {names : List String} {result : Nat → String}
    (rewrites : Rewrites style text names result) (params : NamedValues) :
    Template.render text params = text := by
  rw [Template.render, Template.pieces_of_unblocked rewrites.unblocked, List.flatMap_map]
  have same : text.toList.flatMap (fun c => Template.Piece.rendered params (.literal c)) =
      text.toList := List.flatMap_singleton' _
  rw [same, String.ofList_toList]

end Rewrites

theorem TableSql.marked_eq_mapIdx (style : MarkerStyle) (start : Nat) (columns : List String) :
    marked style start columns.length =
      columns.mapIdx fun i _ => style.marker (start + i + 1 : Nat) := by
  refine List.ext_getElem ?_ fun i inside within => ?_
  · rw [marked, List.length_map, List.length_range, List.length_mapIdx]
  · simp only [marked, List.getElem_map, List.getElem_range, List.getElem_mapIdx]

namespace NamedSql

def equated (lead : String) (columns : List String) : List String :=
  columns.map fun column => column ++ " = " ++ (":" ++ (lead ++ column))

def whereClause (lead : String) (conditions : List String) : String :=
  " WHERE " ++ " AND ".intercalate (equated lead conditions)

def insert (table : String) (columns : List String) : String :=
  "INSERT INTO " ++ table ++ " (" ++ ", ".intercalate columns ++ ") VALUES (" ++
    ", ".intercalate (columns.map (":" ++ ·)) ++ ")"

/-- The lead of a name says whether its value is set or compared. -/
def update (table : String) (columns conditions : List String) : String :=
  "UPDATE " ++ table ++ " SET " ++ ", ".intercalate (equated "v_" columns) ++
    whereClause "w_" conditions

def delete (table : String) (conditions : List String) : String :=
  "DELETE FROM " ++ table ++ whereClause "" conditions

def select (table : String) (columns conditions : List String) : String :=
  "SELECT " ++ (if columns = [] then "*" else ", ".intercalate columns) ++ " FROM " ++ table ++
    (if conditions = [] then "" else whereClause "" conditions)

section Rewritten

variable {style : MarkerStyle} {table : String} (plain : Plain table)

/-- Equations are rewritten to the equations of the operation. -/
theorem equated_rewrites {separator lead : String} (between : Plain separator)
    (apart : ∃ c ∈ separator.toList.head?, Text.isWord c = false)
    {columns : List String} (named : ∀ column ∈ columns, IsName column)
    (leading : ∀ column, IsName column → IsName (lead ++ column)) :
    Rewrites style (separator.intercalate (equated lead columns)) (columns.map (lead ++ ·))
      fun before => separator.intercalate (TableSql.equated style before columns) := by
  have each : ∀ column ∈ columns, Rewrites style (column ++ " = " ++ (":" ++ (lead ++ column)))
      [lead ++ column] fun before => column ++ " = " ++ style.marker (before + 1 : Nat) := by
    intro column member
    have isName := named column member
    exact .plain_append (isName.plain.append (by decide)) (.of_placeholder (leading column isName))
  exact Rewrites.joined between apart each

theorem whereClause_rewrites (style : MarkerStyle) {lead : String} {conditions : List String}
    (named : ∀ column ∈ conditions, IsName column)
    (leading : ∀ column, IsName column → IsName (lead ++ column)) :
    Rewrites style (whereClause lead conditions) (conditions.map (lead ++ ·)) fun before =>
      " WHERE " ++ " AND ".intercalate (TableSql.equated style before conditions) :=
  .plain_append (by decide) (equated_rewrites (by decide) ⟨' ', rfl, by decide⟩ named leading)

theorem boundary_whereClause (lead : String) (conditions : List String) :
    Template.Boundary (whereClause lead conditions).toList :=
  Rewrites.boundary_of_separator ⟨' ', rfl, by decide⟩ _

theorem leading_none (column : String) (isName : IsName column) : IsName ("" ++ column) := by
  rwa [String.empty_append]

theorem map_leading_none (columns : List String) : columns.map ("" ++ ·) = columns := by
  simp only [String.empty_append, List.map_id']

include plain

theorem insert_rewrites {columns : List String} (named : ∀ column ∈ columns, IsName column) :
    Rewrites style (insert table columns) columns fun before =>
      "INSERT INTO " ++ table ++ " (" ++ ", ".intercalate columns ++ ") VALUES (" ++
        ", ".intercalate (TableSql.marked style before columns.length) ++ ")" := by
  have listed : Plain (", ".intercalate columns) :=
    Plain.intercalate (by decide) fun column member => (named column member).plain
  have start :
      Plain ("INSERT INTO " ++ table ++ " (" ++ ", ".intercalate columns ++ ") VALUES (") :=
    ((((by decide : Plain "INSERT INTO ").append plain).append (by decide)).append listed).append
      (by decide)
  have each : ∀ column ∈ columns, Rewrites style (":" ++ column) [column]
      fun before => style.marker (before + 1 : Nat) :=
    fun column member => .of_placeholder (named column member)
  have marks := Rewrites.joined (by decide : Plain ", ") ⟨',', rfl, by decide⟩ each
  rw [List.map_id'] at marks
  have closed : Rewrites style ")" [] fun _ => ")" := .of_plain (by decide)
  have whole := (marks.plain_append start).append_of_boundary closed
    (Template.boundary_cons (by decide) [])
  rw [List.append_nil] at whole
  simp only [TableSql.marked_eq_mapIdx]
  exact whole

theorem update_rewrites {columns conditions : List String}
    (named : ∀ column ∈ columns, IsName column) (compared : ∀ column ∈ conditions, IsName column) :
    Rewrites style (update table columns conditions)
      (columns.map ("v_" ++ ·) ++ conditions.map ("w_" ++ ·)) fun before =>
      "UPDATE " ++ table ++ " SET " ++ ", ".intercalate (TableSql.equated style before columns) ++
        (" WHERE " ++ " AND ".intercalate
          (TableSql.equated style (before + columns.length) conditions)) := by
  have start : Plain ("UPDATE " ++ table ++ " SET ") :=
    ((by decide : Plain "UPDATE ").append plain).append (by decide)
  have set : IsName "v_" := by decide +kernel
  have limit : IsName "w_" := by decide +kernel
  have values : Rewrites style (", ".intercalate (equated "v_" columns)) (columns.map ("v_" ++ ·))
      fun before => ", ".intercalate (TableSql.equated style before columns) :=
    equated_rewrites (by decide) ⟨',', rfl, by decide⟩ named fun _ => set.append
  have filter := whereClause_rewrites style compared fun _ => limit.append
  have whole := (values.plain_append start).append_of_boundary filter
    (boundary_whereClause "w_" conditions)
  rw [List.length_map] at whole
  exact whole

theorem delete_rewrites {conditions : List String} (named : ∀ column ∈ conditions, IsName column) :
    Rewrites style (delete table conditions) conditions fun before =>
      "DELETE FROM " ++ table ++
        (" WHERE " ++ " AND ".intercalate (TableSql.equated style before conditions)) := by
  have start : Plain ("DELETE FROM " ++ table) := (by decide : Plain "DELETE FROM ").append plain
  have filter := whereClause_rewrites style named leading_none
  rw [map_leading_none] at filter
  exact filter.plain_append start

theorem select_rewrites {columns conditions : List String}
    (listed : ∀ column ∈ columns, IsName column) (named : ∀ column ∈ conditions, IsName column) :
    Rewrites style (select table columns conditions) conditions fun before =>
      "SELECT " ++ (if columns = [] then "*" else ", ".intercalate columns) ++ " FROM " ++ table ++
        (if conditions = [] then ""
          else " WHERE " ++ " AND ".intercalate (TableSql.equated style before conditions)) := by
  have shown : Plain (if columns = [] then "*" else ", ".intercalate columns) := by
    split
    · decide
    · exact Plain.intercalate (by decide) fun column member => (listed column member).plain
  have start : Plain ("SELECT " ++ (if columns = [] then "*" else ", ".intercalate columns) ++
      " FROM " ++ table) :=
    (((by decide : Plain "SELECT ").append shown).append (by decide)).append plain
  have filter := whereClause_rewrites style named leading_none
  rw [map_leading_none] at filter
  refine .plain_append start ?_
  by_cases none_ : conditions = []
  · subst none_
    exact .of_plain (by decide)
  · simp only [if_neg none_]
    exact filter

end Rewritten
end NamedSql

end SqlTemplate
