import SqlTemplate.Proofs.Handover
import SqlTemplate.Proofs.NamedStatements

/-!
# Operations agree with queries

An operation and the query that names a placeholder for each of its columns ask the connection for
one text with one list of values, and so they come to the same. Only the names of the values differ,
which an error may give: the query names the placeholder where the operation names the column.
-/

namespace SqlTemplate

/-- The error without the parameter or column it names. -/
def Error.anonymous : Error → Error
  | .unbindable value kind _ => .unbindable value kind none
  | .floatRange value _ => .floatRange value none
  | .unsupportedType value _ => .unsupportedType value none
  | .positionBeyond position count _ => .positionBeyond position count none
  | e => e

theorem Error.category_anonymous (e : Error) : e.anonymous.category = e.category := by
  cases e <;> rfl

/-- Results that agree without names are one result, or two errors that do. -/
theorem agree_anonymous_cases {α : Type} {first second : Except Error α}
    (same : first.mapError Error.anonymous = second.mapError Error.anonymous) :
    (∃ a, first = .ok a ∧ second = .ok a) ∨
      ∃ e f, first = .error e ∧ second = .error f ∧ e.anonymous = f.anonymous := by
  cases first with
  | ok a => cases second with
    | ok b =>
      obtain rfl := Except.ok.inj same
      exact .inl ⟨a, rfl, rfl⟩
    | error f => cases same
  | error e => cases second with
    | ok b => cases same
    | error f => exact .inr ⟨e, f, rfl, rfl, Except.error.inj same⟩

theorem mapError_map {α β : Type} (f : α → β) (r : Except Error α) :
    (r.map f).mapError Error.anonymous = (r.mapError Error.anonymous).map f := by
  cases r <;> rfl

section Binding

variable (key : Option String)

theorem Value.classify_anonymous (value : Value) :
    (value.classify key).mapError Error.anonymous = value.classify none := by
  unfold Value.classify
  split
  case h_5 n =>
    by_cases short : Kind.int32.holds n
    · rw [if_pos short, if_pos short]
      rfl
    · rw [if_neg short, if_neg short]
      by_cases long : Kind.int64.holds n
      · rw [if_pos long, if_pos long]
        rfl
      · rw [if_neg long, if_neg long]
        rfl
  all_goals rfl

theorem Tagged.unfit_anonymous (t : Tagged) : (t.unfit key).anonymous = t.unfit none := by
  rw [Tagged.unfit_eq, Tagged.unfit_eq]
  split <;> rfl

theorem Tagged.toDouble_anonymous (t : Tagged) :
    (t.toDouble key).mapError Error.anonymous = t.toDouble none := by
  unfold Tagged.toDouble
  split
  · rfl
  · split <;> rfl
  · exact congrArg Except.error (t.unfit_anonymous key)

theorem Tagged.narrow_anonymous (t : Tagged) :
    (t.narrow key).mapError Error.anonymous = t.narrow none := by
  unfold Tagged.narrow
  split
  · split <;> rfl
  · split <;> rfl
  · exact congrArg Except.error (t.unfit_anonymous key)

theorem Tagged.toSingle_anonymous (t : Tagged) :
    (t.toSingle key).mapError Error.anonymous = t.toSingle none := by
  unfold Tagged.toSingle
  split
  · exact t.narrow_anonymous key
  · rfl

theorem Tagged.convert_anonymous (t : Tagged) :
    (t.convert key).mapError Error.anonymous = t.convert none := by
  have unfit : ∀ t : Tagged,
      (Except.error (t.unfit key) : Except Error Value).mapError Error.anonymous =
        .error (t.unfit none) := fun t => congrArg Except.error (t.unfit_anonymous key)
  refine convert_cases
    (motive := fun _ result => (result key).mapError Error.anonymous = result none)
    ?taken ?ranged ?rounded ?narrowed ?refused t
  case taken => exact fun _ => rfl
  case ranged =>
    intro kind n _
    dsimp only
    split
    · rfl
    · exact unfit _
  case rounded =>
    intro payload
    rw [mapError_map, Tagged.toDouble_anonymous]
  case narrowed =>
    intro payload
    rw [mapError_map, Tagged.toSingle_anonymous]
  case refused => exact fun t _ => unfit t

/-- Under any name a value is bound, or refused, as it is without one. -/
theorem Value.toDriver_anonymous (value : Value) :
    (value.toDriver key).mapError Error.anonymous = value.toDriver none := by
  rw [Value.toDriver, Value.toDriver, ← value.classify_anonymous key]
  cases value.classify key with
  | error e => rfl
  | ok t => exact t.convert_anonymous key

end Binding

/-- Equal values under other names are bound alike, up to the name in the refusal of one of them. -/
theorem driverValues_anonymous {first second : List (String × Value)}
    (same : first.map Prod.snd = second.map Prod.snd) :
    (driverValues first).mapError Error.anonymous =
      (driverValues second).mapError Error.anonymous := by
  induction first generalizing second with
  | nil =>
    rw [List.map_eq_nil_iff.mp same.symm]
  | cons pair rest ih =>
    cases second with
    | nil => cases same
    | cons other others =>
      obtain ⟨name, value⟩ := pair
      obtain ⟨label, _⟩ := other
      obtain ⟨rfl, later⟩ := List.cons.inj same
      have head := (value.toDriver_anonymous (some name)).trans
        (value.toDriver_anonymous (some label)).symm
      rw [driverValues, driverValues, mapM_cons, mapM_cons]
      simp only [driverValue]
      rcases agree_anonymous_cases head with ⟨v, one, two⟩ | ⟨e, f, one, two, agree⟩
      · rw [one, two]
        simp only [mapError_map]
        exact congrArg _ (ih later)
      · rw [one, two]
        exact congrArg Except.error agree

section Calls

variable {α : Type}

/-- Two calls that ask the same of the connection and end alike: with one result, or with errors
that differ at most in the name they give to a value, and so are of one category. -/
structure Alike (first second : Except Error α × Trace) : Prop where
  outcome : first.1.mapError Error.anonymous = second.1.mapError Error.anonymous
  category : first.1.mapError Error.category = second.1.mapError Error.category
  traffic : first.2.traffic = second.2.traffic

theorem Alike.of_outcome {first second : Except Error α × Trace}
    (outcome : first.1.mapError Error.anonymous = second.1.mapError Error.anonymous)
    (traffic : first.2.traffic = second.2.traffic) : Alike first second := by
  have sorted : ∀ ending : Except Error α, ending.mapError Error.category =
      (ending.mapError Error.anonymous).mapError Error.category := by
    intro ending
    cases ending with
    | error e => exact congrArg Except.error e.category_anonymous.symm
    | ok a => rfl
  refine ⟨outcome, ?_, traffic⟩
  rw [sorted first.1, sorted second.1, outcome]

/-- What the log is told of the rows makes no difference. -/
theorem Alike.reported {first second : Except Error (List Row) × Trace}
    (record note : Nat → LogRecord) (alike : Alike first second) :
    Alike (reported record first) (reported note second) := by
  refine .of_outcome ?_ ?_
  · rw [reported_fst, reported_fst]
    exact alike.outcome
  · rw [traffic_reported, traffic_reported]
    exact alike.traffic

/-- Requests for one text with the same values take courses that are alike. -/
theorem course_alike {r s : Request} (connection : r.connection = s.connection)
    (sql : r.sql = s.sql) (values : r.values.map Prod.snd = s.values.map Prod.snd)
    (reading : Reading α) (trace : Trace) :
    Alike (course (.ok r) reading trace) (course (.ok s) reading trace) := by
  have bound := agree_anonymous_cases (driverValues_anonymous values)
  have denial : r.denial trace = s.denial trace := by
    rw [Request.denial, connection, Request.denial]
  have script : r.script trace = s.script trace := by
    rw [Request.script, connection, Request.script]
  refine .of_outcome ?_ ?_
  · simp only [course, Request.outcome, denial, script]
    cases s.denial trace with
    | some raised => rfl
    | none =>
      cases (s.script trace).closeFault with
      | some raised => rfl
      | none =>
        rcases bound with ⟨params, one, two⟩ | ⟨e, f, one, two, agree⟩
        · rw [one, two]
        · rw [one, two]
          exact congrArg Except.error agree
  · have inside : ∀ cursor, (r.execution reading cursor).traffic =
        (s.execution reading cursor).traffic := by
      intro cursor
      rw [Request.traffic_execution, Request.traffic_execution, sql]
      rcases bound with ⟨params, one, two⟩ | ⟨e, f, one, two, agree⟩ <;> rw [one, two]
    rw [course, course, Trace.traffic_append, Trace.traffic_append]
    cases opens : s.denial trace with
    | some raised =>
      rw [Request.traffic_events_denied reading (denial.trans opens),
        Request.traffic_events_denied reading opens]
    | none =>
      rw [Request.traffic_events reading (denial.trans opens), Request.traffic_events reading opens,
        inside, connection]

end Calls

namespace Entries

variable {κ β : Type} [DecidableEq κ]

theorem find?_of_mem {entries : List (κ × β)} (distinct : (keys entries).Nodup) {key : κ}
    {value : β} (member : (key, value) ∈ entries) : find? entries key = some value := by
  induction entries with
  | nil => cases member
  | cons entry rest ih =>
    have apart := List.nodup_cons.mp distinct
    rcases List.mem_cons.mp member with rfl | later
    · rw [find?, if_pos rfl]
    · have other : entry.1 ≠ key := fun same =>
        apart.1 (List.mem_map.mpr ⟨(key, value), later, same.symm⟩)
      rw [find?, if_neg other]
      exact ih apart.2 later

theorem put_of_absent {entries : List (κ × β)} {key : κ} (absent : key ∉ keys entries)
    (value : β) : put entries key value = entries ++ [(key, value)] := by
  induction entries with
  | nil => rfl
  | cons entry rest ih =>
    have apart := not_or.mp (fun found => absent (List.mem_cons.mpr found))
    have other : entry.1 ≠ key := fun same => apart.1 same.symm
    rw [put, if_neg other, ih apart.2]
    rfl

/-- Pairs under new and distinct keys are written one after the other at the end. -/
theorem putAll_of_nodup {entries pairs : List (κ × β)}
    (distinct : (keys (entries ++ pairs)).Nodup) : putAll entries pairs = entries ++ pairs := by
  induction pairs generalizing entries with
  | nil => exact (List.append_nil entries).symm
  | cons pair rest ih =>
    have split : entries ++ pair :: rest = entries ++ [pair] ++ rest := by
      rw [List.append_assoc]
      rfl
    have absent : pair.1 ∉ keys entries := by
      intro found
      rw [keys, List.map_append, List.nodup_append] at distinct
      exact distinct.2.2 pair.1 found pair.1 List.mem_cons_self rfl
    change putAll (put entries pair.1 pair.2) rest = _
    rw [put_of_absent absent, split]
    exact ih (split ▸ distinct)

end Entries

namespace NamedValues

/-- The values under the names of a map are its values in order. -/
theorem map_get_names (values : NamedValues) :
    values.names.map values.get = values.entries.map Prod.snd := by
  rw [names, Entries.keys, List.map_map]
  refine List.map_congr_left fun pair member => ?_
  change (Entries.find? values.entries pair.1).getD .null = pair.2
  rw [Entries.find?_of_mem values.distinct member]
  rfl

end NamedValues

namespace NamedSql

def led (lead : String) (values : NamedValues) : List (String × Value) :=
  values.entries.map fun pair => (lead ++ pair.1, pair.2)

/-- The parameters of an update: what is set and what is compared, each under a lead of its own. -/
def updateParams (values conditions : NamedValues) : NamedValues :=
  .ofPairs (led "v_" values ++ led "w_" conditions)

theorem keys_led (lead : String) (values : NamedValues) :
    Entries.keys (led lead values) = values.names.map (lead ++ ·) := by
  rw [Entries.keys, led, NamedValues.names, Entries.keys, List.map_map, List.map_map]
  rfl

theorem nodup_keys_led (lead : String) (values : NamedValues) :
    (Entries.keys (led lead values)).Nodup := by
  rw [keys_led]
  refine List.pairwise_map.mpr (values.distinct.imp fun apart same => apart ?_)
  exact (String.append_right_inj lead).mp same

/-- A column that is set and one that is compared have two names, the same column included. -/
theorem leads_apart (first second : String) : "v_" ++ first ≠ "w_" ++ second := by
  intro same
  have chars := congrArg String.toList same
  rw [String.toList_append, String.toList_append] at chars
  exact absurd (List.cons.inj chars).1 (by decide)

theorem entries_updateParams (values conditions : NamedValues) :
    (updateParams values conditions).entries = led "v_" values ++ led "w_" conditions := by
  suffices distinct : (Entries.keys ([] ++ (led "v_" values ++ led "w_" conditions))).Nodup from
    Entries.putAll_of_nodup distinct
  rw [List.nil_append, Entries.keys, List.map_append, List.nodup_append]
  refine ⟨nodup_keys_led "v_" values, nodup_keys_led "w_" conditions, ?_⟩
  intro name set other compared same
  subst same
  change name ∈ Entries.keys (led "v_" values) at set
  change name ∈ Entries.keys (led "w_" conditions) at compared
  rw [keys_led] at set compared
  obtain ⟨first, _, rfl⟩ := List.mem_map.mp set
  obtain ⟨second, _, same⟩ := List.mem_map.mp compared
  exact leads_apart first second same.symm

/-- Looked up by its names, an update has its values first and those of its conditions after them.
-/
theorem map_get_updateParams (values conditions : NamedValues) :
    (values.names.map ("v_" ++ ·) ++ conditions.names.map ("w_" ++ ·)).map
        (updateParams values conditions).get =
      (values.entries ++ conditions.entries).map Prod.snd := by
  have names : (updateParams values conditions).names =
      values.names.map ("v_" ++ ·) ++ conditions.names.map ("w_" ++ ·) := by
    rw [NamedValues.names, entries_updateParams, Entries.keys, List.map_append, ← keys_led,
      ← keys_led]
    rfl
  have bare : ∀ (lead : String) (map : NamedValues),
      (led lead map).map Prod.snd = map.entries.map Prod.snd := by
    intro lead map
    rw [led, List.map_map]
    rfl
  rw [← names, NamedValues.map_get_names, entries_updateParams, List.map_append, List.map_append,
    bare, bare]

end NamedSql

/-- An operation and a query ask for the same if the text of the query, which has no blocks, is
rewritten to that of the operation, and its names stand for the values of the operation in order. -/
theorem requests_alike {α : Type} {table : Table} {loaded : LoadedModules} {target : Target}
    {style : MarkerStyle}
    (styled : (target.resolve loaded table.dialect).dialect.style? = some style)
    {sql : Dialect → Except Error String} {values : List (String × Value)} {template : String}
    {names : List String} {result : Nat → String} {params : NamedValues}
    (rewrites : Rewrites style template names result)
    (built : sql (target.resolve loaded table.dialect).dialect = .ok (result 0))
    (bound : values.map Prod.snd = names.map params.get) (reading : Reading α) (trace : Trace) :
    Alike (course (table.request loaded target sql values) reading trace)
      (course (Query.request { template, dialect := table.dialect } loaded target params) reading
        trace) := by
  have rendered : Query.render { template, dialect := table.dialect } params = template :=
    rewrites.render params
  have rewritten := rewrites.rewrite styled
  rw [Table.request, Query.request, rendered]
  simp only
  generalize target.resolve loaded table.dialect = db at built rewritten ⊢
  rw [built, rewritten, rewrites.names]
  cases db.usable with
  | error e => exact .of_outcome rfl rfl
  | ok connection =>
    let asked : Request :=
      ⟨connection, result 0, .preparingPositional (result 0), values⟩
    let other : Request :=
      ⟨connection, result 0, .preparing (result 0) names.length,
        names.map fun name => (name, params.get name)⟩
    have same : asked.values.map Prod.snd = other.values.map Prod.snd := by
      rw [show asked.values.map Prod.snd = _ from bound, List.map_map]
      rfl
    exact course_alike (r := asked) (s := other) rfl rfl same reading trace

/-- An operation on a table comes to the same as the query that names a placeholder for each of its
columns, in any dialect of a known style and on any target: both hand over the same text and
parameters to the cursors they open and close, and end alike. -/
theorem operations_agree_with_named_queries (table : Table) (loaded : LoadedModules)
    (target : Target) (trace : Trace) (style : MarkerStyle)
    (styled : (target.resolve loaded table.dialect).dialect.style? = some style)
    (plain : Plain table.name) :
    let query := fun template : String => ({ template, dialect := table.dialect } : Query)
    let named := fun columns : List String => ∀ column ∈ columns, IsName column
    (∀ values : NamedValues, values.names ≠ [] → named values.names →
      Alike ((table.insert loaded target values).after trace)
        (((query (NamedSql.insert table.name values.names)).update loaded target values).after
          trace)) ∧
    (∀ values conditions : NamedValues, values.names ≠ [] → conditions.names ≠ [] →
      named values.names → named conditions.names →
      Alike ((table.update loaded target values conditions).after trace)
        (((query (NamedSql.update table.name values.names conditions.names)).update loaded target
          (NamedSql.updateParams values conditions)).after trace)) ∧
    (∀ conditions : NamedValues, conditions.names ≠ [] → named conditions.names →
      Alike ((table.delete loaded target conditions).after trace)
        (((query (NamedSql.delete table.name conditions.names)).update loaded target
          conditions).after trace)) ∧
    ∀ (columns : Columns) (conditions : NamedValues), named columns.names → named conditions.names →
      Alike ((table.select loaded target columns conditions).after trace)
        (((query (NamedSql.select table.name columns.names conditions.names)).rows loaded target
          conditions).after trace) := by
  intro query named
  refine ⟨?_, ?_, ?_, ?_⟩
  · intro values some_ names
    have built := TableSql.insert_of_style styled table.name some_
    rw [Table.after_insert, Query.after_update]
    exact requests_alike styled (NamedSql.insert_rewrites plain names) built
      values.map_get_names.symm .count trace
  · intro values conditions some_ limited names compared
    have built := TableSql.update_of_style styled table.name some_ limited
    rw [← Nat.zero_add values.names.length] at built
    rw [Table.after_update, Query.after_update]
    exact requests_alike styled (NamedSql.update_rewrites plain names compared) built
      (NamedSql.map_get_updateParams values conditions).symm .count trace
  · intro conditions limited compared
    have built := TableSql.delete_of_style styled table.name limited
    rw [Table.after_delete, Query.after_update]
    exact requests_alike styled (NamedSql.delete_rewrites plain compared) built
      conditions.map_get_names.symm .count trace
  · intro columns conditions listed compared
    have built := TableSql.select_of_style styled table.name columns.names conditions.names
    rw [Table.after_select, Query.after_rows]
    exact (requests_alike styled (NamedSql.select_rewrites plain listed compared) built
      conditions.map_get_names.symm .rows trace).reported _ _

/-- A column that is set and compared has a name for either use. -/
theorem update_agrees_with_named_query :
    let numeric : Option Dialect := some (.ofFamily .numeric)
    let target : Target := .connection (some { module := "oracledb" })
    let values : NamedValues := .ofPairs [("a", .int 1), ("b", .null)]
    let conditions : NamedValues := .ofPairs [("a", .text ":v_a")]
    Alike
      ((Table.update { name := "t", dialect := numeric } [] target values conditions).after [])
      ((Query.update
        { template := "UPDATE t SET a = :v_a, b = :v_b WHERE a = :w_a", dialect := numeric }
        [] target (NamedSql.updateParams values conditions)).after []) := by
  intro numeric target values conditions
  obtain ⟨_, updates, _⟩ := operations_agree_with_named_queries
    { name := "t", dialect := numeric } [] target [] .numbered rfl (by decide)
  have text : NamedSql.update "t" values.names conditions.names =
      "UPDATE t SET a = :v_a, b = :v_b WHERE a = :w_a" := by decide +kernel
  rw [← text]
  exact updates values conditions (by decide +kernel) (by decide +kernel) (by decide +kernel)
    (by decide +kernel)

end SqlTemplate
