import SqlTemplate.Proofs.Agreement
import SqlTemplate.Proofs.FirstFailure
import Mathlib.Data.List.Forall2

/-!
# Rows of a result, one for one

A result with a description has one row under labels for each row that is fetched, in the same
order, or none at all. A row that is read by position has the labels as keys, each at the place
where it occurs first, with the value of the column where it occurs last. The first row that cannot
be read decides the error, and it is the error of that row alone. -/

namespace SqlTemplate

namespace Entries

variable {κ α : Type} [DecidableEq κ]

def IsLast (pairs : List (κ × α)) (key : κ) (value : α) : Prop :=
  ∃ j : Nat, pairs[j]? = some (key, value) ∧ ∀ i : Nat, j < i → (keys pairs)[i]? ≠ some key

/-- New keys come after the old ones in the order in which they occur first. -/
theorem keys_putAll (entries pairs : List (κ × α)) :
    keys (putAll entries pairs) =
      keys entries ++ ((keys pairs).removeAll (keys entries)).eraseDups := by
  induction pairs generalizing entries with
  | nil =>
    change keys entries = keys entries ++ []
    rw [List.append_nil]
  | cons pair rest ih =>
    -- The pair is written first, so what counts as old for the rest includes its key.
    change keys (putAll (put entries pair.1 pair.2) rest) = _
    rw [ih, keys_put]
    by_cases known : pair.1 ∈ keys entries
    · have dropped : (keys (pair :: rest)).removeAll (keys entries) =
          (keys rest).removeAll (keys entries) := by
        change (pair.1 :: keys rest).removeAll (keys entries) = _
        simp [List.removeAll, known]
      rw [if_pos known, dropped]
    · have kept : (keys (pair :: rest)).removeAll (keys entries) =
          pair.1 :: (keys rest).removeAll (keys entries) := by
        change (pair.1 :: keys rest).removeAll (keys entries) = _
        simp [List.removeAll, known]
      have others : (keys rest).removeAll (keys entries ++ [pair.1]) =
          ((keys rest).removeAll (keys entries)).filter fun key => !key == pair.1 := by
        rw [List.removeAll, List.removeAll, List.filter_filter]
        refine List.filter_congr fun key _ => ?_
        rw [Bool.eq_iff_iff]
        simp [and_comm]
      rw [if_neg known, kept, others, List.eraseDups_cons, List.append_assoc]
      rfl

/-- A value that is found was written last, or was there before and the key was not written. -/
theorem isLast_of_find?_putAll {entries pairs : List (κ × α)} {key : κ} {value : α}
    (found : find? (putAll entries pairs) key = some value) :
    IsLast pairs key value ∨ (find? entries key = some value ∧ key ∉ keys pairs) := by
  induction pairs generalizing entries with
  | nil => exact .inr ⟨found, List.not_mem_nil⟩
  | cons pair rest ih =>
    rcases ih found with ⟨j, written, later⟩ | ⟨before, absent⟩
    · refine .inl ⟨j + 1, written, ?_⟩
      rintro (_ | i) beyond
      · omega
      · exact later i (by omega)
    · rw [find?_put] at before
      by_cases same : pair.1 = key
      · rw [if_pos same] at before
        refine .inl ⟨0, ?_, ?_⟩
        · rw [List.getElem?_cons_zero, ← same, ← Option.some.inj before]
        · rintro (_ | i) beyond again
          · omega
          · exact absent (List.mem_of_getElem? again)
      · rw [if_neg same] at before
        refine .inr ⟨before, fun member => ?_⟩
        rcases List.mem_cons.mp member with first | later
        · exact same first.symm
        · exact absent later

end Entries

namespace Row

/-- The entry has the label as its key and the cell of the last column with this label. -/
def TakesCell (labels : List String) (cells : List Value) (label : String)
    (entry : Value × Value) : Prop :=
  entry.1 = .text label ∧ ∃ j : Nat, labels[j]? = some label ∧ cells[j]? = some entry.2 ∧
    ∀ i : Nat, j < i → labels[i]? ≠ some label

theorem takesCell_unique (labels : List String) (cells : List Value) :
    Relator.RightUnique (TakesCell labels cells) := by
  rintro label ⟨_, value⟩ ⟨_, other⟩ ⟨rfl, j, labelled, taken, last⟩
    ⟨rfl, k, again, also, final⟩
  have same : j = k := by
    rcases Nat.lt_trichotomy j k with below | same | above
    · exact absurd again (last k below)
    · exact same
    · exact absurd labelled (final j above)
  subst k
  exact congrArg (Prod.mk _) (Option.some.inj (taken.symm.trans also))

/-- Cells under labels have each label once, where it occurs first, with its last cell. -/
theorem ofCells_takes {labels : List String} {cells : List Value}
    (wide : cells.length = labels.length) :
    List.Forall₂ (TakesCell labels cells) labels.eraseDups (ofCells labels cells) := by
  have columns : Entries.keys (labels.zip cells) = labels :=
    List.map_fst_zip (Nat.le_of_eq wide.symm)
  have order : Entries.keys (Entries.putAll [] (labels.zip cells)) = labels.eraseDups := by
    rw [Entries.keys_putAll, columns]
    simp [Entries.keys, List.removeAll]
  have none_ : (Entries.keys ([] : List (String × Value))).Nodup := List.nodup_nil
  have distinct := Entries.nodup_keys_putAll none_ (labels.zip cells)
  rw [← order, ofCells, Entries.keys, List.forall₂_map_left_iff, List.forall₂_map_right_iff,
    List.forall₂_same]
  rintro ⟨label, value⟩ member
  refine ⟨rfl, ?_⟩
  have found := Entries.find?_of_mem distinct member
  rcases Entries.isLast_of_find?_putAll found with ⟨j, written, last⟩ | ⟨before, _⟩
  · obtain ⟨labelled, taken⟩ := List.getElem?_zip_eq_some.mp written
    rw [columns] at last
    exact ⟨j, labelled, taken, last⟩
  · cases before

theorem ofCells_eq_iff {labels : List String} {cells : List Value}
    (wide : cells.length = labels.length) {mapped : Row} :
    ofCells labels cells = mapped ↔
      List.Forall₂ (TakesCell labels cells) labels.eraseDups mapped := by
  constructor
  · rintro rfl
    exact ofCells_takes wide
  · intro takes
    exact (takesCell_unique labels cells).forall₂ (ofCells_takes wide) takes

/-- A row that can be read under a number of labels: a mapping, or a sequence of this width whose
items can be asked for by position. -/
inductive Readable (width : Nat) : Value → Prop where
  | mapping (entries : List (Value × Value)) : Readable width (.mapping entries)
  | sequence {row : Value} {cells : List Value} (indexable : row.isIndexable = true)
      (items : row.items? = some cells) (wide : cells.length = width) : Readable width row

/-- What a row is read as: a mapping as itself, a sequence with the last cell of each label. -/
inductive ReadAs (labels : List String) : Value → Row → Prop where
  | mapping (entries : List (Value × Value)) : ReadAs labels (.mapping entries) entries
  | sequence {row : Value} {cells : List Value} {mapped : Row}
      (indexable : row.isIndexable = true) (items : row.items? = some cells)
      (wide : cells.length = labels.length)
      (takes : List.Forall₂ (TakesCell labels cells) labels.eraseDups mapped) :
      ReadAs labels row mapped

theorem ofValue_of_items {labels : List String} {row : Value} {cells : List Value}
    (indexable : row.isIndexable = true) (items : row.items? = some cells)
    (wide : cells.length = labels.length) : ofValue labels row = .ok (ofCells labels cells) := by
  unfold ofValue
  split
  · cases indexable
  · simp only [items, wide, ne_eq, not_true, if_false, indexable, if_true]

theorem ofValue_eq_ok_iff {labels : List String} {row : Value} {mapped : Row} :
    ofValue labels row = .ok mapped ↔ ReadAs labels row mapped := by
  constructor
  · intro read
    unfold ofValue at read
    split at read
    · cases read
      exact .mapping _
    · split at read
      · cases read
      · next cells items =>
        split at read
        · cases read
        · next wide =>
          split at read
          · next indexable =>
            exact .sequence indexable items (not_not.mp wide)
              ((ofCells_eq_iff (not_not.mp wide)).mp (Except.ok.inj read))
          · cases read
  · rintro (_ | ⟨indexable, items, wide, takes⟩)
    · rfl
    · rw [ofValue_of_items indexable items wide, (ofCells_eq_iff wide).mpr takes]

theorem readable_iff_exists_readAs {labels : List String} {row : Value} :
    Readable labels.length row ↔ ∃ mapped, ReadAs labels row mapped := by
  constructor
  · rintro (entries | ⟨indexable, items, wide⟩)
    · exact ⟨entries, .mapping entries⟩
    · exact ⟨_, .sequence indexable items wide (ofCells_takes wide)⟩
  · rintro ⟨mapped, _ | ⟨indexable, items, wide, _⟩⟩
    · exact .mapping mapped
    · exact .sequence indexable items wide

/-- A row that cannot be read has the wrong type. -/
theorem exists_error_of_not_readable {labels : List String} {row : Value}
    (unreadable : ¬ Readable labels.length row) :
    ∃ e, ofValue labels row = .error e ∧ e.category = .badType := by
  cases read : ofValue labels row with
  | ok mapped =>
    exact absurd (readable_iff_exists_readAs.mpr ⟨mapped, ofValue_eq_ok_iff.mp read⟩) unreadable
  | error e => exact ⟨e, rfl, ofValue_category read⟩

end Row

/-- A list succeeds with one value for each of its items, in order. -/
theorem mapM_eq_ok_iff_forall₂ {α β : Type} {f : α → Except Error β} {items : List α}
    {values : List β} :
    items.mapM f = .ok values ↔
      List.Forall₂ (fun item value => f item = .ok value) items values := by
  rw [mapM_eq_ok_iff, ← List.forall₂_eq_eq_eq, List.forall₂_map_left_iff,
    List.forall₂_map_right_iff]

/-- A list succeeds if each of its items does. -/
theorem exists_mapM_eq_ok {α β : Type} {f : α → Except Error β} {items : List α}
    (each : ∀ item ∈ items, ∃ value, f item = .ok value) : ∃ values, items.mapM f = .ok values := by
  cases made : items.mapM f with
  | ok values => exact ⟨values, rfl⟩
  | error e =>
    obtain ⟨item, member, refused⟩ := exists_error_of_mapM made
    obtain ⟨value, succeeds⟩ := each item member
    rw [succeeds] at refused
    cases refused

/-- The label of a column is the text of the first item of its entry. -/
def Value.IsLabelled (entry : Value) (label : String) : Prop :=
  ∃ item, entry.firstItem = .ok item ∧ item.isWritable = true ∧ item.label = label

namespace CursorScript

variable {script : CursorScript} {entries : List Value} {labels : List String}

theorem labels_of_described (described : script.description = some entries)
    (labelled : List.Forall₂ Value.IsLabelled entries labels) : script.labels = .ok labels := by
  rw [CursorScript.labels, described]
  exact mapM_eq_ok_iff_forall₂.mpr (labelled.imp fun _ _ => Value.columnLabel_eq_ok_iff.mpr)

/-- Under labels the rows are read as they are fetched. -/
theorem mapRows_of_labels (known : script.labels = .ok labels) (some_ : labels ≠ [])
    (fetches : script.fetchFault = none) :
    script.mapRows = script.rows.mapM (Row.ofValue labels) := by
  have listed : labels.isEmpty = false := by simpa using some_
  rw [mapRows, known]
  change (if labels.isEmpty then pure [] else
    script.fetch >>= fun rows => rows.mapM (Row.ofValue labels)) = _
  rw [listed, fetch, fetches]
  rfl

/-- Rows that can all be read are all read, in order. -/
theorem exists_mapM_ofValue {rows : List Value}
    (readable : ∀ row ∈ rows, Row.Readable labels.length row) :
    ∃ mapped, rows.mapM (Row.ofValue labels) = .ok mapped := by
  refine exists_mapM_eq_ok fun row member => ?_
  obtain ⟨mapped, read⟩ := Row.readable_iff_exists_readAs.mp (readable row member)
  exact ⟨mapped, Row.ofValue_eq_ok_iff.mpr read⟩

/-- The first row that cannot be read decides the error. -/
theorem mapM_ofValue_of_unreadable {before after : List Value} {row : Value}
    (readable : ∀ earlier ∈ before, Row.Readable labels.length earlier) {e : Error}
    (refused : Row.ofValue labels row = .error e) :
    (before ++ row :: after).mapM (Row.ofValue labels) = .error e := by
  obtain ⟨mapped, read⟩ := exists_mapM_ofValue readable
  refine mapM_eq_error_iff.mpr ⟨mapped, after.map (Row.ofValue labels), ?_⟩
  rw [List.map_append, List.map_cons, mapM_eq_ok_iff.mp read, refused]

end CursorScript

/-- A described result whose rows are fetched is a list of the rows under its labels, one for one
and in order, just in case every row can be read. Otherwise it ends as a result of the first
unreadable row alone would end, in a type error. A result without a description has no rows,
whatever fetching them would come to. -/
theorem rows_mapped_one_for_one (script : CursorScript) :
    (∀ (entries : List Value) (labels : List String), script.description = some entries →
      entries ≠ [] → List.Forall₂ Value.IsLabelled entries labels → script.fetchFault = none →
      (∀ mapped, script.mapRows = .ok mapped ↔
        List.Forall₂ (Row.ReadAs labels) script.rows mapped) ∧
      ((∀ row ∈ script.rows, Row.Readable labels.length row) →
        ∃ mapped, script.mapRows = .ok mapped) ∧
      ∀ (before : List Value) (row : Value) (after : List Value),
        script.rows = before ++ row :: after →
        (∀ earlier ∈ before, Row.Readable labels.length earlier) →
        ¬ Row.Readable labels.length row →
        ∃ e, script.mapRows = .error e ∧ ({ script with rows := [row] }).mapRows = .error e ∧
          e.category = .badType) ∧
    (script.description = none ∨ script.description = some [] → script.mapRows = .ok []) := by
  constructor
  · intro entries labels described some_ labelled fetches
    have known := CursorScript.labels_of_described described labelled
    have wide : labels ≠ [] := by
      rintro rfl
      exact some_ (List.forall₂_nil_right_iff.mp labelled)
    have mapped := CursorScript.mapRows_of_labels known wide fetches
    refine ⟨fun rows => ?_, fun readable => ?_, ?_⟩
    · rw [mapped, mapM_eq_ok_iff_forall₂]
      simp only [Row.ofValue_eq_ok_iff]
    · rw [mapped]
      exact CursorScript.exists_mapM_ofValue readable
    · intro before row after split readable unreadable
      obtain ⟨e, refused, badType⟩ := Row.exists_error_of_not_readable unreadable
      have alone : ({ script with rows := [row] }).mapRows = [row].mapM (Row.ofValue labels) :=
        CursorScript.mapRows_of_labels known wide fetches
      refine ⟨e, ?_, ?_, badType⟩
      · rw [mapped, split]
        exact CursorScript.mapM_ofValue_of_unreadable readable refused
      · rw [alone, mapM_cons, refused]
  · intro undescribed
    have none_ : script.labels = .ok [] := by
      rcases undescribed with none_ | empty
      · rw [CursorScript.labels, none_]
        rfl
      · rw [CursorScript.labels, empty]
        rfl
    rw [CursorScript.mapRows, none_]
    rfl

/-- Labels that agree as texts are one label: it keeps its first place and takes its last cell. A
row of characters is read like any other, and a mapping keeps the keys it has. -/
theorem rows_mapped_one_for_one_repeated :
    ({ description := some [.tuple [.int 1], .tuple [.text "y"], .list [.text "1"]]
       rows := [.text "abc", .mapping [(.null, .int 7)]] } : CursorScript).mapRows =
      .ok [[(.text "1", .text "c"), (.text "y", .text "b")], [(.null, .int 7)]] := by
  obtain ⟨described, _⟩ := rows_mapped_one_for_one
    { description := some [.tuple [.int 1], .tuple [.text "y"], .list [.text "1"]]
      rows := [.text "abc", .mapping [(.null, .int 7)]] }
  obtain ⟨mapped, _, _⟩ := described _ ["1", "y", "1"] rfl (by simp)
    (.cons ⟨_, rfl, by decide +kernel, by decide +kernel⟩
      (.cons ⟨_, rfl, rfl, rfl⟩ (.cons ⟨_, rfl, rfl, rfl⟩ .nil))) rfl
  exact (mapped _).mpr (.cons (Row.ofValue_eq_ok_iff.mp rfl) (.cons (.mapping _) .nil))

end SqlTemplate
