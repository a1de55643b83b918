import SqlTemplate.Connection.Row
import SqlTemplate.Proofs.Conversions

/-!
# Where errors come from

A conversion fails for one of five causes and the reading of rows for one of seven. None of them is
about a slot of a statement.
-/

namespace SqlTemplate

/-- The error says that a slot holds nothing or does not exist. -/
def Error.IsAboutSlot : Error → Prop
  | .unbound _ | .positionBeyond _ _ _ => True
  | _ => False

theorem mapM_cons {α β : Type} (f : α → Except Error β) (item : α) (rest : List α) :
    (item :: rest).mapM f =
      match f item with
      | .ok value => (rest.mapM f).map (value :: ·)
      | .error e => .error e := by
  rw [List.mapM_cons]
  cases f item with
  | error e => rfl
  | ok value =>
    change (rest.mapM f >>= fun values => pure (value :: values)) = _
    cases rest.mapM f <;> rfl

/-- All of a list succeeds where each item does. -/
theorem mapM_eq_ok_iff {α β : Type} {f : α → Except Error β} {items : List α} {values : List β} :
    items.mapM f = .ok values ↔ items.map f = values.map .ok := by
  induction items generalizing values with
  | nil =>
    constructor
    · intro h
      cases h
      rfl
    · intro h
      rw [List.map_eq_nil_iff.mp h.symm]
      rfl
  | cons item rest ih =>
    rw [mapM_cons, List.map_cons]
    cases values with
    | nil => cases f item <;> cases rest.mapM f <;> simp [Except.map]
    | cons value more =>
      rw [List.map_cons, List.cons.injEq, ← ih]
      cases f item <;> cases rest.mapM f <;> simp [Except.map]

/-- A list fails as the first of its items that does. -/
theorem mapM_eq_error_iff {α β : Type} {f : α → Except Error β} {items : List α} {e : Error} :
    items.mapM f = .error e ↔
      ∃ (before : List β) (rest : List (Except Error β)),
        items.map f = before.map .ok ++ .error e :: rest := by
  induction items with
  | nil =>
    constructor
    · intro h
      cases h
    · rintro ⟨before, rest, split⟩
      simp at split
  | cons item rest ih =>
    rw [mapM_cons, List.map_cons]
    cases first : f item with
    | error reason =>
      constructor
      · intro h
        cases h
        exact ⟨[], rest.map f, rfl⟩
      · rintro ⟨before, after, split⟩
        cases before with
        | nil => exact congrArg Except.error (Except.error.inj (List.cons.inj split).1)
        | cons value before => cases (List.cons.inj split).1
    | ok value =>
      constructor
      · intro h
        obtain ⟨before, after, split⟩ := ih.mp (error_of_map h)
        exact ⟨value :: before, after, by rw [split]; rfl⟩
      · rintro ⟨before, after, split⟩
        cases before with
        | nil => cases (List.cons.inj split).1
        | cons other before =>
          have later := ih.mpr ⟨before, after, (List.cons.inj split).2⟩
          simp only [later]
          rfl

theorem exists_error_of_mapM {α β : Type} {f : α → Except Error β} {items : List α} {e : Error}
    (fails : items.mapM f = .error e) : ∃ item ∈ items, f item = .error e := by
  obtain ⟨before, rest, split⟩ := mapM_eq_error_iff.mp fails
  have member : Except.error e ∈ items.map f := by
    rw [split]
    exact List.mem_append_right _ List.mem_cons_self
  exact List.mem_map.mp member

theorem Value.classify_refusal {value : Value} {key : Option String} {e : Error}
    (fails : value.classify key = .error e) : e = .unsupportedType value key := by
  unfold Value.classify at fails
  split at fails
  case h_5 n =>
    split at fails
    · cases fails
    · split at fails
      · cases fails
      · exact (Except.error.inj fails).symm
  all_goals
    cases fails
    try rfl

/-- A value without a driver value has no kind, or its conversion fails. -/
theorem Value.toDriver_refusal {value : Value} {key : Option String} {e : Error}
    (fails : value.toDriver key = .error e) :
    e = .unsupportedType value key ∨ ∃ t : Tagged, e.OfConversion t key := by
  rw [Value.toDriver] at fails
  cases classified : value.classify key with
  | error reason =>
    rw [classified] at fails
    cases fails
    exact .inl (Value.classify_refusal classified)
  | ok t =>
    rw [classified] at fails
    exact .inr ⟨t, Tagged.convert_refusal fails⟩

theorem Value.toDriver_not_aboutSlot {value : Value} {key : Option String} {e : Error}
    (fails : value.toDriver key = .error e) : ¬ e.IsAboutSlot := by
  rcases Value.toDriver_refusal fails with rfl | ⟨t, conversion⟩
  · exact id
  · cases conversion <;> exact id

theorem Value.firstItem_not_aboutSlot {entry : Value} {e : Error}
    (fails : entry.firstItem = .error e) : ¬ e.IsAboutSlot := by
  unfold Value.firstItem at fails
  repeat' split at fails
  all_goals
    cases fails
    try exact id

theorem Value.columnLabel_eq_ok_iff {entry : Value} {label : String} :
    entry.columnLabel = .ok label ↔
      ∃ item, entry.firstItem = .ok item ∧ item.isWritable = true ∧ item.label = label := by
  unfold columnLabel
  cases entry.firstItem with
  | error e => simp [bind, Except.bind]
  | ok item => cases writable : item.isWritable <;>
      simp [bind, Except.bind, pure, Except.pure, throw, throwThe, MonadExceptOf.throw, writable]

/-- A column has no label where its entry has no first item, or one too long to be written. -/
theorem Value.columnLabel_refusal {entry : Value} {e : Error}
    (fails : entry.columnLabel = .error e) :
    entry.firstItem = .error e ∨ e = .integerTooLong := by
  unfold columnLabel at fails
  cases first : entry.firstItem with
  | error reason =>
    rw [first] at fails
    cases fails
    exact .inl rfl
  | ok item =>
    rw [first] at fails
    change (if item.isWritable then .ok item.label else .error .integerTooLong) =
      (.error e : Except Error String) at fails
    split at fails
    · cases fails
    · cases fails
      exact .inr rfl

theorem Value.columnLabel_not_aboutSlot {entry : Value} {e : Error}
    (fails : entry.columnLabel = .error e) : ¬ e.IsAboutSlot := by
  rcases Value.columnLabel_refusal fails with refused | rfl
  · exact Value.firstItem_not_aboutSlot refused
  · exact id

theorem Row.ofValue_not_aboutSlot {labels : List String} {row : Value} {e : Error}
    (fails : Row.ofValue labels row = .error e) : ¬ e.IsAboutSlot := by
  unfold Row.ofValue at fails
  repeat' split at fails
  all_goals
    cases fails
    try exact id

/-- The labels, the fetching and the rows can fail, but never for want of a slot. -/
theorem CursorScript.mapRows_not_aboutSlot {script : CursorScript} {e : Error}
    (fails : script.mapRows = .error e) : ¬ e.IsAboutSlot := by
  rw [CursorScript.mapRows] at fails
  cases labelled : script.labels with
  | error reason =>
    rw [labelled] at fails
    cases fails
    obtain ⟨entry, _, refused⟩ := exists_error_of_mapM labelled
    exact Value.columnLabel_not_aboutSlot refused
  | ok labels =>
    rw [labelled] at fails
    change (if labels.isEmpty then pure [] else
      script.fetch >>= fun rows => rows.mapM (Row.ofValue labels)) = .error e at fails
    split at fails
    · cases fails
    · cases fetched : script.fetch with
      | error reason =>
        rw [fetched] at fails
        cases fails
        unfold CursorScript.fetch at fetched
        split at fetched
        · cases fetched
          exact id
        · cases fetched
      | ok rows =>
        rw [fetched] at fails
        obtain ⟨row, _, refused⟩ := exists_error_of_mapM (show rows.mapM _ = _ from fails)
        exact Row.ofValue_not_aboutSlot refused

end SqlTemplate
