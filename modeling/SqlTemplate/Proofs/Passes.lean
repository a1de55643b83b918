import SqlTemplate.Proofs.Scanning
import SqlTemplate.Proofs.Slots
import SqlTemplate.Session.Reply

/-!
# Binding in passes

A statement can be filled in several passes, each of which begins where the one before it ended. A
pass is told by the attempts it makes to fill a slot, by the number of slots it filled or the
refusal that stopped it, and by the statement it leaves. One pass then another, which is not begun
if the first was stopped, comes to the same as one pass over both, so a text may be cut wherever no
name goes across the cut, and a map of columns at any place. Of the slots a pass touches those that
follow its start, one after the other, and no others. -/

namespace SqlTemplate

structure Pass where
  /-- The attempts to fill a slot, of which only the last can have been refused. -/
  tried : List Assignment
  /-- How many slots were filled, or the refusal. -/
  outcome : Except Error Nat
  statement : Statement

/-- Goes on with a second pass, which is told how many slots were filled, unless the first was
stopped. -/
def Pass.andThen (first : Pass) (second : Statement → Nat → Pass) : Pass :=
  match first.outcome with
  | .ok n =>
    let later := second first.statement n
    { later with tried := first.tried ++ later.tried, outcome := later.outcome.map (n + ·) }
  | .error _ => first

def Pass.after (a : Assignment) (pass : Pass) : Pass where
  tried := a :: pass.tried
  outcome := pass.outcome.map (· + 1)
  statement := pass.statement

theorem Pass.after_andThen (a : Assignment) (first : Pass) (second : Statement → Pass) :
    (first.after a).andThen (fun next _ => second next) =
      (first.andThen fun next _ => second next).after a := by
  obtain ⟨tried, outcome, st⟩ := first
  cases outcome with
  | error e => rfl
  | ok n =>
    simp only [andThen, after, Except.map]
    cases (second st).outcome with
    | error e => rfl
    | ok m =>
      have total : n + 1 + m = n + m + 1 := by omega
      simp only [total, List.cons_append]

namespace Statement

/-- The assignments of a pass up to the first that is refused, and this one too. -/
def tried (st : Statement) : List Assignment → List Assignment
  | [] => []
  | a :: rest =>
    match st.assign a.position a.value (some a.key) with
    | .ok next => a :: next.tried rest
    | .error _ => [a]

def pass (st : Statement) (assignments : List Assignment) : Pass where
  tried := st.tried assignments
  outcome := (st.assignAll assignments).1.map fun _ => assignments.length
  statement := (st.assignAll assignments).2

theorem bindAll_eq_pass (st : Statement) (assignments : List Assignment) :
    st.bindAll assignments =
      ((st.pass assignments).outcome.map .bound, (st.pass assignments).statement) := by
  simp only [bindAll, pass]
  cases (st.assignAll assignments).1 <;> rfl

theorem pass_cons_of_accepted {st next : Statement} {a : Assignment}
    (accepted : st.assign a.position a.value (some a.key) = .ok next) (rest : List Assignment) :
    st.pass (a :: rest) = (next.pass rest).after a := by
  simp only [pass, tried, assignAll, accepted, Pass.after]
  cases (next.assignAll rest).1 <;> rfl

theorem pass_cons_of_refused {st : Statement} {a : Assignment} {e : Error}
    (refused : st.assign a.position a.value (some a.key) = .error e) (rest : List Assignment) :
    st.pass (a :: rest) = ⟨[a], .error e, st⟩ := by
  simp only [pass, tried, assignAll, refused]
  rfl

/-- A pass that was not stopped filled a slot for each assignment. -/
theorem length_of_pass {st : Statement} {assignments : List Assignment} {n : Nat}
    (filled : (st.pass assignments).outcome = .ok n) : n = assignments.length := by
  simp only [pass] at filled
  cases outcome : (st.assignAll assignments).1 with
  | error e =>
    rw [outcome] at filled
    cases filled
  | ok _ =>
    rw [outcome] at filled
    exact (Except.ok.inj filled).symm

/-- A pass over two lists is a pass over the first and then, from the statement it leaves, one over
the second. -/
theorem pass_append (st : Statement) (first second : List Assignment) :
    st.pass (first ++ second) = (st.pass first).andThen fun next _ => next.pass second := by
  induction first generalizing st with
  | nil =>
    change st.pass second = { st.pass second with outcome := (st.pass second).outcome.map (0 + ·) }
    have same : (st.pass second).outcome.map (0 + ·) = (st.pass second).outcome := by
      cases (st.pass second).outcome <;> simp [Except.map]
    rw [same]
  | cons a rest ih =>
    rw [List.cons_append]
    cases tried : st.assign a.position a.value (some a.key) with
    | error e => rw [pass_cons_of_refused tried, pass_cons_of_refused tried, Pass.andThen]
    | ok next =>
      rw [pass_cons_of_accepted tried, pass_cons_of_accepted tried, ih, Pass.after_andThen]

/-- The second pass may be made from the number of slots that the first filled. -/
theorem pass_append_counted (st : Statement) (first : List Assignment)
    (second : Nat → List Assignment) :
    st.pass (first ++ second first.length) =
      (st.pass first).andThen fun next n => next.pass (second n) := by
  rw [pass_append, Pass.andThen, Pass.andThen]
  cases filled : (st.pass first).outcome with
  | error e => rfl
  | ok n => rw [length_of_pass filled]

/-- What is accepted writes its slot, which is one of the slots, and changes nothing else. -/
theorem assign_eq_ok {st next : Statement} {position : Int} {value : Value} {key : Option String}
    (accepted : st.assign position value key = .ok next) :
    1 ≤ position ∧ ∃ converted,
      next = { st with slots := Entries.put st.slots position.toNat converted } := by
  cases written : Attempt.write? st.count ⟨position, value, key⟩ with
  | none =>
    obtain ⟨e, refused, _⟩ := assign_of_no_write written
    rw [accepted] at refused
    cases refused
  | some write =>
    obtain ⟨slot, converted⟩ := write
    obtain ⟨admitted, _, rfl⟩ := Attempt.write?_eq_some_iff.mp written
    rw [assign_of_write written] at accepted
    exact ⟨admitted.1, converted, (Except.ok.inj accepted).symm⟩

end Statement

namespace Assignment

theorem length_number (start : Int) (pairs : List (String × Value)) :
    (number start pairs).length = pairs.length := by
  induction pairs generalizing start with
  | nil => rfl
  | cons pair rest ih => rw [number, List.length_cons, List.length_cons, ih]

/-- Named values take the positions that follow, each under its name. -/
theorem number_eq_mapIdx (start : Int) (pairs : List (String × Value)) :
    number start pairs = pairs.mapIdx fun i pair => ⟨start + i + 1, pair.2, pair.1⟩ := by
  induction pairs generalizing start with
  | nil => rfl
  | cons pair rest ih =>
    have shift : ∀ i : Nat, start + 1 + (i : Int) + 1 = start + ((i + 1 : Nat) : Int) + 1 := by
      intro i
      omega
    rw [number, ih, List.mapIdx_cons]
    simp only [shift, Int.natCast_zero, Int.add_zero]

theorem number_append_counted (start : Int) (first second : List (String × Value)) :
    number start (first ++ second) =
      number start first ++ number (start + (number start first).length) second := by
  rw [number_append, length_number]

end Assignment

/-- The pass, made on a statement, attempts to fill the slots after `start` with named values, one
after the other, up to the first that is refused, and touches no other slot. -/
structure Statement.FillsFrom (st : Statement) (start : Int) (pairs : List (String × Value))
    (pass : Pass) : Prop where
  tried : pass.tried <+: pairs.mapIdx fun i pair => ⟨start + i + 1, pair.2, pair.1⟩
  filled : ∀ n, pass.outcome = .ok n → n = pairs.length ∧ pass.tried.length = n
  stopped : ∀ e, pass.outcome = .error e → ∃ accepted last, pass.tried = accepted ++ [last] ∧
    pass.statement.assign last.position last.value (some last.key) = .error e
  touched : ∀ slot : Nat,
    Entries.find? pass.statement.slots slot ≠ Entries.find? st.slots slot →
      start < slot ∧ slot ≤ start + pass.tried.length
  kept : pass.statement = { st with slots := pass.statement.slots }

/-- An accepted attempt comes before what is attempted from the next slot on. -/
theorem Statement.FillsFrom.after {st next : Statement} {start : Int} {pair : String × Value}
    {rest : List (String × Value)} {pass : Pass}
    (accepted : st.assign (start + 1) pair.2 (some pair.1) = .ok next)
    (later : next.FillsFrom (start + 1) rest pass) :
    st.FillsFrom start (pair :: rest) (pass.after ⟨start + 1, pair.2, pair.1⟩) := by
  obtain ⟨positive, converted, rfl⟩ := Statement.assign_eq_ok accepted
  obtain ⟨tried, filled, stopped, touched, kept⟩ := later
  refine ⟨?_, ?_, ?_, ?_, kept⟩
  · rw [← Assignment.number_eq_mapIdx] at tried ⊢
    exact List.cons_prefix_cons.mpr ⟨rfl, tried⟩
  · intro n all
    cases outcome : pass.outcome with
    | error e =>
      simp only [Pass.after, outcome] at all
      cases all
    | ok m =>
      simp only [Pass.after, outcome] at all
      obtain rfl := Except.ok.inj all
      obtain ⟨same, length⟩ := filled m outcome
      simp only [Pass.after, List.length_cons, same, length, and_self]
  · intro e fails
    obtain ⟨before, last, attempts, refused⟩ := stopped e (error_of_map fails)
    exact ⟨_ :: before, last, congrArg (_ :: ·) attempts, refused⟩
  · intro slot changed
    simp only [Pass.after, List.length_cons] at changed ⊢
    by_cases first : (start + 1).toNat = slot
    · omega
    · have other := Entries.find?_put st.slots (start + 1).toNat slot converted
      rw [if_neg first] at other
      have := touched slot (by rw [other]; exact changed)
      omega

theorem Statement.fillsFrom_pass (st : Statement) (start : Int) (pairs : List (String × Value)) :
    st.FillsFrom start pairs (st.pass (Assignment.number start pairs)) := by
  induction pairs generalizing st start with
  | nil =>
    refine ⟨List.prefix_refl _, ?_, ?_, fun slot changed => absurd rfl changed, rfl⟩
    · intro n filled
      exact ⟨(Except.ok.inj filled).symm, Except.ok.inj filled⟩
    · intro e fails
      cases fails
  | cons pair rest ih =>
    rw [Assignment.number]
    cases attempt : st.assign (start + 1) pair.2 (some pair.1) with
    | ok next =>
      rw [pass_cons_of_accepted attempt]
      exact (ih next (start + 1)).after attempt
    | error e =>
      rw [pass_cons_of_refused attempt]
      refine ⟨?_, ?_, ?_, fun slot changed => absurd rfl changed, rfl⟩
      · rw [← Assignment.number_eq_mapIdx, Assignment.number]
        exact List.cons_prefix_cons.mpr ⟨rfl, List.nil_prefix⟩
      · intro n filled
        cases filled
      · intro reason fails
        cases fails
        exact ⟨[], _, rfl, attempt⟩

theorem Assignment.ofText_append {second : String} (ends : Template.Boundary second.toList)
    (first : String) (params : NamedValues) (start : Int) :
    ofText (first ++ second) params start =
      ofText first params start ++
        ofText second params (start + (ofText first params start).length) := by
  have names : Template.placeholders (first ++ second) =
      Template.placeholders first ++ Template.placeholders second := by
    simp only [Template.placeholders, String.toList_append, Template.tokens_append ends,
      List.filterMap_append, List.map_append]
  rw [ofText, names, List.map_append, number_append_counted]
  rfl

namespace NamedValues

def front (values : NamedValues) (k : Nat) : NamedValues where
  entries := values.entries.take k
  distinct := by
    rw [Entries.keys, List.map_take]
    exact values.distinct.sublist (List.take_sublist k _)

def back (values : NamedValues) (k : Nat) : NamedValues where
  entries := values.entries.drop k
  distinct := by
    rw [Entries.keys, List.map_drop]
    exact values.distinct.sublist (List.drop_sublist k _)

end NamedValues

theorem Assignment.ofColumns_split (columns : NamedValues) (k : Nat) (start : Int) :
    ofColumns columns start =
      ofColumns (columns.front k) start ++
        ofColumns (columns.back k) (start + (ofColumns (columns.front k) start).length) := by
  have entries : columns.entries = (columns.front k).entries ++ (columns.back k).entries :=
    (List.take_append_drop k columns.entries).symm
  rw [ofColumns, entries, number_append_counted]
  rfl

/-- Binding in two passes is binding at once, on any statement, for a text that is cut where no
name goes across the cut and for columns that are cut anywhere: the same attempts are made, the
same refusal stops them at the same place, and the same statement is left. Two maps of columns can
also be bound one after the other, which counts on from the first into the second. A pass fills the
slots after its start, one for each placeholder or column in order, and touches no other. -/
theorem binding_in_passes (st : Statement) (params : NamedValues) (start : Int) :
    (∀ first second : String, Template.Boundary second.toList →
      let whole := Assignment.ofText (first ++ second) params start
      let before := Assignment.ofText first params start
      let behind := fun n : Nat => Assignment.ofText second params (start + n)
      whole = before ++ behind before.length ∧
        st.pass whole = (st.pass before).andThen fun next n => next.pass (behind n)) ∧
    (∀ (columns : NamedValues) (k : Nat),
      let whole := Assignment.ofColumns columns start
      let before := Assignment.ofColumns (columns.front k) start
      let behind := fun n : Nat => Assignment.ofColumns (columns.back k) (start + n)
      whole = before ++ behind before.length ∧
        st.pass whole = (st.pass before).andThen fun next n => next.pass (behind n)) ∧
    (∀ values conditions : NamedValues,
      let before := Assignment.ofColumns values start
      let behind := fun n : Nat => Assignment.ofColumns conditions (start + n)
      st.pass (before ++ behind values.size) =
        (st.pass before).andThen fun next n => next.pass (behind n)) ∧
    (∀ text : String,
      st.FillsFrom start ((Template.placeholders text).map fun name => (name, params.get name))
        (st.pass (Assignment.ofText text params start))) ∧
    (∀ columns : NamedValues,
      st.FillsFrom start columns.entries (st.pass (Assignment.ofColumns columns start))) ∧
    ∀ assignments : List Assignment,
      st.bindAll assignments =
        ((st.pass assignments).outcome.map .bound, (st.pass assignments).statement) := by
  refine ⟨?_, ?_, ?_, fun text => st.fillsFrom_pass start _,
    fun columns => st.fillsFrom_pass start _,
    st.bindAll_eq_pass⟩
  · intro first second ends whole before behind
    have cut : whole = before ++ behind before.length :=
      Assignment.ofText_append ends first params start
    refine ⟨cut, ?_⟩
    rw [cut]
    exact st.pass_append_counted before behind
  · intro columns k whole before behind
    have cut : whole = before ++ behind before.length :=
      Assignment.ofColumns_split columns k start
    refine ⟨cut, ?_⟩
    rw [cut]
    exact st.pass_append_counted before behind
  · intro values conditions before behind
    have size : values.size = before.length := (Assignment.length_number start _).symm
    rw [size]
    exact st.pass_append_counted before behind

/-- A text that is cut before a comma, on a statement with one slot: the second pass is stopped at
the second slot, as the pass over the whole text is, and the first slot stays filled. -/
theorem binding_in_passes_halfway :
    let st : Statement := { cursor := ⟨0, {}⟩, sql := "VALUES (?)", count := some 1 }
    let params : NamedValues := .ofPairs [("a", .int 1), ("b", .int 2)]
    Template.Boundary ", :b".toList ∧
      st.pass (Assignment.ofText (":a" ++ ", :b") params 0) =
        ((st.pass (Assignment.ofText ":a" params 0)).andThen fun next n =>
          next.pass (Assignment.ofText ", :b" params (0 + n))) ∧
      (st.pass (Assignment.ofText (":a" ++ ", :b") params 0)).statement.slots = [(1, .int 1)] ∧
      (st.pass (Assignment.ofText (":a" ++ ", :b") params 0)).outcome =
        .error (.positionBeyond 2 1 (some "b")) := by
  intro st params
  have ends : Template.Boundary ", :b".toList := Template.boundary_cons (by decide) _
  obtain ⟨texts, _⟩ := binding_in_passes st params 0
  have cut := (texts ":a" ", :b" ends).2
  refine ⟨ends, cut, ?_, ?_⟩
  · have names : Template.placeholders (":a" ++ ", :b") = ["a", "b"] := by decide +kernel
    rw [Assignment.ofText, names]
    rfl
  · have names : Template.placeholders (":a" ++ ", :b") = ["a", "b"] := by decide +kernel
    have short : (Error.positionBeyond 2 1 (some "b")).isWritable = true := by decide +kernel
    rw [Assignment.ofText, names]
    change Except.error (Error.positionBeyond 2 1 (some "b")).worded = _
    rw [Error.worded, if_pos short]

/-- A cut within a name makes two names of it. -/
example : Template.placeholders ":ab" = ["ab"] ∧
    Template.placeholders ":a" ++ Template.placeholders "b" = ["a"] := by decide +kernel

end SqlTemplate
