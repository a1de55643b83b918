import SqlTemplate.Proofs.Handover
import SqlTemplate.Session.Basic

/-!
# The slots of a statement over its life

The steps on a statement come in any order, and some of them fail halfway. What its slots hold is
told by all that was done to them: a slot holds the value that was written to it last, unless the
slots were emptied since. One step adds its deeds to those done before, whether it succeeds or
fails, and by induction so does a run of steps. The parameters and what the cursor is handed follow
from the slots alone.
-/

namespace SqlTemplate

inductive SlotDeed where
  | write (slot : Nat) (value : Value)
  | erase

namespace SlotDeed

def apply (slots : List (Nat × Value)) : SlotDeed → List (Nat × Value)
  | .write slot value => Entries.put slots slot value
  | .erase => []

def Spare (deeds : List SlotDeed) (slot : Nat) : Prop :=
  ∀ deed ∈ deeds, deed ≠ .erase ∧ ∀ value, deed ≠ .write slot value

def LastWrite (deeds : List SlotDeed) (slot : Nat) (value : Value) : Prop :=
  ∃ before after, deeds = before ++ .write slot value :: after ∧ Spare after slot

theorem spare_cons {deed : SlotDeed} {rest : List SlotDeed} {slot : Nat} :
    Spare (deed :: rest) slot ↔
      (deed ≠ .erase ∧ ∀ value, deed ≠ .write slot value) ∧ Spare rest slot :=
  List.forall_mem_cons

theorem lastWrite_cons {deed : SlotDeed} {rest : List SlotDeed} {slot : Nat} {value : Value} :
    LastWrite (deed :: rest) slot value ↔
      LastWrite rest slot value ∨ (deed = .write slot value ∧ Spare rest slot) := by
  constructor
  · rintro ⟨before, after, split, spared⟩
    cases before with
    | nil =>
      obtain ⟨rfl, rfl⟩ := List.cons.inj split
      exact .inr ⟨rfl, spared⟩
    | cons first before =>
      obtain ⟨rfl, rfl⟩ := List.cons.inj split
      exact .inl ⟨before, after, rfl, spared⟩
  · rintro (⟨before, after, rfl, spared⟩ | ⟨rfl, spared⟩)
    · exact ⟨deed :: before, after, rfl, spared⟩
    · exact ⟨[], rest, rfl, spared⟩

/-- A slot holds what was last written to it, or what it held before if no deed concerns it. -/
theorem find?_applied (deeds : List SlotDeed) (slots : List (Nat × Value)) (slot : Nat)
    (value : Value) :
    Entries.find? (deeds.foldl apply slots) slot = some value ↔
      LastWrite deeds slot value ∨ (Entries.find? slots slot = some value ∧ Spare deeds slot) := by
  induction deeds generalizing slots with
  | nil =>
    constructor
    · intro found
      exact .inr ⟨found, by simp [Spare]⟩
    · rintro (⟨before, after, split, _⟩ | ⟨found, _⟩)
      · simp at split
      · exact found
  | cons deed rest ih =>
    rw [List.foldl_cons, ih, lastWrite_cons, or_assoc]
    refine or_congr_right ?_
    rw [spare_cons]
    cases deed with
    | erase =>
      constructor
      · rintro ⟨found, _⟩
        cases found
      · rintro (⟨same, _⟩ | ⟨_, ⟨kept, _⟩, _⟩)
        · cases same
        · exact absurd rfl kept
    | write position written =>
      rw [apply, Entries.find?_put]
      by_cases same : position = slot
      · subst position
        rw [if_pos rfl]
        constructor
        · rintro ⟨found, spared⟩
          rw [Option.some.inj found]
          exact .inl ⟨rfl, spared⟩
        · rintro (⟨equal, spared⟩ | ⟨_, ⟨_, other⟩, _⟩)
          · cases equal
            exact ⟨rfl, spared⟩
          · exact absurd rfl (other written)
      · rw [if_neg same]
        constructor
        · rintro ⟨found, spared⟩
          refine .inr ⟨found, ⟨SlotDeed.noConfusion, fun value equal => ?_⟩, spared⟩
          cases equal
          exact same rfl
        · rintro (⟨equal, _⟩ | ⟨found, _, spared⟩)
          · cases equal
            exact absurd rfl same
          · exact ⟨found, spared⟩

end SlotDeed

namespace StatementStep

def attempts : StatementStep → List Statement.Attempt
  | .set position value key => [⟨position, value, key⟩]
  | .setNull position key => [⟨position, .tagged .null .null, key⟩]
  | .bindText sql params start => (Assignment.ofText sql params start).map Assignment.attempt
  | .bindColumns columns start => (Assignment.ofColumns columns start).map Assignment.attempt
  | _ => []

def deeds (count : Option Int) : StatementStep → List SlotDeed
  | .clear => [.erase]
  | step => (Statement.writes count step.attempts).map fun made => .write made.1 made.2

def fills : StatementStep → Bool
  | .set _ _ _ | .setNull _ _ | .bindText _ _ _ | .bindColumns _ _ => true
  | _ => false

def fillsOne : StatementStep → Bool
  | .set _ _ _ | .setNull _ _ => true
  | _ => false

/-- The step executes the statement and leaves it open. -/
def executes : StatementStep → Bool
  | .executeQuery | .executeUpdate => true
  | _ => false

def closes : StatementStep → Bool
  | .close | .executeAndClose => true
  | _ => false

end StatementStep

def slotHistory (count : Option Int) (steps : List StatementStep) : List SlotDeed :=
  steps.flatMap (StatementStep.deeds count)

namespace Statement

def performAll (st : Statement) :
    List StatementStep → StateM Trace (List (Except Error Reply) × Statement)
  | [] => return ([], st)
  | step :: rest => do
    let (reply, next) ← st.perform step
    let (replies, last) ← next.performAll rest
    return (reply :: replies, last)

theorem run_performAll_cons (st : Statement) (step : StatementStep) (rest : List StatementStep)
    (trace : Trace) :
    (st.performAll (step :: rest)).run trace =
      let first := (st.perform step).run trace
      let later := (first.1.2.performAll rest).run first.2
      ((first.1.1 :: later.1.1, later.1.2), later.2) := rfl

theorem run_exchange {α : Type} (st : Statement) (x : Exchange α) (reply : α → Reply)
    (trace : Trace) :
    (st.exchange x reply).run trace =
      (((x.after trace).1.map reply, st), (x.after trace).2) := rfl

/-- What attempts come to: all of them write, or they fail at the first that does not, and the
writes before it are kept. -/
def FillsUp (st : Statement) (attempts : List Attempt) (ended : Except Error Reply × Statement) :
    Prop :=
  match ended.1 with
  | .ok _ =>
    (∀ a ∈ attempts, (a.write? st.count).isSome) ∧
      ended.2 = { st with
        slots := Entries.putAll st.slots (attempts.filterMap (Attempt.write? st.count)) }
  | .error _ => ∃ done bad rest,
    attempts = done ++ bad :: rest ∧ (∀ a ∈ done, (a.write? st.count).isSome) ∧
      bad.write? st.count = none ∧
      ended.2 = { st with
        slots := Entries.putAll st.slots (done.filterMap (Attempt.write? st.count)) }

theorem settle_fillsUp (st : Statement) (position : Int) (value : Value) (key : Option String) :
    FillsUp st [⟨position, value, key⟩] (st.settle (st.assign position value key)) := by
  cases written : Attempt.write? st.count ⟨position, value, key⟩ with
  | some made =>
    rw [assign_of_write written]
    refine ⟨?_, ?_⟩
    · intro a member
      rw [List.mem_singleton.mp member, written]
      rfl
    · simp only [List.filterMap_cons, written, List.filterMap_nil]
      rfl
  | none =>
    obtain ⟨e, refused, _⟩ := assign_of_no_write written
    rw [refused]
    exact ⟨[], _, [], rfl, by simp, written, rfl⟩

theorem bindAll_fillsUp (st : Statement) (assignments : List Assignment) :
    FillsUp st (assignments.map Assignment.attempt) (st.bindAll assignments) := by
  have kept := st.assignAll_snd assignments
  cases stop : assignments.find? fun a => (a.attempt.write? st.count).isNone with
  | none =>
    have good : ∀ a ∈ assignments, (a.attempt.write? st.count).isSome := by
      intro a member
      have := List.find?_eq_none.mp stop a member
      rwa [← Option.not_isSome, Bool.not_eq_true', Bool.not_eq_false] at this
    have attemptsGood : ∀ a ∈ assignments.map Assignment.attempt, (a.write? st.count).isSome :=
      List.forall_mem_map.mpr good
    rw [bindAll, FillsUp]
    simp only [assignAll_fst_ok good, kept, writes_of_all_good attemptsGood]
    exact ⟨attemptsGood, trivial⟩
  | some bad =>
    obtain ⟨none_, done, rest, rfl, before⟩ := List.find?_eq_some_iff_append.mp stop
    have good : ∀ a ∈ done, (a.attempt.write? st.count).isSome := by
      intro a member
      have := before a member
      rwa [← Option.not_isSome, Bool.not_not] at this
    have nothing := Option.isNone_iff_eq_none.mp none_
    have attemptsGood : ∀ a ∈ done.map Assignment.attempt, (a.write? st.count).isSome :=
      List.forall_mem_map.mpr good
    have split : (done ++ bad :: rest).map Assignment.attempt =
        done.map Assignment.attempt ++ bad.attempt :: rest.map Assignment.attempt := by
      rw [List.map_append, List.map_cons]
    obtain ⟨e, refused, _⟩ := @assignAll_fst_error st done rest bad good nothing
    rw [bindAll, FillsUp]
    simp only [refused, kept, split, writes_of_first_bad attemptsGood nothing]
    exact ⟨_, _, _, rfl, attemptsGood, nothing, rfl⟩

/-- However attempts end, the slots are left as their writes make them. -/
theorem FillsUp.applied {st : Statement} {attempts : List Attempt}
    {ended : Except Error Reply × Statement} (fills : FillsUp st attempts ended) :
    ended.2 = { st with
      slots := ((writes st.count attempts).map fun made =>
        SlotDeed.write made.1 made.2).foldl SlotDeed.apply st.slots } := by
  have replay : ∀ made : List (Nat × Value), Entries.putAll st.slots made =
      (made.map fun write => SlotDeed.write write.1 write.2).foldl SlotDeed.apply st.slots := by
    intro made
    rw [List.foldl_map]
    rfl
  obtain ⟨outcome, next⟩ := ended
  cases outcome with
  | ok reply =>
    obtain ⟨good, kept⟩ := fills
    rw [writes_of_all_good good, ← replay]
    exact kept
  | error e =>
    obtain ⟨done, bad, rest, rfl, good, nothing, kept⟩ := fills
    rw [writes_of_first_bad good nothing, ← replay]
    exact kept

/-- A single attempt that fails leaves the statement as it was. -/
theorem FillsUp.unchanged {st : Statement} {a : Attempt} {ended : Except Error Reply × Statement}
    {e : Error} (fills : FillsUp st [a] ended) (fails : ended.1 = .error e) : ended.2 = st := by
  obtain ⟨outcome, next⟩ := ended
  subst fails
  obtain ⟨done, bad, rest, split, good, nothing, kept⟩ := fills
  cases done with
  | nil => exact kept
  | cons first done => simp at split

theorem perform_fillsUp (st : Statement) {step : StatementStep} (fills : step.fills = true)
    (trace : Trace) :
    FillsUp st step.attempts ((st.perform step).run trace).1 ∧
      ((st.perform step).run trace).2 = trace := by
  cases step with
  | set position value key => exact ⟨st.settle_fillsUp position value key, rfl⟩
  | setNull position key => exact ⟨st.settle_fillsUp position _ key, rfl⟩
  | bindText sql params start => exact ⟨st.bindAll_fillsUp _, rfl⟩
  | bindColumns columns start => exact ⟨st.bindAll_fillsUp _, rfl⟩
  | _ => cases fills

theorem perform_of_fillsOne (st : Statement) {step : StatementStep}
    (fillsOne : step.fillsOne = true) (trace : Trace) {e : Error}
    (fails : ((st.perform step).run trace).1.1 = .error e) :
    ((st.perform step).run trace).1.2 = st := by
  cases step with
  | set position value key => exact (st.settle_fillsUp position value key).unchanged fails
  | setNull position key => exact (st.settle_fillsUp position _ key).unchanged fails
  | _ => cases fillsOne

/-- A step does its deeds to the slots, and may close the statement; the rest it leaves alone. -/
theorem perform_statement (st : Statement) (step : StatementStep) (trace : Trace) :
    ((st.perform step).run trace).1.2 =
      { st with
        slots := (step.deeds st.count).foldl SlotDeed.apply st.slots
        closed := st.closed || step.closes } := by
  have keep : st = { st with slots := st.slots, closed := st.closed || false } := by
    rw [Bool.or_false]
  have shut : st.shut = { st with slots := st.slots, closed := st.closed || true } := by
    rw [Bool.or_true]
    rfl
  have filled : ∀ slots, ({ st with slots } : Statement) =
      { st with slots, closed := st.closed || false } := by
    intro slots
    rw [Bool.or_false]
  cases step with
  | set position value key => exact (st.settle_fillsUp position value key).applied.trans (filled _)
  | setNull position key => exact (st.settle_fillsUp position _ key).applied.trans (filled _)
  | clear => exact filled []
  | bindText sql params start => exact (st.bindAll_fillsUp _).applied.trans (filled _)
  | bindColumns columns start => exact (st.bindAll_fillsUp _).applied.trans (filled _)
  | parameters | executeQuery | executeUpdate | readRows | isClosed | describe => exact keep
  | close | executeAndClose => exact shut

/-- A run does the deeds of all its steps to the slots. -/
theorem performAll_statement (st : Statement) (steps : List StatementStep) (trace : Trace) :
    ((st.performAll steps).run trace).1.2 =
      { st with
        slots := (slotHistory st.count steps).foldl SlotDeed.apply st.slots
        closed := st.closed || steps.any StatementStep.closes } := by
  induction steps generalizing st trace with
  | nil =>
    rw [List.any_nil, Bool.or_false]
    rfl
  | cons step rest ih =>
    have split : slotHistory st.count (step :: rest) =
        step.deeds st.count ++ slotHistory st.count rest := List.flatMap_cons
    simp only [run_performAll_cons]
    rw [ih, st.perform_statement step trace, split, List.foldl_append, List.any_cons,
      ← Bool.or_assoc]

/-- Only slots that the statement has are ever written. -/
theorem admits_of_mem_slotHistory {count : Option Int} {steps : List StatementStep} {slot : Nat}
    {value : Value} (done : SlotDeed.write slot value ∈ slotHistory count steps) :
    Admits count slot := by
  obtain ⟨step, _, deed⟩ := List.mem_flatMap.mp done
  have made : (slot, value) ∈ writes count step.attempts := by
    cases step with
    | clear => simp [StatementStep.deeds] at deed
    | _ =>
      obtain ⟨⟨position, written⟩, member, same⟩ := List.mem_map.mp deed
      cases same
      exact member
  obtain ⟨a, _, written⟩ := exists_attempt_of_mem_writes made
  obtain ⟨⟨low, high⟩, _, rfl⟩ := Attempt.write?_eq_some_iff.mp written
  have same : ((a.position.toNat : Nat) : Int) = a.position := by omega
  rw [same]
  exact ⟨low, high⟩

/-- The parameters can be had exactly where every slot up to the highest is filled. -/
theorem parameters_ok_iff (st : Statement) :
    (∃ values, st.parameters = .ok values) ↔
      ∀ slot, 1 ≤ slot → slot ≤ st.highest → ∃ value, Entries.find? st.slots slot = some value := by
  have spec := st.parameters_spec
  cases read : st.parameters with
  | ok values =>
    rw [read] at spec
    obtain ⟨length, each⟩ := spec
    refine ⟨fun _ slot low high => ?_, fun _ => ⟨values, rfl⟩⟩
    have found := each (slot - 1) (by omega)
    rw [show slot - 1 + 1 = slot by omega, List.getElem?_eq_getElem (by omega)] at found
    exact ⟨_, found⟩
  | error e =>
    rw [read] at spec
    obtain ⟨gap, _, low, high, none, _⟩ := spec
    constructor
    · rintro ⟨values, all⟩
      cases all
    · intro filled
      obtain ⟨value, found⟩ := filled gap low high
      rw [none] at found
      cases found

/-- An execution hands the cursor the text and the parameters, once; a closed statement and one
without all its parameters do not reach the cursor. -/
def Executes (st : Statement) (before : Trace)
    (ended : (Except Error Reply × Statement) × Trace) : Prop :=
  ended.1.2 = st ∧
    match st.closed, st.parameters with
    | true, _ => ended.1.1 = .error .statementClosed ∧ ended.2 = before
    | false, .error e => ended.1.1 = .error e ∧ ended.2 = before
    | false, .ok values => ∃ events, ended.2 = before ++ events ∧
        events.traffic = [.executed st.cursor.index st.sql values]

theorem perform_executes (st : Statement) {step : StatementStep} (executes : step.executes = true)
    (trace : Trace) : Executes st trace ((st.perform step).run trace) := by
  have same : ((st.perform step).run trace).1.2 = st := by
    cases step with
    | executeQuery | executeUpdate => rfl
    | _ => cases executes
  refine ⟨same, ?_⟩
  -- What follows an execution that fails is left out, so both steps end as the execution does.
  have failing : ∀ e, st.execute.after trace = (.error e, trace) →
      ((st.perform step).run trace).1.1 = .error e ∧ ((st.perform step).run trace).2 = trace := by
    intro e fails
    have stops : st.executeUpdate.after trace = (.error e, trace) :=
      Exchange.after_bind_error fails
    cases step with
    | executeQuery =>
      rw [perform, run_exchange, fails]
      exact ⟨rfl, rfl⟩
    | executeUpdate =>
      rw [perform, run_exchange, stops]
      exact ⟨rfl, rfl⟩
    | _ => cases executes
  cases closed : st.closed with
  | true => exact failing _ (after_execute_closed closed trace)
  | false =>
    cases filled : st.parameters with
    | error e => exact failing e (after_execute_unfilled closed filled trace)
    | ok values =>
      cases step with
      | executeQuery =>
        rw [perform, run_exchange, after_execute closed filled]
        exact ⟨_, rfl, rfl⟩
      | executeUpdate =>
        have told := Trace.traffic_logged
          (Reading.count.records st.cursor.script (trace.executionsOn st.cursor.index))
        have used := Reading.count.after_use st values trace closed filled
        change st.executeUpdate.after trace = _ at used
        rw [perform, run_exchange, used]
        exact ⟨_, rfl, congrArg (Event.executed st.cursor.index st.sql values :: ·) told⟩
      | _ => cases executes

end Statement

theorem set_of_getElem? {α : Type} {items : List α} {index : Nat} {item : α}
    (held : items[index]? = some item) : items.set index item = items := by
  obtain ⟨bound, rfl⟩ := List.getElem?_eq_some_iff.mp held
  exact List.set_getElem_self bound

/-- A session that performs steps on one of its statements runs them on this statement. -/
theorem Session.run_onStatement {s : Session} {index : Nat} {st : Statement}
    (held : s.statements[index]? = some st) (steps : List StatementStep) :
    s.run (steps.map (.onStatement index)) =
      let ended := (st.performAll steps).run s.trace
      (ended.1.1, { s with
        statements := s.statements.set index ended.1.2
        trace := ended.2 }) := by
  induction steps generalizing s st with
  | nil =>
    simp only [List.map_nil, run, Statement.performAll]
    change _ = ([], { s with statements := s.statements.set index st, trace := s.trace })
    rw [set_of_getElem? held]
  | cons step rest ih =>
    obtain ⟨bound, _⟩ := List.getElem?_eq_some_iff.mp held
    have found : s.statement? index = .ok st := by rw [statement?, held]
    have first : s.perform (.onStatement index step) =
        (((st.perform step).run s.trace).1.1, { s with
          statements := s.statements.set index ((st.perform step).run s.trace).1.2
          trace := ((st.perform step).run s.trace).2 }) := by
      rw [perform, found]
      rfl
    have next := ih (s := { s with
      statements := s.statements.set index ((st.perform step).run s.trace).1.2
      trace := ((st.perform step).run s.trace).2 }) (List.getElem?_set_self bound)
    rw [List.map_cons, run, first, Statement.run_performAll_cons]
    simp only [next, List.set_set]

/-- After any run of steps on a fresh statement, whether they succeed or fail, its slots hold what
was last written to them, and only slots that it has are filled. A step that fails keeps just the
writes before the failure. The parameters are the values of all slots up to the highest, and an
execution hands over exactly these. -/
theorem slots_keep_last_writes (cursor : Cursor) (sql : String) (count : Option Int)
    (steps : List StatementStep) (trace : Trace) :
    let fresh : Statement := { cursor, sql, count }
    let st := ((fresh.performAll steps).run trace).1.2
    let filled := fun slot : Nat => ∃ value, Entries.find? st.slots slot = some value
    (st.cursor = cursor ∧ st.sql = sql ∧ st.count = count ∧
      st.closed = steps.any StatementStep.closes) ∧
    (∀ slot value, Entries.find? st.slots slot = some value ↔
      SlotDeed.LastWrite (slotHistory count steps) slot value) ∧
    (∀ slot : Nat, filled slot → 1 ≤ (slot : Int) ∧ ∀ n, count = some n → slot ≤ n) ∧
    (∀ (step : StatementStep) (now : Trace),
      let ended := (st.perform step).run now
      (step.fills = true → Statement.FillsUp st step.attempts ended.1 ∧ ended.2 = now) ∧
      (step.fillsOne = true → ∀ e, ended.1.1 = .error e → ended.1.2 = st) ∧
      (step.executes = true → Statement.Executes st now ended)) ∧
    ∃ highest, st.IsHighest highest ∧
      ((∃ values, st.parameters = .ok values) ↔
        ∀ slot, 1 ≤ slot → slot ≤ highest → filled slot) ∧
      (∀ values, st.parameters = .ok values → values.length = highest ∧
        ∀ i, i < highest → Entries.find? st.slots (i + 1) = values[i]?) ∧
      (∀ e, st.parameters = .error e → ∃ gap, e = .unbound gap ∧ 1 ≤ gap ∧ gap ≤ highest ∧
        ¬ filled gap ∧ ∀ slot, 1 ≤ slot → slot < gap → filled slot) := by
  intro fresh st filled
  have reached : st = { fresh with
      slots := (slotHistory count steps).foldl SlotDeed.apply []
      closed := steps.any StatementStep.closes } := fresh.performAll_statement steps trace
  have holds : ∀ slot value, Entries.find? st.slots slot = some value ↔
      SlotDeed.LastWrite (slotHistory count steps) slot value := by
    intro slot value
    rw [reached, SlotDeed.find?_applied]
    constructor
    · rintro (last | ⟨before, _⟩)
      · exact last
      · cases before
    · exact .inl
  refine ⟨?_, holds, ?_, ?_, st.highest, st.isHighest_highest, st.parameters_ok_iff, ?_, ?_⟩
  · rw [reached]
    exact ⟨rfl, rfl, rfl, rfl⟩
  · rintro slot ⟨value, found⟩
    obtain ⟨before, after, split, _⟩ := (holds slot value).mp found
    have done : SlotDeed.write slot value ∈ slotHistory count steps := by
      rw [split]
      exact List.mem_append_right _ List.mem_cons_self
    exact Statement.admits_of_mem_slotHistory done
  · intro step now
    exact ⟨fun fills => st.perform_fillsUp fills now,
      fun fillsOne e fails => st.perform_of_fillsOne fillsOne now fails,
      fun executes => st.perform_executes executes now⟩
  · intro values all
    have spec := st.parameters_spec
    rw [all] at spec
    exact spec
  · intro e fails
    have spec := st.parameters_spec
    rw [fails] at spec
    obtain ⟨gap, same, low, high, none, before⟩ := spec
    refine ⟨gap, same, low, high, ?_, before⟩
    rintro ⟨value, found⟩
    rw [none] at found
    cases found

/-- A position that does not exist changes nothing, and the slot left empty is the one reported. -/
example :
    let fresh : Statement :=
      { cursor := ⟨0, {}⟩, sql := "UPDATE t SET a = ?, b = ?", count := some 2 }
    let st := ((fresh.performAll [.set 2 (.int 1) none, .set 3 (.int 2) none]).run []).1.2
    st.slots = [(2, .int 1)] ∧ st.parameters = .error (.unbound 1) := ⟨rfl, rfl⟩

end SqlTemplate
