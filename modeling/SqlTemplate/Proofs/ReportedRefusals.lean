import SqlTemplate.Proofs.DriverValues
import SqlTemplate.Proofs.FirstFailure
import SqlTemplate.Proofs.Rounding
import SqlTemplate.Proofs.SlotHistory

/-!
# Refusals that name their key

A value that cannot be bound is reported as a binding error under the key it was given for, with two
exceptions. An integer tagged as a double is not compared with the range of doubles before it is
rounded, and what then fails is no binding error and names no key; the single-precision kind takes
the same integers and does report them. And a tagged value with an integer of more than 4300 digits
in it cannot be written, so that its refusal fails in writing the message. A slot that exists is
refused a value for no other reason, however it is filled.
-/

namespace SqlTemplate

/-- The error says that the value given for the key could not be bound. -/
structure Error.Reports (e : Error) (key : Option String) : Prop where
  binding : e.IsBinding
  named : e.key = key

/-- An integer tagged as a double that rounds beyond all doubles: from 2^1024 - 2^970 on. -/
def Value.Oversized (value : Value) : Prop :=
  ∃ n : Int, value = .tagged .double (.int n) ∧ Nat.pow 2 1024 ≤ Nat.pow 2 970 + n.natAbs

/-- A tagged value with an integer in it that is too long to be written, but for an integer tagged
as a double. -/
def Value.Overlong (value : Value) : Prop :=
  ∃ kind payload, value = .tagged kind payload ∧ payload.isWritable = false ∧
    (kind = .double → ∀ n, payload ≠ .int n)

namespace Value

variable {value : Value} {key : Option String}

/-- A conversion fails only for a tagged value, and there as the conversion of its payload does. -/
theorem exists_of_toDriver {e : Error} (fails : value.toDriver key = .error e) :
    e = .unsupportedType value key ∨
      ∃ kind payload, value = .tagged kind payload ∧ e.OfConversion ⟨kind, payload⟩ key := by
  rcases value.isPlain_or_tagged with plain | ⟨kind, payload, rfl⟩
  · by_cases bindable : value.Bindable
    · rw [bindable.toDriver key] at fails
      cases fails
    · rw [toDriver_of_not_bindable plain bindable key] at fails
      exact .inl (Except.error.inj fails).symm
  · exact .inr ⟨kind, payload, rfl, Tagged.convert_refusal fails⟩

/-- The integers that are too large for doubles are refused just as doubles, with an error that says
nothing else. -/
theorem toDriver_integerTooLarge_iff :
    value.toDriver key = .error .integerTooLarge ↔ value.Oversized := by
  constructor
  · intro fails
    rcases exists_of_toDriver fails with other | ⟨kind, payload, rfl, conversion⟩
    · cases other
    · cases conversion with
      | @tooLarge n double integer beyond =>
        obtain rfl : kind = .double := double
        obtain rfl : payload = .int n := integer
        exact ⟨n, rfl, (Double.ofInt?_eq_none_iff n).mp beyond⟩
  · rintro ⟨n, rfl, large⟩
    have beyond := (Double.ofInt?_eq_none_iff n).mpr large
    rw [toDriver_of_classify (t := ⟨.double, .int n⟩) rfl]
    simp [Tagged.convert, Tagged.toDouble, beyond, Except.map]

/-- An integer too long to be written fits no kind, and ends the message that would say so. -/
theorem toDriver_integerTooLong_iff :
    value.toDriver key = .error .integerTooLong ↔ value.Overlong := by
  constructor
  · intro fails
    rcases exists_of_toDriver fails with other | ⟨kind, payload, rfl, conversion⟩
    · cases other
    · cases conversion with
      | tooLong long told => exact ⟨kind, payload, rfl, long, told⟩
  · rintro ⟨kind, payload, rfl, long, told⟩
    change Tagged.convert ⟨kind, payload⟩ key = _
    cases converts : Tagged.convert ⟨kind, payload⟩ key with
    | ok d =>
      have writable := (Tagged.convert_eq_ok_iff.mp converts).isWritable
      cases long.symm.trans writable
    | error e =>
      cases Tagged.convert_refusal converts with
      | unbindable writable | floatRange writable => cases long.symm.trans writable
      | tooLarge double integer => exact absurd integer (told double _)
      | tooLong => rfl

/-- The refusal of a value is a binding error under the key unless the value is one of these. -/
theorem toDriver_reports_iff {e : Error} (fails : value.toDriver key = .error e) :
    e.Reports key ↔ ¬ (value.Oversized ∨ value.Overlong) := by
  rw [← toDriver_integerTooLarge_iff, ← toDriver_integerTooLong_iff, fails]
  constructor
  · rintro ⟨binding, _⟩ (same | same) <;> cases same <;> rcases binding with sort | sort <;>
      cases sort
  · intro told
    rcases exists_of_toDriver fails with rfl | ⟨kind, payload, rfl, conversion⟩
    · exact ⟨.inr rfl, rfl⟩
    · cases conversion with
      | unbindable | floatRange => exact ⟨.inl rfl, rfl⟩
      | tooLarge => exact absurd (.inl rfl) told
      | tooLong => exact absurd (.inr rfl) told

end Value

namespace Statement

def conversions (attempts : List Attempt) : Except Error (List Value) :=
  attempts.mapM fun a => a.value.toDriver a.key

theorem conversions_cons (a : Attempt) (rest : List Attempt) :
    conversions (a :: rest) =
      match a.value.toDriver a.key with
      | .ok value => (conversions rest).map (value :: ·)
      | .error e => .error e := by
  rw [conversions, mapM_cons]
  cases a.value.toDriver a.key <;> rfl

/-- A slot that exists takes a value just if the value has a driver value. -/
theorem assign_of_admits {st : Statement} {position : Int} (admitted : Admits st.count position)
    (value : Value) (key : Option String) :
    st.assign position value key = (value.toDriver key).map fun converted =>
      { st with slots := Entries.put st.slots position.toNat converted } := by
  cases written : Attempt.write? st.count ⟨position, value, key⟩ with
  | some write =>
    obtain ⟨slot, converted⟩ := write
    obtain ⟨_, (converts : value.toDriver key = _), (rfl : slot = position.toNat)⟩ :=
      Attempt.write?_eq_some_iff.mp written
    rw [assign_of_write written, converts]
    rfl
  | none =>
    obtain ⟨e, refused, reason⟩ := assign_of_no_write written
    rw [refused, reason admitted]
    rfl

/-- A pass over slots that exist fails just as the first conversion does that fails. -/
theorem assignAll_of_admits {st : Statement} {assignments : List Assignment}
    (admitted : ∀ a ∈ assignments, Admits st.count a.position) :
    (st.assignAll assignments).1 =
      (conversions (assignments.map Assignment.attempt)).map fun _ => () := by
  induction assignments generalizing st with
  | nil => rfl
  | cons a rest ih =>
    have later : ∀ b ∈ rest, Admits st.count b.position := fun b member =>
      admitted b (List.mem_cons_of_mem a member)
    rw [assignAll, assign_of_admits (admitted a List.mem_cons_self), List.map_cons,
      conversions_cons]
    simp only [Assignment.attempt]
    cases a.value.toDriver (some a.key) with
    | error e => rfl
    | ok value =>
      let next : Statement := { st with slots := Entries.put st.slots a.position.toNat value }
      have passed : (next.assignAll rest).1 = _ := ih later
      change (next.assignAll rest).1 = _
      rw [passed]
      cases conversions (rest.map Assignment.attempt) <;> rfl

/-- Filling slots that exist fails just as the first conversion does that fails. -/
theorem perform_of_admits {st : Statement} {step : StatementStep} (fills : step.fills = true)
    (admitted : ∀ a ∈ step.attempts, Admits st.count a.position) (trace : Trace) :
    ((st.perform step).run trace).1.1.map (fun _ => ()) =
      (conversions step.attempts).map fun _ => () := by
  have one : ∀ position value key, Admits st.count position →
      (st.settle (st.assign position value key)).1.map (fun _ => ()) =
        (conversions [⟨position, value, key⟩]).map fun _ => () := by
    intro position value key admitted
    rw [assign_of_admits admitted, conversions_cons]
    dsimp only
    cases value.toDriver key <;> rfl
  have pass : ∀ assignments : List Assignment,
      (∀ a ∈ assignments.map Assignment.attempt, Admits st.count a.position) →
      (st.bindAll assignments).1.map (fun _ => ()) =
        (conversions (assignments.map Assignment.attempt)).map fun _ => () := by
    intro assignments admitted
    rw [← assignAll_of_admits fun a member => admitted a.attempt (List.mem_map_of_mem member)]
    simp only [bindAll]
    cases (st.assignAll assignments).1 <;> rfl
  cases step with
  | set position value key => exact one position value key (admitted _ List.mem_cons_self)
  | setNull position key => exact one position _ key (admitted _ List.mem_cons_self)
  | bindText sql params start => exact pass _ admitted
  | bindColumns columns start => exact pass _ admitted
  | _ => cases fills

end Statement

/-- A value is bound, or refused with a binding error under its key, but for two sorts of tagged
values: integers too large for doubles, as doubles, and whatever holds an integer that is too long
to be written. Either sort has an error of its own, which is no binding error and has no key. For
slots that exist nothing else can go wrong in filling them: what is reported is the refusal of one
of the values. -/
theorem refusals_name_their_key (value : Value) (key : Option String) (st : Statement)
    (step : StatementStep) (trace : Trace) :
    (((∃ d, value.toDriver key = .ok d ∧ d.IsDriver) ∨
        ∃ e, value.toDriver key = .error e ∧ e.Reports key) ↔
          ¬ (value.Oversized ∨ value.Overlong)) ∧
      (value.Oversized ↔ value.toDriver key = .error .integerTooLarge) ∧
      (value.Overlong ↔ value.toDriver key = .error .integerTooLong) ∧
      (step.fills = true → (∀ a ∈ step.attempts, Statement.Admits st.count a.position) →
        ∀ e, ((st.perform step).run trace).1.1 = .error e →
          ∃ a ∈ step.attempts, a.value.toDriver a.key = .error e ∧
            (e.Reports a.key ↔ ¬ (a.value.Oversized ∨ a.value.Overlong))) := by
  refine ⟨?_, Value.toDriver_integerTooLarge_iff.symm, Value.toDriver_integerTooLong_iff.symm, ?_⟩
  · cases converts : value.toDriver key with
    | ok d =>
      have fair : ¬ (value.Oversized ∨ value.Overlong) := by
        rw [← Value.toDriver_integerTooLarge_iff, ← Value.toDriver_integerTooLong_iff, converts]
        rintro (same | same) <;> cases same
      exact ⟨fun _ => fair, fun _ => .inl ⟨d, rfl, Value.isDriver_of_toDriver converts⟩⟩
    | error e =>
      rw [← Value.toDriver_reports_iff converts]
      constructor
      · rintro (⟨d, same, _⟩ | ⟨reason, same, reports⟩)
        · cases same
        · cases same
          exact reports
      · intro reports
        exact .inr ⟨e, rfl, reports⟩
  · intro fills admitted e fails
    have same := Statement.perform_of_admits fills admitted trace
    rw [fails] at same
    obtain ⟨a, member, refused⟩ := exists_error_of_mapM (error_of_map same.symm)
    exact ⟨a, member, refused, Value.toDriver_reports_iff refused⟩

/-- The double of 2^1024 is refused without a word about the key, and not as a value that cannot be
bound; in single precision the same integer is reported. -/
theorem oversized_double_names_no_key :
    (Value.tagged .double (.int (Int.pow 2 1024))).toDriver (some "n") = .error .integerTooLarge ∧
      ¬ Error.integerTooLarge.IsBinding ∧ Error.integerTooLarge.key = none ∧
      (Value.tagged .float (.int (Int.pow 2 1024))).toDriver (some "n") =
        .error (.floatRange (.int (Int.pow 2 1024)) (some "n")) := by
  have beyond : Double.ofInt? (Int.pow 2 1024) = none := by decide +kernel
  have short : withinDigits (Int.pow 2 1024) = true := by decide +kernel
  generalize Int.pow 2 1024 = n at *
  have large := (Double.ofInt?_eq_none_iff n).mp beyond
  refine ⟨Value.toDriver_integerTooLarge_iff.mpr ⟨n, rfl, large⟩, ?_, rfl, ?_⟩
  · rintro (same | same) <;> cases same
  · rw [Value.toDriver_of_classify (t := ⟨.float, .int n⟩) rfl]
    simp [Tagged.convert, Tagged.toSingle, Tagged.narrow, Value.isWritable, short, beyond,
      Except.map]

/-- Nor is the key named for an integer of 4301 digits, whatever other kind it is tagged with. -/
theorem overlong_integer_names_no_key (kind : Kind) (other : kind ≠ .double) :
    (Value.tagged kind (.int (Int.pow 10 4300))).toDriver (some "n") = .error .integerTooLong ∧
      ¬ Error.integerTooLong.IsBinding ∧ Error.integerTooLong.key = none := by
  have long : withinDigits (Int.pow 10 4300) = false := by decide +kernel
  generalize Int.pow 10 4300 = n at *
  have overlong : (Value.tagged kind (.int n)).Overlong :=
    ⟨kind, .int n, rfl, by rw [Value.isWritable, long], (absurd · other)⟩
  refine ⟨Value.toDriver_integerTooLong_iff.mpr overlong, ?_, rfl⟩
  rintro (same | same) <;> cases same

end SqlTemplate
