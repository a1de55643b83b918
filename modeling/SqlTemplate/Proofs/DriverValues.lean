import SqlTemplate.Proofs.Conversions

/-!
# What drivers receive

All that conversions come to lies in one closed set of values. Of the values without a tag just
those of this set can be bound, apart from the storage of byte strings, and each is bound as itself.
So conversion leaves alone what it has made.
-/

namespace SqlTemplate

/-- A value without a tag that has a kind: a null, a text, a truth value, an integer of 64 bits, a
double, a date, a time of day, both together, or a byte string. -/
inductive Value.Bindable : Value → Prop
  | null : Bindable .null
  | text (s : String) : Bindable (.text s)
  | boolean (b : Bool) : Bindable (.boolean b)
  | int {n : Int} (low : -9223372036854775808 ≤ n) (high : n ≤ 9223372036854775807) :
      Bindable (.int n)
  | double (x : Double) : Bindable (.double x)
  | date (day : CalendarDate) : Bindable (.date day)
  | time (clock : ClockTime) : Bindable (.time clock)
  | timestamp (day : CalendarDate) (clock : ClockTime) : Bindable (.timestamp day clock)
  | bytes (storage : ByteStorage) (content : List UInt8) : Bindable (.bytes storage content)

def Value.IsPlain (value : Value) : Prop := ∀ kind payload, value ≠ .tagged kind payload

theorem Value.isPlain_or_tagged (value : Value) :
    value.IsPlain ∨ ∃ kind payload, value = .tagged kind payload := by
  cases value with
  | tagged kind payload => exact .inr ⟨kind, payload, rfl⟩
  | _ => exact .inl (by simp [IsPlain])

/-- The value as the driver receives it: itself, but a byte string in fixed storage. -/
def Value.delivered : Value → Value
  | .bytes _ content => .bytes .fixed content
  | value => value

def Value.IsDriver (value : Value) : Prop := value.Bindable ∧ value.delivered = value

theorem Kind.holds_int64_iff {n : Int} :
    Kind.int64.holds n = true ↔ -9223372036854775808 ≤ n ∧ n ≤ 9223372036854775807 := by
  have bound : Int.pow 2 63 = 9223372036854775808 := rfl
  simp only [Kind.holds, Kind.range?, bound, Bool.and_eq_true, decide_eq_true_eq]
  omega

/-- Every kind of integers lies within 64 bits. -/
theorem Kind.holds_int64 {kind : Kind} {n : Int} (held : kind.holds n = true) :
    Kind.int64.holds n = true := by
  have bits : Int.pow 2 63 = 9223372036854775808 ∧ Int.pow 2 31 = 2147483648 ∧
    Int.pow 2 15 = 32768 ∧ Int.pow 2 7 = 128 := ⟨rfl, rfl, rfl, rfl⟩
  rcases Kind.integral_of_holds held with rfl | rfl | rfl | rfl <;>
    simp only [Kind.holds, Kind.range?, bits, Bool.and_eq_true, decide_eq_true_eq] at held ⊢ <;>
    omega

theorem Value.Bindable.delivered {value : Value} (bindable : value.Bindable) :
    value.delivered.IsDriver := by
  cases bindable with
  | int low high => exact ⟨.int low high, rfl⟩
  | _ => exact ⟨by constructor, rfl⟩

/-- Whatever fits a kind comes to a value for drivers. -/
theorem Fits.isDriver {kind : Kind} {payload d : Value} (fits : Fits kind payload d) :
    d.IsDriver := by
  cases fits with
  | int held =>
    obtain ⟨low, high⟩ := Kind.holds_int64_iff.mp (Kind.holds_int64 held)
    exact ⟨.int low high, rfl⟩
  | _ => exact ⟨by constructor, rfl⟩

/-- What fits a kind can be written. -/
theorem Fits.isWritable {kind : Kind} {payload d : Value} (fits : Fits kind payload d) :
    payload.isWritable = true := by
  cases fits with
  | @int kind n held =>
    obtain ⟨low, high⟩ := Kind.holds_int64_iff.mp (Kind.holds_int64 held)
    have size : n.natAbs ≤ 9223372036854775808 := by omega
    rw [Value.isWritable]
    exact withinDigits_of_lt (Nat.lt_of_le_of_lt size (by decide +kernel))
  | doubleOfInt near =>
    rw [Value.isWritable]
    exact withinDigits_of_lt (Double.natAbs_lt_of_ofInt? near)
  | floatOfInt near =>
    obtain ⟨x, whole, _⟩ := Option.bind_eq_some_iff.mp near
    rw [Value.isWritable]
    exact withinDigits_of_lt (Double.natAbs_lt_of_ofInt? whole)
  | _ => simp [Value.isWritable]

theorem Value.toDriver_of_classify {value : Value} {key : Option String} {t : Tagged}
    (classified : value.classify key = .ok t) : value.toDriver key = t.convert key := by
  rw [toDriver, classified]
  rfl

/-- What can be bound is bound as it is. -/
theorem Value.Bindable.toDriver {value : Value} (bindable : value.Bindable) (key : Option String) :
    value.toDriver key = .ok value.delivered := by
  cases bindable with
  | int low high =>
    next n =>
    have wide := Kind.holds_int64_iff.mpr ⟨low, high⟩
    by_cases narrow : Kind.int32.holds n = true
    · have classified : (Value.int n).classify key = .ok ⟨.int32, .int n⟩ := by
        simp [Value.classify, narrow]
      rw [Value.toDriver_of_classify classified]
      exact (Fits.int narrow).converts key
    · have classified : (Value.int n).classify key = .ok ⟨.int64, .int n⟩ := by
        simp [Value.classify, narrow, wide]
      rw [Value.toDriver_of_classify classified]
      exact (Fits.int wide).converts key
  | _ => rfl

/-- No other value without a tag is given a kind. -/
theorem Value.classify_of_not_bindable {value : Value} (plain : value.IsPlain)
    (unbindable : ¬ value.Bindable) (key : Option String) :
    value.classify key = .error (.unsupportedType value key) := by
  cases value with
  | tagged kind payload => exact absurd rfl (plain kind payload)
  | int n =>
    have wide : ¬ Kind.int64.holds n = true := by
      intro held
      obtain ⟨low, high⟩ := Kind.holds_int64_iff.mp held
      exact unbindable (.int low high)
    have narrow : ¬ Kind.int32.holds n = true := fun held => wide (Kind.holds_int64 held)
    simp [Value.classify, narrow, wide]
  | decimal | list | tuple | set | mapping | object => rfl
  | _ => exact absurd (by constructor) unbindable

theorem Value.toDriver_of_not_bindable {value : Value} (plain : value.IsPlain)
    (unbindable : ¬ value.Bindable) (key : Option String) :
    value.toDriver key = .error (.unsupportedType value key) := by
  rw [toDriver, classify_of_not_bindable plain unbindable key]
  rfl

/-- The kind found for a value without a tag takes the value. -/
theorem Value.convert_of_classify {value : Value} (plain : value.IsPlain) {key : Option String}
    {t : Tagged} (classified : value.classify key = .ok t) :
    t.convert key = .ok value.delivered := by
  by_cases bindable : value.Bindable
  · rw [← Value.toDriver_of_classify classified, bindable.toDriver key]
  · rw [Value.classify_of_not_bindable plain bindable key] at classified
    cases classified

/-- Every conversion that succeeds comes to a value for drivers. -/
theorem Value.isDriver_of_toDriver {value d : Value} {key : Option String}
    (converts : value.toDriver key = .ok d) : d.IsDriver := by
  rcases value.isPlain_or_tagged with plain | ⟨kind, payload, rfl⟩
  · by_cases bindable : value.Bindable
    · rw [bindable.toDriver key] at converts
      cases converts
      exact bindable.delivered
    · rw [Value.toDriver_of_not_bindable plain bindable key] at converts
      cases converts
  · exact (Tagged.convert_eq_ok_iff.mp converts).isDriver

/-- A value without a tag is bound just if it belongs to the bindable ones, as itself, and is
refused as unsupported otherwise; no kind that is found for it refuses it. Whatever a driver
receives is a value of this sort, and converted once more it stays what it is. -/
theorem driver_values_are_closed :
    (∀ (value : Value) (key : Option String), value.IsPlain →
      (value.Bindable → value.toDriver key = .ok value.delivered) ∧
      (¬ value.Bindable → value.toDriver key = .error (.unsupportedType value key)) ∧
      ∀ t, value.classify key = .ok t → ∃ d, t.convert key = .ok d) ∧
    ∀ (value d : Value) (key other : Option String), value.toDriver key = .ok d →
      d.IsDriver ∧ d.toDriver other = .ok d := by
  constructor
  · intro value key plain
    refine ⟨fun bindable => bindable.toDriver key, fun unbindable => ?_, fun t classified => ?_⟩
    · exact Value.toDriver_of_not_bindable plain unbindable key
    · exact ⟨value.delivered, Value.convert_of_classify plain classified⟩
  · intro value d key other converts
    obtain ⟨bindable, same⟩ := Value.isDriver_of_toDriver converts
    refine ⟨⟨bindable, same⟩, ?_⟩
    rw [bindable.toDriver other, same]

end SqlTemplate
