import SqlTemplate.Proofs.Rounding
import SqlTemplate.Value.Conversion

/-!
# What conversions come to

A kind and a payload that fits it determine what the driver receives, and a conversion that does not
come to that fails for a cause that says why. Both follow from one analysis of conversions: a
payload is taken as it stands or with little change, or compared with a range, or rounded, or
refused outright.
-/

namespace SqlTemplate

theorem ok_of_map {α β : Type} {r : Except Error α} {f : α → β} {b : β}
    (succeeds : r.map f = .ok b) : ∃ a, r = .ok a ∧ b = f a := by
  cases r with
  | error e => cases succeeds
  | ok a => exact ⟨a, rfl, (Except.ok.inj succeeds).symm⟩

theorem error_of_map {α β : Type} {r : Except Error α} {f : α → β} {e : Error}
    (fails : r.map f = .error e) : r = .error e := by
  cases r with
  | error reason => exact congrArg Except.error (Except.error.inj fails)
  | ok a => cases fails

/-- The payload fits the kind, and the driver receives the other value for it. -/
inductive Fits : Kind → Value → Value → Prop
  | null : Fits .null .null .null
  | text (s : String) : Fits .text (.text s) (.text s)
  | boolean (b : Bool) : Fits .boolean (.boolean b) (.boolean b)
  | int {kind : Kind} {n : Int} (held : kind.holds n = true) : Fits kind (.int n) (.int n)
  | double (x : Double) : Fits .double (.double x) (.double x)
  | doubleOfInt {n : Int} {x : Double} (near : Double.ofInt? n = some x) :
      Fits .double (.int n) (.double x)
  | float {x y : Double} (near : x.narrow? = some y) : Fits .float (.double x) (.double y)
  | floatOfInt {n : Int} {y : Double} (near : (Double.ofInt? n).bind Double.narrow? = some y) :
      Fits .float (.int n) (.double y)
  | date (day : CalendarDate) : Fits .date (.date day) (.date day)
  | dateOfTimestamp (day : CalendarDate) (clock : ClockTime) :
      Fits .date (.timestamp day clock) (.date day)
  | time (clock : ClockTime) : Fits .time (.time clock) (.time clock)
  | timestamp (day : CalendarDate) (clock : ClockTime) :
      Fits .timestamp (.timestamp day clock) (.timestamp day clock)
  | timestampOfDate (day : CalendarDate) :
      Fits .timestamp (.date day) (.timestamp day .midnight)
  | bytes (storage : ByteStorage) (content : List UInt8) :
      Fits .bytes (.bytes storage content) (.bytes .fixed content)

/-- How a conversion fails: the payload does not fit the kind, or as a number exceeds a range. If it
is too long for the message, that is the error; only the rounding to a double writes no message. -/
inductive Error.OfConversion (t : Tagged) (key : Option String) : Error → Prop
  | unbindable (writable : t.payload.isWritable = true) :
      OfConversion t key (.unbindable t.payload t.kind key)
  | floatRange (writable : t.payload.isWritable = true) :
      OfConversion t key (.floatRange t.payload key)
  | tooLarge {n : Int} (double : t.kind = .double) (integer : t.payload = .int n)
      (beyond : Double.ofInt? n = none) : OfConversion t key .integerTooLarge
  | tooLong (long : t.payload.isWritable = false)
      (told : t.kind = .double → ∀ n, t.payload ≠ .int n) : OfConversion t key .integerTooLong

namespace Tagged

/-- There are five ways for conversions under all keys. -/
theorem convert_cases {motive : Tagged → (Option String → Except Error Value) → Prop}
    (taken : ∀ {kind payload d}, Fits kind payload d → motive ⟨kind, payload⟩ fun _ => .ok d)
    (ranged : ∀ kind n, kind ≠ .double → motive ⟨kind, .int n⟩ fun key =>
      if kind.holds n then .ok (.int n) else .error (Tagged.unfit ⟨kind, .int n⟩ key))
    (rounded : ∀ payload, motive ⟨.double, payload⟩ fun key =>
      (Tagged.toDouble ⟨.double, payload⟩ key).map .double)
    (narrowed : ∀ payload, motive ⟨.float, payload⟩ fun key =>
      (Tagged.toSingle ⟨.float, payload⟩ key).map .double)
    (refused : ∀ t : Tagged, t.kind ≠ .double → motive t fun key => .error (t.unfit key))
    (t : Tagged) : motive t t.convert := by
  obtain ⟨kind, payload⟩ := t
  cases kind with
  | double => exact rounded payload
  | float => exact narrowed payload
  | int32 | int64 | short | byte =>
    cases payload with
    | int n => exact ranged _ n nofun
    | _ => exact refused _ nofun
  | null =>
    cases payload with
    | null => exact taken .null
    | _ => exact refused _ nofun
  | text =>
    cases payload with
    | text s => exact taken (.text s)
    | _ => exact refused _ nofun
  | boolean =>
    cases payload with
    | boolean b => exact taken (.boolean b)
    | _ => exact refused _ nofun
  | date =>
    cases payload with
    | date day => exact taken (.date day)
    | timestamp day clock => exact taken (.dateOfTimestamp day clock)
    | _ => exact refused _ nofun
  | time =>
    cases payload with
    | time clock => exact taken (.time clock)
    | _ => exact refused _ nofun
  | timestamp =>
    cases payload with
    | timestamp day clock => exact taken (.timestamp day clock)
    | date day => exact taken (.timestampOfDate day)
    | _ => exact refused _ nofun
  | bytes =>
    cases payload with
    | bytes storage content => exact taken (.bytes storage content)
    | _ => exact refused _ nofun

theorem toSingle_eq_ok_iff {t : Tagged} {key : Option String} {y : Double} :
    t.toSingle key = .ok y ↔ t.payload.isWritable = true ∧ t.narrow key = .ok y := by
  unfold toSingle
  split <;> simp [*]

section Refused

variable {t : Tagged} {key : Option String} {e : Error}

theorem unfit_eq (t : Tagged) (key : Option String) :
    t.unfit key =
      if t.payload.isWritable then .unbindable t.payload t.kind key else .integerTooLong := rfl

theorem ofConversion_unfit (told : t.kind = .double → ∀ n, t.payload ≠ .int n) :
    (t.unfit key).OfConversion t key := by
  rw [unfit_eq]
  split
  · next writable => exact .unbindable writable
  · next long => exact .tooLong (Bool.eq_false_iff.mpr long) told

theorem toDouble_refusal (double : t.kind = .double) (fails : t.toDouble key = .error e) :
    e.OfConversion t key := by
  unfold toDouble at fails
  split at fails
  · cases fails
  · next n integer =>
    split at fails
    · cases fails
    · next beyond =>
      cases fails
      exact .tooLarge double integer beyond
  · next other =>
    cases fails
    exact ofConversion_unfit fun _ n integer => other n integer

theorem narrow_refusal (other : t.kind ≠ .double) (writable : t.payload.isWritable = true)
    (fails : t.narrow key = .error e) : e.OfConversion t key := by
  unfold narrow at fails
  repeat' split at fails
  all_goals cases fails
  · exact .floatRange writable
  · exact .floatRange writable
  · exact ofConversion_unfit (absurd · other)

theorem toSingle_refusal (other : t.kind ≠ .double) (fails : t.toSingle key = .error e) :
    e.OfConversion t key := by
  unfold toSingle at fails
  split at fails
  · next writable => exact narrow_refusal other writable fails
  · next long =>
    cases fails
    exact .tooLong (Bool.eq_false_iff.mpr long) (absurd · other)

theorem convert_refusal (fails : t.convert key = .error e) : e.OfConversion t key := by
  revert fails
  refine convert_cases (motive := fun t result => result key = .error e → e.OfConversion t key)
    ?taken ?ranged ?rounded ?narrowed ?refused t
  case taken =>
    intro _ _ _ _ fails
    cases fails
  case ranged =>
    intro kind n other fails
    dsimp only at fails
    split at fails
    · cases fails
    · obtain rfl := Except.error.inj fails
      exact ofConversion_unfit (absurd · other)
  case rounded => exact fun payload fails => toDouble_refusal rfl (error_of_map fails)
  case narrowed => exact fun payload fails => toSingle_refusal nofun (error_of_map fails)
  case refused =>
    intro t other fails
    cases fails
    exact ofConversion_unfit (absurd · other)

end Refused

theorem fits_of_toDouble {payload : Value} {key : Option String} {x : Double}
    (converts : Tagged.toDouble ⟨.double, payload⟩ key = .ok x) :
    Fits .double payload (.double x) := by
  unfold toDouble at converts
  cases payload with
  | double y =>
    cases converts
    exact .double _
  | int n =>
    dsimp only at converts
    split at converts
    · next near =>
      cases converts
      exact .doubleOfInt near
    · cases converts
  | _ => cases converts

theorem fits_of_narrow {payload : Value} {key : Option String} {y : Double}
    (converts : Tagged.narrow ⟨.float, payload⟩ key = .ok y) : Fits .float payload (.double y) := by
  unfold narrow at converts
  cases payload with
  | double x =>
    dsimp only at converts
    split at converts
    · next near =>
      cases converts
      exact .float near
    · cases converts
  | int n =>
    dsimp only at converts
    split at converts
    · next near =>
      cases converts
      exact .floatOfInt near
    · cases converts
  | _ => cases converts

end Tagged

/-- Integers in the range of doubles can be written. -/
theorem withinDigits_of_lt {n : Int} (small : n.natAbs < Nat.pow 2 1024) :
    withinDigits n = true := by
  have room : Nat.pow 2 1024 ≤ Nat.pow 10 digitLimit := by decide +kernel
  rw [withinDigits, decide_eq_true_eq]
  exact Nat.lt_of_lt_of_le small room

/-- Only kinds of integers hold integers. -/
theorem Kind.integral_of_holds {kind : Kind} {n : Int} (held : kind.holds n = true) :
    kind = .int32 ∨ kind = .int64 ∨ kind = .short ∨ kind = .byte := by
  cases kind with
  | int32 | int64 | short | byte => simp
  | _ => cases held

theorem Fits.converts {kind : Kind} {payload d : Value} (fits : Fits kind payload d)
    (key : Option String) : Tagged.convert ⟨kind, payload⟩ key = .ok d := by
  cases fits with
  | int held =>
    rcases Kind.integral_of_holds held with rfl | rfl | rfl | rfl <;> simp [Tagged.convert, held]
  | doubleOfInt near => simp [Tagged.convert, Tagged.toDouble, near, Except.map]
  | float near => simp [Tagged.convert, Tagged.toSingle, Tagged.narrow, Value.isWritable, near,
      Except.map]
  | floatOfInt near =>
    obtain ⟨x, whole, _⟩ := Option.bind_eq_some_iff.mp near
    have writable := withinDigits_of_lt (Double.natAbs_lt_of_ofInt? whole)
    simp [Tagged.convert, Tagged.toSingle, Tagged.narrow, Value.isWritable, writable, near,
      Except.map]
  | _ => rfl

/-- A conversion succeeds just if the payload fits the kind. -/
theorem Tagged.convert_eq_ok_iff {kind : Kind} {payload d : Value} {key : Option String} :
    Tagged.convert ⟨kind, payload⟩ key = .ok d ↔ Fits kind payload d := by
  constructor
  · refine convert_cases (motive := fun t result => result key = .ok d → Fits t.kind t.payload d)
      ?taken ?ranged ?rounded ?narrowed ?refused ⟨kind, payload⟩
    case taken =>
      intro _ _ _ fits converts
      cases converts
      exact fits
    case ranged =>
      intro kind n _ converts
      dsimp only at converts
      split at converts
      · next held =>
        cases converts
        exact .int held
      · cases converts
    case rounded =>
      intro payload converts
      obtain ⟨x, near, rfl⟩ := ok_of_map converts
      exact fits_of_toDouble near
    case narrowed =>
      intro payload converts
      obtain ⟨y, near, rfl⟩ := ok_of_map converts
      exact fits_of_narrow (toSingle_eq_ok_iff.mp near).2
    case refused =>
      intro t _ converts
      cases converts
  · intro fits
    exact fits.converts key

end SqlTemplate
