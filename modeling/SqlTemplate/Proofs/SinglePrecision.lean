import SqlTemplate.Proofs.NearestNumbers
import SqlTemplate.Value.Conversion
import Mathlib.Algebra.Order.Field.Basic
import Mathlib.Data.Rat.Cast.Order

/-!
# Narrowing to single precision

A double and a single stand for rational numbers. Binding a double in single precision gives a
double whose value is the nearest of all singles, with the sign of the double; of two equally near
singles it is the one whose significand is even. Values from the middle between the greatest single
and the next power of two on are refused, so no finite number ever turns into an infinity. What has
been narrowed stays as it is, and narrowing keeps order. -/

namespace SqlTemplate

def signed (negative : Bool) (magnitude : Nat) : Int := if negative then -magnitude else magnitude

def Double.value (x : Double) : ℚ := signed x.isNegative x.units / Double.one

/-- A finite number of single precision by its fields: a sign, an exponent of eight bits that is not
the greatest one, and 23 bits of fraction. -/
structure Single where
  negative : Bool
  exponent : Fin 255
  fraction : Fin 8388608
  deriving DecidableEq, Repr

namespace Single

/-- The magnitude in units of 2^-149, the least positive single. Without an exponent the fraction
has no leading digit in front of it. -/
def units (s : Single) : Nat :=
  if s.exponent.val = 0 then s.fraction.val
  else (8388608 + s.fraction.val) * Nat.pow 2 (s.exponent.val - 1)

def value (s : Single) : ℚ := signed s.negative s.units / 2 ^ 149

/-- No single is nearer to the number, and if another one is as near, then the significand of this
one is even. -/
structure IsNearest (s : Single) (q : ℚ) : Prop where
  nearest : ∀ other : Single, |q - s.value| ≤ |q - other.value|
  even : ∀ other : Single, other.value ≠ s.value → |q - other.value| = |q - s.value| →
    s.fraction.val % 2 = 0

end Single

namespace Double

/-- The fields of a double are read back from the bits they were put together to. -/
theorem fields_packed (negative : Bool) {shift count : Nat} (small : count < 9007199254740992)
    (high : shift ≤ 2045) (full : shift = 0 ∨ 4503599627370496 ≤ count) :
    let x : Double := ⟨UInt64.ofNat ((if negative then Nat.pow 2 63 else 0) +
      shift * Nat.pow 2 52 + count)⟩
    x.isNegative = negative ∧ x.isFinite = true ∧ x.units = count * Nat.pow 2 shift := by
  intro x
  have sign : Nat.pow 2 63 = 9223372036854775808 := rfl
  have unit : Nat.pow 2 52 = 4503599627370496 := rfl
  have width : Nat.pow 2 11 = 2048 := rfl
  have bits : x.bits.toNat = (if negative then 9223372036854775808 else 0) +
      shift * 4503599627370496 + count := by
    have fits : (if negative then 9223372036854775808 else 0) + shift * 4503599627370496 + count <
        2 ^ 64 := by
      cases negative <;> simp only [Bool.false_eq_true, if_true, if_false] <;> omega
    simp only [x, UInt64.toNat_ofNat', sign, unit]
    exact Nat.mod_eq_of_lt fits
  have exponent : x.exponentField = if count < 4503599627370496 then 0 else shift + 1 := by
    simp only [exponentField, bits, unit, width]
    cases negative <;> simp <;> split <;> omega
  have fraction : x.fractionField = count % 4503599627370496 := by
    simp only [fractionField, bits, unit]
    cases negative <;> simp only [Bool.false_eq_true, if_true, if_false] <;> omega
  refine ⟨?_, ?_, ?_⟩
  · simp only [isNegative, bits, sign]
    cases negative <;> simp <;> omega
  · simp only [isFinite, exponent, bne_iff_ne]
    split <;> omega
  · simp only [units, exponent, fraction, unit]
    by_cases low : count < 4503599627370496
    · have none_ : shift = 0 := by omega
      subst none_
      simp [low, Nat.mod_eq_of_lt low]
    · have whole : 4503599627370496 + count % 4503599627370496 = count := by omega
      simp [low, whole]

/-- The double of a number of 53 digits within the range stands for this number, and has the sign
asked for. -/
theorem ofUnits_spec (negative : Bool) {n top : Nat} (fits : HasDigits 53 0 n)
    (below : n < Nat.pow 2 top * one) (range : top ≤ 1024) :
    (ofUnits negative n).isNegative = negative ∧ (ofUnits negative n).isFinite = true ∧
      (ofUnits negative n).units = n := by
  have high : n.log2 - 52 ≤ 2045 := by
    by_cases empty : n = 0
    · simp [empty]
    · unfold one at below
      generalize scale : 1074 = unit at below
      rw [← pow_add] at below
      have short := (Nat.log2_lt empty).mpr below
      omega
  have size : n < Nat.pow 2 53 * Nat.pow 2 (n.log2 - 52) := by
    have short : n < Nat.pow 2 (n.log2 + 1) := Nat.lt_log2_self
    have room : Nat.pow 2 (n.log2 + 1) ≤ Nat.pow 2 (53 + (n.log2 - 52)) := pow_le_pow (by omega)
    rw [← pow_add]
    exact Nat.lt_of_lt_of_le short room
  have place : lastPlace 53 0 n = n.log2 - 52 := by simp only [lastPlace]; omega
  obtain ⟨count, whole, _, full, _⟩ := roundTo_spec (show 0 < 53 by decide) 0 n
  rw [roundTo_of_hasDigits (by decide) fits, place] at whole
  rw [place] at full
  have packed : ofUnits negative n = ⟨UInt64.ofNat ((if negative then Nat.pow 2 63 else 0) +
      (n.log2 - 52) * Nat.pow 2 52 + n / Nat.pow 2 (n.log2 - 52))⟩ := rfl
  generalize n.log2 - 52 = shift at *
  subst whole
  have positive := pow_positive shift
  rw [Nat.mul_div_cancel _ positive] at packed
  rw [packed]
  exact fields_packed negative (Nat.lt_of_mul_lt_mul_right size) high full

/-- Rounding to single precision keeps a magnitude below 2^128 just if it lies below this number by
more than 2^103. -/
theorem roundTo_single_lt_iff (n : Nat) :
    roundTo 24 925 n < Nat.pow 2 128 * one ↔
      Nat.pow 2 103 * one + n < Nat.pow 2 128 * one := by
  unfold one
  -- With a name for the exponent of the unit no power is computed.
  generalize scale : 1074 = unit
  have width : 24 + (103 + unit) + 1 = 128 + unit := by omega
  have bound := roundTo_lt_pow_iff (show 0 < 24 by decide)
    (show 925 ≤ 103 + unit + 1 by omega) n
  rwa [width, pow_add, pow_add] at bound

/-- A finite double is rounded to 24 digits, none of them below 2^-149, and is refused if this would
leave the range. -/
theorem narrow?_of_finite {x : Double} (finite : x.isFinite = true) :
    x.narrow? = if Nat.pow 2 103 * one + x.units < Nat.pow 2 128 * one then
      some (ofUnits x.isNegative (roundTo 24 925 x.units)) else none := by
  simp only [narrow?, finite, if_true, roundTo_single_lt_iff, Nat.reduceSub]

/-- What narrowing a finite double comes to. -/
theorem narrowed_spec {x y : Double} (finite : x.isFinite = true) (narrows : x.narrow? = some y) :
    y = ofUnits x.isNegative (roundTo 24 925 x.units) ∧ y.isNegative = x.isNegative ∧
      y.isFinite = true ∧ y.units = roundTo 24 925 x.units ∧
      roundTo 24 925 x.units < Nat.pow 2 128 * one := by
  rw [narrow?_of_finite finite, Option.ite_none_right_eq_some, Option.some.injEq] at narrows
  obtain ⟨inside, rfl⟩ := narrows
  have below := (roundTo_single_lt_iff x.units).mpr inside
  have fits : HasDigits 53 0 (roundTo 24 925 x.units) :=
    (hasDigits_roundTo (by decide) x.units).mono (by decide) (by decide)
  obtain ⟨sign, made, same⟩ := ofUnits_spec x.isNegative fits below (by decide)
  exact ⟨rfl, sign, made, same, below⟩

/-- What has been narrowed stays as it is. -/
theorem narrow?_narrowed {x y : Double} (narrows : x.narrow? = some y) : y.narrow? = some y := by
  by_cases finite : x.isFinite = true
  · obtain ⟨made, sign, whole, units, below⟩ := narrowed_spec finite narrows
    have kept : roundTo 24 925 y.units = y.units := by
      rw [units]
      exact roundTo_of_hasDigits (by decide) (hasDigits_roundTo (by decide) x.units)
    have inside := (roundTo_single_lt_iff y.units).mp (by rw [kept, units]; exact below)
    rw [narrow?_of_finite whole, if_pos inside, kept, sign, units, ← made]
  · have same : x.narrow? = some x := by simp only [narrow?, finite, Bool.false_eq_true, if_false]
    rw [same] at narrows
    cases narrows
    exact same

end Double

namespace Single

/-- In whatever unit singles are counted, their magnitudes have 24 digits and none below that unit.
-/
theorem hasDigits_units (s : Single) (least : Nat) :
    Double.HasDigits 24 least (s.units * Nat.pow 2 least) := by
  have few := s.fraction.isLt
  have width : Nat.pow 2 24 = 16777216 := rfl
  by_cases low : s.exponent.val = 0
  · refine ⟨s.fraction.val, least, by omega, Nat.le_refl least, ?_⟩
    simp only [units, low, if_true]
  · refine ⟨8388608 + s.fraction.val, s.exponent.val - 1 + least, by omega, by omega, ?_⟩
    simp only [units, low, if_false, Double.pow_add, Nat.mul_assoc]

/-- With an exponent a leading digit stands before the fraction. -/
theorem units_succ (negative : Bool) {power : Nat} (bound : power + 1 < 255)
    (fraction : Fin 8388608) :
    units ⟨negative, ⟨power + 1, bound⟩, fraction⟩ =
      (8388608 + fraction.val) * Nat.pow 2 power := by
  simp [units]

/-- A count of 24 digits in a unit that is not too great is the magnitude of a single, and where the
count is even, so is the significand. -/
theorem exists_of_count (negative : Bool) {least place count : Nat} (fine : least ≤ place)
    (small : count ≤ 16777216) (full : place = least ∨ 8388608 ≤ count)
    (below : count * Nat.pow 2 place < Nat.pow 2 (least + 277)) :
    ∃ s : Single, s.negative = negative ∧ s.units * Nat.pow 2 least = count * Nat.pow 2 place ∧
      (count % 2 = 0 → s.fraction.val % 2 = 0) := by
  have room : ∀ more, Nat.pow 2 more ≤ count → more + place < least + 277 := by
    intro more reached
    apply (Nat.pow_lt_pow_iff_right (show 1 < 2 by decide)).mp
    calc Nat.pow 2 (more + place) = Nat.pow 2 more * Nat.pow 2 place := Double.pow_add more place
      _ ≤ count * Nat.pow 2 place := Nat.mul_le_mul_right _ reached
      _ < Nat.pow 2 (least + 277) := below
  by_cases subnormal : count < 8388608
  · obtain rfl : place = least := by omega
    exact ⟨⟨negative, 0, ⟨count, subnormal⟩⟩, rfl, by simp [units], id⟩
  · rw [Double.pow_eq_multiple fine, ← Nat.mul_assoc]
    by_cases carry : count = 16777216
    · -- The carry moves into the exponent and leaves no fraction.
      have top := room 24 (Nat.le_of_eq carry.symm)
      refine ⟨⟨negative, ⟨place - least + 1 + 1, by omega⟩, 0⟩, rfl, ?_, fun _ => rfl⟩
      rw [units_succ, Double.pow_succ, carry, ← Nat.mul_assoc]
      rfl
    · have top := room 23 (Nat.le_of_not_lt subnormal)
      refine ⟨⟨negative, ⟨place - least + 1, by omega⟩, ⟨count - 8388608, by omega⟩⟩, rfl, ?_, ?_⟩
      · rw [units_succ, Nat.add_sub_cancel' (Nat.le_of_not_lt subnormal)]
      · intro even
        dsimp only
        omega

/-- The result of rounding is the magnitude of a single, which with the sign of the number is the
nearest of all singles. A single of the other sign is no nearer than zero is. -/
theorem exists_nearest (negative : Bool) (least : Nat) {n : Nat}
    (below : Double.roundTo 24 least n < Nat.pow 2 (least + 277)) :
    ∃ s : Single, s.negative = negative ∧ s.units * Nat.pow 2 least = Double.roundTo 24 least n ∧
      ∀ other : Single,
        (signed negative n - signed negative (Double.roundTo 24 least n)).natAbs ≤
          (signed negative n - signed other.negative (other.units * Nat.pow 2 least)).natAbs ∧
        (signed other.negative (other.units * Nat.pow 2 least) ≠
            signed negative (Double.roundTo 24 least n) →
          (signed negative n - signed other.negative (other.units * Nat.pow 2 least)).natAbs =
            (signed negative n - signed negative (Double.roundTo 24 least n)).natAbs →
          s.fraction.val % 2 = 0) := by
  obtain ⟨count, whole, small, full, nearest⟩ :=
    Double.roundTo_spec (show 0 < 24 by decide) least n
  obtain ⟨s, sign, same, even⟩ := exists_of_count negative (Nat.le_max_left least _) small full
    (whole ▸ below)
  refine ⟨s, sign, same.trans whole.symm, fun other => ?_⟩
  obtain ⟨zeroNear, zeroTie⟩ := nearest 0 Double.hasDigits_zero
  obtain ⟨near, tie⟩ := nearest _ (other.hasDigits_units least)
  generalize other.units * Nat.pow 2 least = m at *
  generalize Double.roundTo 24 least n = r at *
  simp only [Double.distance] at zeroNear zeroTie near tie
  constructor
  · cases negative <;> cases other.negative <;>
      simp only [signed, Bool.false_eq_true, if_true, if_false] <;> omega
  · intro different equal
    apply even
    cases negative <;> cases other.negative <;>
      simp only [signed, Bool.false_eq_true, if_true, if_false] at different equal <;> omega

end Single

theorem signed_mul (negative : Bool) (n k : Nat) :
    signed negative (n * k) = signed negative n * k := by
  cases negative <;> simp [signed]

theorem abs_signed (negative : Bool) (n : Nat) : |(signed negative n : ℚ)| = n := by
  cases negative <;> simp [signed]

theorem one_positive : 0 < Double.one := by
  unfold Double.one
  generalize 1074 = unit
  exact Double.pow_positive unit

/-- Singles and doubles are measured in one unit. -/
theorem Single.value_eq {least : Nat} (scale : 925 = least) (s : Single) :
    s.value = (signed s.negative (s.units * Nat.pow 2 least) : ℚ) / Double.one := by
  unfold Double.one
  generalize whole : 1074 = unit
  obtain rfl : unit = 149 + least := by omega
  have positive : ((Nat.pow 2 least : Nat) : ℚ) ≠ 0 :=
    Nat.cast_ne_zero.mpr (Nat.ne_of_gt (Double.pow_positive least))
  have own : ((Nat.pow 2 149 : Nat) : ℚ) = 2 ^ 149 := Nat.cast_pow 2 149
  rw [Double.pow_add, signed_mul, Int.cast_mul, Int.cast_natCast, Nat.cast_mul, own,
    mul_div_mul_right _ _ positive]
  rfl

theorem abs_sub_div (a b : ℤ) {scale : ℚ} (positive : 0 < scale) :
    |(a : ℚ) / scale - b / scale| = ((a - b).natAbs : ℚ) / scale := by
  rw [← sub_div, abs_div, abs_of_pos positive, Nat.cast_natAbs, Int.cast_abs, Int.cast_sub]

/-- A magnitude lies below the bound of narrowing as a number just if it does in units. -/
theorem div_unit_lt_iff (n : Nat) {unit : Nat} (positive : 0 < unit) :
    (n : ℚ) / unit < 2 ^ 128 - 2 ^ 103 ↔ Nat.pow 2 103 * unit + n < Nat.pow 2 128 * unit := by
  have scale : (0 : ℚ) < unit := Nat.cast_pos.mpr positive
  have half : ((Nat.pow 2 103 : Nat) : ℚ) = 2 ^ 103 := Nat.cast_pow 2 103
  have top : ((Nat.pow 2 128 : Nat) : ℚ) = 2 ^ 128 := Nat.cast_pow 2 128
  rw [div_lt_iff₀ scale, sub_mul, lt_sub_iff_add_lt', ← half, ← top, ← Nat.cast_mul, ← Nat.cast_mul,
    ← Nat.cast_add, Nat.cast_lt]

/-- Narrowing a finite double gives the value of its nearest single, which has the same sign. -/
theorem Double.exists_single {x y : Double} (finite : x.isFinite = true)
    (narrows : x.narrow? = some y) :
    ∃ s : Single, y.value = s.value ∧ s.negative = x.isNegative ∧ s.IsNearest x.value := by
  obtain ⟨-, sign, -, units, below⟩ := narrowed_spec finite narrows
  -- With a name for the exponent of the unit no power is computed.
  generalize scale : 925 = least at units below
  have range : Nat.pow 2 128 * one = Nat.pow 2 (least + 277) := by
    unfold one
    generalize whole : 1074 = unit
    rw [← pow_add]
    congr 1
    omega
  rw [range] at below
  obtain ⟨s, same, whole, nearest⟩ := Single.exists_nearest x.isNegative least below
  have value : s.value = (signed x.isNegative (roundTo 24 least x.units) : ℚ) / one := by
    rw [s.value_eq scale, same, whole]
  have positive : (0 : ℚ) < one := Nat.cast_pos.mpr one_positive
  refine ⟨s, ?_, same, fun other => ?_, fun other different equal => ?_⟩
  · rw [value, Double.value, sign, units]
  · rw [value, Double.value, other.value_eq scale, abs_sub_div _ _ positive,
      abs_sub_div _ _ positive]
    have near := (nearest other).1
    exact div_le_div_of_nonneg_right (Nat.cast_le.mpr near) (le_of_lt positive)
  · rw [value, Double.value, other.value_eq scale, abs_sub_div _ _ positive,
      abs_sub_div _ _ positive,
      div_left_inj' (ne_of_gt positive), Nat.cast_inj] at equal
    apply (nearest other).2 _ equal
    intro alike
    apply different
    rw [value, other.value_eq scale, alike]

/-- Narrowing keeps the order of finite doubles. -/
theorem Double.narrowed_le {x x' y y' : Double} (finite : x.isFinite = true)
    (finite' : x'.isFinite = true) (narrows : x.narrow? = some y) (narrows' : x'.narrow? = some y')
    (order : x.value ≤ x'.value) : y.value ≤ y'.value := by
  obtain ⟨-, sign, -, units, -⟩ := narrowed_spec finite narrows
  obtain ⟨-, sign', -, units', -⟩ := narrowed_spec finite' narrows'
  generalize 925 = least at units units'
  have positive : (0 : ℚ) < one := Nat.cast_pos.mpr one_positive
  have zero : roundTo 24 least 0 = 0 := roundTo_zero (by decide)
  simp only [Double.value, div_le_div_iff_of_pos_right positive, Int.cast_le, sign, sign', units,
    units'] at order ⊢
  generalize x.units = n at *
  generalize x'.units = m at *
  have upwards : n ≤ m → roundTo 24 least n ≤ roundTo 24 least m := roundTo_mono (by decide)
  have downwards : m ≤ n → roundTo 24 least m ≤ roundTo 24 least n := roundTo_mono (by decide)
  have none_ : n = 0 → roundTo 24 least n = 0 := fun empty => empty ▸ zero
  generalize roundTo 24 least n = r at *
  generalize roundTo 24 least m = r' at *
  generalize x.isNegative = negative at order ⊢
  generalize x'.isNegative = negative' at order ⊢
  cases negative <;> cases negative' <;>
    simp only [signed, Bool.false_eq_true, if_true, if_false] at order ⊢ <;> omega

theorem Tagged.convert_single (x : Double) (key : Option String) :
    Tagged.convert ⟨.float, .double x⟩ key =
      match x.narrow? with
      | some y => .ok (.double y)
      | none => .error (.floatRange (.double x) key) := by
  simp only [Tagged.convert, Tagged.toSingle, Value.isWritable, if_true, Tagged.narrow]
  cases x.narrow? <;> rfl

/-- A double that is bound in single precision comes to the double of its nearest single, if its
value lies below 2^128 - 2^103 either way, and is refused under its key if it is finite and lies
beyond; infinities stay as they are, and so do NaNs, which are not told apart. Binding the result
again changes nothing, and greater values have no lesser results. -/
theorem narrowing_is_nearest (x : Double) (key : Option String) :
    (x.isFinite = true → |x.value| < 2 ^ 128 - 2 ^ 103 →
      ∃ (y : Double) (s : Single), Tagged.convert ⟨.float, .double x⟩ key = .ok (.double y) ∧
        y.isFinite = true ∧ y.isNegative = x.isNegative ∧ y.value = s.value ∧
        s.negative = x.isNegative ∧ s.IsNearest x.value) ∧
    (x.isFinite = true → 2 ^ 128 - 2 ^ 103 ≤ |x.value| →
      ∃ e, Tagged.convert ⟨.float, .double x⟩ key = .error e ∧ e.category = .binding ∧
        e.key = key) ∧
    (x.isFinite = false → Tagged.convert ⟨.float, .double x⟩ key = .ok (.double x)) ∧
    (∀ y other, Tagged.convert ⟨.float, .double x⟩ key = .ok (.double y) →
      Tagged.convert ⟨.float, .double y⟩ other = .ok (.double y)) ∧
    ∀ x' y y' other, x.isFinite = true → x'.isFinite = true →
      Tagged.convert ⟨.float, .double x⟩ key = .ok (.double y) →
      Tagged.convert ⟨.float, .double x'⟩ other = .ok (.double y') →
      x.value ≤ x'.value → y.value ≤ y'.value := by
  have size : |x.value| = (x.units : ℚ) / Double.one := by
    rw [Double.value, abs_div, abs_signed, Nat.abs_cast]
  have narrows : ∀ {x y : Double} {key}, Tagged.convert ⟨.float, .double x⟩ key = .ok (.double y) →
      x.narrow? = some y := by
    intro x y key converts
    rw [Tagged.convert_single] at converts
    cases narrowed : x.narrow? with
    | none => simp [narrowed] at converts
    | some z => simpa [narrowed] using converts
  refine ⟨?_, ?_, ?_, ?_, ?_⟩
  · intro finite inside
    rw [size, div_unit_lt_iff x.units one_positive] at inside
    have made := Double.narrow?_of_finite finite
    rw [if_pos inside] at made
    obtain ⟨_, sign, whole, _, _⟩ := Double.narrowed_spec finite made
    obtain ⟨s, value, same, nearest⟩ := Double.exists_single finite made
    exact ⟨_, s, by rw [Tagged.convert_single, made], whole, sign, value, same, nearest⟩
  · intro finite beyond
    rw [size, ← not_lt, div_unit_lt_iff x.units one_positive] at beyond
    have refused := Double.narrow?_of_finite finite
    rw [if_neg beyond] at refused
    exact ⟨_, by rw [Tagged.convert_single, refused], rfl, rfl⟩
  · intro special
    rw [Tagged.convert_single]
    simp only [Double.narrow?, special, Bool.false_eq_true, if_false]
  · intro y other converts
    rw [Tagged.convert_single, Double.narrow?_narrowed (narrows converts)]
  · intro x' y y' other finite finite' converts converts' order
    exact Double.narrowed_le finite finite' (narrows converts) (narrows converts') order

/-- Half of the least single is as near to zero as to that single, and keeps its sign as a zero.
Between one and the next single the even significand is that of one. -/
example : Double.narrow? ⟨0xB690000000000000⟩ = some ⟨0x8000000000000000⟩ ∧
    Double.narrow? ⟨0x3FF0000010000000⟩ = some ⟨0x3FF0000000000000⟩ := by decide +kernel

end SqlTemplate
