import SqlTemplate.Scalar.Double

/-!
# Where rounding leaves a range

Rounding to a number of significant digits keeps a number below a power of two just if the number
lies below the middle between this power and the greatest number of so many digits under it: from
the middle on it goes up, since the lower neighbour is an odd multiple. So an integer has a double
just up to this bound. The sizes of the model are written with `Nat.pow`, so facts on powers of two
are stated in this form.
-/

namespace SqlTemplate.Double

/-- A number goes to the multiple below it or to the one above it, whichever is nearer, and a tie
to the even one of the two. -/
theorem nearestMultiple_cases (quantum n : Nat) :
    (nearestMultiple quantum n = n / quantum * quantum ∧ 2 * (n % quantum) ≤ quantum ∧
      (2 * (n % quantum) = quantum → n / quantum % 2 = 0)) ∨
    (nearestMultiple quantum n = (n / quantum + 1) * quantum ∧ quantum ≤ 2 * (n % quantum) ∧
      (2 * (n % quantum) = quantum → n / quantum % 2 = 1)) := by
  have unfolded : nearestMultiple quantum n =
      (if 2 * (n % quantum) < quantum then n / quantum
        else if quantum < 2 * (n % quantum) then n / quantum + 1
        else n / quantum + n / quantum % 2) * quantum := rfl
  by_cases low : 2 * (n % quantum) < quantum
  · left
    refine ⟨by rw [unfolded, if_pos low], by omega, by omega⟩
  · by_cases high : quantum < 2 * (n % quantum)
    · right
      refine ⟨by rw [unfolded, if_neg low, if_pos high], by omega, by omega⟩
    · rcases Nat.mod_two_eq_zero_or_one (n / quantum) with even | odd
      · left
        refine ⟨?_, by omega, fun _ => even⟩
        rw [unfolded, if_neg low, if_neg high, even, Nat.add_zero]
      · right
        refine ⟨by rw [unfolded, if_neg low, if_neg high, odd], by omega, fun _ => odd⟩

section Multiples

variable {quantum n count : Nat} (positive : 0 < quantum)

include positive

/-- Rounding does not pass a multiple above the number. -/
theorem nearestMultiple_le (above : n ≤ count * quantum) :
    nearestMultiple quantum n ≤ count * quantum := by
  have split := Nat.div_add_mod n quantum
  rw [Nat.mul_comm] at split
  have below : n / quantum * quantum ≤ count * quantum := by omega
  rcases nearestMultiple_cases quantum n with ⟨down, _⟩ | ⟨up, far, _⟩
  · rw [down]
    exact below
  · have strict : n / quantum < count :=
      Nat.lt_of_mul_lt_mul_right (show n / quantum * quantum < count * quantum by omega)
    rw [up]
    exact Nat.mul_le_mul_right quantum strict

/-- Rounding does not pass a multiple below the number. -/
theorem le_nearestMultiple (below : count * quantum ≤ n) :
    count * quantum ≤ nearestMultiple quantum n := by
  have least : count ≤ n / quantum := (Nat.le_div_iff_mul_le positive).mpr below
  rcases nearestMultiple_cases quantum n with ⟨down, _⟩ | ⟨up, _⟩
  · rw [down]
    exact Nat.mul_le_mul_right quantum least
  · rw [up]
    exact Nat.mul_le_mul_right quantum (Nat.le_succ_of_le least)

/-- A number is rounded to below an even multiple just if it lies below the middle between this
multiple and the odd one before it. -/
theorem nearestMultiple_lt_even_iff :
    nearestMultiple quantum n < (2 * count + 2) * quantum ↔
      2 * n + quantum < 2 * ((2 * count + 2) * quantum) := by
  have split := Nat.div_add_mod n quantum
  have rest := Nat.mod_lt n positive
  have next : (2 * count + 2) * quantum = (2 * count + 1) * quantum + quantum := Nat.succ_mul _ _
  rw [Nat.mul_comm] at split
  rcases Nat.lt_trichotomy (n / quantum) (2 * count + 1) with lower | same | higher
  · have room : (n / quantum + 1) * quantum ≤ (2 * count + 1) * quantum :=
      Nat.mul_le_mul_right quantum lower
    have above : n ≤ (2 * count + 1) * quantum := by
      rw [Nat.succ_mul] at room
      omega
    have rounded := nearestMultiple_le positive above
    rw [Nat.succ_mul] at room
    constructor <;> intro <;> omega
  · rw [same] at split
    rcases nearestMultiple_cases quantum n with ⟨down, near, tie⟩ | ⟨up, far, _⟩
    · rw [same] at down tie
      constructor <;> intro <;> omega
    · rw [same] at up
      change nearestMultiple quantum n = (2 * count + 2) * quantum at up
      constructor <;> intro <;> omega
  · have below : (2 * count + 2) * quantum ≤ n / quantum * quantum :=
      Nat.mul_le_mul_right quantum higher
    have reached := Nat.le_trans below (Nat.div_mul_le_self n quantum)
    have rounded := le_nearestMultiple positive reached
    constructor <;> intro <;> omega

end Multiples

theorem pow_positive (k : Nat) : 0 < Nat.pow 2 k := Nat.two_pow_pos k

theorem pow_add (j k : Nat) : Nat.pow 2 (j + k) = Nat.pow 2 j * Nat.pow 2 k := Nat.pow_add 2 j k

theorem pow_succ (k : Nat) : Nat.pow 2 (k + 1) = 2 * Nat.pow 2 k := Nat.pow_succ'

theorem pow_le_pow {j k : Nat} (order : j ≤ k) : Nat.pow 2 j ≤ Nat.pow 2 k :=
  Nat.pow_le_pow_right (by decide) order

/-- A power of two is a multiple of every smaller one. -/
theorem pow_eq_multiple {j k : Nat} (order : j ≤ k) :
    Nat.pow 2 k = Nat.pow 2 (k - j) * Nat.pow 2 j := by
  rw [← pow_add, Nat.sub_add_cancel order]

/-- Rounding keeps a number below a power of two just if the number lies below it by more than half
a unit in the last of its digits. -/
theorem roundTo_lt_pow_iff {digits least half : Nat} (some_ : 0 < digits) (fine : least ≤ half + 1)
    (n : Nat) :
    roundTo digits least n < Nat.pow 2 (digits + half + 1) ↔
      Nat.pow 2 half + n < Nat.pow 2 (digits + half + 1) := by
  have top : Nat.pow 2 (digits + half + 1) = 2 * Nat.pow 2 (digits + half) := pow_succ _
  have middle : Nat.pow 2 half ≤ Nat.pow 2 (digits + half) := pow_le_pow (by omega)
  have size : n < Nat.pow 2 (n.log2 + 1) := Nat.lt_log2_self
  rw [roundTo]
  rcases Nat.lt_trichotomy n.log2 (digits + half) with lower | same | higher
  · -- The number has fewer binary digits than the power, and rounding adds at most one.
    have small : n ≤ Nat.pow 2 (digits + half) :=
      Nat.le_of_lt (Nat.lt_of_lt_of_le size (pow_le_pow lower))
    have multiple := pow_eq_multiple (show max least (n.log2 + 1 - digits) ≤ digits + half by omega)
    have rounded := nearestMultiple_le (pow_positive _) (multiple ▸ small)
    rw [← multiple] at rounded
    have strict : n < Nat.pow 2 (digits + half) := Nat.lt_of_lt_of_le size (pow_le_pow lower)
    have positive := pow_positive (digits + half)
    constructor <;> intro <;> omega
  · -- The number has as many digits as the greatest number under the power.
    have unit : max least (n.log2 + 1 - digits) = half + 1 := by omega
    obtain ⟨more, rfl⟩ : ∃ more, digits = more + 1 := ⟨digits - 1, by omega⟩
    have count : Nat.pow 2 (more + 1 + half + 1) =
        (2 * (Nat.pow 2 more - 1) + 2) * Nat.pow 2 (half + 1) := by
      have positive := pow_positive more
      have even : 2 * (Nat.pow 2 more - 1) + 2 = Nat.pow 2 (more + 1) := by
        rw [pow_succ]
        omega
      rw [even, ← pow_add, Nat.add_assoc (more + 1)]
    have step : Nat.pow 2 (half + 1) = 2 * Nat.pow 2 half := pow_succ _
    rw [unit, count, nearestMultiple_lt_even_iff (pow_positive _), ← count]
    constructor <;> intro <;> omega
  · -- The number has more digits, so its leading power of two is not passed downwards.
    have filled : n ≠ 0 := by
      rintro rfl
      rw [Nat.log2_zero] at higher
      omega
    have leading : Nat.pow 2 n.log2 ≤ n := Nat.log2_self_le filled
    have reached : Nat.pow 2 (digits + half + 1) ≤ Nat.pow 2 n.log2 := pow_le_pow higher
    have multiple := pow_eq_multiple (show max least (n.log2 + 1 - digits) ≤ n.log2 by omega)
    have rounded := le_nearestMultiple (pow_positive _) (multiple ▸ leading)
    rw [← multiple] at rounded
    constructor <;> intro <;> omega

/-- A number counted in a unit, itself a power of two, is lost in rounding just from the middle on.
-/
theorem rounded_eq_none_iff {digits least half top unit : Nat} (some_ : 0 < digits)
    (fine : least ≤ half + unit) (width : digits + half + 1 = top) (result : Nat → Double)
    (n : Nat) :
    (let rounded := roundTo digits least (n * Nat.pow 2 unit)
      if rounded < Nat.pow 2 top * Nat.pow 2 unit then some (result rounded) else none) = none ↔
        Nat.pow 2 top ≤ Nat.pow 2 half + n := by
  have exponent : digits + (half + unit) + 1 = top + unit := by omega
  have bound := roundTo_lt_pow_iff some_ (Nat.le_succ_of_le fine) (n * Nat.pow 2 unit)
  rw [exponent, pow_add, pow_add, ← Nat.add_mul, Nat.mul_lt_mul_right (pow_positive unit)] at bound
  dsimp only
  rw [← Nat.not_lt, ← bound, ite_eq_right_iff]
  constructor
  · intro none_ low
    cases none_ low
  · intro high low
    exact absurd low high

/-- A whole magnitude has no double from the middle between the greatest double and the next power
of two on. -/
theorem ofMagnitude?_eq_none_iff (negative : Bool) (magnitude : Nat) :
    ofMagnitude? negative magnitude = none ↔ Nat.pow 2 1024 ≤ Nat.pow 2 970 + magnitude := by
  unfold ofMagnitude? one
  -- With names for the exponents no power is computed.
  generalize greatest : 1024 = top
  generalize middle : 970 = half
  generalize 1074 = unit
  exact rounded_eq_none_iff (by decide) (Nat.zero_le _) (by omega) (ofUnits negative) magnitude

/-- An integer has no double from 2^1024 - 2^970 on, either way. -/
theorem ofInt?_eq_none_iff (n : Int) :
    ofInt? n = none ↔ Nat.pow 2 1024 ≤ Nat.pow 2 970 + n.natAbs := by
  cases n with
  | ofNat magnitude => rw [ofInt?, Int.natAbs_ofNat', ofMagnitude?_eq_none_iff]
  | negSucc below =>
    rw [ofInt?, Int.natAbs_negSucc, Nat.succ_eq_add_one, ofMagnitude?_eq_none_iff]

theorem natAbs_lt_of_ofInt? {n : Int} {x : Double} (near : ofInt? n = some x) :
    n.natAbs < Nat.pow 2 1024 := by
  have beyond := (ofInt?_eq_none_iff n).mpr
  rw [near] at beyond
  generalize Nat.pow 2 1024 = top at *
  generalize Nat.pow 2 970 = half at *
  refine Nat.lt_of_not_le fun large => ?_
  cases beyond (Nat.le_trans large (Nat.le_add_left _ _))

end SqlTemplate.Double
