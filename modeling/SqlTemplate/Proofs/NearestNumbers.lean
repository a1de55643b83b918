import SqlTemplate.Proofs.Rounding

/-!
# Rounding to the nearest number of few digits

A number of so many binary digits is a count below a power of two in a unit that is itself a power
of two. Rounding to that many digits gives such a number, and none of them is nearer; where another
is as near, the count of the result is even. What this decides about rounding follows from it
alone: numbers of so many digits stay as they are, and greater numbers are rounded to no lesser
ones. -/

namespace SqlTemplate.Double

variable {digits least : Nat}

/-- The number has no more than so many binary digits, none of them below the least place. -/
def HasDigits (digits least n : Nat) : Prop :=
  ∃ count place, count < Nat.pow 2 digits ∧ least ≤ place ∧ n = count * Nat.pow 2 place

def distance (n m : Nat) : Nat := (n - m) + (m - n)

/-- The place of the last digit that rounding keeps. -/
def lastPlace (digits least n : Nat) : Nat := max least (n.log2 + 1 - digits)

theorem hasDigits_zero : HasDigits digits least 0 :=
  ⟨0, least, pow_positive digits, Nat.le_refl least, (Nat.zero_mul _).symm⟩

/-- A number of few digits needs no more of them where more are allowed. -/
theorem HasDigits.mono {more lower n : Nat} (fits : HasDigits digits least n)
    (width : digits ≤ more) (reach : lower ≤ least) : HasDigits more lower n := by
  obtain ⟨count, place, small, fine, whole⟩ := fits
  exact ⟨count, place, Nat.lt_of_lt_of_le small (pow_le_pow width), by omega, whole⟩

/-- A number has its leading digit at its logarithm, and that digit is kept. -/
theorem pow_log2_eq_multiple (some_ : 0 < digits) {n : Nat}
    (high : least < lastPlace digits least n) :
    Nat.pow 2 n.log2 = Nat.pow 2 (digits - 1) * Nat.pow 2 (lastPlace digits least n) ∧
      Nat.pow 2 n.log2 ≤ n := by
  have place : lastPlace digits least n = n.log2 + 1 - digits := by
    simp only [lastPlace] at high ⊢
    omega
  have filled : n ≠ 0 := by
    rintro rfl
    simp only [Nat.log2_zero] at place
    omega
  constructor
  · rw [← pow_add, place]
    congr 1
    omega
  · exact Nat.log2_self_le filled

/-- No number of few digits lies between the two multiples that a number is rounded to. -/
theorem HasDigits.apart (some_ : 0 < digits) {m : Nat} (fits : HasDigits digits least m) (n : Nat) :
    m ≤ n / Nat.pow 2 (lastPlace digits least n) * Nat.pow 2 (lastPlace digits least n) ∨
      (n / Nat.pow 2 (lastPlace digits least n) + 1) *
        Nat.pow 2 (lastPlace digits least n) ≤ m := by
  obtain ⟨count, place, small, fine, rfl⟩ := fits
  by_cases coarse : lastPlace digits least n ≤ place
  · -- The number is a multiple of the unit as well.
    rw [pow_eq_multiple coarse, ← Nat.mul_assoc]
    generalize count * Nat.pow 2 (place - lastPlace digits least n) = multiple
    by_cases below : multiple ≤ n / Nat.pow 2 (lastPlace digits least n)
    · exact .inl (Nat.mul_le_mul_right _ below)
    · exact .inr (Nat.mul_le_mul_right _ (by omega))
  · -- The number has a finer unit, so it lies below the leading digit of the other.
    left
    obtain ⟨leading, reached⟩ := pow_log2_eq_multiple some_
      (show least < lastPlace digits least n by omega)
    have kept : Nat.pow 2 (digits - 1) ≤ n / Nat.pow 2 (lastPlace digits least n) := by
      apply (Nat.le_div_iff_mul_le (pow_positive _)).mpr
      omega
    calc count * Nat.pow 2 place
        ≤ Nat.pow 2 digits * Nat.pow 2 place := Nat.mul_le_mul_right _ (Nat.le_of_lt small)
      _ = Nat.pow 2 (digits + place) := (pow_add digits place).symm
      _ ≤ Nat.pow 2 (digits - 1 + lastPlace digits least n) := pow_le_pow (by omega)
      _ = Nat.pow 2 (digits - 1) * Nat.pow 2 (lastPlace digits least n) := pow_add _ _
      _ ≤ _ := Nat.mul_le_mul_right _ kept

/-- Of the numbers that do not lie between the two multiples around a number none is nearer to it
than the multiple chosen; where another is as near, an even multiple was chosen. -/
theorem nearestMultiple_nearest {quantum : Nat} (positive : 0 < quantum) (n : Nat) :
    ∃ count, nearestMultiple quantum n = count * quantum ∧
      ∀ m, m ≤ n / quantum * quantum ∨ (n / quantum + 1) * quantum ≤ m →
        distance n (nearestMultiple quantum n) ≤ distance n m ∧
        (m ≠ nearestMultiple quantum n → distance n m = distance n (nearestMultiple quantum n) →
          count % 2 = 0) := by
  have split := Nat.div_add_mod n quantum
  have rest := Nat.mod_lt n positive
  have next : (n / quantum + 1) * quantum = n / quantum * quantum + quantum := Nat.succ_mul _ _
  rw [Nat.mul_comm] at split
  simp only [distance]
  rcases nearestMultiple_cases quantum n with ⟨down, close, tie⟩ | ⟨up, close, tie⟩
  · refine ⟨n / quantum, down, fun m outside => ?_⟩
    rw [down]
    exact ⟨by omega, fun other equal => tie (by omega)⟩
  · refine ⟨n / quantum + 1, up, fun m outside => ?_⟩
    rw [up]
    refine ⟨by omega, fun other equal => ?_⟩
    have odd := tie (by omega)
    omega

/-- The result of rounding is a count of the unit that its last digit stands for, of no more than
so many digits but for a carry, and of no fewer unless the unit is the least. No number of few
digits is nearer, and where another is as near, the count is even. -/
theorem roundTo_spec (some_ : 0 < digits) (least n : Nat) :
    ∃ count, roundTo digits least n = count * Nat.pow 2 (lastPlace digits least n) ∧
      count ≤ Nat.pow 2 digits ∧
      (lastPlace digits least n = least ∨ Nat.pow 2 (digits - 1) ≤ count) ∧
      ∀ m, HasDigits digits least m →
        distance n (roundTo digits least n) ≤ distance n m ∧
        (m ≠ roundTo digits least n → distance n m = distance n (roundTo digits least n) →
          count % 2 = 0) := by
  have positive := pow_positive (lastPlace digits least n)
  obtain ⟨count, whole, nearest⟩ := nearestMultiple_nearest positive n
  change roundTo digits least n = _ at whole
  refine ⟨count, whole, ?_, ?_, fun m fits => nearest m (fits.apart some_ n)⟩
  · have size : n ≤ Nat.pow 2 digits * Nat.pow 2 (lastPlace digits least n) := by
      have short : n < Nat.pow 2 (n.log2 + 1) := Nat.lt_log2_self
      have room : Nat.pow 2 (n.log2 + 1) ≤ Nat.pow 2 (digits + lastPlace digits least n) :=
        pow_le_pow (by simp only [lastPlace]; omega)
      rw [← pow_add]
      omega
    have above : roundTo digits least n ≤ _ := nearestMultiple_le positive size
    rw [whole] at above
    exact Nat.le_of_mul_le_mul_right above positive
  · by_cases finest : lastPlace digits least n = least
    · exact .inl finest
    · have high : least < lastPlace digits least n := by
        simp only [lastPlace] at finest ⊢
        omega
      obtain ⟨leading, reached⟩ := pow_log2_eq_multiple some_ high
      have below : _ ≤ roundTo digits least n := le_nearestMultiple positive (leading ▸ reached)
      rw [whole] at below
      exact .inr (Nat.le_of_mul_le_mul_right below positive)

/-- Rounding to some digits gives a number of so many digits. -/
theorem hasDigits_roundTo (some_ : 0 < digits) (n : Nat) :
    HasDigits digits least (roundTo digits least n) := by
  obtain ⟨count, whole, small, _, _⟩ := roundTo_spec some_ least n
  have fine : least ≤ lastPlace digits least n := Nat.le_max_left _ _
  rcases Nat.lt_or_eq_of_le small with fits | carry
  · exact ⟨count, _, fits, fine, whole⟩
  · -- A carry leaves a power of two, which is one digit at a higher place.
    refine ⟨1, digits + lastPlace digits least n, ?_, by omega, ?_⟩
    · calc 1 < Nat.pow 2 1 := by decide
        _ ≤ Nat.pow 2 digits := pow_le_pow some_
    · rw [whole, carry, pow_add, Nat.one_mul]

/-- A number of few digits is its own nearest one. -/
theorem roundTo_of_hasDigits (some_ : 0 < digits) {n : Nat} (fits : HasDigits digits least n) :
    roundTo digits least n = n := by
  obtain ⟨_, _, _, _, nearest⟩ := roundTo_spec some_ least n
  have none_ := (nearest n fits).1
  simp only [distance] at none_
  omega

theorem roundTo_zero (some_ : 0 < digits) : roundTo digits least 0 = 0 :=
  roundTo_of_hasDigits some_ hasDigits_zero

/-- Rounding keeps order. If it did not, both results would be as near to either number, with the
greater number above the middle and the lesser one below it. -/
theorem roundTo_mono (some_ : 0 < digits) {n m : Nat} (order : n ≤ m) :
    roundTo digits least n ≤ roundTo digits least m := by
  by_cases same : n = m
  · simp [same]
  · obtain ⟨_, _, _, _, nearFirst⟩ := roundTo_spec some_ least n
    obtain ⟨_, _, _, _, nearSecond⟩ := roundTo_spec some_ least m
    have first := (nearFirst _ (hasDigits_roundTo some_ m)).1
    have second := (nearSecond _ (hasDigits_roundTo some_ n)).1
    simp only [distance] at first second
    omega

end SqlTemplate.Double
