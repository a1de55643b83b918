/-!
# Doubles and their narrowing to single precision

A double is kept as its 64 bits. A finite one is, up to sign, a whole number of units of 2^-1074,
the least positive double, so every question about it is one about natural numbers: no machine
arithmetic takes part. Rounding to a number of significant binary digits is to the nearest
multiple of a power of two, and a tie goes to the even multiple.
-/

namespace SqlTemplate

/-- A double-precision number by its bits: sign, eleven bits of exponent, 52 of fraction. -/
structure Double where
  bits : UInt64
  deriving DecidableEq, Repr

namespace Double

def isNegative (x : Double) : Bool := Nat.pow 2 63 ≤ x.bits.toNat

def exponentField (x : Double) : Nat := x.bits.toNat / Nat.pow 2 52 % Nat.pow 2 11

def fractionField (x : Double) : Nat := x.bits.toNat % Nat.pow 2 52

def isFinite (x : Double) : Bool := x.exponentField != 2047

def isNaN (x : Double) : Bool := x.exponentField == 2047 && x.fractionField != 0

/-- The magnitude of a finite double in units of 2^-1074. -/
def units (x : Double) : Nat :=
  if x.exponentField = 0 then x.fractionField
  else (Nat.pow 2 52 + x.fractionField) * Nat.pow 2 (x.exponentField - 1)

/-- The double of a magnitude that needs at most 53 significant binary digits. -/
def ofUnits (negative : Bool) (units : Nat) : Double :=
  let shift := units.log2 - 52
  ⟨UInt64.ofNat ((if negative then Nat.pow 2 63 else 0) + shift * Nat.pow 2 52 +
    units / Nat.pow 2 shift)⟩

/-- The multiple of `quantum` nearest to `n`; of two equally near ones the even multiple. -/
def nearestMultiple (quantum n : Nat) : Nat :=
  let below := n / quantum
  let excess := n % quantum
  let count :=
    if 2 * excess < quantum then below
    else if quantum < 2 * excess then below + 1
    else below + below % 2
  count * quantum

/-- Rounds to `digits` significant binary digits, but never finer than multiples of `2 ^ least`. -/
def roundTo (digits least n : Nat) : Nat :=
  nearestMultiple (Nat.pow 2 (max least (n.log2 + 1 - digits))) n

/-- One, in units. -/
def one : Nat := Nat.pow 2 1074

/-- The nearest double of a whole magnitude with a sign; none if it would lie beyond the greatest
one. -/
def ofMagnitude? (negative : Bool) (magnitude : Nat) : Option Double :=
  let rounded := roundTo 53 0 (magnitude * one)
  if rounded < Nat.pow 2 1024 * one then some (ofUnits negative rounded) else none

def ofInt? : Int → Option Double
  | .ofNat magnitude => ofMagnitude? false magnitude
  | .negSucc below => ofMagnitude? true (below + 1)

/-- Rounds to single precision: 24 digits, multiples of 2^-149. None if a finite number would leave
the range; infinities stay as they are. NaNs are identified: one is given back with the bits it has,
although single precision has no room for all of them. -/
def narrow? (x : Double) : Option Double :=
  if x.isFinite then
    let rounded := roundTo 24 (1074 - 149) x.units
    if rounded < Nat.pow 2 128 * one then some (ofUnits x.isNegative rounded) else none
  else some x

example : narrow? ⟨0x3FB999999999999A⟩ = some ⟨0x3FB99999A0000000⟩ := by decide +kernel

/-- The first number that no longer narrows lies halfway between the greatest single and 2^128. -/
example : narrow? ⟨0x47EFFFFFF0000000⟩ = none ∧
    narrow? ⟨0x47EFFFFFEFFFFFFF⟩ = some ⟨0x47EFFFFFE0000000⟩ := by decide +kernel

end Double
end SqlTemplate
