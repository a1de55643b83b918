import SqlTemplate.Scalar.Double

/-!
# The shortest decimal of a double

A double stands for an interval of reals: those nearer to it than to its neighbours, the two ends
included when its significand is even. It is written with the fewest digits of any decimal in that
interval, and of the decimals with that many digits with the nearest one. The search tries the
two neighbours of the value on coarser to finer decimal grids and compares exactly.

The layout is one decision: positional while the leading digit stands no lower than the fourth
decimal place and no higher than the sixteenth place before the point, with a mark and a signed
exponent of at least two digits otherwise.
-/

namespace SqlTemplate

/-- The number `digits * 10 ^ exponent`. -/
structure Decimal where
  digits : Nat
  exponent : Int
  deriving DecidableEq, Repr

namespace Decimal

/-- Compares with a number of units of 2^-1076, a quarter of the units of doubles. -/
def compareQuarters (d : Decimal) (quarters : Nat) : Ordering :=
  compare (d.digits * Nat.pow 10 d.exponent.toNat * (4 * Double.one))
    (quarters * Nat.pow 10 (-d.exponent).toNat)

def stripped (d : Decimal) : Decimal :=
  let zeros := ((Nat.toDigits 10 d.digits).reverse.takeWhile (· == '0')).length
  if d.digits = 0 then d else ⟨d.digits / Nat.pow 10 zeros, d.exponent + zeros⟩

end Decimal

namespace Double

def gapAbove (units : Nat) : Nat := Nat.pow 2 (units.log2 - 52)

/-- The distance to the next lesser magnitude: half of the other one at a power of two. -/
def gapBelow (units : Nat) : Nat :=
  let gap := gapAbove units
  if units = Nat.pow 2 52 * gap && gap > 1 then gap / 2 else gap

/-- The decimal lies among the reals that round to the magnitude. -/
def readsBack (units : Nat) (d : Decimal) : Bool :=
  let low := d.compareQuarters (4 * units - 2 * gapBelow units)
  let high := d.compareQuarters (4 * units + 2 * gapAbove units)
  if units / gapAbove units % 2 = 0 then low != .lt && high != .gt else low == .gt && high == .lt

/-- The place of the decimal point: the magnitude is below ten to this power and not below the
power before. -/
def pointPlace (units : Nat) : Int :=
  if one ≤ units then (Nat.toDigits 10 (units / one)).length
  else 1 - (Nat.toDigits 10 ((one - 1) / units)).length

/-- The better of the value's two neighbours on the grid of `10 ^ place`, if one reads back. -/
def onGrid? (units : Nat) (place : Int) : Option Decimal :=
  let floor := units * Nat.pow 10 (-place).toNat / (one * Nat.pow 10 place.toNat)
  let lower : Decimal := ⟨floor, place⟩
  let upper : Decimal := ⟨floor + 1, place⟩
  match readsBack units lower, readsBack units upper with
  | false, false => none
  | true, false => some lower
  | false, true => some upper
  | true, true =>
    match Decimal.compareQuarters ⟨2 * floor + 1, place⟩ (8 * units) with
    | .gt => some lower
    | .lt => some upper
    | .eq => some (if floor % 2 = 0 then lower else upper)

/-- The shortest decimal that reads back; the exact value should no grid of 17 digits hold one. -/
def shortest (units : Nat) : Decimal :=
  let point := pointPlace units
  match (List.range 17).findSome? fun n => onGrid? units (point - (n + 1 : Nat)) with
  | some d => d.stripped
  | none => Decimal.stripped ⟨units * Nat.pow 5 1074, -1074⟩

/-- Lays out a decimal with digits: plainly around the point, or with an exponent. -/
def layout (d : Decimal) : List Char :=
  let digits := Nat.toDigits 10 d.digits
  let point : Int := digits.length + d.exponent
  if -3 ≤ point ∧ point ≤ 16 then
    if point ≤ 0 then '0' :: '.' :: List.replicate (-point).toNat '0' ++ digits
    else if digits.length ≤ point.toNat then
      digits ++ List.replicate (point.toNat - digits.length) '0' ++ ['.', '0']
    else digits.take point.toNat ++ '.' :: digits.drop point.toNat
  else
    let fraction := if digits.length = 1 then [] else '.' :: digits.drop 1
    let sign := if point ≤ 0 then '-' else '+'
    digits.take 1 ++ fraction ++ 'e' :: sign ::
      (Nat.toDigits 10 (point - 1).natAbs).leftpad 2 '0'

def written (x : Double) : String :=
  let sign := if x.isNegative then ['-'] else []
  if x.isNaN then "nan"
  else if !x.isFinite then String.ofList (sign ++ "inf".toList)
  else String.ofList (sign ++ layout (if x.units = 0 then ⟨0, 0⟩ else shortest x.units))

example : written ⟨0x3FB999999999999A⟩ = "0.1" ∧
    written ⟨0x3FD3333333333334⟩ = "0.30000000000000004" ∧
    written ⟨0x4341C37937E08000⟩ = "1e+16" ∧ written ⟨0x8000000000000000⟩ = "-0.0" ∧
    written ⟨1⟩ = "5e-324" := by decide +kernel

end Double
end SqlTemplate
