/-!
# Exact decimals

An exact decimal is a coefficient and a power of ten, so that numbers of one value can differ in
their trailing zeros. It is written positionally unless its exponent is positive or more than five
zeros would follow the point; then the first digit stands before the point and an exponent follows.

Beside the numbers there are infinities and NaNs. A NaN may carry a number that says where it came
from, and it may be a signaling one, which no comparison accepts.
-/

namespace SqlTemplate

inductive ExactDecimal where
  | finite (negative : Bool) (coefficient : Nat) (exponent : Int)
  | infinite (negative : Bool)
  | nan (negative signaling : Bool) (payload : Nat)
  deriving DecidableEq, Repr

namespace ExactDecimal

/-- Puts the point after as many digits as `place` says, with zeros where digits are missing. -/
def pointed (digits : List Char) (place : Int) : List Char :=
  if place ≤ 0 then '0' :: '.' :: List.replicate (-place).toNat '0' ++ digits
  else if digits.length ≤ place.toNat then
    digits ++ List.replicate (place.toNat - digits.length) '0'
  else digits.take place.toNat ++ '.' :: digits.drop place.toNat

def signText (negative : Bool) : List Char := if negative then ['-'] else []

def written : ExactDecimal → String
  | .nan negative signaling payload =>
    let name := (if signaling then "sNaN" else "NaN").toList
    let digits := if payload = 0 then [] else Nat.toDigits 10 payload
    String.ofList (signText negative ++ name ++ digits)
  | .infinite negative => String.ofList (signText negative ++ "Infinity".toList)
  | .finite negative coefficient exponent =>
    let digits := Nat.toDigits 10 coefficient
    let left : Int := digits.length + exponent
    let place := if exponent ≤ 0 ∧ -6 < left then left else 1
    let power := left - place
    let mark : List Char :=
      if power = 0 then []
      else 'E' :: (if power < 0 then '-' else '+') :: Nat.toDigits 10 power.natAbs
    String.ofList (signText negative ++ pointed digits place ++ mark)

example : [ExactDecimal.finite false 150 (-2), .finite false 1 5, .finite true 1 (-8),
      .nan true true 7].map written = ["1.50", "1E+5", "-1E-8", "-sNaN7"] := by decide +kernel

end ExactDecimal
end SqlTemplate
