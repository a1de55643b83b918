import SqlTemplate.Scalar.Decimal
import SqlTemplate.Value.Basic

/-!
# Values as keys of mappings

A mapping tells its keys apart by what they stand for and not by their types: numbers of one value
are one key, and so are byte strings of one content and moments with zones that name one instant.
NaNs and foreign objects are equal to nothing else. A value that can change is no key, and neither
is one that holds such a value.
-/

namespace SqlTemplate

/-- A number without its type: an infinity, or a size without trailing zeros. -/
inductive Quantity where
  | finite (negative : Bool) (size : Decimal)
  | infinite (negative : Bool)
  deriving DecidableEq, Repr

namespace Quantity

/-- Zero has neither a sign nor an exponent. -/
def ofDecimal (negative : Bool) (size : Decimal) : Quantity :=
  if size.digits = 0 then .finite false ⟨0, 0⟩ else .finite negative size.stripped

def ofInt (n : Int) : Quantity := ofDecimal (n < 0) ⟨n.natAbs, 0⟩

def ofDouble? (x : Double) : Option Quantity :=
  if x.isNaN then none
  else if x.isFinite then some (ofDecimal x.isNegative ⟨x.units * Nat.pow 5 1074, -1074⟩)
  else some (.infinite x.isNegative)

def ofExact? : ExactDecimal → Option Quantity
  | .finite negative coefficient exponent => some (ofDecimal negative ⟨coefficient, exponent⟩)
  | .infinite negative => some (.infinite negative)
  | .nan _ _ _ => none

end Quantity

namespace CalendarDate

def isLeap (year : Nat) : Bool := year % 4 = 0 && (year % 100 != 0 || year % 400 = 0)

/-- The days of the year before the first day of a month. -/
def daysBefore (year month : Nat) : Nat :=
  let months := [31, if isLeap year then 29 else 28, 31, 30, 31, 30, 31, 31, 30, 31, 30]
  (months.take (month - 1)).foldr (· + ·) 0

/-- The days since the first of January of the year 1, which counts as day one. -/
def ordinal (d : CalendarDate) : Nat :=
  let years := d.year - 1
  years * 365 + years / 4 - years / 100 + years / 400 + daysBefore d.year d.month + d.day

end CalendarDate

namespace ClockTime

def seconds (t : ClockTime) : Nat := t.hour * 3600 + t.minute * 60 + t.second

/-- The seconds from a fixed instant to a time on a day in a zone. -/
def instant (t : ClockTime) (day : Nat) (offset : Int) : Int := day * 86400 + t.seconds - offset

/-- Times on given days name one instant. With zones the offsets count; a time with a zone never
meets one without. -/
def meets (t u : ClockTime) (day other : Nat) : Bool :=
  t.microsecond = u.microsecond &&
    match t.offset, u.offset with
    | none, none => t.instant day 0 = u.instant other 0
    | some offset, some zone => t.instant day offset = u.instant other zone
    | _, _ => false

end ClockTime

namespace Value

/-- The number that a value is, if it is one; truth values count as zero and one. -/
def quantity? : Value → Option Quantity
  | .boolean b => some (.ofInt (if b then 1 else 0))
  | .int n => some (.ofInt n)
  | .double x => Quantity.ofDouble? x
  | .decimal number => Quantity.ofExact? number
  | _ => none

mutual

/-- Two keys that a mapping takes for one. -/
def sameKey : Value → Value → Bool
  | .null, .null => true
  | .text s, .text t => s = t
  | .bytes _ content, .bytes _ other => content = other
  | .date d, .date e => d = e
  | .time t, .time u => t.meets u 0 0
  | .timestamp d t, .timestamp e u => t.meets u d.ordinal e.ordinal
  | .tuple items, .tuple others => sameKeys items others
  | .tagged kind payload, .tagged other content => kind = other && sameKey payload content
  | v, w =>
    match v.quantity?, w.quantity? with
    | some a, some b => a = b
    | _, _ => false

def sameKeys : List Value → List Value → Bool
  | [], [] => true
  | v :: rest, w :: others => sameKey v w && sameKeys rest others
  | _, _ => false

end

example : sameKey (.int 1) (.boolean true) = true ∧
    sameKey (.decimal (.finite false 10 (-1))) (.double ⟨0x3FF0000000000000⟩) = true ∧
    sameKey (.int 0) (.double ⟨0x8000000000000000⟩) = true ∧
    sameKey (.double ⟨0x7FF8000000000000⟩) (.double ⟨0x7FF8000000000000⟩) = false ∧
    sameKey (.tuple [.int 1, .null]) (.tuple [.boolean true, .null]) = true ∧
    sameKey (.int 1) (.text "1") = false := by decide +kernel

end Value
end SqlTemplate
