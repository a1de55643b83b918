/-!
# Kinds of bound values

The closed set of kinds a value can be bound as. Most kinds follow from the value itself; byte,
short, single-precision float and a wide integer of small size can only be asked for by a tag.
-/

namespace SqlTemplate

inductive Kind where
  | null
  | text
  | int32
  | int64
  | double
  | float
  | boolean
  | byte
  | short
  | date
  | time
  | timestamp
  | bytes
  deriving DecidableEq, Repr

namespace Kind

def name : Kind → String
  | .null => "null"
  | .text => "text"
  | .int32 => "int32"
  | .int64 => "int64"
  | .double => "double"
  | .float => "float"
  | .boolean => "boolean"
  | .byte => "byte"
  | .short => "short"
  | .date => "date"
  | .time => "time"
  | .timestamp => "timestamp"
  | .bytes => "bytes"

/-- The bounds of the integers that fit a kind; none for a kind that is not one of integers. -/
def range? : Kind → Option (Int × Int)
  | .int64 => some (-Int.pow 2 63, Int.pow 2 63 - 1)
  | .int32 => some (-Int.pow 2 31, Int.pow 2 31 - 1)
  | .short => some (-Int.pow 2 15, Int.pow 2 15 - 1)
  | .byte => some (-Int.pow 2 7, Int.pow 2 7 - 1)
  | _ => none

def holds (kind : Kind) (n : Int) : Bool :=
  match kind.range? with
  | some (low, high) => low ≤ n && n ≤ high
  | none => false

end Kind
end SqlTemplate
