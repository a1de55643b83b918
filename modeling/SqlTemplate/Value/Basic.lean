import SqlTemplate.Scalar.Double
import SqlTemplate.Scalar.ExactDecimal
import SqlTemplate.Value.Kind

/-!
# Values

Parameters, row cells and rows are dynamic values. A value may carry a tag that asks for a kind.
Collections, exact decimals and foreign objects cannot be bound, but a caller can pass them and a
row can hold them, so they are values too.
-/

namespace SqlTemplate

structure CalendarDate where
  year : Nat
  month : Nat
  day : Nat
  deriving DecidableEq, Repr

/-- A time of day; a zone is a fixed offset in seconds. -/
structure ClockTime where
  hour : Nat
  minute : Nat
  second : Nat
  microsecond : Nat
  offset : Option Int
  deriving DecidableEq, Repr

def ClockTime.midnight : ClockTime := ⟨0, 0, 0, 0, none⟩

inductive ByteStorage where
  | fixed
  | growable
  | view
  deriving DecidableEq, Repr

/-- A value as callers and drivers pass it. Left out are byte views that were released, objects
whose own written form raises an error, and values nested too deep to be written. -/
inductive Value where
  | null
  | boolean (b : Bool)
  | int (n : Int)
  | double (x : Double)
  | text (s : String)
  | bytes (storage : ByteStorage) (content : List UInt8)
  | date (day : CalendarDate)
  | time (clock : ClockTime)
  | timestamp (day : CalendarDate) (clock : ClockTime)
  | decimal (number : ExactDecimal)
  | list (items : List Value)
  | tuple (items : List Value)
  | set (items : List Value)
  | mapping (entries : List (Value × Value))
  | tagged (kind : Kind) (payload : Value)
  | object (name : String)
  deriving Inhabited

/-- A value together with the kind it is to be bound as. -/
structure Tagged where
  kind : Kind
  payload : Value

def Tagged.toValue (t : Tagged) : Value := .tagged t.kind t.payload

namespace Value

def isNull : Value → Bool
  | .null => true
  | _ => false

/-- The name of the value's type, as messages give it. -/
def typeName : Value → String
  | .null => "NoneType"
  | .boolean _ => "bool"
  | .int _ => "int"
  | .double _ => "float"
  | .text _ => "str"
  | .bytes .fixed _ => "bytes"
  | .bytes .growable _ => "bytearray"
  | .bytes .view _ => "memoryview"
  | .date _ => "date"
  | .time _ => "time"
  | .timestamp _ _ => "datetime"
  | .decimal _ => "Decimal"
  | .list _ => "list"
  | .tuple _ => "tuple"
  | .set _ => "set"
  | .mapping _ => "dict"
  | .tagged _ _ => "SqlValue"
  | .object name => name

/-- The name of the value's type with the module that defines it, where one has to be named. -/
def qualifiedTypeName (v : Value) : String :=
  match v with
  | .date _ | .time _ | .timestamp _ _ => "datetime." ++ v.typeName
  | .decimal _ => "decimal." ++ v.typeName
  | .tagged _ _ => "mini_sql.core.values." ++ v.typeName
  | .object _ => "app." ++ v.typeName
  | _ => v.typeName

/-- The same, except that types defined by programs go without their module. -/
def builtinTypeName (v : Value) : String :=
  match v with
  | .tagged _ _ | .object _ => v.typeName
  | _ => v.qualifiedTypeName

end Value
end SqlTemplate
