import SqlTemplate.Value.Written

/-!
# Errors

Every refusal is a cause with its data; `Error.message` holds the wording and `Error.category` the
sort of error a caller can catch. Errors raised by the connection or its cursors are carried
unchanged. An error about one value or slot names the parameter or column it belongs to.

A message is written when its error is raised. Where it would hold an integer that is too long to
be written, that is the error instead (`Error.worded`), and neither the cause nor the name is told.
-/

namespace SqlTemplate

/-- Who raised an error outside the library. -/
inductive FaultOrigin where
  | driver
  | operational
  | runtime
  | value
  deriving DecidableEq, Repr

structure Fault where
  origin : FaultOrigin
  message : String
  deriving DecidableEq, Repr

/-- Sequences that a column label or a cell can be taken from by its index. -/
inductive Indexed where
  | list
  | tuple
  | text
  | bytes
  | growableBytes
  | byteView
  deriving DecidableEq, Repr

inductive Error where
  /-- The value does not fit the kind it is to be bound as. -/
  | unbindable (value : Value) (kind : Kind) (key : Option String)
  /-- A finite number would leave the range of single precision. -/
  | floatRange (value : Value) (key : Option String)
  /-- The integer lies beyond the greatest double. -/
  | integerTooLarge
  /-- The integer has too many digits to be written. -/
  | integerTooLong
  /-- The value has no kind. -/
  | unsupportedType (value : Value) (key : Option String)
  | positionBelowOne (position : Int)
  | positionBeyond (position count : Int) (key : Option String)
  | unbound (position : Nat)
  | statementClosed
  | connectionClosed
  | unsupportedStyle (style : String)
  | noAssignments (table : String)
  | updateWithoutConditions (table : String)
  | deleteWithoutConditions (table : String)
  | rowWidth (width labels : Nat)
  | rowType (row : Value)
  | emptyEntry (container : Indexed)
  | notIndexable (value : Value)
  | missingKey (key : Value)
  | fault (raised : Fault)
  /-- A step of a session names a database or statement that the session does not have. -/
  | unknownHandle (index : Nat)

inductive ErrorCategory where
  | binding
  | unsupportedParameter
  | badValue
  | badType
  | badState
  | overflow
  | unwritable
  | badIndex
  | badKey
  | raised (origin : FaultOrigin)
  deriving DecidableEq, Repr

namespace Indexed

/-- What is said when such a sequence is empty and its first item is asked for. -/
def outOfRange : Indexed → String
  | .list => "list index out of range"
  | .tuple => "tuple index out of range"
  | .text => "string index out of range"
  | .bytes => "index out of range"
  | .growableBytes => "bytearray index out of range"
  | .byteView => "index out of bounds on dimension 1"

end Indexed

namespace Error

def keyText : Option String → String
  | none => "None"
  | some key => key

def message : Error → String
  | .unbindable value kind key =>
    "Value " ++ value.written ++ " for key: " ++ keyText key ++ " cannot be bound as " ++ kind.name
  | .floatRange value key =>
    "Value " ++ value.written ++ " for key: " ++ keyText key ++ " is out of range for float"
  | .integerTooLarge => "int too large to convert to float"
  | .integerTooLong =>
    "Exceeds the limit (" ++ toString digitLimit ++ " digits) for integer string conversion; " ++
      "use sys.set_int_max_str_digits() to increase the limit"
  | .unsupportedType value key =>
    "Unsupported parameter type for key: " ++ keyText key ++ " (" ++ value.typeName ++ ")"
  | .positionBelowOne position =>
    "Parameter positions start at 1, got " ++ toString position ++ "."
  | .positionBeyond position count key =>
    "Parameter position " ++ toString position ++ " for key: " ++ keyText key ++
      " is out of range (statement has " ++ toString count ++ " parameters)"
  | .unbound position => "Parameter " ++ toString position ++ " is not bound."
  | .statementClosed => "statement is closed"
  | .connectionClosed => "connection is closed"
  | .unsupportedStyle style => "Unsupported paramstyle: " ++ style
  | .noAssignments table => "Cannot UPDATE " ++ table ++ " without values to set."
  | .updateWithoutConditions table =>
    "Cannot UPDATE " ++ table ++ " without conditions; refusing to update every row."
  | .deleteWithoutConditions table =>
    "Cannot DELETE from " ++ table ++ " without conditions; refusing to delete every row."
  | .rowWidth width labels =>
    "Row has " ++ toString width ++ " values but the cursor describes " ++ toString labels ++
      " columns."
  | .rowType row => "Unsupported row type: <class '" ++ row.qualifiedTypeName ++ "'>"
  | .emptyEntry container => container.outOfRange
  | .notIndexable value => "'" ++ value.builtinTypeName ++ "' object is not subscriptable"
  | .missingKey key => key.written
  | .fault raised => raised.message
  | .unknownHandle index => "no handle " ++ toString index

def category : Error → ErrorCategory
  | .unbindable .. | .floatRange .. | .positionBeyond .. | .unbound _ => .binding
  | .unsupportedType .. => .unsupportedParameter
  | .positionBelowOne _ | .unsupportedStyle _ | .noAssignments _ | .updateWithoutConditions _
  | .deleteWithoutConditions _ => .badValue
  | .rowWidth .. | .rowType _ | .notIndexable _ => .badType
  | .statementClosed | .connectionClosed | .unknownHandle _ => .badState
  | .integerTooLarge => .overflow
  | .integerTooLong => .unwritable
  | .emptyEntry _ => .badIndex
  | .missingKey _ => .badKey
  | .fault raised => .raised raised.origin

/-- The parameter or column an error is about. An unbound slot belongs to none. -/
def key : Error → Option String
  | .unbindable _ _ key | .floatRange _ key | .unsupportedType _ key
  | .positionBeyond _ _ key => key
  | _ => none

def isWritable : Error → Bool
  | .unbindable value _ _ | .floatRange value _ => value.isWritable
  | .positionBelowOne position => withinDigits position
  | .positionBeyond position count _ => withinDigits position && withinDigits count
  | _ => true

/-- What is raised where the error is to be reported. -/
def worded (e : Error) : Error := if e.isWritable then e else .integerTooLong

end Error

end SqlTemplate
