/-!
# Debug records

What the library tells a debug log: which text it prepares, what it hands to a cursor, and how
many rows came back or were affected. A record carries texts and counts and never a bound value.
Counts with more digits than can be written are left out.
-/

namespace SqlTemplate

inductive LogSource where
  | database
  | statement
  | query
  | table
  deriving DecidableEq, Repr

inductive LogRecord where
  /-- A text rewritten from named placeholders, with the number of its slots. -/
  | preparing (sql : String) (slots : Nat)
  /-- A text taken as it is. -/
  | preparingPositional (sql : String)
  | executing (sql : String) (params : Nat)
  | affected (rows : Option Int)
  | returned (rows : Nat)
  | selected (table : String) (rows : Nat)
  deriving DecidableEq, Repr

namespace LogRecord

def source : LogRecord → LogSource
  | .preparing .. | .preparingPositional _ => .database
  | .executing .. | .affected _ => .statement
  | .returned _ => .query
  | .selected .. => .table

def rowCountText : Option Int → String
  | none => "None"
  | some n => toString n

def message : LogRecord → String
  | .preparing sql slots => "Preparing " ++ sql ++ " (" ++ toString slots ++ " parameter(s))"
  | .preparingPositional sql => "Preparing " ++ sql
  | .executing sql params => "Executing " ++ sql ++ " with " ++ toString params ++ " parameter(s)"
  | .affected rows => "Statement affected " ++ rowCountText rows ++ " row(s)"
  | .returned rows => "Query returned " ++ toString rows ++ " row(s)"
  | .selected table rows => "Select on " ++ table ++ " returned " ++ toString rows ++ " row(s)"

end LogRecord
end SqlTemplate
