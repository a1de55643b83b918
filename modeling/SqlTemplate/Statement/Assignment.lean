import SqlTemplate.NamedValues
import SqlTemplate.Template.Placeholder

/-!
# Assignments of values to slots

The slots of a statement are filled in a pass over the placeholders of a text or over the columns
of a map. A pass takes the slots that follow the ones already filled, one for each placeholder or
column in order. A placeholder whose name has no value gets null.
-/

namespace SqlTemplate

/-- A value for a slot, under the parameter or column it comes from. -/
structure Assignment where
  position : Int
  value : Value
  key : String

namespace Assignment

/-- Gives named values the positions after `start`. -/
def number (start : Int) : List (String × Value) → List Assignment
  | [] => []
  | (key, value) :: rest => ⟨start + 1, value, key⟩ :: number (start + 1) rest

def ofText (sql : String) (params : NamedValues) (start : Int) : List Assignment :=
  number start ((Template.placeholders sql).map fun name => (name, params.get name))

def ofColumns (columns : NamedValues) (start : Int) : List Assignment :=
  number start columns.entries

theorem number_append (start : Int) (first second : List (String × Value)) :
    number start (first ++ second) =
      number start first ++ number (start + first.length) second := by
  induction first generalizing start with
  | nil => simp [number]
  | cons pair rest ih =>
    simp only [List.cons_append, number, ih, List.length_cons, Int.natCast_add]
    congr 3
    omega

end Assignment
end SqlTemplate
