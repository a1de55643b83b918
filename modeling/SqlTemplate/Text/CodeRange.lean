/-!
# Sets of characters as ranges of code points

A character class beyond ASCII is kept as a list of closed ranges of code points. The test for
membership is exact for any such list.
-/

namespace SqlTemplate.Text

/-- A closed range of code points. -/
structure CodeRange where
  first : Nat
  last : Nat
  deriving DecidableEq, Repr

namespace CodeRange

/-- Ranges are read off pairs, so that a table can be written as a list of pairs. -/
def ofPair (p : Nat × Nat) : CodeRange := ⟨p.1, p.2⟩

def contains (r : CodeRange) (c : Char) : Bool :=
  r.first ≤ c.toNat && c.toNat ≤ r.last

def anyContains (table : List CodeRange) (c : Char) : Bool :=
  table.any (·.contains c)

end CodeRange
end SqlTemplate.Text
