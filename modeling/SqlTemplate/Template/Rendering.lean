import SqlTemplate.NamedValues
import SqlTemplate.Template.Block

/-!
# Rendering

A template is resolved against parameters: a block gives its fragment if its key is present with
a value other than null, and nothing otherwise. Fragments are not rendered again, and no value
enters the text.
-/

namespace SqlTemplate.Template

def Piece.rendered (params : NamedValues) : Piece → List Char
  | .literal c => [c]
  | .block b => if params.provides (String.ofList b.key) then b.fragment else []

/-- The text of a template for given parameters, its placeholders still named. -/
def render (template : String) (params : NamedValues) : String :=
  String.ofList ((pieces template.toList).flatMap (Piece.rendered params))

example : render "SELECT 1 [a | WHERE a = :a][b | AND b = :b]"
    (.ofPairs [("a", .int 0), ("b", .null)]) = "SELECT 1 WHERE a = :a" := by decide +kernel

end SqlTemplate.Template
