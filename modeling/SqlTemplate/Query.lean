import SqlTemplate.Database
import SqlTemplate.Template.Rendering

/-!
# Template queries

A query renders its template against the parameters, prepares the rendered text, fills a slot for
every placeholder of it, and executes. The text executed depends on which blocks the parameters
keep; their values go only into slots.
-/

namespace SqlTemplate

structure Query where
  template : String
  /-- The dialect to write in; the target's own if none. -/
  dialect : Option Dialect := none

namespace Query

def blocks (q : Query) : List Template.PlacedBlock := Template.blocks q.template

/-- The text for given parameters, its placeholders still named. -/
def render (q : Query) (params : NamedValues) : String := Template.render q.template params

/-- The placeholders of the rendered text; without parameters, of the whole template. -/
def placeholders (q : Query) : Option NamedValues → List String
  | none => Template.placeholders q.template
  | some params => Template.placeholders (q.render params)

def complete {α : Type} (q : Query) (loaded : LoadedModules) (target : Target)
    (params : NamedValues) (use : Statement → Exchange α) : Exchange α := do
  let sql := q.render params
  let st ← (target.resolve loaded q.dialect).prepare sql
  st.complete (Assignment.ofText sql params 0) use

def rows (q : Query) (loaded : LoadedModules) (target : Target) (params : NamedValues) :
    Exchange (List Row) := do
  let rows ← q.complete loaded target params Statement.executeRows
  Exchange.log (.returned rows.length)
  return rows

def update (q : Query) (loaded : LoadedModules) (target : Target) (params : NamedValues) :
    Exchange (Option Int) :=
  q.complete loaded target params Statement.executeUpdate

def written (q : Query) : String := "TemplateQuery(" ++ Text.quoted q.template ++ ")"

end Query
end SqlTemplate
