import SqlTemplate.Error
import SqlTemplate.Template.Placeholder

/-!
# Dialects

A dialect says how a driver marks the slots of a statement and how it inserts a row of defaults.
Three marker styles are known by name; a dialect may carry the name of another style, and is
refused when it has to write a marker and not before. Rewriting a text replaces every placeholder
by the marker of its position, counted from one. Where markers begin with a percent sign, each
percent sign of the text itself is written twice, so that a driver reads it as that character.
-/

namespace SqlTemplate

inductive MarkerStyle where
  | question
  | percent
  | numbered
  deriving DecidableEq, Repr

namespace MarkerStyle

def name : MarkerStyle → String
  | .question => "qmark"
  | .percent => "format"
  | .numbered => "numeric"

def ofName? : String → Option MarkerStyle
  | "qmark" => some .question
  | "format" => some .percent
  | "numeric" => some .numbered
  | _ => none

/-- The marker of the slot at a position, which is taken to have no more digits than can be
written. -/
def marker : MarkerStyle → Int → String
  | .question, _ => "?"
  | .percent, _ => "%s"
  | .numbered, position => ":" ++ toString position

end MarkerStyle

inductive DialectFamily where
  | generic
  | format
  | sqlite
  | postgres
  | mysql
  | numeric
  deriving DecidableEq, Repr

namespace DialectFamily

def name : DialectFamily → String
  | .generic => "generic"
  | .format => "format"
  | .sqlite => "sqlite"
  | .postgres => "postgres"
  | .mysql => "mysql"
  | .numeric => "numeric"

def typeName : DialectFamily → String
  | .generic => "Dialect"
  | .format => "FormatDialect"
  | .sqlite => "SQLiteDialect"
  | .postgres => "PostgresDialect"
  | .mysql => "MySQLDialect"
  | .numeric => "NumericDialect"

/-- The style a dialect of the family has unless it is given another. -/
def style : DialectFamily → MarkerStyle
  | .generic | .sqlite => .question
  | .format | .postgres | .mysql => .percent
  | .numeric => .numbered

end DialectFamily

/-- A dialect in use. Dialects with equal rules are told apart by their tags; one without a tag
was made on the spot and is nobody else's. -/
structure Dialect where
  family : DialectFamily
  styleName : String
  tag : Option Nat
  deriving DecidableEq, Repr

namespace Dialect

def ofFamily (family : DialectFamily) : Dialect := ⟨family, family.style.name, none⟩

/-- The two are one dialect, not merely alike. -/
def same (a b : Dialect) : Bool := a.tag.isSome && a.tag == b.tag

def style? (d : Dialect) : Option MarkerStyle := MarkerStyle.ofName? d.styleName

def marker (d : Dialect) (position : Int) : Except Error String :=
  match d.style? with
  | some style => .ok (style.marker position)
  | none => .error (.unsupportedStyle d.styleName)

/-- A character of the text as the driver has to find it. -/
def literal (d : Dialect) (c : Char) : List Char :=
  if c = '%' ∧ d.style? = some .percent then ['%', '%'] else [c]

/-- Rewrites tokens of which the first placeholder takes the given position. -/
def rewriteTokens (d : Dialect) : Nat → List Template.Token → Except Error (List Char)
  | _, [] => .ok []
  | position, .literal c :: rest => do
    let after ← d.rewriteTokens position rest
    return d.literal c ++ after
  | position, .placeholder _ :: rest => do
    let marker ← d.marker position
    let after ← d.rewriteTokens (position + 1) rest
    return marker.toList ++ after

def rewrite (d : Dialect) (sql : String) : Except Error String :=
  (d.rewriteTokens 1 (Template.tokens sql.toList)).map String.ofList

/-- Inserts a row made of column defaults only. -/
def defaultInsert (d : Dialect) (table : String) : String :=
  match d.family with
  | .mysql => "INSERT INTO " ++ table ++ " () VALUES ()"
  | _ => "INSERT INTO " ++ table ++ " DEFAULT VALUES"

def written (d : Dialect) : String :=
  d.family.typeName ++ "(paramstyle=" ++ Text.quoted d.styleName ++ ")"

example : (rewrite (.ofFamily .postgres) "a = :a AND b LIKE '%:b'").toOption =
    some "a = %s AND b LIKE '%%%s'" := by decide +kernel

end Dialect
end SqlTemplate
