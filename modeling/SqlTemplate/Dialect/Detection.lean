import SqlTemplate.Dialect.Basic
import SqlTemplate.NamedValues

/-!
# Finding the dialect of a driver

Known drivers are recognised by the module that defines their connections, without regard to the
case of letters. For another driver the style that its top-level module declares decides; a driver
that declares none of the positional styles gets the generic dialect. Whatever is found can write
markers.
-/

namespace SqlTemplate

/-- The loaded modules by name, each with the style it declares, if it declares one as a text. -/
abbrev LoadedModules := List (String × Option String)

def occursIn (part : List Char) : List Char → Bool
  | [] => part.isEmpty
  | c :: rest => part.isPrefixOf (c :: rest) || occursIn part rest

/-- The name of a module up to its first dot. -/
def topLevel (module : String) : String :=
  String.ofList (module.toList.takeWhile (· != '.'))

def declaredStyle? (loaded : LoadedModules) (module : String) : Option String :=
  if topLevel module = "" then none else (Entries.find? loaded (topLevel module)).join

namespace DialectFamily

def ofKnownDriver? (module : String) : Option DialectFamily :=
  let name := module.toList.map Char.toLower
  if "sqlite3".toList.isPrefixOf name || "_sqlite3".toList.isPrefixOf name then some .sqlite
  else if occursIn "psycopg".toList name then some .postgres
  else if occursIn "mysql".toList name then some .mysql
  else none

def ofDeclaredStyle : Option String → DialectFamily
  | some "format" => .format
  | some "pyformat" => .format
  | some "numeric" => .numeric
  | _ => .generic

end DialectFamily

def Dialect.ofDriver (loaded : LoadedModules) (module : String) : Dialect :=
  .ofFamily <|
    match DialectFamily.ofKnownDriver? module with
    | some family => family
    | none => DialectFamily.ofDeclaredStyle (declaredStyle? loaded module)

example : (Dialect.ofDriver [("acme", some "pyformat")] "acme.Driver").family = .format ∧
    (Dialect.ofDriver [] "SQLite3.dbapi2").family = .sqlite ∧
    (Dialect.ofDriver [] "aiosqlite3").family = .generic := by decide +kernel

end SqlTemplate
