import SqlTemplate.Connection.Basic
import SqlTemplate.NamedValues
import SqlTemplate.Value.Key

/-!
# Rows under labels

The rows of a result become values under column labels. A label is the text of the first item of
its description entry. A row that is a mapping keeps its own keys; any other row is read by
position and has to be as wide as the description. Where columns share a label the first of them
gives the place and the last of them the value. One bad row fails the whole result, and without a
description there are no rows and nothing is fetched.
-/

namespace SqlTemplate

/-- Cells under their keys. -/
abbrev Row := List (Value × Value)

namespace Value

def ofByte (byte : UInt8) : Value := .int byte.toNat

/-- The item of an entry that is asked for as its first: at the first position of a sequence, or
under the key zero of a mapping. -/
def firstItem : Value → Except Error Value
  | .list [] => .error (.emptyEntry .list)
  | .list (item :: _) => .ok item
  | .tuple [] => .error (.emptyEntry .tuple)
  | .tuple (item :: _) => .ok item
  | .text s =>
    match s.toList with
    | [] => .error (.emptyEntry .text)
    | c :: _ => .ok (.text (String.singleton c))
  | .bytes .fixed [] => .error (.emptyEntry .bytes)
  | .bytes .growable [] => .error (.emptyEntry .growableBytes)
  | .bytes .view [] => .error (.emptyEntry .byteView)
  | .bytes _ (byte :: _) => .ok (ofByte byte)
  | .mapping entries =>
    match entries.find? (·.1.sameKey (.int 0)) with
    | some entry => .ok entry.2
    | none => .error (.missingKey (.int 0))
  | v => .error (.notIndexable v)

def columnLabel (entry : Value) : Except Error String := do
  let item ← entry.firstItem
  if item.isWritable then return item.label else throw .integerTooLong

/-- The items of a value that has a length. -/
def items? : Value → Option (List Value)
  | .list items | .tuple items | .set items => some items
  | .text s => some (s.toList.map fun c => .text (String.singleton c))
  | .bytes _ content => some (content.map ofByte)
  | .mapping entries => some (entries.map Prod.fst)
  | _ => none

def isIndexable : Value → Bool
  | .list _ | .tuple _ | .text _ | .bytes _ _ => true
  | _ => false

end Value

namespace Row

def ofCells (labels : List String) (cells : List Value) : Row :=
  (Entries.putAll [] (labels.zip cells)).map fun entry => (.text entry.1, entry.2)

def ofValue (labels : List String) (row : Value) : Except Error Row :=
  match row with
  | .mapping entries => .ok entries
  | _ =>
    match row.items? with
    | none => .error (.rowType row)
    | some cells =>
      if cells.length ≠ labels.length then .error (.rowWidth cells.length labels.length)
      else if row.isIndexable then .ok (ofCells labels cells)
      else .error (.notIndexable row)

end Row

namespace CursorScript

def labels (script : CursorScript) : Except Error (List String) :=
  (script.description.getD []).mapM Value.columnLabel

def fetch (script : CursorScript) : Except Error (List Value) :=
  match script.fetchFault with
  | some fault => .error (.fault fault)
  | none => .ok script.rows

def mapRows (script : CursorScript) : Except Error (List Row) := do
  let labels ← script.labels
  if labels.isEmpty then
    return []
  else
    let rows ← script.fetch
    rows.mapM (Row.ofValue labels)

end CursorScript
end SqlTemplate
