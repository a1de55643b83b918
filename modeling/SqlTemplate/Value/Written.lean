import SqlTemplate.Scalar.Decimal
import SqlTemplate.Text.Quoted
import SqlTemplate.Value.Basic

/-!
# The written forms of a value

A value has two written forms. `written` is the form in messages: it shows the type, texts in
quotes and dates as constructor calls. `label` is the form of a column label: a text stands for
itself, dates and times follow the calendar notation, and every other value is as in messages.

An integer of more than 4300 digits is refused when it is to be written, and with it every value
that holds one. Both forms are those of values that `isWritable` accepts; whoever writes a value
asks for that first. Exact decimals have no such limit.
-/

namespace SqlTemplate

/-- Decimal digits, with zeros in front up to `width`. -/
def padded (width n : Nat) : String :=
  String.ofList ((Nat.toDigits 10 n).leftpad width '0')

namespace CalendarDate

def fields (d : CalendarDate) : List String :=
  [toString d.year, toString d.month, toString d.day]

def dashed (d : CalendarDate) : String :=
  padded 4 d.year ++ "-" ++ padded 2 d.month ++ "-" ++ padded 2 d.day

end CalendarDate

namespace ClockTime

/-- Hours and minutes always, seconds and microseconds up to the last that is not zero. -/
def fields (t : ClockTime) : List String :=
  [toString t.hour, toString t.minute] ++
    (if t.second = 0 ∧ t.microsecond = 0 then [] else [toString t.second]) ++
    (if t.microsecond = 0 then [] else [toString t.microsecond])

/-- An offset as a zone: a negative one counts its seconds from a day back. -/
def zoneWritten (offset : Int) : String :=
  if offset = 0 then "datetime.timezone.utc"
  else if 0 < offset then "datetime.timezone(datetime.timedelta(seconds=" ++ toString offset ++ "))"
  else
    "datetime.timezone(datetime.timedelta(days=-1, seconds=" ++ toString (offset + 86400) ++ "))"

def zoneFields (t : ClockTime) : List String :=
  match t.offset with
  | none => []
  | some offset => ["tzinfo=" ++ zoneWritten offset]

/-- An offset as sign, hours and minutes, and seconds if there are any. -/
def zoneNotation (offset : Int) : String :=
  let size := offset.natAbs
  (if offset < 0 then "-" else "+") ++ padded 2 (size / 3600) ++ ":" ++ padded 2 (size / 60 % 60) ++
    (if size % 60 = 0 then "" else ":" ++ padded 2 (size % 60))

/-- Hours, minutes and seconds with colons, a fraction if there is one, and the zone. -/
def clockNotation (t : ClockTime) : String :=
  padded 2 t.hour ++ ":" ++ padded 2 t.minute ++ ":" ++ padded 2 t.second ++
    (if t.microsecond = 0 then "" else "." ++ padded 6 t.microsecond) ++
    (match t.offset with
      | none => ""
      | some offset => zoneNotation offset)

end ClockTime

def digitLimit : Nat := 4300

/-- The integer can be written; a sign is not counted. -/
def withinDigits (n : Int) : Bool := n.natAbs < Nat.pow 10 digitLimit

namespace Value

mutual

/-- Every integer in the value can be written. -/
def isWritable : Value → Bool
  | .int n => withinDigits n
  | .list items | .tuple items | .set items => areWritable items
  | .mapping entries => entriesWritable entries
  | .tagged _ payload => isWritable payload
  | _ => true

def areWritable : List Value → Bool
  | [] => true
  | item :: rest => isWritable item && areWritable rest

def entriesWritable : List (Value × Value) → Bool
  | [] => true
  | (key, value) :: rest => isWritable key && isWritable value && entriesWritable rest

end

def commaSeparated (parts : List String) : String :=
  ", ".intercalate parts

mutual

/-- The form of a value in messages. -/
def written : Value → String
  | .null => "None"
  | .boolean true => "True"
  | .boolean false => "False"
  | .int n => toString n
  | .double x => x.written
  | .text s => Text.quoted s
  | .bytes .fixed content => Text.quotedBytes content
  | .bytes .growable content => Text.quotedGrowableBytes content
  | .bytes .view _ => "<memory>"
  | .date d => "datetime.date(" ++ commaSeparated d.fields ++ ")"
  | .time t => "datetime.time(" ++ commaSeparated (t.fields ++ t.zoneFields) ++ ")"
  | .timestamp d t =>
    "datetime.datetime(" ++ commaSeparated (d.fields ++ t.fields ++ t.zoneFields) ++ ")"
  | .decimal number => "Decimal('" ++ number.written ++ "')"
  | .list items => "[" ++ commaSeparated (writtenAll items) ++ "]"
  | .tuple [item] => "(" ++ written item ++ ",)"
  | .tuple items => "(" ++ commaSeparated (writtenAll items) ++ ")"
  | .set [] => "set()"
  | .set items => "\x7b" ++ commaSeparated (writtenAll items) ++ "\x7d"
  | .mapping entries => "\x7b" ++ commaSeparated (writtenEntries entries) ++ "\x7d"
  | .tagged kind payload =>
    "SqlValue(kind=<ValueKind." ++ kind.name.toUpper ++ ": " ++ Text.quoted kind.name ++
      ">, value=" ++ written payload ++ ")"
  | .object name => "<" ++ name ++ ">"

def writtenAll : List Value → List String
  | [] => []
  | item :: rest => written item :: writtenAll rest

def writtenEntries : List (Value × Value) → List String
  | [] => []
  | (key, value) :: rest => (written key ++ ": " ++ written value) :: writtenEntries rest

end

/-- The form of a value as a column label. -/
def label : Value → String
  | .text s => s
  | .date d => d.dashed
  | .time t => t.clockNotation
  | .timestamp d t => d.dashed ++ " " ++ t.clockNotation
  | .decimal number => number.written
  | v => v.written

end Value
end SqlTemplate
