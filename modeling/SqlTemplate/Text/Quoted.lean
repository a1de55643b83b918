import SqlTemplate.Text.Printable

/-!
# Quoted texts and byte strings

Messages show a text in quotes. The single quote is used unless the text holds one and no double
quote. Inside, the quote in use and the backslash get a backslash, line feed, carriage return and
tab have letters of their own, and every other character that is not printable is written by its
code point in two, four or eight hexadecimal digits. Byte strings follow the same plan on the
printable part of ASCII.
-/

namespace SqlTemplate.Text

def singleQuote : Char := '\x27'

def doubleQuote : Char := '\x22'

def hexDigits (width n : Nat) : List Char :=
  (Nat.toDigits 16 n).leftpad width '0'

/-- The quote that encloses a text: single, unless that would need escapes and double would not. -/
def enclosingQuote (text : List Char) : Char :=
  if text.contains singleQuote && !text.contains doubleQuote then doubleQuote else singleQuote

/-- The code point of a character, in the shortest of the three numeric escapes that holds it. -/
def numericEscape (c : Char) : List Char :=
  if c.toNat < 0x100 then '\\' :: 'x' :: hexDigits 2 c.toNat
  else if c.toNat < 0x10000 then '\\' :: 'u' :: hexDigits 4 c.toNat
  else '\\' :: 'U' :: hexDigits 8 c.toNat

/-- One character as it stands inside quotes; the characters in `guarded` get a backslash. -/
def escaped (guarded : List Char) (shown : Char → Bool) (c : Char) : List Char :=
  if guarded.contains c then ['\\', c]
  else if c = '\n' then ['\\', 'n']
  else if c = '\r' then ['\\', 'r']
  else if c = '\t' then ['\\', 't']
  else if shown c then [c]
  else numericEscape c

def enclosed (quote : Char) (inner : List Char) : List Char :=
  quote :: inner ++ [quote]

def quoted (text : String) : String :=
  let quote := enclosingQuote text.toList
  String.ofList (enclosed quote (text.toList.flatMap (escaped [quote, '\\'] isPrintable)))

def byteChars (content : List UInt8) : List Char :=
  content.map fun b => Char.ofNat b.toNat

def isPrintableAscii (c : Char) : Bool := 32 ≤ c.toNat && c.toNat < 127

/-- A byte string in quotes, under its mark. -/
def quotedBytes (content : List UInt8) : String :=
  let chars := byteChars content
  let quote := enclosingQuote chars
  String.ofList
    ('b' :: enclosed quote (chars.flatMap (escaped [quote, '\\'] isPrintableAscii)))

/-- A growable byte string: single quotes get a backslash whichever quote encloses it. -/
def quotedGrowableBytes (content : List UInt8) : String :=
  let chars := byteChars content
  let inner := chars.flatMap (escaped [singleQuote, '\\'] isPrintableAscii)
  "bytearray(b" ++ String.ofList (enclosed (enclosingQuote chars) inner) ++ ")"

example : quoted "it's" = "\"it's\"" := by decide +kernel

example : quoted "a\n\u00a0\u200b\\" = "'a\\n\\xa0\\u200b\\\\'" := by decide +kernel

end SqlTemplate.Text
