import EnvConfig.Number.Shortest
import EnvConfig.Number.Written
import EnvConfig.Text.Case
import EnvConfig.Text.Table.Printing
import EnvConfig.Value.Basic

/-!
# Values for a debugging reader

Lists stand in brackets, maps and messages in braces, with commas between their parts.  A message
has its name in front; its fields are named plainly, while the keys of a map are quoted.

Texts stand between double quotes so that everything in them can be seen: characters without a mark
of their own, and marks that would attach to the character before them, are written by their code
point.

* `Text.display`: a text for the reader;
* `Value.text`: a value for the reader.
-/

namespace EnvConfig

namespace Text

/-- the halfwidth voiced sound marks, which take a cell of their own -/
def isHalfwidthMark (c : Char) : Bool := c.toNat = 0xff9e || c.toNat = 0xff9f

/-- the property Grapheme_Extend, without the marks that take a cell of their own -/
def attaches (c : Char) : Bool :=
  !isAscii c && inSpans Table.graphemeExtend c && !isHalfwidthMark c

/-- the fillers of Hangul, which count as letters but leave no mark -/
def isFiller (c : Char) : Bool :=
  c.toNat = 0x115f || c.toNat = 0x1160 || c.toNat = 0x3164 || c.toNat = 0xffa0

/-- the character leaves a mark of its own, or is the plain space -/
def isPrintable (c : Char) : Bool :=
  if isAscii c then 0x20 ≤ c.toNat && c.toNat < 0x7f
  else !inSpans Table.unprintable c && !isFiller c

def displayChar (c : Char) : List Char :=
  if c.toNat = 0 then ['\\', '0']
  else if c = '\t' then ['\\', 't']
  else if c = '\r' then ['\\', 'r']
  else if c = '\n' then ['\\', 'n']
  else if c = '"' then ['\\', '"']
  else if c = '\\' then ['\\', '\\']
  else if attaches c || !isPrintable c then ['\\', 'u', '\x7b'] ++ hexDigits c.toNat ++ ['\x7d']
  else [c]

/-- `s` between double quotes, with every character visible -/
def display (s : String) : String :=
  String.ofList ('"' :: (s.toList.flatMap displayChar ++ ['"']))

end Text

namespace Value

open Text Number

/-- the parts with a comma and a blank between them -/
def listed (parts : List String) : String := ", ".intercalate parts

def integerText (i : Int) : String := String.ofList (decimalText i)

mutual

def text : Value → String
  | bool b => if b then "true" else "false"
  | int32 n => integerText n.toInt
  | int64 n => integerText n.toInt
  | uint32 n => integerText n.toNat
  | uint64 n => integerText n.toNat
  | float x => x.text
  | double x => x.text
  | string s => display s
  | list items => "[" ++ listed (texts items) ++ "]"
  | map entries =>
    "\x7b" ++ listed (entries.map fun e => display e.1 ++ ": " ++ display e.2) ++ "\x7d"
  | message name fields => name ++ " \x7b" ++ listed (fieldTexts fields) ++ "\x7d"

def texts : List Value → List String
  | [] => []
  | v :: vs => text v :: texts vs

def fieldTexts : List (String × Value) → List String
  | [] => []
  | (k, v) :: fs => (k ++ ": " ++ text v) :: fieldTexts fs

end

end Value

end EnvConfig
