import EnvConfig.Text.Table.Alphabetic
import EnvConfig.Text.Table.Case

/-!
# Upper and lower case

Classes and mappings of letters over all of Unicode.  For ASCII they are those of `Char`; only
above ASCII a table is asked.  One character may become several (`toUpper`, `toLower`), and the
lower case of a whole text depends on the neighbours of a capital sigma (`lowercase`).
-/

namespace EnvConfig.Text

def isAscii (c : Char) : Bool := c.toNat < 128

def isUppercase (c : Char) : Bool :=
  if isAscii c then c.isUpper else inSpans Table.uppercase c

def isLowercase (c : Char) : Bool :=
  if isAscii c then c.isLower else inSpans Table.lowercase c

def isAlphabetic (c : Char) : Bool :=
  if isAscii c then c.isAlpha else inSpans Table.alphabetic c

theorem isUppercase_of_isAscii {c : Char} (h : isAscii c = true) : isUppercase c = c.isUpper := by
  simp [isUppercase, h]

theorem isLowercase_of_isAscii {c : Char} (h : isAscii c = true) : isLowercase c = c.isLower := by
  simp [isLowercase, h]

theorem isAlphabetic_of_isAscii {c : Char} (h : isAscii c = true) :
    isAlphabetic c = c.isAlpha := by
  simp [isAlphabetic, h]

/-- the lower case of one character (two characters for the dotted capital I) -/
def toLower (c : Char) : List Char :=
  if isAscii c then [c.toLower]
  else if c.toNat = 0x130 then ['i', Char.ofNat 0x307]
  else [(shifted Table.toLower c).getD c]

/-- the upper case of one character, up to three characters -/
def toUpper (c : Char) : List Char :=
  if isAscii c then [c.toUpper]
  else match Table.toUpperLong.find? (·.1 == c.toNat) with
    | some (_, ns) => ns.map Char.ofNat
    | none => [(shifted Table.toUpper c).getD c]

theorem toLower_of_isAscii {c : Char} (h : isAscii c = true) : toLower c = [c.toLower] := by
  simp [toLower, h]

theorem toUpper_of_isAscii {c : Char} (h : isAscii c = true) : toUpper c = [c.toUpper] := by
  simp [toUpper, h]

/-- the property Cased -/
def isCased (c : Char) : Bool := if isAscii c then c.isAlpha else inSpans Table.cased c

/-- the property Case_Ignorable; in ASCII these are apostrophe, dot, colon, caret and grave
accent -/
def isCaseIgnorable (c : Char) : Bool :=
  if isAscii c then c == '\'' || c == '.' || c == ':' || c == '^' || c.toNat == 0x60
  else inSpans Table.caseIgnorable c

/-- past characters that case ignores, a cased one comes first -/
def meetsCased (cs : List Char) : Bool := (cs.dropWhile isCaseIgnorable).head?.any isCased

def capitalSigma : Char := Char.ofNat 0x3a3

/-- a capital sigma at the end of a word becomes a final small sigma, any other a small sigma -/
def lowerSigma (before after : List Char) : Char :=
  if meetsCased before && !meetsCased after then Char.ofNat 0x3c2 else Char.ofNat 0x3c3

/-- the lower case of `cs`, which stands after the reverse of `before` -/
def lowerFrom (before : List Char) : List Char → List Char
  | [] => []
  | c :: cs =>
    (if c = capitalSigma then [lowerSigma before cs] else toLower c) ++ lowerFrom (c :: before) cs

/-- the lower case of a text -/
def lowercase (s : String) : String := String.ofList (lowerFrom [] s.toList)

/-- the lower case of the ASCII letters of a text; other characters stay -/
def asciiLowercase (s : String) : String := String.ofList (s.toList.map Char.toLower)

end EnvConfig.Text
