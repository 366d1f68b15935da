/-!
# Characters

The classes of characters that texts are read by: digits, in ASCII and in every script, and blanks.
A larger class is a list of spans; a span runs from its first to its last code point in steps of one
or two (two, where upper and lower case alternate).

* `Span.holds`, `inSpans`, `shifted`: classes given by spans, and what shifts send characters to;
* `isDecimalDigit`, `isHexDigit`, `digitsValue`: digits, and the number that digits denote;
* `isBlank`, `trim`: blanks, and a text without those at its ends;
* `quote`: a text between double quotes, the way JSON writes it.
-/

namespace EnvConfig.Text

/-! ### spans -/

structure Span where
  first : Nat
  last : Nat
  step : Nat
deriving Repr, DecidableEq

/-- a span all of whose characters move by the same distance -/
structure Shift where
  span : Span
  distance : Int
deriving Repr, DecidableEq

def Span.holds (s : Span) (n : Nat) : Bool :=
  s.first ≤ n && n ≤ s.last && (n - s.first) % s.step == 0

def inSpans (l : List Span) (c : Char) : Bool := l.any (·.holds c.toNat)

theorem inSpans_nil (c : Char) : inSpans [] c = false := rfl

theorem inSpans_cons (s : Span) (l : List Span) (c : Char) :
    inSpans (s :: l) c = (s.holds c.toNat || inSpans l c) := rfl

/-- the character at the distance of the first span that holds `c`; none if no span does -/
def shifted (l : List Shift) (c : Char) : Option Char :=
  (l.find? (·.span.holds c.toNat)).map fun s => Char.ofNat ((c.toNat : Int) + s.distance).toNat

/-! ### digits

Three classes of digits are told apart: the ten ASCII ones (`Char.isDigit`), hexadecimal ones, and
the decimal digits of every script.  The last class only decides how far a number reaches in a
source text; no number is ever read from it. -/

/-- the characters above ASCII of the general category Nd, as of Unicode 16 -/
def decimalDigit : List Span :=
  [⟨1632, 1641, 1⟩, ⟨1776, 1785, 1⟩, ⟨1984, 1993, 1⟩, ⟨2406, 2415, 1⟩, ⟨2534, 2543, 1⟩, ⟨2662, 2671,
   1⟩, ⟨2790, 2799, 1⟩, ⟨2918, 2927, 1⟩, ⟨3046, 3055, 1⟩, ⟨3174, 3183, 1⟩, ⟨3302, 3311, 1⟩, ⟨3430,
   3439, 1⟩, ⟨3558, 3567, 1⟩, ⟨3664, 3673, 1⟩, ⟨3792, 3801, 1⟩, ⟨3872, 3881, 1⟩, ⟨4160, 4169, 1⟩,
   ⟨4240, 4249, 1⟩, ⟨6112, 6121, 1⟩, ⟨6160, 6169, 1⟩, ⟨6470, 6479, 1⟩, ⟨6608, 6617, 1⟩, ⟨6784, 6793,
   1⟩, ⟨6800, 6809, 1⟩, ⟨6992, 7001, 1⟩, ⟨7088, 7097, 1⟩, ⟨7232, 7241, 1⟩, ⟨7248, 7257, 1⟩, ⟨42528,
   42537, 1⟩, ⟨43216, 43225, 1⟩, ⟨43264, 43273, 1⟩, ⟨43472, 43481, 1⟩, ⟨43504, 43513, 1⟩, ⟨43600,
   43609, 1⟩, ⟨44016, 44025, 1⟩, ⟨65296, 65305, 1⟩, ⟨66720, 66729, 1⟩, ⟨68912, 68921, 1⟩, ⟨68928,
   68937, 1⟩, ⟨69734, 69743, 1⟩, ⟨69872, 69881, 1⟩, ⟨69942, 69951, 1⟩, ⟨70096, 70105, 1⟩, ⟨70384,
   70393, 1⟩, ⟨70736, 70745, 1⟩, ⟨70864, 70873, 1⟩, ⟨71248, 71257, 1⟩, ⟨71360, 71369, 1⟩, ⟨71376,
   71395, 1⟩, ⟨71472, 71481, 1⟩, ⟨71904, 71913, 1⟩, ⟨72016, 72025, 1⟩, ⟨72688, 72697, 1⟩, ⟨72784,
   72793, 1⟩, ⟨73040, 73049, 1⟩, ⟨73120, 73129, 1⟩, ⟨73552, 73561, 1⟩, ⟨90416, 90425, 1⟩, ⟨92768,
   92777, 1⟩, ⟨92864, 92873, 1⟩, ⟨93008, 93017, 1⟩, ⟨93552, 93561, 1⟩, ⟨118000, 118009, 1⟩, ⟨120782,
   120831, 1⟩, ⟨123200, 123209, 1⟩, ⟨123632, 123641, 1⟩, ⟨124144, 124153, 1⟩, ⟨124401, 124410, 1⟩,
   ⟨125264, 125273, 1⟩, ⟨130032, 130041, 1⟩]

/-- a decimal digit of any script -/
def isDecimalDigit (c : Char) : Bool := c.isDigit || inSpans decimalDigit c

theorem isDecimalDigit_of_isDigit {c : Char} (h : c.isDigit = true) : isDecimalDigit c = true := by
  simp [isDecimalDigit, h]

def isHexDigit (c : Char) : Bool :=
  c.isDigit || ('a' ≤ c && c ≤ 'f') || ('A' ≤ c && c ≤ 'F')

/-- the value of a decimal or hexadecimal ASCII digit, zero for any other character -/
def digitValue (c : Char) : Nat :=
  if c.isDigit then c.toNat - 48
  else if 'a' ≤ c && c ≤ 'f' then c.toNat - 87
  else if 'A' ≤ c && c ≤ 'F' then c.toNat - 55
  else 0

/-- the number that digits denote in the given base, most significant digit first -/
def digitsValue (base : Nat) (ds : List Char) : Nat :=
  ds.foldl (fun n d => n * base + digitValue d) 0

theorem digitsValue_nil (base : Nat) : digitsValue base [] = 0 := rfl

theorem digitsValue_concat (base : Nat) (ds : List Char) (d : Char) :
    digitsValue base (ds ++ [d]) = digitsValue base ds * base + digitValue d := by
  simp [digitsValue]

/-! ### blanks

A blank is a character with the Unicode property White_Space.  Texts from outside are trimmed of
blanks at both ends before they are looked at. -/

/-- a character with the property White_Space -/
def isBlank (c : Char) : Bool :=
  let n := c.toNat
  (9 ≤ n && n ≤ 13) || n == 32 || n == 0x85 || n == 0xa0 || n == 0x1680 ||
    (0x2000 ≤ n && n ≤ 0x200a) || n == 0x2028 || n == 0x2029 || n == 0x202f || n == 0x205f ||
    n == 0x3000

/-- `cs` without its longest end of characters with `p` -/
def dropEndWhile (p : Char → Bool) (cs : List Char) : List Char :=
  (cs.reverse.dropWhile p).reverse

theorem dropEndWhile_nil (p : Char → Bool) : dropEndWhile p [] = [] := rfl

theorem dropEndWhile_concat (p : Char → Bool) (cs : List Char) (c : Char) :
    dropEndWhile p (cs ++ [c]) = if p c then dropEndWhile p cs else cs ++ [c] := by
  by_cases h : p c <;> simp [dropEndWhile, h]

/-- `cs` without the blanks at both ends -/
def trimmed (cs : List Char) : List Char := dropEndWhile isBlank (cs.dropWhile isBlank)

/-- `s` without the blanks at both ends -/
def trim (s : String) : String := String.ofList (trimmed s.toList)

theorem toList_trim (s : String) : (trim s).toList = trimmed s.toList := String.toList_ofList

/-! ### quoted text

Between the quotes, quote, backslash and the controls below U+0020 are escaped; every other
character stands for itself. -/

/-- the digits of `n` in base sixteen, in lower case -/
def hexDigits (n : Nat) : List Char := Nat.toDigits 16 n

/-- one character between the quotes -/
def quoteChar (c : Char) : List Char :=
  if c = '"' then ['\\', '"']
  else if c = '\\' then ['\\', '\\']
  else if c.toNat = 0x08 then ['\\', 'b']
  else if c.toNat = 0x0c then ['\\', 'f']
  else if c = '\n' then ['\\', 'n']
  else if c = '\r' then ['\\', 'r']
  else if c = '\t' then ['\\', 't']
  else if c.toNat < 0x10 then ['\\', 'u', '0', '0', '0'] ++ hexDigits c.toNat
  else if c.toNat < 0x20 then ['\\', 'u', '0', '0'] ++ hexDigits c.toNat
  else [c]

/-- `s` between double quotes, escaped -/
def quote (s : String) : String :=
  String.ofList ('"' :: (s.toList.flatMap quoteChar ++ ['"']))

end EnvConfig.Text
