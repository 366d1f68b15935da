import EnvConfig.Number.Binary
import EnvConfig.Text.Basic

/-!
# Numbers in text

Integers have two notations.

* A **literal** of a schema (`literal?`): an optional minus, then `0x` and hexadecimal digits or
  decimal digits.  `isLiteral` says how far a literal reaches; it admits decimal digits of every
  script, but only ASCII ones have a value.
* A **setting** from the environment (`setting?`): decimal digits after an optional sign, where a
  minus is for signed types only.

Every value is exact: a number of any length is read in full and then compared with the bounds of
the type that is to hold it.

The setting of a binary number is a sign (optional), then `inf`, `infinity` or `nan` in letters of
either case, or digits with at most one point among them and an optional power of ten.  At least one
digit stands beside the point.  The number is the one of the format nearest to what the text
denotes.  `Written` is the text taken apart: `digits · 10^exponent`.  A power far outside the range
of every format is not computed; `Written.nearest` answers zero or infinity at once.
-/

namespace EnvConfig.Number

open Text

/-! ### integers -/

/-- `0x` or `0X` and one hexadecimal digit or more -/
def isHexMagnitude : List Char → Bool
  | '0' :: x :: ds => (x == 'x' || x == 'X') && !ds.isEmpty && ds.all isHexDigit
  | _ => false

/-- one decimal digit or more, of any script -/
def isDecimalMagnitude (ds : List Char) : Bool := !ds.isEmpty && ds.all isDecimalDigit

def isMagnitude (cs : List Char) : Bool := isHexMagnitude cs || isDecimalMagnitude cs

/-- the written form of an integer -/
def isLiteral : List Char → Bool
  | '-' :: cs => isMagnitude cs
  | cs => isMagnitude cs

/-- ASCII decimal digits, one or more, as a number -/
def decimal? (ds : List Char) : Option Nat :=
  if !ds.isEmpty && ds.all Char.isDigit then some (digitsValue 10 ds) else none

/-- the number that a literal without its sign denotes -/
def magnitude? (cs : List Char) : Option Nat :=
  if isHexMagnitude cs then some (digitsValue 16 (cs.drop 2)) else decimal? cs

/-- the integer that a literal denotes -/
def literal? : List Char → Option Int
  | '-' :: cs => (magnitude? cs).map fun n => -(n : Int)
  | cs => (magnitude? cs).map Int.ofNat

/-- the integer that a setting of a signed type denotes -/
def signedSetting? : List Char → Option Int
  | '+' :: cs => (decimal? cs).map Int.ofNat
  | '-' :: cs => (decimal? cs).map fun n => -(n : Int)
  | cs => (decimal? cs).map Int.ofNat

/-- the number that a setting of an unsigned type denotes -/
def unsignedSetting? : List Char → Option Nat
  | '+' :: cs => decimal? cs
  | cs => decimal? cs

/-- `i` as a signed word, if it fits -/
def toInt32? (i : Int) : Option Int32 :=
  if -2147483648 ≤ i ∧ i ≤ 2147483647 then some (Int32.ofInt i) else none

def toInt64? (i : Int) : Option Int64 :=
  if -9223372036854775808 ≤ i ∧ i ≤ 9223372036854775807 then some (Int64.ofInt i) else none

def toUInt32? (n : Nat) : Option UInt32 :=
  if n ≤ 4294967295 then some (UInt32.ofNat n) else none

def toUInt64? (n : Nat) : Option UInt64 :=
  if n ≤ 18446744073709551615 then some (UInt64.ofNat n) else none

theorem toInt_of_toInt32? {i : Int} {w : Int32} (h : toInt32? i = some w) : w.toInt = i := by
  unfold toInt32? at h
  split at h
  · rename_i hi
    cases h
    exact Int32.toInt_ofInt_of_le (by omega) (by omega)
  · cases h

/-- the decimal digits of `i`, after a minus if it is negative -/
def decimalText (i : Int) : List Char :=
  match i with
  | .ofNat n => Nat.toDigits 10 n
  | .negSucc n => '-' :: Nat.toDigits 10 (n + 1)

/-! ### binary numbers -/

/-- a decimal number as written -/
structure Written where
  digits : Nat
  exponent : Int
deriving Repr, DecidableEq

/-- the longest start of ASCII digits, and the rest -/
def spanDigits (cs : List Char) : List Char × List Char :=
  (cs.takeWhile Char.isDigit, cs.dropWhile Char.isDigit)

/-- the power of ten at the end of a number -/
def power? : List Char → Option Int
  | [] => some 0
  | e :: cs =>
    if e == 'e' || e == 'E' then
      match cs with
      | '+' :: ds => if !ds.isEmpty && ds.all Char.isDigit then some (digitsValue 10 ds) else none
      | '-' :: ds =>
        if !ds.isEmpty && ds.all Char.isDigit then some (-(digitsValue 10 ds : Int)) else none
      | ds => if !ds.isEmpty && ds.all Char.isDigit then some (digitsValue 10 ds) else none
    else none

/-- digits, a point at most, a power of ten -/
def written? (cs : List Char) : Option Written :=
  let (whole, rest) := spanDigits cs
  let (fraction, rest) := match rest with
    | '.' :: more => spanDigits more
    | _ => ([], rest)
  if whole.isEmpty && fraction.isEmpty then none
  else (power? rest).map fun p => ⟨digitsValue 10 (whole ++ fraction), p - fraction.length⟩

/-- the pattern nearest to a written number -/
def Written.nearest (w : Written) (f : Format) : Nat :=
  let size : Int := (Nat.toDigits 10 w.digits).length + w.exponent
  if w.digits = 0 then 0
  else if 400 < size then f.infinity
  else if size < -400 then 0
  else if 0 ≤ w.exponent then f.nearest (w.digits * Nat.pow 10 w.exponent.toNat) 1
  else f.nearest w.digits (Nat.pow 10 (-w.exponent).toNat)

/-- the magnitude that a text without sign denotes -/
def magnitudePattern? (f : Format) (cs : List Char) : Option Nat :=
  let word := cs.map Char.toLower
  if word = "inf".toList ∨ word = "infinity".toList then some f.infinity
  else if word = "nan".toList then some f.quietNaN
  else (written? cs).map (·.nearest f)

/-- the number that a setting denotes -/
def pattern? (f : Format) : List Char → Option Nat
  | '+' :: cs => magnitudePattern? f cs
  | '-' :: cs => (magnitudePattern? f cs).map (f.signBit + ·)
  | cs => magnitudePattern? f cs

def doubleSetting? (cs : List Char) : Option Double :=
  (pattern? .double cs).map fun n => ⟨UInt64.ofNat n⟩

def singleSetting? (cs : List Char) : Option Single :=
  (pattern? .single cs).map fun n => ⟨UInt32.ofNat n⟩

end EnvConfig.Number
