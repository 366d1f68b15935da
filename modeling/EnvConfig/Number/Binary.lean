/-!
# Binary floating-point numbers

A number of an interchange format is its bit pattern.  A format is two widths: of the fraction and
of the exponent field.  A finite magnitude is `m · 2^q` with a significand `m` and a scale `q` no
less than the least scale of the format; the significand is below `2^(fraction + 1)`.

* `Format.encode q m`: the pattern of `m · 2^q`; a significand that rounding has carried to
  `2^(fraction + 1)` lands on the next power of two, and what is too large lands on infinity;
* `Format.nearest num den`: the pattern nearest to `num / den`, of two the even one;
* `Double`, `Single`: the two formats in use, as patterns of 64 and 32 bits.
-/

namespace EnvConfig.Number

structure Format where
  fractionBits : Nat
  exponentBits : Nat
deriving Repr, DecidableEq

def Format.double : Format := ⟨52, 11⟩
def Format.single : Format := ⟨23, 8⟩

/-- the pattern of positive infinity: all ones in the exponent field -/
def Format.infinity (f : Format) : Nat := (Nat.pow 2 f.exponentBits - 1) * Nat.pow 2 f.fractionBits

/-- a pattern that is no number -/
def Format.quietNaN (f : Format) : Nat := f.infinity + Nat.pow 2 (f.fractionBits - 1)

/-- the weight of the sign bit -/
def Format.signBit (f : Format) : Nat := Nat.pow 2 (f.fractionBits + f.exponentBits)

/-- the scale of the numbers below all normal ones -/
def Format.leastScale (f : Format) : Int :=
  2 - (Nat.pow 2 (f.exponentBits - 1) + f.fractionBits : Nat)

/-- the quotient of two naturals rounded to the nearest natural, a half to the even one -/
def divNearestEven (num den : Nat) : Nat :=
  let q := num / den
  let r := num % den
  if 2 * r < den then q else if den < 2 * r then q + 1 else if q % 2 = 0 then q else q + 1

/-- the pattern of the magnitude `m · 2^q`, for a scale `q` no less than the least one -/
def Format.encode (f : Format) (q : Int) (m : Nat) : Nat :=
  min ((q - f.leastScale).toNat * Nat.pow 2 f.fractionBits + m) f.infinity

/-- `num / den` over `2^q`, as a pair of naturals -/
def overPower (num den : Nat) (q : Int) : Nat × Nat :=
  if 0 ≤ q then (num, den * Nat.pow 2 q.toNat) else (num * Nat.pow 2 (-q).toNat, den)

/-- the scale at which `num / den` has a significand of full width, or the least scale -/
def Format.scaleOf (f : Format) (num den : Nat) : Int :=
  let low : Int := (Nat.log2 num : Int) - Nat.log2 den - f.fractionBits - 1
  let (n, d) := overPower num den low
  max (if n < d * Nat.pow 2 (f.fractionBits + 1) then low else low + 1) f.leastScale

/-- the pattern nearest to `num / den` -/
def Format.nearest (f : Format) (num den : Nat) : Nat :=
  if num = 0 then 0
  else
    let q := f.scaleOf num den
    let (n, d) := overPower num den q
    f.encode q (divNearestEven n d)

/-- a number in the 64-bit format -/
structure Double where
  bits : UInt64
deriving Repr, DecidableEq, Inhabited

/-- a number in the 32-bit format -/
structure Single where
  bits : UInt32
deriving Repr, DecidableEq, Inhabited

/-- a pattern taken apart -/
inductive Reading where
  | nan
  | infinite (negative : Bool)
  | finite (negative : Bool) (significand : Nat) (scale : Int)
deriving Repr, DecidableEq

/-- what the pattern `n` means -/
def Format.read (f : Format) (n : Nat) : Reading :=
  let negative := decide (f.signBit ≤ n)
  let rest := n % f.signBit
  let exponent := rest / Nat.pow 2 f.fractionBits
  let fraction := rest % Nat.pow 2 f.fractionBits
  if f.infinity < rest then .nan
  else if rest = f.infinity then .infinite negative
  else if exponent = 0 then .finite negative fraction f.leastScale
  else .finite negative (Nat.pow 2 f.fractionBits + fraction) (f.leastScale + (exponent - 1))

def Double.read (x : Double) : Reading := Format.double.read x.bits.toNat
def Single.read (x : Single) : Reading := Format.single.read x.bits.toNat

/-- a zero of either sign -/
def Reading.isZero : Reading → Bool
  | .finite _ m _ => m == 0
  | _ => false

/-- no number at all -/
def Reading.isNaN : Reading → Bool
  | .nan => true
  | _ => false

def Double.zero : Double := ⟨0⟩
def Single.zero : Single := ⟨0⟩

def Double.isZero (x : Double) : Bool := x.read.isZero
def Single.isZero (x : Single) : Bool := x.read.isZero
def Double.isNaN (x : Double) : Bool := x.read.isNaN
def Single.isNaN (x : Single) : Bool := x.read.isNaN

theorem Double.isZero_zero : Double.zero.isZero = true := by decide
theorem Single.isZero_zero : Single.zero.isZero = true := by decide

/-- equality of numbers: the zeros are equal, and what is no number equals nothing -/
def Double.same (x y : Double) : Bool :=
  !x.isNaN && !y.isNaN && (x == y || (x.isZero && y.isZero))

def Single.same (x y : Single) : Bool :=
  !x.isNaN && !y.isNaN && (x == y || (x.isZero && y.isZero))

end EnvConfig.Number
