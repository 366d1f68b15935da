import EnvConfig.Number.Binary

/-!
# The shortest decimal text of a binary number

The reals that round to a number of a format form an interval around it; its ends belong to it
exactly when the significand is even.  The text has the fewest digits with which a decimal lies in
that interval, and of two such decimals the nearer one.

`shortest m q closeBelow` gives the digits and the power of ten of their last one: on the grid of
decimals with `n` digits only the two neighbours of the number matter, so for `n = 1, 2, …` they
are tried in exact arithmetic.

`Layout` collects the decisions of a text that are no arithmetic: from where on the power of ten
is written, and what an integral number ends with.
-/

namespace EnvConfig.Number

/-- the interval of the reals that round to a number, over the unit `2^scale`:
`below ≤ 4 x ≤ above`, with or without its ends -/
structure Interval where
  below : Nat
  centre : Nat
  above : Nat
  scale : Int
  closed : Bool
deriving Repr, DecidableEq

/-- the interval around `m · 2^q`; below a power of two the neighbour is half as far away -/
def Interval.around (f : Format) (m : Nat) (q : Int) : Interval :=
  let close := m == Nat.pow 2 f.fractionBits && f.leastScale < q
  ⟨if close then 4 * m - 1 else 4 * m - 2, 4 * m, 4 * m + 2, q - 2, m % 2 == 0⟩

/-- `a · 2^s` and `d · 10^k` over a common unit -/
def common (a : Nat) (s : Int) (d : Nat) (k : Int) : Nat × Nat :=
  (a * Nat.pow 2 s.toNat * Nat.pow 10 (-k).toNat, d * Nat.pow 10 k.toNat * Nat.pow 2 (-s).toNat)

/-- the decimal `d · 10^k` rounds to the number -/
def Interval.holds (i : Interval) (d : Nat) (k : Int) : Bool :=
  let (l, x) := common i.below i.scale d k
  let (u, _) := common i.above i.scale d k
  if i.closed then l ≤ x && x ≤ u else l < x && x < u

/-- the greatest `d` with `d · 10^k` no larger than the number -/
def Interval.floor (i : Interval) (k : Int) : Nat :=
  let (a, unit) := common i.centre i.scale 1 k
  a / unit

/-- of the neighbours `d` and `d + 1` on the grid of `10^k` the upper one is as near or nearer -/
def Interval.upperNearer (i : Interval) (d : Nat) (k : Int) : Bool :=
  let (a, unit) := common i.centre i.scale 1 k
  (d + 1) * unit - a ≤ a - d * unit

/-- the neighbour of the number on the grid of `10^k` that rounds to it, the nearer if both do -/
def Interval.neighbour? (i : Interval) (k : Int) : Option Nat :=
  let d := i.floor k
  match i.holds d k, i.holds (d + 1) k with
  | true, true => some (if i.upperNearer d k then d + 1 else d)
  | true, false => some d
  | false, true => some (d + 1)
  | false, false => none

/-- the power of ten of the first digit of the number -/
def Interval.magnitude (i : Interval) : Int :=
  let whole (k : Int) : Bool := 0 < i.floor k
  let guess : Int := ((Nat.log2 i.centre : Int) + i.scale) * 30103 / 100000
  if whole (guess + 1) then guess + 1 else if whole guess then guess else guess - 1

/-- the grids from one digit on, coarse to fine; the digits and the power of the last one -/
def Interval.shortestFrom (i : Interval) (k : Int) : Nat → Nat × Int
  | 0 => (i.floor k, k)
  | n + 1 =>
    match i.neighbour? k with
    | some d => (d, k)
    | none => i.shortestFrom (k - 1) n

/-- digits without zeros at their end -/
def stripZeros : Nat → Nat × Int → Nat × Int
  | 0, r => r
  | n + 1, (d, k) => if d ≠ 0 ∧ d % 10 = 0 then stripZeros n (d / 10, k + 1) else (d, k)

/-- the fewest digits that round to the positive number `m · 2^q`, and the power of the last one -/
def shortest (f : Format) (m : Nat) (q : Int) : Nat × Int :=
  let i := Interval.around f m q
  stripZeros 20 (i.shortestFrom i.magnitude 20)

/-- how a number is laid out: with a power of ten below `small` and from `large` on -/
structure Layout where
  /-- the least power of ten of a first digit that is written without a power -/
  least : Int
  /-- the first power of ten of a first digit that is written with a power -/
  large : Int
  /-- what an integral number without a power ends with -/
  integral : String
deriving Repr, DecidableEq

/-- numbers for a debugging reader: plain from `0.0001` to below `10^16`, integral ones with `.0` -/
def Layout.debugging : Layout := ⟨-4, 16, ".0"⟩

def zeros (n : Nat) : List Char := List.replicate n '0'

/-- the digits `ds`, the last one of the power `k`, as the layout wants them -/
def Layout.arrange (l : Layout) (ds : List Char) (k : Int) : List Char :=
  let first : Int := k + ds.length - 1
  if l.least ≤ first ∧ first < l.large then
    if 0 ≤ k then ds ++ zeros k.toNat ++ l.integral.toList
    else if 0 ≤ first then ds.take (first.toNat + 1) ++ '.' :: ds.drop (first.toNat + 1)
    else '0' :: '.' :: zeros (-first - 1).toNat ++ ds
  else
    let power := (toString first).toList
    match ds with
    | [] => 'e' :: power
    | [d] => d :: 'e' :: power
    | d :: more => d :: '.' :: more ++ 'e' :: power

/-- the text of a number -/
def Layout.text (l : Layout) (f : Format) : Reading → String
  | .nan => "NaN"
  | .infinite negative => if negative then "-inf" else "inf"
  | .finite negative m q =>
    let sign := if negative then ['-'] else []
    if m = 0 then String.ofList (sign ++ '0' :: l.integral.toList)
    else
      let (d, k) := shortest f m q
      String.ofList (sign ++ l.arrange (Nat.toDigits 10 d) k)

def Double.text (x : Double) : String := Layout.debugging.text .double x.read
def Single.text (x : Single) : String := Layout.debugging.text .single x.read

end EnvConfig.Number
