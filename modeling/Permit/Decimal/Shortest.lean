/-!
# The fewest digits that read back

A double stands for the interval of numbers that round to it. Of the decimal grids with one digit, two digits and so on
up to seventeen, the first that has a point in this interval gives the digits; of two such points the nearer is taken,
and of two equally near the one with the even last digit.
-/

namespace Permit.Decimal

/-- A positive number `middle / unit` with the ends of its interval, in the same unit. -/
structure Span where
  low : Nat
  middle : Nat
  high : Nat
  unit : Nat
  closed : Bool

/-- The interval of `mantissa * 2 ^ exponent`; below a power of two the gap is half as wide. -/
def Span.ofBinary (mantissa : Nat) (exponent : Int) (atPower : Bool) : Span :=
  let scale := Nat.pow 2 (exponent - 2).toNat
  { low := (4 * mantissa - if atPower then 1 else 2) * scale
    middle := 4 * mantissa * scale
    high := (4 * mantissa + 2) * scale
    unit := Nat.pow 2 (2 - exponent).toNat
    closed := mantissa % 2 == 0 }

/-- `digits * 10 ^ exponent`. -/
structure Digits where
  digits : Nat
  exponent : Int
deriving DecidableEq, Repr

def Digits.trimmed (d : Digits) : Digits :=
  if 0 < d.digits ∧ d.digits % 10 = 0 then Digits.trimmed ⟨d.digits / 10, d.exponent + 1⟩ else d
termination_by d.digits
decreasing_by
  show d.digits / 10 < d.digits
  omega

/-- The exponent of ten of the first digit of `n / d`. -/
def magnitude (n d : Nat) : Int :=
  if d ≤ n then (Nat.toDigits 10 (n / d)).length - 1
  else
    let k := (Nat.toDigits 10 (d / n)).length
    if d ≤ n * Nat.pow 10 (k - 1) then 1 - (k : Int) else - (k : Int)

/-- Whether `n / down` on the grid lies in the span. -/
def Span.contains (s : Span) (n down : Nat) : Bool :=
  if s.closed then s.low * down ≤ n * s.unit && n * s.unit ≤ s.high * down
  else s.low * down < n * s.unit && n * s.unit < s.high * down

/-- The point of the grid of `10 ^ exponent` in the span that is nearest to the middle, if there is one. -/
def Span.onGrid? (s : Span) (exponent : Int) : Option Digits :=
  let up := Nat.pow 10 exponent.toNat
  let down := Nat.pow 10 (-exponent).toNat
  let below := s.middle * down / (s.unit * up)
  let half := (2 * below + 1) * s.unit * up
  let nearer :=
    if 2 * s.middle * down < half then below
    else if half < 2 * s.middle * down then below + 1
    else below + below % 2
  let other := 2 * below + 1 - nearer
  if s.contains (nearer * up) down then some ⟨nearer, exponent⟩
  else if s.contains (other * up) down then some ⟨other, exponent⟩
  else none

/-- Seventeen digits always identify a double. -/
def maxDigits : Nat := 17

def Span.shortest (s : Span) : Digits :=
  let first := magnitude s.middle s.unit
  ((List.range maxDigits).findSome? fun (n : Nat) => s.onGrid? (first - (n : Int))).getD ⟨0, 0⟩ |>.trimmed

/-- The bit above the 52 written bits of a significand. -/
def hiddenBit : Nat := 4503599627370496

/-- The shortest digits of the absolute value of a finite double that is not zero. -/
def shortest (x : Float) : Digits :=
  let bits : Nat := x.toBits.toNat
  let fraction : Nat := bits % hiddenBit
  let biased : Nat := bits / hiddenBit % 2048
  if biased = 0 then (Span.ofBinary fraction (-1074) false).shortest
  else (Span.ofBinary (hiddenBit + fraction) ((biased : Int) - 1075) (fraction == 0 && 1 < biased)).shortest

end Permit.Decimal
