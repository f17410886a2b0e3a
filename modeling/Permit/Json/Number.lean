import Permit.Decimal.Layout

/-!
# Numbers of JSON documents

An integer below `2^64` and a negative integer from `-2^63` on are kept exactly; all other numbers are doubles.
-/

namespace Permit

inductive Number where
  | natural (value : UInt64)
  | negative (value : Int64)
  | float (value : Float)

namespace Number

/-- Numbers of different kinds are never equal; doubles are compared as doubles, so the two zeros are equal. -/
def same : Number → Number → Bool
  | .natural a, .natural b => a == b
  | .negative a, .negative b => a == b
  | .float a, .float b => a == b
  | _, _ => false

/-- Zero and the double that is no number count as nothing. -/
def isNothing : Number → Bool
  | .natural n => n == 0
  | .negative n => n == 0
  | .float x => x == 0 || x.isNaN

/-- Doubles in a document: positional from `0.00001` to sixteen digits before the point. -/
def layout : Decimal.Layout := ⟨fun point => -5 < point && point ≤ 16⟩

def text : Number → String
  | .natural n => toString n.toNat
  | .negative n => toString n.toInt
  | .float x => layout.text x

/-- A literal as it is read: sign, digits before the point, digits after it, and the exponent. -/
structure Literal where
  negative : Bool
  whole : List Nat
  fraction : Option (List Nat)
  exponent : Option Int

/-- The first number after the natural ones, `2^64`. -/
def naturalEnd : Nat := 18446744073709551616

/-- The absolute value of the least negative one, `2^63`. -/
def negativeEnd : Nat := 9223372036854775808

/-- Appends digits to a significand as long as it stays below `2^64`; also counts the digits taken. -/
def gather (significand taken : Nat) : List Nat → Nat × Nat
  | [] => (significand, taken)
  | d :: ds =>
      if significand * 10 + d < naturalEnd then gather (significand * 10 + d) (taken + 1) ds
      else (significand, taken)

/-- The largest exponent that a single multiplication or division takes. -/
def largestPower : Nat := 308

def powerOfTen (n : Nat) : Float := Float.ofScientific 1 false n

/-- Divides by `10 ^ places`, at most `10 ^ 308` at a time. -/
def shrink (x : Float) (places : Nat) : Float :=
  if places ≤ largestPower then x / powerOfTen places
  else if x == 0 then x
  else shrink (x / powerOfTen largestPower) (places - largestPower)
termination_by places
decreasing_by
  have : 0 < largestPower := by decide
  omega

/-- `significand * 10 ^ exponent`, unless it is too large. -/
def scaled? (significand : Nat) (exponent : Int) : Option Float :=
  let x := significand.toUInt64.toFloat
  if exponent < 0 then some (shrink x (-exponent).toNat)
  else if exponent.toNat ≤ largestPower then
    let y := x * powerOfTen exponent.toNat
    if y.isInf then none else some y
  else if x == 0 then some x
  else none

/-- The digits that fit into a significand below `2^64` count; the others only move the exponent. -/
def Literal.float? (l : Literal) : Option Float :=
  let (whole, taken) := gather 0 0 l.whole
  let (significand, places) := gather whole 0 (l.fraction.getD [])
  let exponent := ((l.whole.length - taken : Nat) : Int) - places + l.exponent.getD 0
  (scaled? significand exponent).map fun x => if l.negative then -x else x

/-- An integer in range keeps its kind; minus zero is a double. -/
def Literal.number? (l : Literal) : Option Number :=
  let n : Nat := l.whole.foldl (fun n d => n * 10 + d) 0
  if l.fraction.isSome || l.exponent.isSome || naturalEnd ≤ n then l.float?.map .float
  else if !l.negative then some (.natural n.toUInt64)
  else if 0 < n && n ≤ negativeEnd then some (.negative (Int64.ofInt (-(n : Int))))
  else some (.float (-n.toUInt64.toFloat))

end Number

end Permit
