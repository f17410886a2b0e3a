import Permit.Decimal.Shortest

/-!
# Written doubles

A layout says for which places of the decimal point a double is written positionally; outside them it has one digit
before the point and an exponent of ten. A whole number written positionally keeps `.0`.
-/

namespace Permit.Decimal

/-- `positional n` says whether the point may stand after `n` digits; a negative `n` counts zeros after the point. -/
structure Layout where
  positional : Int → Bool

def zeros (n : Nat) : String := String.ofList (List.replicate n '0')

def positionalText (digits : List Char) (point : Int) : String :=
  if point ≤ 0 then "0." ++ zeros (-point).toNat ++ String.ofList digits
  else if digits.length ≤ point then
    String.ofList digits ++ zeros (point - digits.length).toNat ++ ".0"
  else String.ofList (digits.take point.toNat) ++ "." ++ String.ofList (digits.drop point.toNat)

/-- An exponent of ten; it always has a sign. -/
def exponentText (n : Int) : String := "e" ++ (if n < 0 then "-" else "+") ++ toString n.natAbs

/-- Writes digits with one of them before the point, and an exponent. -/
def scientificText (digits : List Char) (point : Int) : String :=
  String.ofList (digits.take 1) ++
    (if digits.length ≤ 1 then "" else "." ++ String.ofList (digits.drop 1)) ++ exponentText (point - 1)

/-- The highest bit of a double, set for the negative ones. -/
def signBit : Nat := 9223372036854775808

def Layout.text (layout : Layout) (x : Float) : String :=
  let sign := if x.toBits.toNat < signBit then "" else "-"
  if x == 0 then sign ++ "0.0"
  else
    let d := shortest x
    let digits := Nat.toDigits 10 d.digits
    let point := digits.length + d.exponent
    sign ++ if layout.positional point then positionalText digits point else scientificText digits point

end Permit.Decimal
