import TextScenario.Json
/-!
The value of a number literal. Whole numbers that fit 64 bits stay exact; all others become
doubles: the leading digits that fit 64 bits, scaled by a power of ten.
-/

namespace TextScenario.Json

/-- The parts of a literal: sign, whole digits, fraction digits, and the exponent's sign and
digits. -/
structure NumberLiteral where
  negative : Bool
  whole : List Nat
  fraction : Option (List Nat)
  exponent : Option (Bool × List Nat)

/-- Digits gathered into 64 bits: the significand and how many digits were left out. -/
def gather (significand : Nat) : List Nat → Nat × List Nat
  | [] => (significand, [])
  | digit :: rest =>
    if significand * 10 + digit < 0x10000000000000000 then gather (significand * 10 + digit) rest
    else (significand, digit :: rest)

def powerOfTen (exponent : Nat) : Float :=
  Float.ofScientific 1 false exponent

/-- `value · 10 ^ exponent` in double steps of at most `10 ^ 308`; none outside the range. -/
def scaled (fuel : Nat) (value : Float) (exponent : Int) : Option Float :=
  if exponent.natAbs ≤ 308 then
    if 0 ≤ exponent then
      let product := value * powerOfTen exponent.toNat
      if product.isInf then none else some product
    else some (value / powerOfTen (-exponent).toNat)
  else if value == 0.0 then some value
  else if 0 ≤ exponent then none
  else match fuel with
    | 0 => some 0.0
    | fuel + 1 => scaled fuel (value / powerOfTen 308) (exponent + 308)

private def signed (negative : Bool) (value : Float) : Json :=
  .double (if negative then -value else value)

/-- The double for a significand and a scale, with the literal's exponent applied. -/
def NumberLiteral.toDouble? (literal : NumberLiteral) (significand : Nat) (scale : Int) :
    Option Json :=
  let base := (UInt64.ofNat significand).toFloat
  match literal.exponent with
  | none => (scaled 8 base scale).map (signed literal.negative)
  | some (down, digits) =>
    let exponent : Nat := digits.foldl (fun value digit => value * 10 + digit) 0
    if 0x80000000 ≤ exponent then
      if significand ≠ 0 ∧ ¬down then none else some (signed literal.negative 0.0)
    else
      let total : Int := if down then scale - exponent else scale + exponent
      (scaled 8 base total).map (signed literal.negative)

def NumberLiteral.value? (literal : NumberLiteral) : Option Json :=
  let (significand, dropped) := gather 0 literal.whole
  match literal.fraction, literal.exponent, dropped with
  | none, none, [] =>
    if ¬literal.negative then some (.integer significand)
    else if 0 < significand ∧ significand ≤ 0x8000000000000000 then some (.integer (-significand))
    else some (.double (-(UInt64.ofNat significand).toFloat))
  | none, _, _ => literal.toDouble? significand dropped.length
  | some fraction, _, [] =>
    let (significand, dropped) := gather significand fraction
    literal.toDouble? significand (-((fraction.length - dropped.length : Nat) : Int))
  | some fraction, _, _ =>
    let (significand, left) := gather significand fraction
    literal.toDouble? significand (dropped.length - ((fraction.length - left.length : Nat) : Int))

end TextScenario.Json
