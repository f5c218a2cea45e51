/-!
The shortest decimal that reads back as a given binary fraction, and its text. Of several
shortest decimals the nearest is taken. A decimal reads back when it lies in the interval of
reals that round to the fraction.
-/

namespace TextScenario

/-- A positive decimal `digits · 10 ^ exponent`. -/
structure Decimal where
  digits : Nat
  exponent : Int
  deriving DecidableEq, Repr

namespace Decimal

/-- `numerator / denominator`, the ends of the interval that rounds to it over the same
denominator, and whether those ends belong to it. -/
structure Target where
  numerator : Nat
  denominator : Nat
  below : Nat
  above : Nat
  closed : Bool

/-- The target of `mantissa · 2 ^ power`. At a power of two the gap below is half as wide. -/
def Target.ofBinary (mantissa : Nat) (power : Int) (narrowBelow : Bool) : Target :=
  let scale := Nat.pow 2 power.toNat
  let denominator := 4 * Nat.pow 2 (-power).toNat
  { numerator := 4 * mantissa * scale
    denominator
    below := (4 * mantissa - if narrowBelow then 1 else 2) * scale
    above := (4 * mantissa + 2) * scale
    closed := mantissa % 2 = 0 }

/-- Whether `digits · 10 ^ exponent` rounds to the target. -/
def Target.admits (target : Target) (candidate : Decimal) : Bool :=
  let value := candidate.digits * Nat.pow 10 candidate.exponent.toNat * target.denominator
  let scale := Nat.pow 10 (-candidate.exponent).toNat
  if target.closed then
    target.below * scale ≤ value && value ≤ target.above * scale
  else
    target.below * scale < value && value < target.above * scale

/-- The decimal exponent of the target's leading digit, searched upwards from `guess`. -/
def Target.magnitude (target : Target) : Nat → Int → Int
  | 0, guess => guess
  | fuel + 1, guess =>
    let next := guess + 1
    if Nat.pow 10 next.toNat * target.denominator ≤ target.numerator * Nat.pow 10 (-next).toNat then
      target.magnitude fuel next
    else guess

/-- The neighbours of the target on the grid of multiples of `10 ^ exponent`, nearest first. -/
def Target.neighbours (target : Target) (exponent : Int) : List Decimal :=
  let dividend := target.numerator * Nat.pow 10 (-exponent).toNat
  let unit := target.denominator * Nat.pow 10 exponent.toNat
  let low := dividend / unit
  let twiceRest := 2 * (dividend % unit)
  if twiceRest < unit ∨ (twiceRest = unit ∧ low % 2 = 0) then [⟨low, exponent⟩, ⟨low + 1, exponent⟩]
  else [⟨low + 1, exponent⟩, ⟨low, exponent⟩]

/-- Tries grids of one, two, … digits; seventeen always suffice for a double. -/
def Target.shortestFrom (target : Target) (magnitude : Int) : Nat → Nat → Decimal
  | 0, digits =>
    ⟨target.numerator * Nat.pow 10 (digits - 1 : Int).toNat / target.denominator, magnitude⟩
  | fuel + 1, digits =>
    match (target.neighbours (magnitude + 1 - digits)).find? target.admits with
    | some found => found
    | none => target.shortestFrom magnitude fuel (digits + 1)

def normal (fuel : Nat) (decimal : Decimal) : Decimal :=
  match fuel with
  | 0 => decimal
  | fuel + 1 =>
    if decimal.digits ≠ 0 ∧ decimal.digits % 10 = 0 then
      normal fuel ⟨decimal.digits / 10, decimal.exponent + 1⟩
    else decimal

/-- The shortest decimal for a positive `mantissa · 2 ^ power` in the range of doubles. -/
def shortest (mantissa : Nat) (power : Int) (narrowBelow : Bool) : Decimal :=
  let target := Target.ofBinary mantissa power narrowBelow
  let magnitude := target.magnitude 640 (-330)
  (target.shortestFrom magnitude 17 1).normal 20

structure Layout where
  /-- Least exponent of the leading digit that is written with leading zeros. -/
  leastPositional : Int
  /-- First exponent of the leading digit that is written with an exponent. -/
  firstScientific : Int
  /-- Whether an exponent that is not negative has a sign. -/
  signed : Bool := true

def zeros (count : Nat) : String :=
  String.ofList (List.replicate count '0')

/-- Writes a positive decimal; a whole number keeps one zero after its point. -/
def Layout.text (layout : Layout) (decimal : Decimal) : String :=
  let digits := toString decimal.digits
  let lead := decimal.exponent + digits.length - 1
  if lead < layout.leastPositional ∨ layout.firstScientific ≤ lead then
    let chars := digits.toList
    let fraction := String.ofList (chars.drop 1)
    let mantissa := String.ofList (chars.take 1) ++ if fraction.isEmpty then "" else "." ++ fraction
    mantissa ++ (if lead < 0 then "e-" else if layout.signed then "e+" else "e") ++ toString lead.natAbs
  else if 0 ≤ decimal.exponent then
    digits ++ zeros decimal.exponent.toNat ++ ".0"
  else if 0 ≤ lead then
    let chars := digits.toList
    String.ofList (chars.take (lead + 1).toNat) ++ "." ++ String.ofList (chars.drop (lead + 1).toNat)
  else
    "0." ++ zeros (-lead - 1).toNat ++ digits

/-- The text of a finite double given by its bits: the sign, then the shortest decimal. -/
def Layout.textOfBits (layout : Layout) (bits : UInt64) : String :=
  let raw := bits.toNat
  let sign := if raw / 0x8000000000000000 = 1 then "-" else ""
  let biased := raw / 0x10000000000000 % 0x800
  let fraction := raw % 0x10000000000000
  if biased = 0 ∧ fraction = 0 then sign ++ "0.0"
  else
    let mantissa := if biased = 0 then fraction else fraction + 0x10000000000000
    let power : Int := (max biased 1 : Nat) - 1075
    sign ++ layout.text (shortest mantissa power (fraction = 0 ∧ 1 < biased))

end Decimal

end TextScenario
