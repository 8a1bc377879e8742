/-
# Binary numbers of 64 bits

The magnitudes of the binary64 format, as exact integers: a `Binary64` is
`mantissa · 2 ^ exponent`. `round?` takes a fraction to the nearest magnitude,
a tie going to the even mantissa; there is none when the fraction rounds past
the largest finite number. Products and quotients are exact results rounded
once, and so is the reading of a decimal.

| | |
| --- | --- |
| mantissa | below `2 ^ 53`; from `2 ^ 52` on unless the exponent is the least one |
| exponent | from `-1074` to `971` |
-/

import TemplateSandbox.Number.Power

namespace TemplateSandbox

/-- A magnitude `mantissa · 2 ^ exponent`. -/
structure Binary64 where
  /-- The mantissa. -/
  mantissa : Nat
  /-- The exponent to base two. -/
  exponent : Int
  deriving DecidableEq, Repr

namespace Binary64

/-- The least exponent. -/
def leastExponent : Int := -1074

/-- The greatest exponent. -/
def greatestExponent : Int := 971

/-- Zero. -/
def zero : Binary64 := ⟨0, leastExponent⟩

/-- The fraction `num / den · 2 ^ q` with the power of two moved to one side. -/
def scale (num den : Nat) (q : Int) : Nat × Nat :=
  if q < 0 then (num, den * twoTo q.natAbs) else (num * twoTo q.natAbs, den)

/-- The power of two at or below `num / den`, for a positive fraction. -/
def floorLog2 (num den : Nat) : Int :=
  let guess := (num.log2 : Int) - den.log2
  let (n, d) := scale num den (-guess)
  if d ≤ n then guess else guess - 1

/-- `num / den` to the nearest integer, a tie going to the even one. -/
def roundToEven (num den : Nat) : Nat :=
  let low := num / den
  let rest := num % den
  if 2 * rest < den then low
  else if den < 2 * rest then low + 1
  else low + low % 2

/-- The magnitude nearest to `num / den`, unless that is past the largest one. -/
def round? (num den : Nat) : Option Binary64 :=
  if num = 0 then some zero
  else
    let q := max (floorLog2 num den - 52) leastExponent
    let (n, d) := scale num den (-q)
    let m := roundToEven n d
    let x : Binary64 := if m = twoTo 53 then ⟨twoTo 52, q + 1⟩ else ⟨m, q⟩
    if greatestExponent < x.exponent then none else some x

/-- The magnitude as a fraction. -/
def ratio (x : Binary64) : Nat × Nat := scale x.mantissa 1 x.exponent

/-- Whether the magnitude is zero. -/
def isZero (x : Binary64) : Bool := x.mantissa == 0

/-- The product, rounded. -/
def mul? (x y : Binary64) : Option Binary64 :=
  round? (x.ratio.1 * y.ratio.1) (x.ratio.2 * y.ratio.2)

/-- The quotient, rounded. -/
def div? (x y : Binary64) : Option Binary64 :=
  round? (x.ratio.1 * y.ratio.2) (x.ratio.2 * y.ratio.1)

/-- The magnitude nearest to a natural number. -/
def ofNat? (n : Nat) : Option Binary64 := round? n 1

/-- The magnitude nearest to `digits · 10 ^ exponent`. Exponents far outside the range of the
format are answered without computing the power. -/
def ofDecimal? (digits : Nat) (exponent : Int) : Option Binary64 :=
  let size : Int := (Nat.toDigits 10 digits).length + exponent
  if digits = 0 || size < -400 then some zero
  else if 400 < size then none
  else if exponent < 0 then round? digits (tenTo exponent.natAbs)
  else round? (digits * tenTo exponent.natAbs) 1

/-- One tenth is not a binary fraction: it is rounded up in the last place. -/
example : ofDecimal? 1 (-1) = some ⟨7205759403792794, -56⟩ := by decide +kernel

/-- The least and the greatest positive magnitude. -/
example : ofDecimal? 5 (-324) = some ⟨1, -1074⟩ ∧
    ofDecimal? 17976931348623157 292 = some ⟨twoTo 53 - 1, 971⟩ ∧
    ofDecimal? 18 307 = none := by decide +kernel

end Binary64
end TemplateSandbox
