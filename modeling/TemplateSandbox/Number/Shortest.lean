/-
# The shortest decimal of a binary number

A binary magnitude is shown with as few digits as will read back as the same
number. The reals that round to it form an interval around it; its ends belong
to it when the mantissa is even. For one digit, two digits and so on, the two
neighbours of the number on the grid of decimals with so many digits are tried,
and the first grid with a hit wins. Of two hits the nearer one is taken; which
of two equally near ones, and where a power of ten is written out, is for a
`Layout` to say.
-/

import TemplateSandbox.Number.Binary64

namespace TemplateSandbox

/-- How a decimal is laid out. -/
structure Layout where
  /-- Whether a number whose first digit has this power of ten is written without an exponent. -/
  positional : Int → Bool
  /-- Whether the upper one of two equally near decimals is taken, rather than the even one. -/
  tieUp : Bool

namespace Binary64

/-- Four times the mantissa, and the distances to the ends of the interval that rounds to the
number, in quarters of a unit in the last place. Just above a power of two the numbers below
are twice as close. -/
def interval (x : Binary64) : Nat × Nat × Nat :=
  (4 * x.mantissa, if x.mantissa = twoTo 52 ∧ leastExponent < x.exponent then 1 else 2, 2)

/-- Whether `digits · 10 ^ power` reads back as the number. -/
def readsBack (x : Binary64) (digits : Nat) (power : Int) : Bool :=
  let (m, down, up) := x.interval
  let tens : Nat × Nat := if power < 0 then (1, tenTo power.natAbs) else (tenTo power.natAbs, 1)
  let (num, den) := scale (digits * tens.1) tens.2 (2 - x.exponent)
  if x.mantissa % 2 = 0 then (m - down) * den ≤ num && num ≤ (m + up) * den
  else (m - down) * den < num && num < (m + up) * den

/-- The power of ten at or below a fraction of at least one, which is below `10 ^ fuel`. -/
def floorLog10Up : Nat → Nat → Nat → Nat
  | 0, _, _ => 0
  | fuel + 1, num, den => if num < 10 * den then 0 else 1 + floorLog10Up fuel num (10 * den)

/-- How often a fraction below one has to be taken tenfold to reach one, at most `fuel` times. -/
def floorLog10Down : Nat → Nat → Nat → Nat
  | 0, _, _ => 0
  | fuel + 1, num, den => if den ≤ num then 0 else 1 + floorLog10Down fuel (10 * num) den

/-- The power of ten at or below a positive magnitude. -/
def floorLog10 (x : Binary64) : Int :=
  let (num, den) := x.ratio
  if den ≤ num then floorLog10Up 310 num den else -(floorLog10Down 330 num den : Int)

/-- The decimal with its last digit at `10 ^ power` that reads back and is nearest, if one does. -/
def nearestOnGrid? (tieUp : Bool) (x : Binary64) (power : Int) : Option Nat :=
  let (num, den) := x.ratio
  let (num, den) :=
    if power < 0 then (num * tenTo power.natAbs, den) else (num, den * tenTo power.natAbs)
  let low := num / den
  let rest := num % den
  match x.readsBack low power, x.readsBack (low + 1) power with
  | false, false => none
  | true, false => some low
  | false, true => some (low + 1)
  | true, true =>
    if 2 * rest < den then some low
    else if den < 2 * rest then some (low + 1)
    else if tieUp || low % 2 = 1 then some (low + 1)
    else some low

/-- Tries grids of `n`, `n + 1`, … digits, `fuel` of them. -/
def shortestFrom (tieUp : Bool) (x : Binary64) (first : Int) : Nat → Nat → Nat × Int
  | _, 0 => (x.mantissa, x.exponent)
  | n, fuel + 1 =>
    match nearestOnGrid? tieUp x (first + 1 - n) with
    | some digits => (digits, first + 1 - n)
    | none => shortestFrom tieUp x first (n + 1) fuel

/-- Moves the zeros at the end of a number into its power of ten, at most `fuel` of them. -/
def dropZeros : Nat → Nat × Int → Nat × Int
  | 0, d => d
  | fuel + 1, (digits, power) =>
    if digits % 10 = 0 then dropZeros fuel (digits / 10, power + 1) else (digits, power)

/-- The digits and the power of ten of the shortest decimal; seventeen digits always suffice. -/
def shortest (tieUp : Bool) (x : Binary64) : Nat × Int :=
  dropZeros 17 (shortestFrom tieUp x x.floorLog10 1 17)

/-- A list of `n` zeros. -/
def zeros (n : Nat) : List Char := List.replicate n '0'

/-- Digits written out around a decimal point; `first` is the power of ten of the first digit. -/
def writePositional (digits : List Char) (first : Int) : List Char :=
  if first < 0 then '0' :: '.' :: (zeros (first.natAbs - 1) ++ digits)
  else
    let whole := first.natAbs + 1
    if digits.length ≤ whole then digits ++ zeros (whole - digits.length) ++ ['.', '0']
    else digits.take whole ++ '.' :: digits.drop whole

/-- Digits written with one of them before the point and a signed power of ten. -/
def writeExponent (digits : List Char) (first : Int) : List Char :=
  let point := match digits with
    | d :: [] => [d]
    | d :: rest => d :: '.' :: rest
    | [] => []
  point ++ 'e' :: (if first < 0 then '-' else '+') :: Nat.toDigits 10 first.natAbs

/-- A magnitude in writing. -/
def write (l : Layout) (x : Binary64) : String :=
  if x.isZero then "0.0"
  else
    let (n, power) := x.shortest l.tieUp
    let digits := Nat.toDigits 10 n
    let first := power + digits.length - 1
    String.ofList (if l.positional first then writePositional digits first
      else writeExponent digits first)

/-- A signed magnitude in writing; zero keeps its sign. -/
def writeSigned (l : Layout) (negative : Bool) (x : Binary64) : String :=
  (if negative then "-" else "") ++ x.write l

end Binary64
end TemplateSandbox
