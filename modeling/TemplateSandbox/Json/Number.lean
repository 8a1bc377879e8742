/-
# Numbers in JSON

A number is a natural number or a negative integer while it is written without
fraction and exponent and fits in 64 bits; any other number, `-0` among them,
is a binary64. A number that is too large for that is no number at all.

The significand is taken digit by digit as long as it fits in 64 bits. Digits
before the point that no longer fit count as a power of ten; the first one
after the point that does not fit ends the significand. The power of ten is
then applied in one rounded multiplication or division, or in steps of
`10 ^ 308` for very small numbers.
-/

import TemplateSandbox.Number.Binary64
import TemplateSandbox.Text.Digits

namespace TemplateSandbox
namespace Json

/-- A number. -/
inductive Number where
  /-- A natural number of at most 64 bits. -/
  | natural (n : Nat)
  /-- The negative of a positive number, of at most 64 bits with its sign. -/
  | negative (n : Nat)
  /-- A binary64 with its sign. -/
  | float (negative : Bool) (x : Binary64)
  deriving DecidableEq

namespace Number

/-- A number in writing, taken apart. -/
structure Literal where
  /-- Whether it has a minus sign. -/
  minus : Bool
  /-- The digits before the point. -/
  whole : List Char
  /-- The digits after the point. -/
  fraction : List Char
  /-- The power of ten: whether it has a minus sign, and its digits. -/
  power : Option (Bool × List Char)
  deriving DecidableEq

/-- Takes digits into a significand while it stays below `2 ^ 64`; the significand and how
many digits it took. -/
def absorb (significand : Nat) : List Char → Nat × Nat
  | [] => (significand, 0)
  | c :: rest =>
    let next := significand * 10 + (c.toNat - 48)
    if next < twoTo 64 then
      let r := absorb next rest
      (r.1, r.2 + 1)
    else (significand, 0)

/-- Divides by `10 ^ 308` while the power of ten is below `-308`, at most `fuel` times, and
by what is left of the power in the end. -/
def scaleDown : Nat → Binary64 → Int → Binary64
  | 0, _, _ => .zero
  | fuel + 1, x, power =>
    if x.isZero then .zero
    else if -308 ≤ power then
      ((Binary64.ofDecimal? 1 (-power)).bind x.div?).getD .zero
    else
      ((Binary64.ofDecimal? 1 308).bind x.div?).elim .zero fun y =>
        scaleDown fuel y (power + 308)

/-- The binary64 of a significand below `2 ^ 64` and a power of ten. Three divisions take
every such significand to zero. -/
def assemble? (significand : Nat) (power : Int) : Option Binary64 := do
  let x ← Binary64.ofNat? significand
  if x.isZero then some .zero
  else if 308 < power then none
  else if 0 ≤ power then x.mul? (← Binary64.ofDecimal? 1 power)
  else some (scaleDown 4 x power)

/-- Whether an integer with this significand fits in 64 bits, with its sign. -/
def fits (minus : Bool) (significand : Nat) : Bool :=
  !minus || (1 ≤ significand && significand ≤ twoTo 63)

/-- A power of ten that takes every significand to zero. -/
def farDown : Int := -1000

/-- The number that a literal stands for. -/
def ofLiteral? (l : Literal) : Option Number :=
  let (significand, taken) := absorb 0 l.whole
  let dropped := l.whole.length - taken
  if dropped = 0 && l.fraction.isEmpty && l.power.isNone && fits l.minus significand then
    some (if l.minus then .negative significand else .natural significand)
  else
    let (significand, taken) := absorb significand l.fraction
    let start : Int := (dropped : Int) - taken
    let applied? : Option Int := match l.power with
      | none => some start
      | some (down, ds) =>
        let step := (Text.natOfDigits? 10 ds).getD 0
        if step < twoTo 31 then some (if down then start - step else start + step)
        else if significand = 0 || down then some farDown
        else none
    applied?.bind fun power => (assemble? significand power).map fun x => .float l.minus x

/-- The digits at the front of a text, and the rest. -/
def digits (s : List Char) : List Char × List Char :=
  (s.takeWhile Text.isDigit, s.dropWhile Text.isDigit)

/-- The fraction at the front of a text, if a point starts one; a point needs a digit. -/
def fraction? : List Char → Option (List Char × List Char)
  | '.' :: rest =>
    let (ds, rest) := digits rest
    if ds.isEmpty then none else some (ds, rest)
  | s => some ([], s)

/-- The power of ten after its letter; it needs a digit. -/
def powerDigits? (down : Bool) (s : List Char) :
    Option (Option (Bool × List Char) × List Char) :=
  let (ds, rest) := digits s
  if ds.isEmpty then none else some (some (down, ds), rest)

/-- The power of ten at the front of a text, if a letter starts one. -/
def power? : List Char → Option (Option (Bool × List Char) × List Char)
  | 'e' :: '+' :: rest | 'E' :: '+' :: rest => powerDigits? false rest
  | 'e' :: '-' :: rest | 'E' :: '-' :: rest => powerDigits? true rest
  | 'e' :: rest | 'E' :: rest => powerDigits? false rest
  | s => some (none, s)

/-- The literal at the front of a text, and the rest. A zero before the point stands alone. -/
def literal? (s : List Char) : Option (Literal × List Char) :=
  let minus := s.head? == some '-'
  let (whole, s) := digits (if minus then s.tail else s)
  if whole.isEmpty || (whole.head? == some '0' && 1 < whole.length) then none
  else
    (fraction? s).bind fun (fraction, s) =>
      (power? s).map fun (power, s) => (⟨minus, whole, fraction, power⟩, s)

/-- The number at the front of a text, and the rest. -/
def read? (s : List Char) : Option (Number × List Char) :=
  (literal? s).bind fun (l, rest) => (ofLiteral? l).map fun n => (n, rest)

end Number
end Json
end TemplateSandbox
