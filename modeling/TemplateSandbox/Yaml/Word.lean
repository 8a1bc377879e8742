/-
# Words that mean a value

A plain scalar may mean nothing, a truth value, an integer or a number with a
fraction; else it is a text. The rules are tried in this order.

| meaning | spellings |
| --- | --- |
| nothing | the empty text, `~`, `null`, `Null`, `NULL` |
| a truth value | `true`, `True`, `TRUE`, `false`, `False`, `FALSE` |
| an integer | decimal; `0x`, `0o`, `0b` and digits; one sign before it |
| a number | digits with a point, an exponent or both; `.inf`, `.nan` and their capitals |

Digits after a leading zero are a text. Integers have at most 128 bits; a number
that is too large for binary64 is a text.
-/

import TemplateSandbox.Number.Shortest
import TemplateSandbox.Text.Digits

namespace TemplateSandbox
namespace Yaml

/-- Whether a text is one of the words for nothing. -/
def isNull (s : String) : Bool := s == "~" || s == "null" || s == "Null" || s == "NULL"

/-- The truth value that a text means. -/
def boolean? (s : String) : Option Bool :=
  if s == "true" || s == "True" || s == "TRUE" then some true
  else if s == "false" || s == "False" || s == "FALSE" then some false
  else none

/-- Whether `c` is a sign. -/
def isSign (c : Char) : Bool := c == '+' || c == '-'

/-- A text without the sign `c` before it, if it has one. -/
def dropSign (c : Char) (s : List Char) : List Char := if s.head? == some c then s.tail else s

/-- Whether a text is digits after a leading zero, with or without a sign. -/
def isZeroPadded (s : List Char) : Bool :=
  match (if s.head?.any isSign then s.tail else s) with
  | '0' :: d :: rest => (d :: rest).all Text.isDigit
  | _ => false

/-- The digits of a number that starts with the mark of its base. -/
def basedDigits? : List Char → Option (Nat × List Char)
  | '0' :: 'x' :: rest => some (16, rest)
  | '0' :: 'o' :: rest => some (8, rest)
  | '0' :: 'b' :: rest => some (2, rest)
  | _ => none

/-- The natural number that a text means. -/
def natural? (s : List Char) : Option Nat :=
  let body := dropSign '+' s
  match (basedDigits? body).bind fun (base, ds) => Text.natOfDigits? base ds with
  | some n => some n
  | none => if isZeroPadded s then none else Text.natOfDigits? 10 body

/-- The magnitude of the negative integer that a text means; zero may have the sign too. -/
def negative? : List Char → Option Nat
  | '-' :: body =>
    match (basedDigits? body).bind fun (base, ds) => Text.natOfDigits? base ds with
    | some n => some n
    | none => if isZeroPadded ('-' :: body) then none else Text.natOfDigits? 10 body
  | _ => none

/-- The integer that a text means: up to 64 bits without or with a sign first, then up to 128. -/
def integer? (s : List Char) : Option Int :=
  match natural? s, negative? s with
  | some n, _ => if n < twoTo 128 then some n else none
  | none, some n => if n ≤ twoTo 127 then some (-(n : Int)) else none
  | none, none => none

/-- A number in digits, taken apart: the digits around the point, and the power of ten. -/
def decimal? (s : List Char) : Option (Nat × Int) :=
  let whole := s.takeWhile Text.isDigit
  let s := s.drop whole.length
  let point := s.head? == some '.'
  let s := if point then s.tail else s
  let fraction := if point then s.takeWhile Text.isDigit else []
  let s := s.drop fraction.length
  (Text.natOfDigits? 10 (whole ++ fraction)).bind fun digits =>
    match s with
    | [] => some (digits, -(fraction.length : Int))
    | e :: s =>
      if e != 'e' && e != 'E' then none
      else
        (Text.natOfDigits? 10 (if s.head?.any isSign then s.tail else s)).map fun power =>
          (digits, (if s.head? == some '-' then -(power : Int) else power) - fraction.length)

/-- Numbers are written without an exponent, and of two equally near decimals the upper one is
taken. -/
def layout : Layout := ⟨fun _ => true, true⟩

/-- The writing of the finite number that a text means. -/
def finite? (s : List Char) : Option String :=
  let minus := s.head? == some '-'
  (decimal? (if minus then s.tail else s)).bind fun (digits, power) =>
    (Binary64.ofDecimal? digits power).map fun x => x.writeSigned layout minus

/-- The writing of the number that a text means. -/
def float? (s : List Char) : Option String :=
  let infinity (s : List Char) : Bool := [".inf", ".Inf", ".INF"].any fun w => w.toList == s
  if s.head? == some '+' && s.tail.head?.any isSign then none
  else
    let body := dropSign '+' s
    if infinity body then some "inf"
    else if s.head? == some '-' && infinity s.tail then some "-inf"
    else if [".nan", ".NaN", ".NAN"].any fun w => w.toList == s then some "NaN"
    else finite? body

end Yaml
end TemplateSandbox
