/-
# Digits

The value of a digit to a base of at most sixteen, in either case, and of a run
of digits.
-/

namespace TemplateSandbox
namespace Text

/-- Whether `c` is a decimal digit. -/
def isDigit (c : Char) : Bool := '0' ≤ c && c ≤ '9'

/-- The value of a digit to base sixteen. -/
def digitValue? (c : Char) : Option Nat :=
  if '0' ≤ c ∧ c ≤ '9' then some (c.toNat - 48)
  else if 'a' ≤ c ∧ c ≤ 'f' then some (c.toNat - 87)
  else if 'A' ≤ c ∧ c ≤ 'F' then some (c.toNat - 55)
  else none

/-- The value of a non-empty run of digits to base `b`. -/
def natOfDigits? (b : Nat) (cs : List Char) : Option Nat :=
  if cs.isEmpty then none
  else cs.foldl (fun sofar c => do
    let n ← sofar
    let d ← digitValue? c
    if d < b then some (b * n + d) else none) (some 0)

example : natOfDigits? 10 ['4', '2'] = some 42 ∧ natOfDigits? 8 ['8'] = none ∧
    natOfDigits? 16 ['f', 'F'] = some 255 := by decide

end Text
end TemplateSandbox
