/-
# Powers of two and of ten

The scales of the number formats: words and mantissas go by powers of two,
decimals by powers of ten. They have names of their own, so that a bound on a
number reads the same in every module.
-/

namespace TemplateSandbox

/-- The number of values of `n` bits: two to the power `n`. -/
def twoTo (n : Nat) : Nat := Nat.pow 2 n

/-- Ten to the power `n`. -/
def tenTo (n : Nat) : Nat := Nat.pow 10 n

end TemplateSandbox
