/-
# What a type declares open

A type may declare members that templates are free to call: none of its own
accord, a list of names, or all of them. `Capability.opens` asks a declaration
about one name and builds nothing; `Capability.grant` reads the whole
declaration as a set of folded names, for people and tools.
-/

import TemplateSandbox.NameSet

namespace TemplateSandbox

/-- The declaration of a type. -/
inductive Capability where
  /-- Nothing is declared: the policy decides alone. -/
  | none
  /-- Exactly these members may be called, in any spelling. -/
  | members (names : List String)
  /-- Every member may be called. -/
  | any
  deriving DecidableEq, Inhabited

/-- What a declaration opens, read as a set. -/
inductive Grant where
  /-- No member. -/
  | nothing
  /-- These members, each once, in the order of their texts. -/
  | only (names : List MemberName)
  /-- Every member. -/
  | everything
  deriving DecidableEq

/-- Whether a grant alone lets `n` be called. -/
def Grant.covers : Grant → MemberName → Bool
  | .nothing, _ => false
  | .only names, n => names.contains n
  | .everything, _ => true

namespace Capability

/-- The set of members that a declaration opens. -/
def grant : Capability → Grant
  | .none => .nothing
  | .members names => .only (MemberName.setOf names)
  | .any => .everything

/-- Whether a declaration opens `n`: one pass over the declared spellings. -/
def opens : Capability → MemberName → Bool
  | .none, _ => false
  | .members names, n => names.any fun raw => MemberName.spells raw n
  | .any, _ => true

end Capability
end TemplateSandbox
