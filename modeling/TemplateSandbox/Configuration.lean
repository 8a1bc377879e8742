/-
# Configurations

A `Configuration` is what a policy decides by: five sets, kept as lists without
repetition and only ever asked for membership, and a map from types to sets of
names. A question about a value goes through its lineage (`Target.lineage`), so a
rule for a type holds for every instance of it.

| set or map | holds |
| --- | --- |
| `trusted` | types whose every method is admitted |
| `allowed` | names admitted on every value |
| `blocked` | names vetoed on every value |
| `blockedFor` | names vetoed on instances of a type |
| `blockedTypes` | types whose every method is vetoed, in legacy mode |
| `blockedProperties` | properties vetoed on every value, in legacy mode |
-/

import TemplateSandbox.NamesByType
import TemplateSandbox.Target

namespace TemplateSandbox

/-- The rules that a policy decides by. -/
structure Configuration where
  /-- Types whose every method is admitted. -/
  trusted : List TypeTag := []
  /-- Names admitted on every value. -/
  allowed : List MemberName := []
  /-- Names vetoed on every value. -/
  blocked : List MemberName := []
  /-- Names vetoed on the instances of a type. -/
  blockedFor : NamesByType := .empty
  /-- Types whose every method is vetoed, in legacy mode. -/
  blockedTypes : List TypeTag := []
  /-- Properties vetoed on every value, in legacy mode. -/
  blockedProperties : List MemberName := []

namespace Configuration

/-- The configuration without any rule. -/
def empty : Configuration := {}

instance : Inhabited Configuration := ⟨empty⟩

/-- Whether the value is an instance of a trusted type. -/
def trusts (c : Configuration) (t : Target) : Bool := t.lineage.any c.trusted.contains

/-- Whether the value is an instance of a type on which `n` is blocked. -/
def blocksOn (c : Configuration) (t : Target) (n : MemberName) : Bool :=
  t.lineage.any fun k => c.blockedFor.lists k n

/-- Whether the value is an instance of a type whose every method is blocked. -/
def blocksType (c : Configuration) (t : Target) : Bool := t.lineage.any c.blockedTypes.contains

/-- Whether `n` is admitted on every value. -/
def allows (c : Configuration) (n : MemberName) : Bool := c.allowed.contains n

/-- Whether `n` is vetoed on every value. -/
def blocks (c : Configuration) (n : MemberName) : Bool := c.blocked.contains n

/-- Whether the property `n` is vetoed on every value. -/
def blocksProperty (c : Configuration) (n : MemberName) : Bool := c.blockedProperties.contains n

/-- Whether there is a rule that only the legacy mode knows. -/
def hasLegacyRules (c : Configuration) : Bool :=
  !c.blockedTypes.isEmpty || !c.blockedProperties.isEmpty

/-- Every member name that occurs, set by set. -/
def memberNames (c : Configuration) : List MemberName :=
  c.allowed ++ c.blocked ++ c.blockedProperties ++ c.blockedFor.all

/-- The names of some types, by code point; two types of one name give it twice. -/
def sortedTypeNames (types : List TypeTag) : List String :=
  (types.map TypeTag.name).mergeSort (fun a b => decide (a ≤ b))

/-- The texts of some names, by code point, each once. -/
def sortedTexts (names : List MemberName) : List String :=
  (sortByKey MemberName.text names).map MemberName.text

end Configuration
end TemplateSandbox
