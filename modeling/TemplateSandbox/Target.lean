/-
# The values that templates reach

A `Target` is what a policy may know of a value: its concrete type, the
further types it counts as an instance of, and what its type declares open.
The lineage is taken as declared; it is not followed any further.

Rendered output (`Markup`) and compiled templates belong to the template
engine itself. `Target.engineOwned` looks at the concrete type alone, so a
value cannot pass for one of them by declaring it in its lineage.
-/

import TemplateSandbox.TypeTag
import TemplateSandbox.Capability

namespace TemplateSandbox

/-- A value as a policy sees it. -/
structure Target where
  /-- The concrete type. -/
  type : TypeTag
  /-- The types the value is an instance of besides its own. -/
  conformsTo : List TypeTag := []
  /-- What its type declares open. -/
  capability : Capability := .none

namespace Target

/-- The concrete type, then the declared ones. -/
def lineage (t : Target) : List TypeTag := t.type :: t.conformsTo

/-- Whether the value is an instance of `k`, by its concrete type or a declared one. -/
def isInstance (t : Target) (k : TypeTag) : Bool :=
  t.type == k || t.conformsTo.any (· == k)

/-- Whether the value belongs to the template engine. -/
def engineOwned (t : Target) : Bool :=
  t.type == TypeTag.markup || t.type == TypeTag.compiledTemplate

/-- Being an instance is having an equal type somewhere in the lineage. -/
theorem isInstance_eq_any_lineage (t : Target) (k : TypeTag) :
    t.isInstance k = t.lineage.any (· == k) := rfl

end Target

/-- Rendered output that is already safe to print. -/
structure Markup where
  /-- The text to print. -/
  html : String
  deriving DecidableEq

/-- A compiled template that templates may include. -/
structure CompiledTemplate where
  /-- The name it was compiled under. -/
  name : String
  deriving DecidableEq

/-- Rendered output as a value: no lineage and no declaration. -/
def Markup.toTarget (_ : Markup) : Target := { type := .markup }

/-- A compiled template as a value: no lineage and no declaration. -/
def CompiledTemplate.toTarget (_ : CompiledTemplate) : Target := { type := .compiledTemplate }

end TemplateSandbox
