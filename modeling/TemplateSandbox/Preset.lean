/-
# Presets

Bundles of rules that a policy takes in by name. `cms` is the one for content
management systems: it admits what renders a value as text, and vetoes magic
dispatch, extension at run time, events, the internals of the template engine
and whatever writes to a database. Its rules for properties are taken in only
for the legacy mode, the one that knows such rules.
-/

import TemplateSandbox.Draft
import TemplateSandbox.Access

namespace TemplateSandbox

/-- A named bundle of rules. -/
inductive Preset where
  /-- The bundle for content management systems. -/
  | cms
  deriving DecidableEq

namespace Preset

/-- The name of a preset in policies. -/
def label : Preset → String
  | .cms => "cms"

/-- Methods that a preset admits: those that render a value as text. -/
def allowed : Preset → List String
  | .cms => ["__toString", "toHtml"]

/-- Methods that a preset vetoes. -/
def blocked : Preset → List String
  | .cms =>
    -- magic dispatch
    ["__call", "__callStatic", "__get", "__set", "__isset", "__unset", "__invoke",
     -- extension at run time
     "addDynamicMethod", "addDynamicProperty", "extend", "extendClassWith", "implementClassWith",
     "getClassMethods",
     -- events
     "bindEvent", "bindEventOnce", "unbindEvent", "fireEvent",
     -- the template engine itself
     "getTwig", "setTwig", "getLoader", "setLoader",
     -- storage and change
     "insert", "update", "delete", "forceDelete", "save", "saveQuietly", "push", "truncate",
     "fill", "forceFill", "write", "put", "setAttribute"]

/-- Properties that a preset vetoes. -/
def blockedProperties : Preset → List String
  | .cms => ["password", "persist_code", "reset_password_code", "activation_code"]

/-- No preset vetoes a method that it admits. -/
theorem allowed_disjoint_blocked (p : Preset) :
    ∀ a ∈ p.allowed, ∀ b ∈ p.blocked, MemberName.fold a ≠ MemberName.fold b := by
  cases p
  decide +kernel

end Preset

/-- Takes in the rules of a preset for a mode. -/
def Draft.addPreset (d : Draft) (p : Preset) (mode : Mode) : Draft :=
  let d := (d.allow p.allowed).block p.blocked
  match mode with
  | .legacy => d.blockProperties p.blockedProperties
  | .strict => d

end TemplateSandbox
