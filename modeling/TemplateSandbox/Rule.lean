/-
# Rules

A `Rule` is one call on a draft, as a value. Plural rules and presets stand
for many; `merge` builds the configuration of its own rules first and takes it
in as a whole, so an unfit name inside it makes the merge fail.

`Rule.applyAll` stops at the first merge that fails. `Rule.applyOrKeep` leaves
the draft as it was instead and says why, which is how a host goes on after a
merge that was refused.
-/

import TemplateSandbox.Preset

namespace TemplateSandbox

/-- One call on a draft. -/
inductive Rule where
  /-- Admits every method of a type. -/
  | trust (type : TypeTag)
  /-- Admits methods by name. -/
  | allow (names : List String)
  /-- Vetoes methods by name. -/
  | block (names : List String)
  /-- Vetoes methods of a type by name. -/
  | blockOn (type : TypeTag) (names : List String)
  /-- Vetoes every method of a type, in legacy mode. -/
  | blockType (type : TypeTag)
  /-- Vetoes properties by name, in legacy mode. -/
  | blockProperties (names : List String)
  /-- Takes in a preset. -/
  | preset (p : Preset) (mode : Mode)
  /-- Takes in the configuration that its own rules build. -/
  | merge (rules : List Rule)

namespace Rule

mutual

/-- The draft after a rule; only a merge can fail. -/
def apply : Rule → Draft → Except Fault Draft
  | .trust type, d => .ok (d.trust type)
  | .allow names, d => .ok (d.allow names)
  | .block names, d => .ok (d.block names)
  | .blockOn type names, d => .ok (d.blockOn type names)
  | .blockType type, d => .ok (d.blockType type)
  | .blockProperties names, d => .ok (d.blockProperties names)
  | .preset p mode, d => .ok (d.addPreset p mode)
  | .merge rules, d =>
    match applyAll rules {} with
    | .error fault => .error fault
    | .ok inner =>
      match inner.build with
      | .error fault => .error fault
      | .ok c => .ok (d.merge c)

/-- The draft after some rules, in order; the first merge that fails ends it. -/
def applyAll : List Rule → Draft → Except Fault Draft
  | [], d => .ok d
  | rule :: rest, d =>
    match apply rule d with
    | .error fault => .error fault
    | .ok d => applyAll rest d

end

/-- The configuration that some rules build. -/
def build (rules : List Rule) : Except Fault Configuration :=
  match applyAll rules {} with
  | .error fault => .error fault
  | .ok d => d.build

/-- The draft after a rule, or the same draft and the fault if the rule fails. -/
def applyOrKeep (rule : Rule) (d : Draft) : Draft × Option Fault :=
  match rule.apply d with
  | .ok d => (d, none)
  | .error fault => (d, some fault)

/-- The draft after each rule, with the fault of a rule that failed; such a rule changes nothing. -/
def history : List Rule → Draft → List (Draft × Option Fault)
  | [], _ => []
  | rule :: rest, d =>
    let step := rule.applyOrKeep d
    step :: history rest step.1

end Rule
end TemplateSandbox
