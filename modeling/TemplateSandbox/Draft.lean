/-
# Drafts of configurations

A `Draft` collects rules; names are folded as they come in. `Draft.build` ends
it: it refuses a draft that holds an unfit name and otherwise gives the
configuration with every rule that was collected. Adding a rule never removes
another one: sets grow (`contains_insertAll`), and so does the entry of each type
(`NamesByType.find?_add`).
-/

import TemplateSandbox.Configuration
import TemplateSandbox.Fault

namespace TemplateSandbox

/-- Rules on their way to a configuration. -/
structure Draft where
  /-- What the rules given so far amount to. -/
  soFar : Configuration := .empty

namespace Draft

/-- Admits every method of the instances of `k`. -/
def trust (d : Draft) (k : TypeTag) : Draft :=
  ⟨{ d.soFar with trusted := d.soFar.trusted.insert k }⟩

/-- Admits methods by name, on every value. -/
def allow (d : Draft) (names : List String) : Draft :=
  ⟨{ d.soFar with allowed := insertAll (names.map .fold) d.soFar.allowed }⟩

/-- Vetoes methods by name, on every value. -/
def block (d : Draft) (names : List String) : Draft :=
  ⟨{ d.soFar with blocked := insertAll (names.map .fold) d.soFar.blocked }⟩

/-- Vetoes methods by name on the instances of `k`, even if these are trusted; without names, `k`
is left with an entry that vetoes nothing. -/
def blockOn (d : Draft) (k : TypeTag) (names : List String) : Draft :=
  ⟨{ d.soFar with blockedFor := d.soFar.blockedFor.add k (names.map .fold) }⟩

/-- Vetoes every method of the instances of `k`, in legacy mode. -/
def blockType (d : Draft) (k : TypeTag) : Draft :=
  ⟨{ d.soFar with blockedTypes := d.soFar.blockedTypes.insert k }⟩

/-- Vetoes properties by name, in legacy mode. -/
def blockProperties (d : Draft) (names : List String) : Draft :=
  ⟨{ d.soFar with
      blockedProperties := insertAll (names.map .fold) d.soFar.blockedProperties }⟩

/-- Takes in every rule of a finished configuration. -/
def merge (d : Draft) (c : Configuration) : Draft :=
  ⟨{ trusted := insertAll c.trusted d.soFar.trusted
     allowed := insertAll c.allowed d.soFar.allowed
     blocked := insertAll c.blocked d.soFar.blocked
     blockedFor := d.soFar.blockedFor.union c.blockedFor
     blockedTypes := insertAll c.blockedTypes d.soFar.blockedTypes
     blockedProperties := insertAll c.blockedProperties d.soFar.blockedProperties }⟩

/-- The configuration of a draft, or the fault of a name that is unfit. -/
def build (d : Draft) : Except Fault Configuration :=
  match d.soFar.memberNames.findSome? fun n => NameFault.find? n.text with
  | some fault => .error (.badConfig (.name fault))
  | none => .ok d.soFar

/-- Building leaves the rules as they were given. -/
theorem eq_soFar_of_build {d : Draft} {c : Configuration} (h : d.build = .ok c) : c = d.soFar := by
  unfold build at h
  split at h <;> simp_all

end Draft
end TemplateSandbox
