/-
# The types a policy may name

A `Registry` gives types to the names that a policy text may mention. Names are
taken exactly as written. Registering a name again gives it the new type, and
is reported when the new type is not the old one.
-/

import TemplateSandbox.Event

namespace TemplateSandbox

/-- The registered names, each once, with their types. -/
structure Registry where
  /-- The entries, in the order in which the names first came up. -/
  entries : List (String × TypeTag) := []

namespace Registry

/-- The type registered under `name`. -/
def find? (r : Registry) (name : String) : Option TypeTag :=
  (r.entries.find? fun entry => entry.1 == name).map Prod.snd

/-- The type registered under `name`, or the fault of a name that is not registered. -/
def resolve (r : Registry) (name : String) : Except Fault TypeTag :=
  match r.find? name with
  | some type => .ok type
  | none => .error (.unknownType name)

/-- How many names are registered. -/
def size (r : Registry) : Nat := r.entries.length

/-- Whether no name is registered. -/
def isEmpty (r : Registry) : Bool := r.entries.isEmpty

/-- Gives `name` a type, in its old place if it has one and else at the end. -/
def put (name : String) (type : TypeTag) : List (String × TypeTag) → List (String × TypeTag)
  | [] => [(name, type)]
  | entry :: rest =>
    if entry.1 == name then (name, type) :: rest else entry :: put name type rest

/-- Registers a type under a name, and reports when another type loses it. -/
def register (r : Registry) (name : String) (type : TypeTag) : Logged Registry where
  value := ⟨put name type r.entries⟩
  events :=
    match r.find? name with
    | some previous => if previous == type then [] else [.typeReplaced name previous type]
    | none => []

/-- Registers some types in order. -/
def registerAll (entries : List (String × TypeTag)) (r : Registry) : Logged Registry :=
  entries.foldl (fun sofar entry => sofar.andThen fun r => r.register entry.1 entry.2) (.silent r)

/-- Registering changes what is found under the one name and nothing else. -/
theorem find?_put (name : String) (type : TypeTag) (entries : List (String × TypeTag))
    (other : String) :
    find? ⟨put name type entries⟩ other =
      if other = name then some type else find? ⟨entries⟩ other := by
  unfold find?
  induction entries with
  | nil =>
    by_cases h : other = name
    · simp [put, h]
    · simp [put, h, Ne.symm h]
  | cons entry rest ih =>
    unfold put
    by_cases hentry : entry.1 = name
    · by_cases h : other = name
      · simp [hentry, h]
      · simp [hentry, h, Ne.symm h]
    · by_cases hother : entry.1 = other
      · have : ¬other = name := fun h => hentry (hother.trans h)
        simp [hother, this]
      · simpa [hentry, hother] using ih

end Registry
end TemplateSandbox
