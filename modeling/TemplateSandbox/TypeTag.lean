/-
# Types and their names

A type is known by a `TypeTag`: an identity, which alone is compared, and the
path shown to people. Two types may share a name and stay different, and one
identity may be written with different paths and stay the same.

The name of a type is the last segment of its path (`shortName`). A path with
type arguments and an interface (`dyn …`) keep the whole path: their `::` may
stand inside an argument.
-/

namespace TemplateSandbox

/-- What follows the last `::`, if there is one. -/
def afterLastSeparator? : List Char → Option (List Char)
  | [] => none
  | c :: rest =>
    match afterLastSeparator? rest with
    | some tail => some tail
    | none =>
      match c, rest with
      | ':', ':' :: tail => some tail
      | _, _ => none

/-- The name shown for a type with the given path. -/
def shortName (path : String) : String :=
  if '<' ∈ path.toList || ['d', 'y', 'n', ' '].isPrefixOf path.toList then path
  else match afterLastSeparator? path.toList with
    | some tail => String.ofList tail
    | none => path

/-- A type: its identity and its path. -/
structure TypeTag where
  /-- The identity, the only part that is ever compared. -/
  id : Nat
  /-- The path, which is shown and never compared. -/
  path : String

namespace TypeTag

instance : BEq TypeTag := ⟨fun a b => a.id == b.id⟩

theorem beq_iff {a b : TypeTag} : (a == b) = true ↔ a.id = b.id := by
  show (a.id == b.id) = true ↔ _
  simp

instance : EquivBEq TypeTag where
  symm := fun h => beq_iff.2 (beq_iff.1 h).symm
  trans := fun h₁ h₂ => beq_iff.2 ((beq_iff.1 h₁).trans (beq_iff.1 h₂))
  rfl := beq_iff.2 rfl

/-- The name of a type in messages and events. -/
def name (t : TypeTag) : String := shortName t.path

/-- A type as it is shown to people. -/
def describe (t : TypeTag) : String := "TypeKey(" ++ t.name ++ ")"

/-- Rendered output that is already safe to print. -/
def markup : TypeTag := ⟨0, "Markup"⟩

/-- A template that has been compiled. -/
def compiledTemplate : TypeTag := ⟨1, "CompiledTemplate"⟩

end TypeTag
end TemplateSandbox
