/-
# Policy documents

A `Document` is a policy as it is written down: member names as they were
spelled, types by the names that a registry knows. `validate` looks at the
document alone; `compile` resolves its types and collects its rules. `accept`
does both and reports a document that passed.

The checks of `validate`, in order: the version; the member names in the lists
of allowed methods, blocked methods, blocked properties and then of each type;
that each listed type blocks something; that strict mode has no legacy lists.
-/

import TemplateSandbox.Rule
import TemplateSandbox.Registry
import TemplateSandbox.Sandbox

namespace TemplateSandbox

/-- Method names by type name: the type names rise strictly, so each occurs once. -/
structure TypeLists where
  /-- The type names with their methods. -/
  entries : List (String × List String)
  /-- The type names rise strictly. -/
  ascending : Ascending Prod.fst entries
  deriving DecidableEq

/-- The lists without any type. -/
def TypeLists.empty : TypeLists := ⟨[], List.Pairwise.nil⟩

/-- The lists with the methods of one type set anew. -/
def TypeLists.insert (t : TypeLists) (type : String) (methods : List String) : TypeLists :=
  ⟨insertByKey Prod.fst (type, methods) t.entries, t.ascending.insertByKey (type, methods)⟩

/-- Lists from entries in any order; of the entries for one type the last counts. -/
def TypeLists.ofList (entries : List (String × List String)) : TypeLists :=
  entries.foldl (fun lists entry => lists.insert entry.1 entry.2) .empty

/-- A policy as it is written down. -/
structure Document where
  /-- The version of the format. -/
  version : Nat
  /-- Which engine decides. -/
  mode : Mode := .strict
  /-- Bundles of rules taken in before the lists. -/
  presets : List Preset := []
  /-- Names of types whose every method is admitted. -/
  trustedTypes : List String := []
  /-- Methods admitted on every value. -/
  allowedMethods : List String := []
  /-- Methods vetoed on every value. -/
  blockedMethods : List String := []
  /-- Methods vetoed on the instances of a type, by the name of the type. -/
  blockedByType : TypeLists := .empty
  /-- Names of types whose every method is vetoed, in legacy mode. -/
  blockedTypes : List String := []
  /-- Properties vetoed on every value, in legacy mode. -/
  blockedProperties : List String := []
  deriving DecidableEq

namespace Document

/-- Every member name of a document as it was spelled, in the order of the checks. -/
def memberNames (d : Document) : List String :=
  d.allowedMethods ++ d.blockedMethods ++ d.blockedProperties ++
    d.blockedByType.entries.flatMap Prod.snd

/-- The first fault of a document that shows without a registry. -/
def fault? (d : Document) : Option Fault :=
  if d.version ≠ 1 then some .badVersion
  else if let some fault := d.memberNames.findSome? NameFault.find? then
    some (.badConfig (.name fault))
  else if let some entry := d.blockedByType.entries.find? fun entry => entry.2.isEmpty then
    some (.badConfig (.nothingBlocked entry.1))
  else if d.mode = .strict ∧ !d.blockedTypes.isEmpty then
    some (.badConfig (.legacyOnly "blocked_types"))
  else if d.mode = .strict ∧ !d.blockedProperties.isEmpty then
    some (.badConfig (.legacyOnly "blocked_properties"))
  else none

/-- Refuses a document with a fault that shows without a registry. -/
def validate (d : Document) : Except Fault Unit :=
  match d.fault? with
  | some fault => .error fault
  | none => .ok ()

/-- The draft after the presets of a document. -/
def withPresets (d : Document) : Draft :=
  d.presets.foldl (fun draft preset => draft.addPreset preset d.mode) {}

/-- Resolves names in order and takes each resolved one into a draft. -/
def resolveInto {α : Type} (r : Registry) (name : α → String) (add : Draft → α → TypeTag → Draft) :
    List α → Draft → Except Fault Draft
  | [], draft => .ok draft
  | a :: rest, draft => do
    let type ← r.resolve (name a)
    resolveInto r name add rest (add draft a type)

/-- The settings that a document stands for. Its types are resolved in the order trusted
types, types with blocked methods, blocked types; the first unknown one ends it. -/
def compile (d : Document) (r : Registry) : Except Fault Settings := do
  let draft := d.withPresets
  let draft ← resolveInto r id (fun draft _ type => draft.trust type) d.trustedTypes draft
  let draft ← resolveInto r Prod.fst (fun draft entry type => draft.blockOn type entry.2)
    d.blockedByType.entries draft
  let draft ← resolveInto r id (fun draft _ type => draft.blockType type) d.blockedTypes draft
  let draft := ((draft.allow d.allowedMethods).block d.blockedMethods).blockProperties
    d.blockedProperties
  let config ← draft.build
  return { mode := d.mode, config }

/-- Validates and compiles a document; success is reported. -/
def accept (d : Document) (r : Registry) : Logged (Except Fault Settings) :=
  match d.validate with
  | .error fault => .silent (.error fault)
  | .ok () =>
    match d.compile r with
    | .error fault => .silent (.error fault)
    | .ok settings =>
      ⟨.ok settings, [.policyLoaded settings.mode d.presets.length d.trustedTypes.length]⟩

end Document
end TemplateSandbox
