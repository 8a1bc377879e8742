/-
# Reading a document from a tree

Both formats give a tree of nodes of their own. What a policy needs of a node
is a handful of `Questions`: the text it holds, the number, the
elements, the entries. This module asks them in the order in which the tree was
written, so that of several faults the first in the text is reported:

* an unknown or repeated field at its key, before its value is looked at;
* a missing version at the end of the document;
* of two entries for one type, the later one counts.

A tree of a text that breaks off holds a last node that answers every question
with `malformed`, so whatever was wrong before that place comes first.
-/

import TemplateSandbox.Document
import TemplateSandbox.Document.ReadFault

namespace TemplateSandbox
namespace Document

/-- One word out of a few, as a node gives it. -/
structure Choice where
  /-- The word. -/
  name : String
  /-- Whether an unknown word is a fault of this very place, or of what is around it. -/
  placed : Bool
  /-- What comes with the word, which must be nothing. -/
  nothing : Except ReadFault Unit

/-- A document in a tree: its fields by name, or their values in order. -/
inductive Body (N : Type) where
  /-- Fields by name. -/
  | named (entries : List (N × N))
  /-- Values in the order of the fields. -/
  | positional (values : List N)

/-- What a policy asks of the nodes of a format. -/
structure Questions (N : Type) where
  /-- The document that a node holds. -/
  body : N → Except ReadFault (Body N)
  /-- The text of a key; `wanted` is what the key stands for. -/
  key : (wanted : Wanted) → N → Except ReadFault String
  /-- The step to the value under a key. -/
  step : N → Step
  /-- The text that a node holds. -/
  text : N → Except ReadFault String
  /-- The unsigned 32-bit number that a node holds. -/
  number : N → Except ReadFault Nat
  /-- The elements of a sequence. -/
  items : N → Except ReadFault (List N)
  /-- The entries of a mapping. -/
  entries : N → Except ReadFault (List (N × N))
  /-- The word that a node gives. -/
  choice : N → Except ReadFault Choice

/-- Sees to the place of a fault. -/
def placing {α : Type} (move : ReadFault → ReadFault) : Except ReadFault α → Except ReadFault α
  | .ok a => .ok a
  | .error f => .error (move f)

/-- The known word that a choice gives. -/
def readWord {α : Type} (words : List (String × α)) (c : Choice) : Except ReadFault α :=
  match words.lookup c.name with
  | none =>
    let fault : ReadFault := ⟨.unknownVariant c.name (words.map Prod.fst), none⟩
    .error (if c.placed then fault.here else fault)
  | some a =>
    match c.nothing with
    | .ok () => .ok a
    | .error f => .error f

/-- The words for the modes. -/
def modeWords : List (String × Mode) := [Mode.strict, Mode.legacy].map fun m => (m.label, m)

/-- The words for the presets. -/
def presetWords : List (String × Preset) := [Preset.cms].map fun p => (p.label, p)

/-- The values of the fields read so far. -/
structure Slots where
  version : Option Nat := none
  mode : Option Mode := none
  presets : Option (List Preset) := none
  trustedTypes : Option (List String) := none
  allowedMethods : Option (List String) := none
  blockedMethods : Option (List String) := none
  blockedByType : Option TypeLists := none
  blockedTypes : Option (List String) := none
  blockedProperties : Option (List String) := none

namespace Slots

/-- Whether a field was read already. -/
def holds (s : Slots) : Field → Bool
  | .version => s.version.isSome
  | .mode => s.mode.isSome
  | .presets => s.presets.isSome
  | .trustedTypes => s.trustedTypes.isSome
  | .allowedMethods => s.allowedMethods.isSome
  | .blockedMethods => s.blockedMethods.isSome
  | .blockedByType => s.blockedByType.isSome
  | .blockedTypes => s.blockedTypes.isSome
  | .blockedProperties => s.blockedProperties.isSome

/-- The document with the fields read; only the version has no default. -/
def document? (s : Slots) : Option Document :=
  s.version.map fun version =>
    { version
      mode := s.mode.getD .strict
      presets := s.presets.getD []
      trustedTypes := s.trustedTypes.getD []
      allowedMethods := s.allowedMethods.getD []
      blockedMethods := s.blockedMethods.getD []
      blockedByType := s.blockedByType.getD .empty
      blockedTypes := s.blockedTypes.getD []
      blockedProperties := s.blockedProperties.getD [] }

end Slots

namespace Questions

variable {N α : Type}

/-- Reads each element; a fault leads through the number of its element. -/
def readEach (read : N → Except ReadFault α) : Nat → List N → Except ReadFault (List α)
  | _, [] => .ok []
  | i, node :: rest => do
    let a ← placing (.under (.index i)) (read node)
    return a :: (← readEach read (i + 1) rest)

/-- Reads a sequence. -/
def readItems (q : Questions N) (read : N → Except ReadFault α) (node : N) :
    Except ReadFault (List α) :=
  placing .here (do readEach read 0 (← q.items node))

/-- Reads a sequence of texts. -/
def readTexts (q : Questions N) : N → Except ReadFault (List String) := q.readItems q.text

/-- Reads a mode. -/
def readMode (q : Questions N) (node : N) : Except ReadFault Mode := do
  readWord modeWords (← q.choice node)

/-- Reads a preset. -/
def readPreset (q : Questions N) (node : N) : Except ReadFault Preset := do
  readWord presetWords (← q.choice node)

/-- Reads the entries of a mapping from types to methods into what was read before them. -/
def readLists (q : Questions N) : List (N × N) → TypeLists → Except ReadFault TypeLists
  | [], lists => .ok lists
  | (key, value) :: rest, lists => do
    let type ← q.key .string key
    let methods ← placing (.under (q.step key)) (q.readTexts value)
    readLists q rest (lists.insert type methods)

/-- Reads a mapping from types to methods. -/
def readTypeLists (q : Questions N) (node : N) : Except ReadFault TypeLists :=
  placing .here (do q.readLists (← q.entries node) .empty)

/-- Reads the value of one field into its slot. -/
def readField (q : Questions N) (node : N) (s : Slots) : Field → Except ReadFault Slots
  | .version => do return { s with version := some (← q.number node) }
  | .mode => do return { s with mode := some (← q.readMode node) }
  | .presets => do return { s with presets := some (← q.readItems q.readPreset node) }
  | .trustedTypes => do return { s with trustedTypes := some (← q.readTexts node) }
  | .allowedMethods => do return { s with allowedMethods := some (← q.readTexts node) }
  | .blockedMethods => do return { s with blockedMethods := some (← q.readTexts node) }
  | .blockedByType => do return { s with blockedByType := some (← q.readTypeLists node) }
  | .blockedTypes => do return { s with blockedTypes := some (← q.readTexts node) }
  | .blockedProperties => do return { s with blockedProperties := some (← q.readTexts node) }

/-- Reads fields by name into what was read before them. -/
def readNamed (q : Questions N) : List (N × N) → Slots → Except ReadFault Slots
  | [], s => .ok s
  | (key, value) :: rest, s => do
    let name ← q.key .fieldName key
    match Field.ofLabel? name with
    | none => .error ⟨.unknownField name, none⟩
    | some field =>
      if s.holds field then .error ⟨.duplicateField field, none⟩
      else
        let s ← placing (.under (q.step key)) (q.readField value s field)
        readNamed q rest s

/-- Reads values in the order of some fields; the last ones may be left out. -/
def readPositional (q : Questions N) : List Field → List N → Slots → Except ReadFault Slots
  | [], [], s | _ :: _, [], s => .ok s
  | [], _ :: _, _ => .error .malformed
  | field :: fields, node :: rest, s => do
    let s ← q.readField node s field
    readPositional q fields rest s

/-- Reads a document. -/
def read (q : Questions N) (node : N) : Except ReadFault Document :=
  placing .here do
    match ← q.body node with
    | .named entries =>
      match (← q.readNamed entries {}).document? with
      | some d => return d
      | none => .error ⟨.missingField .version, none⟩
    | .positional values =>
      match (← q.readPositional Field.all values {}).document? with
      | some d => return d
      | none => .error ⟨.wrongLength, none⟩

end Questions
end Document
end TemplateSandbox
