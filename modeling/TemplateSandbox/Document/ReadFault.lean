/-
# Why a text is not a policy

A text can fail to be a policy document in two ways. It may break the syntax of
its format: then it is `malformed`, and nothing more is said. Or it is well
formed up to a place where something stands that a policy cannot have there: a
`Complaint` then says what was found and what was wanted, and a path leads to
the place. A complaint about the document as a whole has the empty path, which
is not shown.
-/

import TemplateSandbox.Text.Quoted
import TemplateSandbox.Number.Power

namespace TemplateSandbox
namespace Document

/-- The nine fields of a policy document. -/
inductive Field where
  | version | mode | presets | trustedTypes | allowedMethods | blockedMethods | blockedByType
  | blockedTypes | blockedProperties
  deriving DecidableEq

namespace Field

/-- The fields in the order in which a positional document gives them. -/
def all : List Field :=
  [.version, .mode, .presets, .trustedTypes, .allowedMethods, .blockedMethods, .blockedByType,
   .blockedTypes, .blockedProperties]

theorem mem_all (f : Field) : f ∈ all := by cases f <;> decide

/-- The name of a field in a document. -/
def label : Field → String
  | .version => "version"
  | .mode => "mode"
  | .presets => "presets"
  | .trustedTypes => "trusted_types"
  | .allowedMethods => "allowed_methods"
  | .blockedMethods => "blocked_methods"
  | .blockedByType => "blocked_by_type"
  | .blockedTypes => "blocked_types"
  | .blockedProperties => "blocked_properties"

/-- The field of a name. -/
def ofLabel? (name : String) : Option Field := all.find? fun f => f.label == name

/-- The names tell the fields apart. -/
theorem ofLabel?_label (f : Field) : ofLabel? f.label = some f := by cases f <;> decide +kernel

end Field

/-- What was found in a text. -/
inductive Found where
  /-- A truth value. -/
  | boolean (b : Bool)
  /-- An integer. -/
  | integer (n : Int)
  /-- A number with a fraction or an exponent, as it is written out. -/
  | float (text : String)
  /-- A text. -/
  | string (s : String)
  /-- The word for nothing. -/
  | null
  /-- No value at all. -/
  | unit
  /-- A sequence. -/
  | sequence
  /-- A mapping. -/
  | mapping
  deriving DecidableEq

/-- An integer as a complaint shows it; one that needs more than 64 bits says so. -/
def Found.integerMessage (n : Int) : String :=
  let digits := "integer `" ++ toString n ++ "`"
  if twoTo 64 ≤ n then digits ++ " as u128"
  else if n < -twoTo 63 then digits ++ " as i128"
  else digits

/-- The wording of what was found. -/
def Found.message : Found → String
  | .boolean b => "boolean `" ++ (if b then "true" else "false") ++ "`"
  | .integer n => integerMessage n
  | .float text => "floating point `" ++ text ++ "`"
  | .string s => "string " ++ Text.quoted s
  | .null => "null"
  | .unit => "unit value"
  | .sequence => "sequence"
  | .mapping => "map"

/-- What was wanted in a place. -/
inductive Wanted where
  | document | u32 | sequence | mapping | string | unit | null | boolean | integer | float
  | fieldName | variantName | tag
  deriving DecidableEq

/-- The wording of what was wanted. -/
def Wanted.message : Wanted → String
  | .document => "struct PolicyFile"
  | .u32 => "u32"
  | .sequence => "a sequence"
  | .mapping => "a map"
  | .string => "a string"
  | .unit => "unit"
  | .null => "null"
  | .boolean => "a boolean"
  | .integer => "an integer"
  | .float => "a float"
  | .fieldName => "field identifier"
  | .variantName => "variant identifier"
  | .tag => "a YAML tag starting with '!'"

/-- What is wrong with a text. -/
inductive Complaint where
  /-- The syntax of the format is broken. -/
  | malformed
  /-- Something of one type stands where another type is wanted. -/
  | wrongType (found : Found) (wanted : Wanted)
  /-- Something of the right type has a value that is not wanted. -/
  | wrongValue (found : Found) (wanted : Wanted)
  /-- A positional document ends before its version. -/
  | wrongLength
  /-- A field has an unknown name. -/
  | unknownField (name : String)
  /-- A field is given twice. -/
  | duplicateField (field : Field)
  /-- A field that has no default is not given. -/
  | missingField (field : Field)
  /-- A word is none of the known ones. -/
  | unknownVariant (name : String) (known : List String)
  deriving DecidableEq

/-- A choice of words: one, one or the other, one of many. -/
def oneOf (words : List String) : String :=
  match words.map fun w => "`" ++ w ++ "`" with
  | [a] => a
  | [a, b] => a ++ " or " ++ b
  | many => "one of " ++ ", ".intercalate many

/-- The wording of a complaint. -/
def Complaint.message : Complaint → String
  | .malformed => "malformed"
  | .wrongType found wanted => "invalid type: " ++ found.message ++ ", expected " ++ wanted.message
  | .wrongValue found wanted =>
    "invalid value: " ++ found.message ++ ", expected " ++ wanted.message
  | .wrongLength => "invalid length 0, expected " ++ Wanted.document.message ++ " with 9 elements"
  | .unknownField name =>
    "unknown field `" ++ name ++ "`, expected " ++ oneOf (Field.all.map Field.label)
  | .duplicateField field => "duplicate field `" ++ field.label ++ "`"
  | .missingField field => "missing field `" ++ field.label ++ "`"
  | .unknownVariant name known => "unknown variant `" ++ name ++ "`, expected " ++ oneOf known

/-- One step of the way to a place in a document. -/
inductive Step where
  /-- To the value under a key; a key that is no plain text has no name here. -/
  | key (name : Option String)
  /-- To the element with this number. -/
  | index (i : Nat)
  deriving DecidableEq

/-- A path in writing; the steps before this one are `sofar`. -/
def Step.render (sofar : String) : Step → String
  | .index i => sofar ++ "[" ++ toString i ++ "]"
  | .key name => (if sofar = "" then "" else sofar ++ ".") ++ name.getD "?"

/-- A complaint and where it arose. -/
structure ReadFault where
  /-- What is wrong. -/
  complaint : Complaint
  /-- The way to the place, or nothing while the place is still open: then it is the
  innermost sequence, mapping or document around it. -/
  path : Option (List Step) := none
  deriving DecidableEq

namespace ReadFault

/-- The syntax of the format is broken. -/
def malformed : ReadFault := ⟨.malformed, none⟩

/-- Puts the fault here, if its place is still open. -/
def here (f : ReadFault) : ReadFault := { f with path := some (f.path.getD []) }

/-- Leads the path of the fault through one more step. -/
def under (step : Step) (f : ReadFault) : ReadFault := { f with path := f.path.map (step :: ·) }

/-- Forgets where the fault arose. -/
def unplaced (f : ReadFault) : ReadFault := { f with path := none }

/-- The wording of a fault: its path, unless that is empty, and the complaint. A broken
syntax has no place. -/
def message (f : ReadFault) : String :=
  if f.complaint = .malformed then f.complaint.message
  else match (f.path.getD []).foldl Step.render "" with
    | "" => f.complaint.message
    | path => path ++ ": " ++ f.complaint.message

end ReadFault
end Document
end TemplateSandbox
