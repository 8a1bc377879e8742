/-
# Policies in JSON

What a policy asks of a JSON tree. A document is an object, or an array of the
field values in order. A word out of a few is a string, or an object with the
word as its one key and `null` under it. Nothing is converted: a number is
never a text, and a text never a number.
-/

import TemplateSandbox.Json.Tree
import TemplateSandbox.Number.Shortest
import TemplateSandbox.Document.Reading

namespace TemplateSandbox
namespace Json

open Document

/-- Numbers between `10 ^ -5` and `10 ^ 16` are written without an exponent, and of two equally
near decimals the even one is taken. -/
def layout : Layout := ⟨fun first => -5 ≤ first && first ≤ 15, false⟩

/-- A number as a complaint shows it. -/
def Number.found : Number → Found
  | .natural n => .integer n
  | .negative n => .integer (-n)
  | .float minus x => .float (x.writeSigned layout minus)

/-- A value as a complaint shows it; nothing can be said of a cut. -/
def found : Json → Except ReadFault Found
  | .cut => .error .malformed
  | .null => .ok .null
  | .boolean b => .ok (.boolean b)
  | .number n => .ok n.found
  | .string s => .ok (.string s)
  | .array _ => .ok .sequence
  | .object _ => .ok .mapping

/-- The fault of a value where another type is wanted. -/
def unwanted {α : Type} (v : Json) (wanted : Wanted) : Except ReadFault α :=
  match v.found with
  | .error fault => .error fault
  | .ok found => .error ⟨.wrongType found wanted, none⟩

/-- The document that a value holds. -/
def body : Json → Except ReadFault (Body Json)
  | .object members => .ok (.named members)
  | .array items => .ok (.positional items)
  | v => v.unwanted .document

/-- The text of a key: a key that is not a string breaks the syntax. -/
def key : Json → Except ReadFault String
  | .string s => .ok s
  | _ => .error .malformed

/-- The step to the value under a key. -/
def step : Json → Step
  | .string s => .key (some s)
  | _ => .key none

/-- The text of a string. -/
def text : Json → Except ReadFault String
  | .string s => .ok s
  | v => v.unwanted .string

/-- The natural number of at most 32 bits that a value is. -/
def number32 : Json → Except ReadFault Nat
  | .number (.natural n) =>
    if n < twoTo 32 then .ok n else .error ⟨.wrongValue (.integer n) .u32, none⟩
  | .number (.negative n) => .error ⟨.wrongValue (.integer (-n)) .u32, none⟩
  | v => v.unwanted .u32

/-- The elements of an array. -/
def elements : Json → Except ReadFault (List Json)
  | .array items => .ok items
  | v => v.unwanted .sequence

/-- The members of an object. -/
def entries : Json → Except ReadFault (List (Json × Json))
  | .object members => .ok members
  | v => v.unwanted .mapping

/-- What stands under the one key of a word: `null`, and then the object ends. -/
def nothing (v : Json) (rest : List (Json × Json)) : Except ReadFault Unit :=
  match v with
  | .null => if rest.isEmpty then .ok () else .error .malformed
  | v => v.unwanted .unit

/-- The word that a value gives. -/
def choice : Json → Except ReadFault Choice
  | .string s => .ok ⟨s, true, .ok ()⟩
  | .object ((.string s, v) :: rest) => .ok ⟨s, true, nothing v rest⟩
  | .object ((k, _) :: _) => k.unwanted .variantName
  | _ => .error .malformed

/-- What a policy asks of a JSON tree. -/
def questions : Questions Json where
  body := body
  key _ := key
  step := step
  text := text
  number := number32
  items := elements
  entries := entries
  choice := choice

/-- Reads the one value of a text. Faults of the value come before the fault of a text that
goes on after it. -/
def readText {α : Type} (read : Json → Except ReadFault α) (s : String) : Except ReadFault α :=
  let (v, rest) := ofChars s.toList
  match read v, rest with
  | .error fault, _ => .error fault.unplaced
  | .ok a, some rest => if (skipSpace rest).isEmpty then .ok a else .error .malformed
  | .ok _, none => .error .malformed

/-- The policy document that a text holds. -/
def readDocument : String → Except ReadFault Document := readText questions.read

/-- The member name that a text holds, folded as it is read. -/
def readName : String → Except ReadFault MemberName :=
  readText fun v => (questions.text v).map .fold

/-- The mode that a text holds. -/
def readMode : String → Except ReadFault Mode := readText questions.readMode

/-- The preset that a text holds. -/
def readPreset : String → Except ReadFault Preset := readText questions.readPreset

end Json
end TemplateSandbox
