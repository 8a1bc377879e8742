/-
# Policies in YAML

What a policy asks of a YAML tree. A document is a mapping; a place where a
mapping or a sequence is wanted may also be left empty. A text may be any
scalar, taken as it is written. A number has to be a plain scalar. A word out of
a few is a scalar, or a tag of that name on nothing.

Aliases are followed before the tree is read (`Node.followAliases`), so a node
that is reached through one answers as itself. Only the step to the value under
a key, and the place of an unknown word, tell the difference.
-/

import TemplateSandbox.Yaml.Alias
import TemplateSandbox.Yaml.Word
import TemplateSandbox.Document.Reading

namespace TemplateSandbox
namespace Yaml

open Document

namespace Node

/-- A scalar without marks as a complaint shows it. -/
def foundPlain (s : String) : Found :=
  if s = "" || isNull s then .unit
  else match boolean? s with
    | some b => .boolean b
    | none =>
      match integer? s.toList with
      | some n => .integer n
      | none =>
        match (if isZeroPadded s.toList then none else float? s.toList) with
        | some text => .float text
        | none => .string s

/-- A fault of this place. -/
def fault {α : Type} (complaint : Complaint) : Except ReadFault α := .error ⟨complaint, some []⟩

/-- A scalar as a complaint shows it. A tag of the standard decides what it has to mean. -/
def foundScalar (tag : Option Tag) (style : Style) (s : String) : Except ReadFault Found :=
  let standard (name : String) : Bool := tag == some (Tag.ofString ("tag:yaml.org,2002:" ++ name))
  let meant (found : Option Found) (wanted : Wanted) : Except ReadFault Found :=
    match found with
    | some found => .ok found
    | none => fault (.wrongValue (.string s) wanted)
  if standard "bool" then meant ((boolean? s).map .boolean) .boolean
  else if standard "int" then meant ((integer? s.toList).map .integer) .integer
  else if standard "float" then meant ((float? s.toList).map .float) .float
  else if standard "null" then meant (if isNull s then some .unit else none) .null
  else if style = .plain && tag.all fun t => t.head? == some (some '!') then .ok (foundPlain s)
  else .ok (.string s)

/-- The fault of a node where another type is wanted. -/
def unwanted {α : Type} (wanted : Wanted) : Node → Except ReadFault α
  | .cut | .aliasTo _ => .error .malformed
  | .mention _ node => unwanted wanted node
  | .scalar _ tag style s =>
    match foundScalar tag style s with
    | .error f => .error f
    | .ok found => fault (.wrongType found wanted)
  | .sequence .. => fault (.wrongType .sequence wanted)
  | .mapping .. => fault (.wrongType .mapping wanted)

/-- Whether a node is an empty scalar without marks. -/
def isVoid : Node → Bool
  | .mention _ node => isVoid node
  | .scalar _ _ .plain s => s.isEmpty
  | _ => false

/-- The elements of a sequence, which may be left empty. -/
def elements : Node → Except ReadFault (List Node)
  | .mention _ node => elements node
  | .sequence _ _ items => .ok items
  | node => if node.isVoid then .ok [] else node.unwanted .sequence

/-- The entries of a mapping where `wanted` is wanted; it may be left empty. -/
def entries (wanted : Wanted) : Node → Except ReadFault (List (Node × Node))
  | .mention _ node => entries wanted node
  | .mapping _ _ entries => .ok entries
  | node => if node.isVoid then .ok [] else node.unwanted wanted

/-- The text of a scalar where `wanted` is wanted. -/
def text (wanted : Wanted) : Node → Except ReadFault String
  | .mention _ node => text wanted node
  | .scalar _ _ _ s => .ok s
  | node => node.unwanted wanted

/-- The text of a key. Its place is that of the mapping. -/
def key (wanted : Wanted) (node : Node) : Except ReadFault String :=
  match node.text wanted with
  | .ok s => .ok s
  | .error f => .error f.unplaced

/-- The step to the value under a key: only a scalar on the spot names it. -/
def step : Node → Step
  | .scalar _ _ _ s => .key (some s)
  | _ => .key none

/-- Whether a scalar may be a number: a plain one, or a literal block with the tag of integers. -/
def mayBeNumber (tag : Option Tag) : Style → Bool
  | .plain => true
  | .literal => tag == some (Tag.ofString "tag:yaml.org,2002:int")
  | .quoted | .folded => false

/-- The natural number of at most 32 bits that a node is. -/
def number32 : Node → Except ReadFault Nat
  | .mention _ node => number32 node
  | .scalar n tag style s =>
    match (if mayBeNumber tag style then natural? s.toList else none) with
    | some number =>
      if number < twoTo 32 then .ok number
      else if number < twoTo 64 then fault (.wrongValue (.integer number) .u32)
      else unwanted .u32 (.scalar n tag style s)
    | none => unwanted .u32 (.scalar n tag style s)
  | node => node.unwanted .u32

/-- The word that a tag gives: one that starts with a mark, without it unless it is all. -/
def tagWord? (tag : Option Tag) : Option String :=
  match tag with
  | some (some '!' :: rest) => Tag.text? (if rest.isEmpty then [some '!'] else rest)
  | _ => none

/-- What stands under a tag that is a word: an empty scalar or a word for nothing. -/
def nothing : Node → Except ReadFault Unit
  | .scalar _ _ _ s =>
    if s.isEmpty || isNull s then .ok () else fault (.wrongValue (.string s) .null)
  | node => node.unwanted .unit

/-- The word that a collection gives through its tag. -/
def choiceOfTag (tag : Option Tag) (found : Found) (node : Node) : Except ReadFault Choice :=
  match tagWord? tag with
  | some word => .ok ⟨word, false, node.nothing⟩
  | none => fault (.wrongType found .tag)

/-- The word that a node gives. -/
def choice : Node → Except ReadFault Choice
  | .cut | .aliasTo _ => .error .malformed
  | .mention _ node =>
    match choice node with
    | .ok c => .ok { c with placed := true }
    | .error f => .error f
  | .scalar n tag style s =>
    match tagWord? tag with
    | some word => .ok ⟨word, false, nothing (.scalar n tag style s)⟩
    | none => .ok ⟨s, true, .ok ()⟩
  | .sequence n tag items => choiceOfTag tag .sequence (.sequence n tag items)
  | .mapping n tag entries => choiceOfTag tag .mapping (.mapping n tag entries)

end Node

/-- What a policy asks of a YAML tree. -/
def questions : Questions Node where
  body node := (node.entries .document).map .named
  key := Node.key
  step := Node.step
  text := Node.text .string
  number := Node.number32
  items := Node.elements
  entries := Node.entries .mapping
  choice := Node.choice

/-- The policy document that a text holds. Faults of the document come before the fault of a
text that breaks off or goes on after it. -/
def readDocument (s : String) : Except ReadFault Document :=
  if !isLegal s.toList then .error .malformed
  else
    let (root, rest) := Node.readRoot (Token.ofChars s.toList)
    match questions.read root.followAliases with
    | .error f => .error f
    | .ok d => if rest.any endsStream then .ok d else .error .malformed

end Yaml
end TemplateSandbox
