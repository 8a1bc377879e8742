/-
# YAML nodes

The tokens of a text make a tree of nodes, as far as they go. Where they break
a rule of the grammar, or end early because the text broke one, the tree has a
`cut`: in place of a node, or as the last element or entry of what was open.

A collection whose value is left out gets an empty plain scalar there. An
anchor gives its node a number, by which aliases refer to it; the number is how
many names had been given before. A name that is given again gets a new number
without making more names, so the next new name gets that number too and takes
over the aliases to it.
-/

import TemplateSandbox.Yaml.Token

namespace TemplateSandbox
namespace Yaml

/-- A node, as far as it could be read. -/
inductive Node where
  /-- The text breaks off here. -/
  | cut
  /-- Another mention of the node with this number. -/
  | aliasTo (number : Nat)
  /-- A node that is reached through an alias, with the number of aliases followed to read all
  of it. -/
  | mention (jumps : Nat) (node : Node)
  /-- A scalar. -/
  | scalar (number : Option Nat) (tag : Option Tag) (style : Style) (text : String)
  /-- A sequence. -/
  | sequence (number : Option Nat) (tag : Option Tag) (items : List Node)
  /-- A mapping. -/
  | mapping (number : Option Nat) (tag : Option Tag) (entries : List (Node × Node))

namespace Node

/-- What stands where a value was left out. -/
def absent : Node := .scalar none none .plain ""

/-- The last entry of a mapping that breaks off. -/
def cutEntry : Node × Node := (cut, cut)

end Node

/-- What a reader of nodes goes on from. -/
structure Ahead where
  /-- The tokens ahead. -/
  tokens : List Token
  /-- The names of anchors with their latest numbers. -/
  names : List (String × Nat) := []
  /-- The tag handles with what they stand for. -/
  handles : List (String × Tag) := []

namespace Ahead

/-- The next token. -/
def head? (a : Ahead) : Option Token := a.tokens.head?

/-- What follows the next token. -/
def tail (a : Ahead) : Ahead := { a with tokens := a.tokens.tail }

/-- Whether the next token is one of `ts`. -/
def isAt (a : Ahead) (ts : List Token) : Bool := a.head?.any ts.contains

/-- Gives a name to the next node: its number, and the names from then on. -/
def name (a : Ahead) (name : String) : Nat × Ahead :=
  let number := a.names.length
  let names :=
    if a.names.any fun entry => entry.1 == name then
      a.names.map fun entry => if entry.1 == name then (name, number) else entry
    else a.names ++ [(name, number)]
  (number, { a with names })

end Ahead

/-- What was read, and what to go on from unless the text broke off. -/
abbrev Partial (α : Type) := α × Option Ahead

/-- What stands before a node: its number and its tag. -/
structure Properties where
  number : Option Nat := none
  tag : Option Tag := none

/-- The tag that a handle and a suffix make. -/
def resolveTag? (a : Ahead) (handle : String) (suffix : Tag) : Option Tag :=
  if handle = "" then some suffix else (a.handles.lookup handle).map (· ++ suffix)

/-- The tag and then maybe the anchor before a node. -/
def readTagFirst (p : Properties) (handle : String) (suffix : Tag) (a : Ahead) :
    Option (Properties × Ahead) :=
  (resolveTag? a handle suffix).map fun tag =>
    match p.number, a.head? with
    | none, some (.anchor name) =>
      let (number, a) := a.tail.name name
      (⟨some number, some tag⟩, a)
    | _, _ => ({ p with tag := some tag }, a)

/-- The properties before a node: an anchor and a tag, in either order. -/
def readProperties (a : Ahead) : Option (Properties × Ahead) :=
  match a.head? with
  | some (.anchor name) =>
    match a.tail.head? with
    | some (.tag handle suffix) =>
      (resolveTag? a handle suffix).map fun tag =>
        let (number, a) := a.tail.tail.name name
        (⟨some number, some tag⟩, a)
    | _ =>
      let (number, a) := a.tail.name name
      some (⟨some number, none⟩, a)
  | some (.tag handle suffix) => readTagFirst {} handle suffix a.tail
  | _ => some ({}, a)

namespace Node

/-- Reads a node, or stands in for one that is left out where one of `ends` is next. -/
def orAbsent (read : Ahead → Partial Node) (ends : List Token) (a : Ahead) : Partial Node :=
  match a.head? with
  | none => (cut, none)
  | some t => if ends.contains t then (absent, some a) else read a

/-- Reads an entry: a key, and then a value if the mark of one is next. -/
def readEntry (key value : Ahead → Partial Node) (a : Ahead) : Partial (Node × Node) :=
  match key a with
  | (k, none) => ((k, cut), none)
  | (k, some a) =>
    match a.head? with
    | none => ((k, cut), none)
    | some .value =>
      let r := value a.tail
      ((k, r.1), r.2)
    | some _ => ((k, absent), some a)

mutual

/-- A node. In a block it may be a block collection, and in a mapping also a sequence whose
dashes are not indented. -/
def read : (fuel : Nat) → (inBlock unindented : Bool) → Ahead → Partial Node
  | 0, _, _, _ => (cut, none)
  | fuel + 1, inBlock, unindented, a =>
    match a.head? with
    | some (.aliasTo name) =>
      match a.names.lookup name with
      | some number => (aliasTo number, some a.tail)
      | none => (cut, none)
    | _ =>
      match readProperties a with
      | none => (cut, none)
      | some (p, a) =>
        match a.head? with
        | some .blockEntry =>
          if unindented then
            let r := readUnindented fuel a
            (sequence p.number p.tag r.1, r.2)
          else (bare p a)
        | some (.scalar style text) => (scalar p.number p.tag style text, some a.tail)
        | some .flowSequenceStart =>
          let r := readFlowItems fuel true a.tail
          (sequence p.number p.tag r.1, r.2)
        | some .flowMappingStart =>
          let r := readFlowEntries fuel true a.tail
          (mapping p.number p.tag r.1, r.2)
        | some .blockSequenceStart =>
          if inBlock then
            let r := readBlockItems fuel a.tail
            (sequence p.number p.tag r.1, r.2)
          else (bare p a)
        | some .blockMappingStart =>
          if inBlock then
            let r := readBlockEntries fuel a.tail
            (mapping p.number p.tag r.1, r.2)
          else (bare p a)
        | none => (cut, none)
        | some _ => bare p a
where
  /-- A node of which only the properties are there. -/
  bare (p : Properties) (a : Ahead) : Partial Node :=
    if p.number.isNone && p.tag.isNone then (cut, none)
    else (scalar p.number p.tag .plain "", some a)

/-- The elements of a block sequence, up to its end. -/
def readBlockItems : (fuel : Nat) → Ahead → Partial (List Node)
  | 0, _ => ([cut], none)
  | fuel + 1, a =>
    match a.head? with
    | some .blockEntry =>
      match orAbsent (read fuel true false) [.blockEntry, .blockEnd] a.tail with
      | (v, none) => ([v], none)
      | (v, some a) =>
        let r := readBlockItems fuel a
        (v :: r.1, r.2)
    | some .blockEnd => ([], some a.tail)
    | _ => ([cut], none)

/-- The elements of a sequence whose dashes are not indented, up to the token after it. -/
def readUnindented : (fuel : Nat) → Ahead → Partial (List Node)
  | 0, _ => ([cut], none)
  | fuel + 1, a =>
    match a.head? with
    | some .blockEntry =>
      match orAbsent (read fuel true false) [.blockEntry, .key, .value, .blockEnd] a.tail with
      | (v, none) => ([v], none)
      | (v, some a) =>
        let r := readUnindented fuel a
        (v :: r.1, r.2)
    | some _ => ([], some a)
    | none => ([cut], none)

/-- The entries of a block mapping, up to its end. -/
def readBlockEntries : (fuel : Nat) → Ahead → Partial (List (Node × Node))
  | 0, _ => ([cutEntry], none)
  | fuel + 1, a =>
    match a.head? with
    | some .key =>
      let part := orAbsent (read fuel true true) [.key, .value, .blockEnd]
      match readEntry part part a.tail with
      | (e, none) => ([e], none)
      | (e, some a) =>
        let r := readBlockEntries fuel a
        (e :: r.1, r.2)
    | some .blockEnd => ([], some a.tail)
    | _ => ([cutEntry], none)

/-- The elements of a sequence between brackets, up to its end. -/
def readFlowItems : (fuel : Nat) → (first : Bool) → Ahead → Partial (List Node)
  | 0, _, _ => ([cut], none)
  | fuel + 1, first, a =>
    match a.head? with
    | some .flowSequenceEnd => ([], some a.tail)
    | _ =>
      if !first && !a.isAt [.flowEntry] then ([cut], none)
      else
        let a := if first then a else a.tail
        match a.head? with
        | none => ([cut], none)
        | some .flowSequenceEnd => ([], some a.tail)
        | some .key =>
          match readPair fuel a.tail with
          | (e, none) => ([mapping none none [e, cutEntry]], none)
          | (e, some a) =>
            let r := readFlowItems fuel false a
            (mapping none none [e] :: r.1, r.2)
        | some _ =>
          match read fuel false false a with
          | (v, none) => ([v], none)
          | (v, some a) =>
            let r := readFlowItems fuel false a
            (v :: r.1, r.2)

/-- The entry of a pair that is an element of a sequence. Where its key is left out, the token
in its place is passed over. -/
def readPair : (fuel : Nat) → Ahead → Partial (Node × Node)
  | 0, _ => (cutEntry, none)
  | fuel + 1, a =>
    let key (a : Ahead) : Partial Node :=
      if a.isAt [.value, .flowEntry, .flowSequenceEnd] then (absent, some a.tail)
      else read fuel false false a
    readEntry key (orAbsent (read fuel false false) [.flowEntry, .flowSequenceEnd]) a

/-- The entries of a mapping between brackets, up to its end. -/
def readFlowEntries : (fuel : Nat) → (first : Bool) → Ahead → Partial (List (Node × Node))
  | 0, _, _ => ([cutEntry], none)
  | fuel + 1, first, a =>
    match a.head? with
    | some .flowMappingEnd => ([], some a.tail)
    | _ =>
      if !first && !a.isAt [.flowEntry] then ([cutEntry], none)
      else
        let a := if first then a else a.tail
        match a.head? with
        | none => ([cutEntry], none)
        | some .flowMappingEnd => ([], some a.tail)
        | some t =>
          let e :=
            if t = .key then
              readEntry (orAbsent (read fuel false false) [.value, .flowEntry, .flowMappingEnd])
                (orAbsent (read fuel false false) [.flowEntry, .flowMappingEnd]) a.tail
            else
              match read fuel false false a with
              | (k, none) => ((k, cut), none)
              | (k, some a) => ((k, if a.head?.isNone then cut else absent), some a)
          match e with
          | (e, none) => ([e], none)
          | (e, some a) =>
            let r := readFlowEntries fuel false a
            (e :: r.1, r.2)

end

end Node

/-! ## Documents -/

/-- The handles that every document has. -/
def standardHandles : List (String × Tag) :=
  [("!", [some '!']), ("!!", Tag.ofString "tag:yaml.org,2002:")]

/-- The directives before a document: one version at most, of a known number, and each handle
once. The last argument says whether a version was given. -/
def readDirectives : List Token → List (String × Tag) → Bool →
    Option (List Token × List (String × Tag))
  | .versionDirective major minor :: rest, handles, given =>
    if given || major != 1 || (minor != 1 && minor != 2) then none
    else readDirectives rest handles true
  | .tagDirective handle start :: rest, handles, given =>
    if handles.any fun entry => entry.1 == handle then none
    else readDirectives rest (handles ++ [(handle, start)]) given
  | tokens, handles, _ => some (tokens, handles)

/-- The tokens before which a document that was announced is empty. -/
def isContentEnd : Token → Bool
  | .versionDirective .. | .tagDirective .. | .documentStart | .documentEnd | .streamEnd => true
  | _ => false

/-- Whether a text starts with the announcement of a document. -/
def isAnnounced : Token → Bool
  | .versionDirective .. | .tagDirective .. | .documentStart => true
  | _ => false

/-- The root of the first document of a text, and the tokens after it. A text without any
document has an absent root. -/
def Node.readRoot (tokens : List Token) : Node × Option (List Token) :=
  let fuel := 2 * tokens.length + 4
  let content (tokens : List Token) (handles : List (String × Tag)) : Node × Option (List Token) :=
    let r := Node.read fuel true false { tokens, handles := handles ++ standardHandles }
    (r.1, r.2.map Ahead.tokens)
  match tokens with
  | [] => (.cut, none)
  | .streamEnd :: _ => (absent, some tokens)
  | t :: _ =>
    if !isAnnounced t then content tokens []
    else
      match readDirectives tokens [] false with
      | some (.documentStart :: rest, handles) =>
        match rest.head? with
        | none => (.cut, none)
        | some t => if isContentEnd t then (absent, some rest) else content rest handles
      | _ => (.cut, none)

/-- Whether nothing but the end of the text follows a document. -/
def endsStream (tokens : List Token) : Bool :=
  tokens.dropWhile (· == .documentEnd) == [.streamEnd]

end Yaml
end TemplateSandbox
