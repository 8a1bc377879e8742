/-
# YAML tokens

A text is cut into tokens by a `Lexer`. Most tokens are seen where they start.
A mapping key in its short form is not: only the colon after it tells that it
was one. So the lexer remembers where such a key could start (`KeyMark`), one
place for each level of brackets, and puts the `key` token there, and the start
of the mapping if that is new, when the colon comes. Tokens from such a place on
are held back until the question is settled; a key must end on its line and
within 1024 characters.

Indentation opens and closes block collections. A token that may only stand
where a line of a block can begin is checked against `Lexer.keyAllowed`.

`Token.ofChars` gives the tokens that can be handed out before the text breaks
a rule; the last one is `streamEnd` exactly if it breaks none.
-/

import TemplateSandbox.Yaml.Scalar

namespace TemplateSandbox
namespace Yaml

/-- A tag: its characters, with nothing for an escape that names no character. -/
abbrev Tag := List (Option Char)

/-- A tag from plain text. -/
def Tag.ofString (s : String) : Tag := s.toList.map some

/-- The text of a tag, if each of its escapes names a character. -/
def Tag.text? (t : Tag) : Option String := (t.mapM id).map String.ofList

/-- The way a scalar is written. -/
inductive Style where
  | plain | quoted | literal | folded
  deriving DecidableEq

/-- A token. -/
inductive Token where
  | streamEnd
  | versionDirective (major minor : Nat)
  | tagDirective (handle : String) (start : Tag)
  | documentStart | documentEnd
  | blockSequenceStart | blockMappingStart | blockEnd
  | flowSequenceStart | flowSequenceEnd | flowMappingStart | flowMappingEnd
  | blockEntry | flowEntry | key | value
  | aliasTo (name : String)
  | anchor (name : String)
  | tag (handle : String) (suffix : Tag)
  | scalar (style : Style) (text : String)
  deriving DecidableEq

/-! ## Tags -/

/-- Whether `c` may stand in a tag; a comma and square brackets only where `wide`. -/
def isTagChar (wide : Bool) (c : Char) : Bool :=
  isWordChar c || ";/?:@&=+$.!~*'()".toList.contains c || (wide && ",[]".toList.contains c)

/-- How many octets a character has whose first octet is `n`. -/
def octetCount? (n : Nat) : Option Nat :=
  if n < 0x80 then some 1
  else if 0xC0 ≤ n && n < 0xE0 then some 2
  else if 0xE0 ≤ n && n < 0xF0 then some 3
  else if 0xF0 ≤ n && n < 0xF8 then some 4
  else none

/-- The character of some octets: the bits that the first one gives and those of the others.
A longer form than needed and a surrogate name no character. -/
def charOfOctets? (octets : List Nat) : Option Char :=
  match octets with
  | [a] => charOfNat? a
  | [a, b] =>
    let n := (a - 0xC0) * 64 + (b - 0x80)
    if n < 0x80 then none else charOfNat? n
  | [a, b, c] =>
    let n := ((a - 0xE0) * 64 + (b - 0x80)) * 64 + (c - 0x80)
    if n < 0x800 then none else charOfNat? n
  | [a, b, c, d] =>
    let n := (((a - 0xF0) * 64 + (b - 0x80)) * 64 + (c - 0x80)) * 64 + (d - 0x80)
    if n < 0x10000 then none else charOfNat? n
  | _ => none

/-- The octet of an escape at the front of a text. -/
def octet? (c : Cursor) : Option (Nat × Cursor) :=
  match c.ahead with
  | '%' :: a :: b :: _ => (Text.natOfDigits? 16 [a, b]).map fun n => (n, c.advance 3)
  | _ => none

/-- The further octets of a character. -/
def moreOctets? : (n : Nat) → Cursor → Option (List Nat × Cursor)
  | 0, c => some ([], c)
  | n + 1, c =>
    match octet? c with
    | none => none
    | some (o, c) =>
      if 0x80 ≤ o && o < 0xC0 then (moreOctets? n c).map fun (os, c) => (o :: os, c) else none

/-- The escapes of one character at the front of a text. -/
def escapedChar? (c : Cursor) : Option (Option Char × Cursor) :=
  match octet? c with
  | none => none
  | some (o, c) =>
    match octetCount? o with
    | none => none
    | some n => (moreOctets? (n - 1) c).map fun (os, c) => (charOfOctets? (o :: os), c)

/-- The characters of a tag ahead. -/
def tagChars? (wide : Bool) : (fuel : Nat) → Cursor → Option (Tag × Cursor)
  | 0, c => some ([], c)
  | fuel + 1, c =>
    match c.ahead.head? with
    | none => some ([], c)
    | some x =>
      if x == '%' then
        match escapedChar? c with
        | none => none
        | some (e, c) => (tagChars? wide fuel c).map fun (t, c) => (e :: t, c)
      else if isTagChar wide x then
        (tagChars? wide fuel c.next).map fun (t, c) => (some x :: t, c)
      else some ([], c)

/-- A tag ahead, after what its handle gave to it (`start`, of `given` characters): it may not be
empty, and a null character ends it. -/
def tagText? (wide : Bool) (given : Nat) (start : Tag) (c : Cursor) : Option (Tag × Cursor) :=
  (tagChars? wide (c.ahead.length + 1) c).bind fun (t, after) =>
    if given = 0 && t.isEmpty then none
    else some ((start ++ t).takeWhile (· != some '\x00'), after)

/-- A tag handle ahead: `!`, `!!` or a word between two marks. -/
def handle? (c : Cursor) : Option (List Char × Cursor) :=
  if !c.isAt '!' then none
  else
    let (word, after) := c.next.takeWhile isWordChar
    if after.isAt '!' then some ('!' :: word ++ ['!'], after.next) else some ('!' :: word, after)

/-- A tag ahead, up to the gap after it. -/
def readTag (inFlow : Bool) (c : Cursor) : Option (Token × Cursor) :=
  let read : Option (Token × Cursor) :=
    if c.peek? 1 == some '<' then
      (tagText? true 0 [] (c.advance 2)).bind fun (suffix, c) =>
        if c.isAt '>' then some (.tag "" suffix, c.next) else none
    else
      (handle? c).bind fun (handle, c) =>
        if 1 < handle.length && handle.getLast? == some '!' then
          (tagText? false 0 [] c).map fun (suffix, c) => (.tag (String.ofList handle) suffix, c)
        else
          (tagText? false handle.length (handle.tail.map some) c).map fun (suffix, c) =>
            if suffix.isEmpty then (.tag "" [some '!'], c) else (.tag "!" suffix, c)
  read.bind fun (token, c) =>
    if c.gapAt 0 || (inFlow && c.isAt ',') then some (token, c) else none

/-! ## Anchors and directives -/

/-- The name after `&` or `*`, up to what may follow one. -/
def readAnchor (c : Cursor) : Option (String × Cursor) :=
  let (name, after) := c.next.takeWhile isWordChar
  let ends := after.gapAt 0 || after.sees fun x => "?:,]\x7d%@\x60".toList.contains x
  if name.isEmpty || !ends then none else some (String.ofList name, after)

/-- One of the numbers of a version: one to nine digits. -/
def versionNumber? (c : Cursor) : Option (Nat × Cursor) :=
  let (digits, after) := c.takeWhile Text.isDigit
  if 9 < digits.length then none else (Text.natOfDigits? 10 digits).map fun n => (n, after)

/-- What follows the name of a version directive. -/
def versionValue? (c : Cursor) : Option (Token × Cursor) :=
  (versionNumber? (c.skipWhile isBlank)).bind fun (major, c) =>
    if !c.isAt '.' then none
    else (versionNumber? c.next).map fun (minor, c) => (.versionDirective major minor, c)

/-- What follows the name of a tag directive. -/
def tagValue? (c : Cursor) : Option (Token × Cursor) :=
  (handle? (c.skipWhile isBlank)).bind fun (handle, c) =>
    if !(handle == ['!'] || (1 < handle.length && handle.getLast? == some '!')) then none
    else if !c.sees isBlank then none
    else
      (tagText? true 0 [] (c.skipWhile isBlank)).bind fun (start, c) =>
        if c.gapAt 0 then some (.tagDirective (String.ofList handle) start, c) else none

/-- A directive, up to the end of its line. -/
def readDirective (c : Cursor) : Option (Token × Cursor) :=
  let (name, after) := c.next.takeWhile isWordChar
  if name.isEmpty || !after.gapAt 0 then none
  else
    let value? :=
      if name == "YAML".toList then versionValue? after
      else if name == "TAG".toList then tagValue? after
      else none
    value?.bind fun (token, c) =>
      let c := (c.skipWhile isBlank).skipComment
      if c.atLineEnd then some (token, c.takeBreak.2) else none

/-! ## The lexer -/

/-- A place where a key could start. -/
structure KeyMark where
  /-- Whether nothing but a key may start there. -/
  required : Bool
  /-- The number of the token there, counted over the whole text. -/
  number : Nat
  /-- The place. -/
  index : Nat
  /-- Its line. -/
  line : Nat
  /-- Its column. -/
  column : Nat

/-- The state of a lexer. -/
structure Lexer where
  /-- The place in the text. -/
  place : Cursor
  /-- The tokens that were found and not handed out. -/
  queue : List Token := []
  /-- How many tokens were handed out. -/
  handed : Nat := 0
  /-- The columns of the open block collections, innermost first. -/
  indents : List Nat := []
  /-- Where a key could start, for each level of brackets, innermost first. -/
  marks : List (Option KeyMark) := [none]
  /-- Whether a key could start here. -/
  keyAllowed : Bool := true

namespace Lexer

/-- The number of open brackets. -/
def depth (l : Lexer) : Nat := l.marks.length - 1

/-- Whether a bracket is open. -/
def inFlow (l : Lexer) : Bool := l.depth != 0

/-- The column of the innermost block collection. -/
def indent (l : Lexer) : Int := l.indents.head?.elim (-1) fun (n : Nat) => (n : Int)

/-- Adds a token. -/
def push (l : Lexer) (t : Token) : Lexer := { l with queue := l.queue ++ [t] }

/-- Puts a token in front of the one with the given number. -/
def insert (l : Lexer) (number : Nat) (t : Token) : Lexer :=
  { l with queue := l.queue.insertIdx (number - l.handed) t }

/-- Closes the block collections that stand further right than `column`. -/
def closeBlocks (column : Int) (l : Lexer) : Lexer :=
  if l.inFlow then l
  else
    let closed := (l.indents.takeWhile fun (n : Nat) => column < (n : Int)).length
    { l with
      indents := l.indents.drop closed
      queue := l.queue ++ List.replicate closed .blockEnd }

/-- Opens a block collection at `column`, unless one is open there; its start goes in front of
the token with the given number, or to the end. -/
def openBlock (column : Nat) (number : Option Nat) (t : Token) (l : Lexer) : Lexer :=
  if l.inFlow || column ≤ l.indent then l
  else
    let l := { l with indents := column :: l.indents }
    match number with
    | some n => l.insert n t
    | none => l.push t

/-- Whether a place for a key was left behind: the line ended, or the key got too long. -/
def isStale (l : Lexer) (m : KeyMark) : Bool :=
  m.line < l.place.line || m.index + 1024 < l.place.index

/-- Gives up the places that were left behind; one that had to be a key is a fault. -/
def dropStale (l : Lexer) : Option Lexer :=
  if l.marks.any fun m => m.any fun m => l.isStale m && m.required then none
  else some { l with marks := l.marks.map fun m => m.filter fun m => !l.isStale m }

/-- Gives up the place of the innermost level; one that had to be a key is a fault. -/
def dropMark (l : Lexer) : Option Lexer :=
  match l.marks with
  | some m :: outer => if m.required then none else some { l with marks := none :: outer }
  | _ => some l

/-- Notes that a key could start here, if one could. -/
def noteMark (l : Lexer) : Option Lexer :=
  if !l.keyAllowed then some l
  else
    let mark : KeyMark :=
      { required := !l.inFlow && l.indent == l.place.column
        number := l.handed + l.queue.length
        index := l.place.index
        line := l.place.line
        column := l.place.column }
    l.dropMark.map fun l => { l with marks := some mark :: l.marks.tail }

/-- Passes blanks, comments and line breaks up to the next token. A tab counts as a blank only
where no key could start. -/
def skipGap : (fuel : Nat) → Lexer → Lexer
  | 0, l => l
  | fuel + 1, l =>
    let c := l.place
    let c := if c.index = 0 && c.isAt byteOrderMark then c.next else c
    let tabs := l.inFlow || !l.keyAllowed
    let c := (c.skipWhile fun x => x == ' ' || (tabs && x == '\t')).skipComment
    if c.sees isBreak then
      skipGap fuel { l with place := c.nextLine, keyAllowed := l.keyAllowed || !l.inFlow }
    else { l with place := c }

/-- Takes a token of `n` characters. -/
def take (n : Nat) (t : Token) (l : Lexer) : Lexer :=
  { l.push t with place := l.place.advance n }

/-- Sets whether a key could start next. -/
def allowKey (b : Bool) (l : Lexer) : Lexer := { l with keyAllowed := b }

/-- The end of the text, which closes everything; it counts as a line of its own. -/
def lexEnd (l : Lexer) : Option Lexer :=
  let c := l.place
  let l :=
    if c.column = 0 then l else { l with place := { c with column := 0, line := c.line + 1 } }
  (l.closeBlocks (-1)).dropMark.map fun l => (l.allowKey false).push .streamEnd

/-- A directive. -/
def lexDirective (l : Lexer) : Option Lexer :=
  (l.closeBlocks (-1)).dropMark.bind fun l =>
    (readDirective l.place).map fun (t, c) => { (l.allowKey false).push t with place := c }

/-- The start or the end of a document. -/
def lexDocumentMark (t : Token) (l : Lexer) : Option Lexer :=
  (l.closeBlocks (-1)).dropMark.map fun l => (l.allowKey false).take 3 t

/-- An opening bracket. -/
def lexOpen (t : Token) (l : Lexer) : Option Lexer :=
  l.noteMark.map fun l => ({ l with marks := none :: l.marks }.allowKey true).take 1 t

/-- A closing bracket. -/
def lexClose (t : Token) (l : Lexer) : Option Lexer :=
  l.dropMark.map fun l =>
    let marks := if l.inFlow then l.marks.tail else l.marks
    ({ l with marks }.allowKey false).take 1 t

/-- A comma between brackets. -/
def lexFlowEntry (l : Lexer) : Option Lexer :=
  l.dropMark.map fun l => (l.allowKey true).take 1 .flowEntry

/-- Opens a block collection here, which only the beginning of a line in a block can do. -/
def startBlock (t : Token) (l : Lexer) : Option Lexer :=
  if l.inFlow then some l
  else if l.keyAllowed then some (l.openBlock l.place.column none t)
  else none

/-- The dash of a block sequence. -/
def lexBlockEntry (l : Lexer) : Option Lexer :=
  (l.startBlock .blockSequenceStart).bind fun l =>
    l.dropMark.map fun l => (l.allowKey true).take 1 .blockEntry

/-- The mark of a key in its long form. -/
def lexKey (l : Lexer) : Option Lexer :=
  (l.startBlock .blockMappingStart).bind fun l =>
    l.dropMark.map fun l => (l.allowKey !l.inFlow).take 1 .key

/-- The colon of a value: what started at the noted place was a key. -/
def lexValue (l : Lexer) : Option Lexer :=
  match l.marks with
  | some m :: outer =>
    let l := (l.insert m.number .key).openBlock m.column (some m.number) .blockMappingStart
    some (({ l with marks := none :: outer }.allowKey false).take 1 .value)
  | _ => (l.startBlock .blockMappingStart).map fun l => (l.allowKey !l.inFlow).take 1 .value

/-- A token that may start a key. -/
def lexWord (read : Cursor → Option (Token × Cursor)) (l : Lexer) : Option Lexer :=
  l.noteMark.bind fun l =>
    (read l.place).map fun (t, c) => { (l.allowKey false).push t with place := c }

/-- A scalar in quotes. -/
def lexQuoted (double : Bool) (l : Lexer) : Option Lexer :=
  l.lexWord fun c =>
    (readQuoted double c).map fun s => (.scalar .quoted (String.ofList s.text), s.after)

/-- A block scalar. -/
def lexBlock (literal : Bool) (l : Lexer) : Option Lexer :=
  l.dropMark.bind fun l =>
    (readBlock literal l.indents.head? l.place).map fun s =>
      { (l.allowKey true).push
          (.scalar (if literal then .literal else .folded) (String.ofList s.text)) with
        place := s.after }

/-- A plain scalar; one that ends with its line lets a key follow. -/
def lexPlain (l : Lexer) : Option Lexer :=
  l.noteMark.bind fun l =>
    (readPlain l.inFlow (l.indent + 1) l.place).map fun s =>
      { (l.allowKey s.endsLine).push (.scalar .plain (String.ofList s.text)) with place := s.after }

/-- Whether a plain scalar may start here. -/
def startsPlain (l : Lexer) : Bool :=
  match l.place.ahead with
  | [] => false
  | c :: rest =>
    !(isBlank c || isBreak c || "-?:,[]\x7b\x7d#&*!|>'\"%@\x60".toList.contains c) ||
      (c == '-' && !rest.head?.any isBlank) ||
      (!l.inFlow && (c == '?' || c == ':') && !l.place.gapAt 1)

/-- Finds the next token, and with it those that it closes or opens. -/
def fetch (l : Lexer) : Option Lexer :=
  (skipGap (l.place.ahead.length + 1) l).dropStale.bind fun l =>
    let l := l.closeBlocks l.place.column
    let c := l.place
    let loose := l.inFlow || c.gapAt 1
    match c.ahead.head? with
    | none => l.lexEnd
    | some x =>
      if c.column == 0 && x == '%' then l.lexDirective
      else if c.atRule '-' then l.lexDocumentMark .documentStart
      else if c.atRule '.' then l.lexDocumentMark .documentEnd
      else if x == '[' then l.lexOpen .flowSequenceStart
      else if x == '\x7b' then l.lexOpen .flowMappingStart
      else if x == ']' then l.lexClose .flowSequenceEnd
      else if x == '\x7d' then l.lexClose .flowMappingEnd
      else if x == ',' then l.lexFlowEntry
      else if x == '-' && c.gapAt 1 then l.lexBlockEntry
      else if x == '?' && loose then l.lexKey
      else if x == ':' && loose then l.lexValue
      else if x == '*' then l.lexWord fun c => (readAnchor c).map fun (n, c) => (.aliasTo n, c)
      else if x == '&' then l.lexWord fun c => (readAnchor c).map fun (n, c) => (.anchor n, c)
      else if x == '!' then l.lexWord (readTag l.inFlow)
      else if x == '|' && !l.inFlow then l.lexBlock true
      else if x == '>' && !l.inFlow then l.lexBlock false
      else if x == '\'' then l.lexQuoted false
      else if x == '"' then l.lexQuoted true
      else if l.startsPlain then l.lexPlain
      else none

/-- Hands out tokens until the end of the text or a fault. A token is held back while a key
could still start in front of it. -/
def run : (fuel : Nat) → Lexer → List Token
  | 0, _ => []
  | fuel + 1, l =>
    match l.queue with
    | [] => l.fetch.elim [] (run fuel)
    | t :: rest =>
      match l.dropStale with
      | none => []
      | some l =>
        if l.marks.any fun m => m.any fun m => m.number == l.handed then
          l.fetch.elim [] (run fuel)
        else if t = .streamEnd then [t]
        else t :: run fuel { l with queue := rest, handed := l.handed + 1 }

end Lexer

/-- The tokens of a text, as far as it breaks no rule. Each step finds a token or hands one out,
and a character makes at most three tokens. -/
def Token.ofChars (s : List Char) : List Token :=
  Lexer.run (8 * s.length + 16) { place := ⟨s, 0, 0, 0⟩ }

end Yaml
end TemplateSandbox
