/-
# Scalars in a YAML text

The three ways to write a scalar, each with rules of its own for where it ends
and what its line breaks become.

* *Plain*, without marks: up to a comment, `: `, a bracket or comma inside
  brackets, or a line that is not indented enough.
* *Quoted*, single or double; a double one knows escapes.
* *Block*, after `|` or `>`: all lines indented at least as much as the first.

Between two lines of a plain or quoted scalar the first line break is *folded*
(`fold`): one alone becomes a space, of several the first is dropped. In a block
after `>` the same holds between two lines that do not start with a blank.

Each reader gives nothing when the text breaks a rule.
-/

import TemplateSandbox.Yaml.Cursor
import TemplateSandbox.Text.Digits

namespace TemplateSandbox
namespace Yaml

/-- What lies between two stretches of a scalar. -/
inductive Gap where
  /-- Blanks on one line. -/
  | blanks (cs : List Char)
  /-- Line breaks: the first, and the others. -/
  | breaks (first others : List Char)

namespace Gap

/-- A first line break and the others, folded. -/
def fold (first others : List Char) : List Char :=
  if first.head? == some '\n' then (if others.isEmpty then [' '] else others) else first ++ others

/-- What a gap becomes in the scalar. -/
def text : Gap → List Char
  | .blanks cs => cs
  | .breaks first others => fold first others

/-- Whether a gap reaches into another line. -/
def breaksLine : Gap → Bool
  | .blanks _ => false
  | .breaks .. => true

/-- Passes the blanks and line breaks ahead; `indent` is given where a tab may not stand for
indentation, and is the number of columns it may not stand in. -/
def read : (fuel : Nat) → (indent : Option Int) → Gap → Cursor → Option (Gap × Cursor)
  | 0, _, gap, c => some (gap, c)
  | fuel + 1, indent, gap, c =>
    match c.ahead.head? with
    | none => some (gap, c)
    | some x =>
      if isBlank x then
        match gap with
        | .blanks cs => read fuel indent (.blanks (cs ++ [x])) c.next
        | .breaks .. =>
          if x == '\t' && indent.any fun n => (c.column : Int) < n then none
          else read fuel indent gap c.next
      else if isBreak x then
        match gap with
        | .blanks _ => read fuel indent (.breaks c.breakText []) c.nextLine
        | .breaks first others =>
          read fuel indent (.breaks first (others ++ c.breakText)) c.nextLine
      else some (gap, c)

end Gap

/-! ## Plain scalars -/

/-- The characters that end a plain scalar between brackets. -/
def isFlowMark (c : Char) : Bool := c == ',' || c == '[' || c == ']' || c == '\x7b' || c == '\x7d'

/-- How many characters of `s` a plain scalar takes before the next gap or its end. Between
brackets a colon may not stand before a mark. -/
def plainRun (inFlow : Bool) : List Char → Option Nat
  | [] => some 0
  | c :: rest =>
    if isBlank c || isBreak c then some 0
    else if c == ':' && inFlow && rest.head?.any (fun d => isFlowMark d || d == '?') then none
    else if c == ':' && rest.head?.all (fun d => isBlank d || isBreak d) then some 0
    else if inFlow && isFlowMark c then some 0
    else (plainRun inFlow rest).map (· + 1)

/-- A scalar as it was read. -/
structure ScalarText where
  /-- Its text. -/
  text : List Char
  /-- Whether a gap that reaches into another line was passed after it. -/
  endsLine : Bool
  /-- The place after it. -/
  after : Cursor

/-- The rest of a plain scalar, after `text` and a gap. -/
def plainLoop (inFlow : Bool) (indent : Int) :
    (fuel : Nat) → (text : List Char) → Gap → Cursor → Option ScalarText
  | 0, text, gap, c => some ⟨text, gap.breaksLine, c⟩
  | fuel + 1, text, gap, c =>
    if c.atDocumentMark || c.isAt '#' then some ⟨text, gap.breaksLine, c⟩
    else
      match plainRun inFlow c.ahead with
      | none => none
      | some 0 => some ⟨text, gap.breaksLine, c⟩
      | some n =>
        let text := text ++ gap.text ++ c.ahead.take n
        let c := c.advance n
        if !c.sees fun x => isBlank x || isBreak x then some ⟨text, false, c⟩
        else
          match Gap.read (c.ahead.length + 1) (some indent) (.blanks []) c with
          | none => none
          | some (gap, c) =>
            if !inFlow && c.column < indent then some ⟨text, gap.breaksLine, c⟩
            else plainLoop inFlow indent fuel text gap c

/-- A plain scalar; `indent` is the least column of its further lines. -/
def readPlain (inFlow : Bool) (indent : Int) (c : Cursor) : Option ScalarText :=
  plainLoop inFlow indent (c.ahead.length + 1) [] (.blanks []) c

/-! ## Quoted scalars -/

/-- The character of a one-letter escape. -/
def shortEscape? : Char → Option Char
  | '0' => some '\x00'
  | 'a' => some '\x07'
  | 'b' => some '\x08'
  | 't' | '\t' => some '\t'
  | 'n' => some '\n'
  | 'v' => some '\x0b'
  | 'f' => some '\x0c'
  | 'r' => some '\r'
  | 'e' => some '\x1b'
  | ' ' => some ' '
  | '"' => some '"'
  | '/' => some '/'
  | '\\' => some '\\'
  | 'N' => some '\u0085'
  | '_' => some '\u00a0'
  | 'L' => some '\u2028'
  | 'P' => some '\u2029'
  | _ => none

/-- How many digits follow the letter of a numeric escape. -/
def escapeLength? : Char → Option Nat
  | 'x' => some 2
  | 'u' => some 4
  | 'U' => some 8
  | _ => none

/-- The character with this code point, if there is one. -/
def charOfNat? (n : Nat) : Option Char := if n.isValidChar then some (Char.ofNat n) else none

/-- The character of an escape after its backslash, and how many characters it takes up. -/
def escape? (s : List Char) : Option (Char × Nat) :=
  match s with
  | [] => none
  | e :: rest =>
    match escapeLength? e with
    | none => (shortEscape? e).map fun c => (c, 1)
    | some n =>
      if rest.length < n then none
      else ((Text.natOfDigits? 16 (rest.take n)).bind charOfNat?).map fun c => (c, n + 1)

/-- How a stretch of a quoted scalar ends. -/
inductive StretchEnd where
  /-- Before a quote, a gap or the end of the text. -/
  | plain
  /-- After a line break that an escape takes out. -/
  | escapedBreak
  deriving DecidableEq

/-- A stretch of a quoted scalar without gaps, put after `text`. -/
def quotedRun (double : Bool) :
    (fuel : Nat) → (text : List Char) → Cursor → Option (List Char × StretchEnd × Cursor)
  | 0, text, c => some (text, .plain, c)
  | fuel + 1, text, c =>
    match c.ahead with
    | [] => some (text, .plain, c)
    | x :: rest =>
      if isBlank x || isBreak x then some (text, .plain, c)
      else if !double && x == '\'' && rest.head? == some '\'' then
        quotedRun double fuel (text ++ ['\'']) (c.advance 2)
      else if x == (if double then '"' else '\'') then some (text, .plain, c)
      else if double && x == '\\' then
        if rest.head?.any isBreak then some (text, .escapedBreak, c.next.nextLine)
        else
          match escape? rest with
          | none => none
          | some (e, n) => quotedRun double fuel (text ++ [e]) (c.advance (n + 1))
      else quotedRun double fuel (text ++ [x]) c.next

/-- The rest of a quoted scalar up to its closing quote, after `text`. -/
def quotedLoop (double : Bool) : (fuel : Nat) → (text : List Char) → Cursor → Option ScalarText
  | 0, _, _ => none
  | fuel + 1, text, c =>
    if c.atDocumentMark || c.atEnd then none
    else
      match quotedRun double (c.ahead.length + 1) text c with
      | none => none
      | some (text, ending, c) =>
        if c.isAt (if double then '"' else '\'') then some ⟨text, false, c.next⟩
        else
          let start := if ending = .escapedBreak then Gap.breaks [] [] else .blanks []
          match Gap.read (c.ahead.length + 1) none start c with
          | none => none
          | some (gap, c) => quotedLoop double fuel (text ++ gap.text) c

/-- A quoted scalar, from its opening quote on. -/
def readQuoted (double : Bool) (c : Cursor) : Option ScalarText :=
  quotedLoop double (c.ahead.length + 1) [] c.next

/-! ## Block scalars -/

/-- What becomes of the line breaks at the end of a block. -/
inductive Chomp where
  /-- All are dropped. -/
  | strip
  /-- One is kept. -/
  | clip
  /-- All are kept. -/
  | keep
  deriving DecidableEq

/-- The mark for the end of a block. -/
def chomp? (c : Cursor) : Option Chomp :=
  if c.isAt '+' then some .keep else if c.isAt '-' then some .strip else none

/-- A digit for the indentation of a block, which may not be zero. -/
def blockIndent? (c : Cursor) : Option (Option Nat × Cursor) :=
  match c.ahead.head? with
  | some d =>
    if Text.isDigit d then (if d == '0' then none else some (some (d.toNat - 48), c.next))
    else some (none, c)
  | none => some (none, c)

/-- The marks after `|` or `>`, in either order. -/
def blockMarks? (c : Cursor) : Option (Chomp × Option Nat × Cursor) :=
  match chomp? c with
  | some chomp => (blockIndent? c.next).map fun (n, c) => (chomp, n, c)
  | none =>
    match blockIndent? c with
    | none => none
    | some (none, c) => some (.clip, none, c)
    | some (some n, c) =>
      match chomp? c with
      | some chomp => some (chomp, some n, c.next)
      | none => some (.clip, some n, c)

/-- Passes empty lines and indentation before a line of a block: the breaks, the place, and the
greatest column reached. The indentation may still be open; a tab may not stand in it. -/
def blockBreaks (indent : Option Nat) :
    (fuel : Nat) → (breaks : List Char) → (deepest : Nat) → Cursor →
      Option (List Char × Nat × Cursor)
  | 0, breaks, deepest, c => some (breaks, deepest, c)
  | fuel + 1, breaks, deepest, c =>
    let spaces := (c.takeWhile (· == ' ')).1.length
    let c := c.advance (match indent with | none => spaces | some n => min spaces (n - c.column))
    let deepest := max deepest c.column
    if c.isAt '\t' && indent.all (c.column < ·) then none
    else if c.sees isBreak then
      blockBreaks indent fuel (breaks ++ c.breakText) deepest c.nextLine
    else some (breaks, deepest, c)

/-- The lines of a block, after `text`: `first` is the break after the line before, `others` the
empty lines after it, `blank` whether that line starts with a blank. -/
def blockLines (literal : Bool) (indent : Nat) :
    (fuel : Nat) → (text first others : List Char) → (blank : Bool) → Cursor →
      Option (List Char × List Char × List Char × Cursor)
  | 0, text, first, others, _, c => some (text, first, others, c)
  | fuel + 1, text, first, others, blank, c =>
    if c.column == indent && !c.atEnd then
      let startsBlank := c.sees isBlank
      let joint :=
        if !literal && first.head? == some '\n' && !blank && !startsBlank then
          (if others.isEmpty then [' '] else others)
        else first ++ others
      let (line, c) := c.takeWhile fun x => !isBreak x
      let (first, c) := c.takeBreak
      match blockBreaks (some indent) (c.ahead.length + 1) [] 0 c with
      | none => none
      | some (others, _, c) =>
        blockLines literal indent fuel (text ++ joint ++ line) first others startsBlank c
    else some (text, first, others, c)

/-- A block scalar, from its `|` or `>` on; `outer` is the indentation around it, if any. -/
def readBlock (literal : Bool) (outer : Option Nat) (c : Cursor) : Option ScalarText :=
  match blockMarks? c.next with
  | none => none
  | some (chomp, step, c) =>
    let c := (c.skipWhile isBlank).skipComment
    if !c.atLineEnd then none
    else
      let c := c.takeBreak.2
      let given := step.map (outer.getD 0 + ·)
      match blockBreaks given (c.ahead.length + 1) [] 0 c with
      | none => none
      | some (others, deepest, c) =>
        let indent := given.getD (max (max deepest (outer.elim 0 (· + 1))) 1)
        match blockLines literal indent (c.ahead.length + 1) [] [] others false c with
        | none => none
        | some (text, first, others, c) =>
          let tail := match chomp with
            | .strip => []
            | .clip => first
            | .keep => first ++ others
          some ⟨text ++ tail, true, c⟩

end Yaml
end TemplateSandbox
