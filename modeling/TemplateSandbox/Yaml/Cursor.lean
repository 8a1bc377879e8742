/-
# A place in a YAML text

A `Cursor` is a place in a text: what lies ahead, and where it is, counted in
characters from the start and by line and column. A carriage return followed by
a line feed is one line break. Of the line breaks, `U+2028` and `U+2029` keep
their character; all others read as a line feed.
-/

import TemplateSandbox.Text.Ranges

namespace TemplateSandbox
namespace Yaml

/-- The characters that a text may hold. -/
def legalRanges : Ranges :=
  [(0x09, 0x0A), (0x0D, 0x0D), (0x20, 0x7E), (0x85, 0x85), (0xA0, 0xD7FF), (0xE000, 0xFFFD),
   (0x10000, 0x10FFFF)]

/-- Whether a text holds only characters that it may hold. -/
def isLegal (s : List Char) : Bool := s.all legalRanges.contains

/-- The mark that may stand at the very start of a text. -/
def byteOrderMark : Char := '\uFEFF'

/-- Whether `c` is a space or a tab. -/
def isBlank (c : Char) : Bool := c == ' ' || c == '\t'

/-- Whether `c` breaks a line. -/
def isBreak (c : Char) : Bool :=
  c == '\n' || c == '\r' || c == '\u0085' || c == '\u2028' || c == '\u2029'

/-- Whether `c` may stand in the name of an anchor, a tag handle or a directive. -/
def isWordChar (c : Char) : Bool :=
  '0' ≤ c && c ≤ '9' || 'A' ≤ c && c ≤ 'Z' || 'a' ≤ c && c ≤ 'z' || c == '_' || c == '-'

/-- A place in a text. -/
structure Cursor where
  /-- The text ahead. -/
  ahead : List Char
  /-- The number of characters before. -/
  index : Nat := 0
  /-- The number of lines before. -/
  line : Nat := 0
  /-- The number of characters before, on the same line. -/
  column : Nat := 0

namespace Cursor

/-- The character `k` places ahead. -/
def peek? (c : Cursor) (k : Nat) : Option Char := c.ahead[k]?

/-- Whether the next character is `x`. -/
def isAt (c : Cursor) (x : Char) : Bool := c.ahead.head? == some x

/-- Whether the next character satisfies `p`. -/
def sees (c : Cursor) (p : Char → Bool) : Bool := c.ahead.head?.any p

/-- Whether the text is at its end. -/
def atEnd (c : Cursor) : Bool := c.ahead.isEmpty

/-- Whether a blank, a line break or the end of the text is `k` places ahead. -/
def gapAt (c : Cursor) (k : Nat) : Bool := (c.peek? k).all fun x => isBlank x || isBreak x

/-- Whether a line break or the end of the text is next. -/
def atLineEnd (c : Cursor) : Bool := c.ahead.head?.all isBreak

/-- The place `n` characters further on the same line. -/
def advance (c : Cursor) (n : Nat) : Cursor :=
  { c with ahead := c.ahead.drop n, index := c.index + n, column := c.column + n }

/-- The place after the next character. -/
def next (c : Cursor) : Cursor := c.advance 1

/-- The characters ahead that satisfy `p`, up to the first that does not, and the place after. -/
def takeWhile (c : Cursor) (p : Char → Bool) : List Char × Cursor :=
  let taken := c.ahead.takeWhile p
  (taken, c.advance taken.length)

/-- The place after the characters that satisfy `p`. -/
def skipWhile (c : Cursor) (p : Char → Bool) : Cursor := (c.takeWhile p).2

/-- The start of the next line; a line break of two characters is passed as one. -/
def nextLine (c : Cursor) : Cursor :=
  let n := if ['\r', '\n'].isPrefixOf c.ahead then 2 else 1
  { ahead := c.ahead.drop n, index := c.index + n, line := c.line + 1, column := 0 }

/-- What the line break ahead reads as. -/
def breakText (c : Cursor) : List Char :=
  match c.ahead.head? with
  | some x => if x == '\u2028' || x == '\u2029' then [x] else if isBreak x then ['\n'] else []
  | none => []

/-- The line break ahead, if there is one, and the place after it. -/
def takeBreak (c : Cursor) : List Char × Cursor :=
  if c.sees isBreak then (c.breakText, c.nextLine) else ([], c)

/-- Whether a line of three `x`, on its own or before a gap, starts here. -/
def atRule (c : Cursor) (x : Char) : Bool :=
  c.column == 0 && [x, x, x].isPrefixOf c.ahead && c.gapAt 3

/-- Whether the line here starts or ends a document. -/
def atDocumentMark (c : Cursor) : Bool := c.atRule '-' || c.atRule '.'

/-- The end of the line that a comment takes up, if one starts here. -/
def skipComment (c : Cursor) : Cursor :=
  if c.isAt '#' then c.skipWhile fun x => !isBreak x else c

end Cursor
end Yaml
end TemplateSandbox
