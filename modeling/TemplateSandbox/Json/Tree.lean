/-
# JSON trees

A text is read into a tree as far as its syntax holds. Where it breaks off, the
tree has a `cut`: in place of a value, or as the last element or member of what
was being read. A number or a string that breaks off is a cut as a whole, and
so is a value that nothing legal starts. A well-formed text gives a tree without
cuts and leaves the text after the value.

An object may have a member whose key is not a string; its value is then a cut,
for the text breaks off there.
-/

import TemplateSandbox.Json.Quoted
import TemplateSandbox.Json.Number

namespace TemplateSandbox

/-- A JSON value, as far as it could be read. -/
inductive Json where
  /-- The text breaks off here. -/
  | cut
  /-- Nothing. -/
  | null
  /-- A truth value. -/
  | boolean (b : Bool)
  /-- A number. -/
  | number (n : Json.Number)
  /-- A string. -/
  | string (s : String)
  /-- An array. -/
  | array (items : List Json)
  /-- An object: its members in order. -/
  | object (members : List (Json × Json))

namespace Json

/-- Whether `c` may stand between tokens. -/
def isSpace (c : Char) : Bool := c == ' ' || c == '\n' || c == '\t' || c == '\r'

/-- The text after the space at its front. -/
def skipSpace (s : List Char) : List Char := s.dropWhile isSpace

/-- What a reader gives: what it read, and the text after it unless the text broke off. -/
abbrev Partial (α : Type) := α × Option (List Char)

/-- A word of the format at the front of a text, which stands for `value`. -/
def word (spelling : List Char) (value : Json) (s : List Char) : Partial Json :=
  if spelling.isPrefixOf s then (value, some (s.drop spelling.length)) else (cut, none)

/-- A string at the front of a text, after its opening quote. -/
def stringTail (s : List Char) : Partial Json :=
  match decode s with
  | some (cs, rest) => (.string (String.ofList cs), some rest)
  | none => (cut, none)

/-- A number at the front of a text. -/
def numberHead (s : List Char) : Partial Json :=
  match Number.read? s with
  | some (n, rest) => (.number n, some rest)
  | none => (cut, none)

mutual

/-- The value at the front of a text, with `fuel` for the characters ahead. -/
def value : (fuel : Nat) → List Char → Partial Json
  | 0, _ => (cut, none)
  | fuel + 1, s =>
    match skipSpace s with
    | '"' :: rest => stringTail rest
    | '[' :: rest =>
      match skipSpace rest with
      | ']' :: rest => (.array [], some rest)
      | rest =>
        let r := items fuel rest
        (.array r.1, r.2)
    | '\x7b' :: rest =>
      match skipSpace rest with
      | '\x7d' :: rest => (.object [], some rest)
      | rest =>
        let r := members fuel rest
        (.object r.1, r.2)
    | 'n' :: rest => word ['u', 'l', 'l'] .null rest
    | 't' :: rest => word ['r', 'u', 'e'] (.boolean true) rest
    | 'f' :: rest => word ['a', 'l', 's', 'e'] (.boolean false) rest
    | s => numberHead s

/-- One element or more, and the end of their array. -/
def items : (fuel : Nat) → List Char → Partial (List Json)
  | 0, _ => ([cut], none)
  | fuel + 1, s =>
    match value fuel s with
    | (v, none) => ([v], none)
    | (v, some rest) =>
      match skipSpace rest with
      | ']' :: rest => ([v], some rest)
      | ',' :: rest =>
        let r := items fuel rest
        (v :: r.1, r.2)
      | _ => ([v, cut], none)

/-- One member or more, and the end of their object. -/
def members : (fuel : Nat) → List Char → Partial (List (Json × Json))
  | 0, _ => ([(cut, cut)], none)
  | fuel + 1, s =>
    match value fuel s with
    | (.string key, some rest) =>
      match skipSpace rest with
      | ':' :: rest =>
        match value fuel rest with
        | (v, none) => ([(.string key, v)], none)
        | (v, some rest) =>
          match skipSpace rest with
          | '\x7d' :: rest => ([(.string key, v)], some rest)
          | ',' :: rest =>
            let r := members fuel rest
            ((.string key, v) :: r.1, r.2)
          | _ => ([(.string key, v), (cut, cut)], none)
      | _ => ([(.string key, cut)], none)
    | (key, _) => ([(key, cut)], none)

end

/-- The value at the front of a text. Each step of the readers takes a character or leads to
one that does, so twice the length of the text is enough. -/
def ofChars (s : List Char) : Partial Json := value (2 * s.length + 2) s

end Json
end TemplateSandbox
