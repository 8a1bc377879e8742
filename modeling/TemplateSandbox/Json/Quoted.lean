/-
# Strings in JSON

A string stands between double quotes. `encode` writes one: a quote, a
backslash and every control character below the space as an escape, all else as
it is. `decode` reads one that may use any escape of the format. A pair of
`\u` escapes names a character beyond the basic plane; half a pair names none,
and neither does a raw control character.
-/

import TemplateSandbox.Text.Digits

namespace TemplateSandbox
namespace Json

/-- Two digits to base sixteen. -/
def hexPair (n : Nat) : List Char := [Nat.digitChar (n / 16), Nat.digitChar (n % 16)]

/-- One character as `encode` writes it. -/
def encodeChar (c : Char) : List Char :=
  if c = '"' then ['\\', '"']
  else if c = '\\' then ['\\', '\\']
  else if c = '\x08' then ['\\', 'b']
  else if c = '\x0c' then ['\\', 'f']
  else if c = '\n' then ['\\', 'n']
  else if c = '\r' then ['\\', 'r']
  else if c = '\t' then ['\\', 't']
  else if c.toNat < 0x20 then ['\\', 'u', '0', '0'] ++ hexPair c.toNat
  else [c]

/-- A string in writing. -/
def encode (s : String) : String :=
  String.ofList ('"' :: s.toList.flatMap encodeChar ++ ['"'])

/-- The character of a one-letter escape. -/
def shortEscape? : Char → Option Char
  | '"' => some '"'
  | '\\' => some '\\'
  | '/' => some '/'
  | 'b' => some '\x08'
  | 'f' => some '\x0c'
  | 'n' => some '\n'
  | 'r' => some '\r'
  | 't' => some '\t'
  | _ => none

/-- The unit that four digits name. -/
def unit? (a b c d : Char) : Option Nat := Text.natOfDigits? 16 [a, b, c, d]

/-- Whether a unit is the first half of a pair. -/
def isHighHalf (u : Nat) : Bool := 0xD800 ≤ u && u < 0xDC00

/-- Whether a unit is the second half of a pair. -/
def isLowHalf (u : Nat) : Bool := 0xDC00 ≤ u && u < 0xE000

/-- The character that a pair names. -/
def joinHalves (high low : Nat) : Char :=
  Char.ofNat (0x10000 + (high - 0xD800) * 0x400 + (low - 0xDC00))

/-- The characters up to the closing quote, and the text after it. -/
def decode : List Char → Option (List Char × List Char)
  | [] => none
  | '"' :: rest => some ([], rest)
  | '\\' :: 'u' :: a :: b :: c :: d :: rest =>
    match unit? a b c d with
    | none => none
    | some u =>
      if isHighHalf u then
        match rest with
        | '\\' :: 'u' :: e :: f :: g :: h :: rest =>
          match unit? e f g h with
          | none => none
          | some v =>
            if isLowHalf v then (decode rest).map fun r => (joinHalves u v :: r.1, r.2) else none
        | _ => none
      else if isLowHalf u then none
      else (decode rest).map fun r => (Char.ofNat u :: r.1, r.2)
  | '\\' :: e :: rest =>
    match shortEscape? e with
    | none => none
    | some c => (decode rest).map fun r => (c :: r.1, r.2)
  | c :: rest =>
    if c = '\\' || c.toNat < 0x20 then none else (decode rest).map fun r => (c :: r.1, r.2)

end Json
end TemplateSandbox
