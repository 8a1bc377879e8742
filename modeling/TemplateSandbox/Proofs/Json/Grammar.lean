/-
# What JSON texts are

The grammar of JSON, said without a reader: which texts are spellings of a value
(`Json.Value.SpelledBy`). A value has many of them.

| what | is spelled |
| --- | --- |
| space | as any run of blanks, line feeds, tabs and carriage returns, around each token |
| a character of a string | as it is, by one letter, by one unit or by a pair of units |
| a number | by its own digits; only the sign and the letter of the power may vary |
| an array | with its elements in order, and commas between them |
| an object | with its members in order, and commas between them |

A string is a sequence of characters, so half a pair of units spells nothing. A
value keeps the literals of its numbers, for whether a number has a fraction or
a power of ten can count where its size does not.
-/

import TemplateSandbox.Json.Number

namespace TemplateSandbox
namespace Json

/-- A value, with its numbers as they are written. -/
inductive Value where
  /-- Nothing. -/
  | null
  /-- A truth value. -/
  | boolean (b : Bool)
  /-- A number. -/
  | number (l : Number.Literal)
  /-- A string. -/
  | string (s : String)
  /-- An array. -/
  | array (items : List Value)
  /-- An object: its members in order. -/
  | object (members : List (String × Value))

/-- Nothing but space. -/
def Blank (s : List Char) : Prop := ∀ c ∈ s, c = ' ' ∨ c = '\n' ∨ c = '\t' ∨ c = '\r'

/-- Such a text with space around it. -/
def Padded (core : List Char → Prop) (s : List Char) : Prop :=
  ∃ before inner after, Blank before ∧ core inner ∧ Blank after ∧ s = before ++ inner ++ after

/-- A text needs no space around it. -/
theorem Padded.self {core : List Char → Prop} {s : List Char} (h : core s) : Padded core s :=
  ⟨[], s, [], nofun, h, nofun, (List.append_nil s).symm⟩

/-! ### Strings -/

/-- The letters that spell a character after a backslash, each with its character. -/
def shortEscapes : List (Char × Char) :=
  [('"', '"'), ('\\', '\\'), ('/', '/'), ('b', '\x08'), ('f', '\x0c'), ('n', '\n'), ('r', '\r'),
   ('t', '\t')]

/-- An escape with four digits to base sixteen: it spells a unit. -/
def UnitSpelledBy (u : Nat) (s : List Char) : Prop :=
  ∃ a b c d, s = ['\\', 'u', a, b, c, d] ∧ Text.natOfDigits? 16 [a, b, c, d] = some u

/-- The ways to spell one character of a string. -/
inductive CharSpelledBy : Char → List Char → Prop where
  /-- As it is, unless it ends the string, starts an escape or is a control character. -/
  | raw {c : Char} (hquote : c ≠ '"') (hescape : c ≠ '\\') (hcontrol : 0x20 ≤ c.toNat) :
    CharSpelledBy c [c]
  /-- By one letter. -/
  | letter {e c : Char} (h : (e, c) ∈ shortEscapes) : CharSpelledBy c ['\\', e]
  /-- By a unit that is no half of a pair. -/
  | unit {u : Nat} {s : List Char} (h : UnitSpelledBy u s) (hwhole : u < 0xD800 ∨ 0xE000 ≤ u) :
    CharSpelledBy (Char.ofNat u) s
  /-- By a pair of units: the first half, and the second half. -/
  | pair {u v : Nat} {s t : List Char} (hu : UnitSpelledBy u s) (hv : UnitSpelledBy v t)
    (hfirst : 0xD800 ≤ u ∧ u < 0xDC00) (hsecond : 0xDC00 ≤ v ∧ v < 0xE000) :
    CharSpelledBy (Char.ofNat (0x10000 + (u - 0xD800) * 0x400 + (v - 0xDC00))) (s ++ t)

/-- The characters of a string are spelled one after the other. -/
def CharsSpelledBy : List Char → List Char → Prop
  | [], s => s = []
  | c :: cs, s => ∃ one rest, CharSpelledBy c one ∧ CharsSpelledBy cs rest ∧ s = one ++ rest

/-- A string is spelled between quotes. -/
def StringSpelledBy (t : String) (s : List Char) : Prop :=
  ∃ inner, CharsSpelledBy t.toList inner ∧ s = '"' :: inner ++ ['"']

/-- Whether a character spells itself in a string. -/
def isPlain (c : Char) : Bool := c != '"' && c != '\\' && 0x20 ≤ c.toNat

/-- Plain characters spell themselves. -/
theorem charsSpelledBy_self {cs : List Char} (h : cs.all isPlain = true) :
    CharsSpelledBy cs cs := by
  induction cs with
  | nil => rfl
  | cons c cs ih =>
    rw [List.all_cons, Bool.and_eq_true] at h
    obtain ⟨hc, hcs⟩ := h
    simp only [isPlain, Bool.and_eq_true, bne_iff_ne, decide_eq_true_eq] at hc
    obtain ⟨⟨hquote, hescape⟩, hcontrol⟩ := hc
    exact ⟨[c], cs, .raw hquote hescape hcontrol, ih hcs, rfl⟩

/-- A string of plain characters is spelled by itself in quotes. -/
theorem stringSpelledBy_self {t : String} (h : t.toList.all isPlain = true) :
    StringSpelledBy t ('"' :: t.toList ++ ['"']) :=
  ⟨t.toList, charsSpelledBy_self h, rfl⟩

/-! ### Numbers -/

/-- One decimal digit or more. -/
def Digits (s : List Char) : Prop := s ≠ [] ∧ ∀ c ∈ s, Text.isDigit c = true

/-- A fraction is a point and its digits; it may be missing. -/
def FractionSpelledBy (fraction : List Char) (s : List Char) : Prop :=
  (fraction = [] ∧ s = []) ∨ (Digits fraction ∧ s = '.' :: fraction)

/-- A power of ten is a letter, a sign and its digits; it may be missing, and so may a plus. -/
def PowerSpelledBy : Option (Bool × List Char) → List Char → Prop
  | none, s => s = []
  | some (down, ds), s => Digits ds ∧ ∃ letter sign, (letter = 'e' ∨ letter = 'E') ∧
      (if down then sign = ['-'] else sign = [] ∨ sign = ['+']) ∧ s = letter :: (sign ++ ds)

/-- A number is spelled part by part; a zero before the point stands alone. -/
def Number.Literal.SpelledBy (l : Number.Literal) (s : List Char) : Prop :=
  Digits l.whole ∧ (l.whole.head? = some '0' → l.whole = ['0']) ∧
    ∃ fraction power, FractionSpelledBy l.fraction fraction ∧ PowerSpelledBy l.power power ∧
      s = (if l.minus then ['-'] else []) ++ (l.whole ++ (fraction ++ power))

/-- The number that decimal digits write. -/
def decimal (ds : List Char) : Nat := ds.foldl (fun n c => n * 10 + (c.toNat - 48)) 0

/-- A literal writes a natural number if it has neither sign nor fraction nor power of ten. -/
structure Number.Literal.Writes (l : Number.Literal) (n : Nat) : Prop where
  /-- There is no sign. -/
  minus : l.minus = false
  /-- There is no fraction. -/
  fraction : l.fraction = []
  /-- There is no power of ten. -/
  power : l.power = none
  /-- The digits write the number. -/
  whole : decimal l.whole = n

example : decimal ['4', '2'] = 42 := by decide

/-- A natural number is spelled by its digits. -/
theorem Number.Literal.spelledBy_natural {ds : List Char} (h : Digits ds)
    (hzero : ds.head? = some '0' → ds = ['0']) :
    (⟨false, ds, [], none⟩ : Number.Literal).SpelledBy ds :=
  ⟨h, hzero, [], [], .inl ⟨rfl, rfl⟩, rfl, by simp⟩

/-! ### Values -/

mutual

/-- The text spells the value, with no space around it. -/
def Value.SpelledBy : Value → List Char → Prop
  | .null, s => s = ['n', 'u', 'l', 'l']
  | .boolean true, s => s = ['t', 'r', 'u', 'e']
  | .boolean false, s => s = ['f', 'a', 'l', 's', 'e']
  | .number l, s => l.SpelledBy s
  | .string t, s => StringSpelledBy t s
  | .array items, s => ∃ inner, s = '[' :: (inner ++ [']']) ∧
      ((items = [] ∧ Blank inner) ∨ ItemsSpelledBy items inner)
  | .object members, s => ∃ inner, s = '\x7b' :: (inner ++ ['\x7d']) ∧
      ((members = [] ∧ Blank inner) ∨ MembersSpelledBy members inner)

/-- The text spells elements, at least one, with commas between them. -/
def ItemsSpelledBy : List Value → List Char → Prop
  | [], _ => False
  | v :: rest, s => ∃ one, Padded (fun core => v.SpelledBy core) one ∧
      ((rest = [] ∧ s = one) ∨ ∃ more, ItemsSpelledBy rest more ∧ s = one ++ ',' :: more)

/-- The text spells members, at least one, with commas between them. -/
def MembersSpelledBy : List (String × Value) → List Char → Prop
  | [], _ => False
  | (key, v) :: rest, s => ∃ name one, Padded (StringSpelledBy key) name ∧
      Padded (fun core => v.SpelledBy core) one ∧
      ((rest = [] ∧ s = name ++ ':' :: one) ∨
        ∃ more, MembersSpelledBy rest more ∧ s = name ++ ':' :: (one ++ ',' :: more))

end

/-- The text holds the value: it spells it, with any space around it. -/
def Value.WrittenIn (v : Value) (text : String) : Prop := Padded v.SpelledBy text.toList

end Json
end TemplateSandbox
