/-
# Member names

A member is known to a policy by its name with the ASCII capitals folded to
small letters. Every comparison of names is made on folded names, so it never
hangs on a locale or on a Unicode case table: `É` and `é` stay two names.

`MemberName.fold` folds a whole string; `MemberName.spells` compares a raw
string with a folded name one character at a time, and `spells_iff` says that
the two agree. `NameFault` lists what makes a name unfit for a policy.
-/

import TemplateSandbox.Text.Blank

namespace TemplateSandbox

/-- The small letter of an ASCII capital; every other character is kept. -/
def foldChar (c : Char) : Char :=
  if 'A' ≤ c ∧ c ≤ 'Z' then Char.ofNat (c.toNat + 32) else c

theorem foldChar_of_capital {c : Char} (h : 'A' ≤ c ∧ c ≤ 'Z') :
    foldChar c = Char.ofNat (c.toNat + 32) := if_pos h

theorem foldChar_of_not_capital {c : Char} (h : ¬('A' ≤ c ∧ c ≤ 'Z')) : foldChar c = c :=
  if_neg h

theorem toNat_foldChar_of_capital {c : Char} (h : 'A' ≤ c ∧ c ≤ 'Z') :
    (foldChar c).toNat = c.toNat + 32 := by
  have hz : c.toNat ≤ 90 := h.2
  have hvalid : (c.toNat + 32).isValidChar := Or.inl (by omega)
  rw [foldChar_of_capital h, Char.ofNat, dif_pos hvalid]
  rfl

/-- No folded character is a capital. -/
theorem foldChar_not_capital (c : Char) : ¬('A' ≤ foldChar c ∧ foldChar c ≤ 'Z') := by
  by_cases h : 'A' ≤ c ∧ c ≤ 'Z'
  · rintro ⟨_, hz⟩
    have hz : (foldChar c).toNat ≤ 90 := hz
    have ha : 65 ≤ c.toNat := h.1
    rw [toNat_foldChar_of_capital h] at hz
    omega
  · rwa [foldChar_of_not_capital h]

@[simp] theorem foldChar_foldChar (c : Char) : foldChar (foldChar c) = foldChar c :=
  foldChar_of_not_capital (foldChar_not_capital c)

/-- Folding neither makes nor removes white space. -/
@[simp] theorem isBlank_foldChar (c : Char) : Text.isBlank (foldChar c) = Text.isBlank c := by
  by_cases h : 'A' ≤ c ∧ c ≤ 'Z'
  · have ha : 65 ≤ c.toNat := h.1
    have hz : c.toNat ≤ 90 := h.2
    rw [Text.isBlank_eq_false_of_letter (c := c) (by omega),
      Text.isBlank_eq_false_of_letter (by rw [toNat_foldChar_of_capital h]; omega)]
  · rw [foldChar_of_not_capital h]

/-- The text of `s` with every ASCII capital folded. -/
def foldText (s : String) : String := String.ofList (s.toList.map foldChar)

@[simp] theorem toList_foldText (s : String) : (foldText s).toList = s.toList.map foldChar := by
  simp [foldText]

@[simp] theorem foldText_foldText (s : String) : foldText (foldText s) = foldText s := by
  simp [← String.toList_inj]

/-- The name of a member as policies hold it: a text that folding leaves alone. -/
structure MemberName where
  /-- The folded text. -/
  text : String
  /-- The text has no ASCII capital left. -/
  folded : foldText text = text
  deriving DecidableEq

namespace MemberName

/-- The name that `s` spells. -/
def fold (s : String) : MemberName := ⟨foldText s, foldText_foldText s⟩

@[simp] theorem text_fold (s : String) : (fold s).text = foldText s := rfl

@[ext] theorem ext {a b : MemberName} (h : a.text = b.text) : a = b := by
  cases a; cases b; simp_all

@[simp] theorem fold_text (n : MemberName) : fold n.text = n := ext n.folded

/-- Compares two lists of characters while folding the first; it stops at the
first difference and builds no folded copy. -/
def spellsChars : List Char → List Char → Bool
  | [], [] => true
  | c :: cs, d :: ds => foldChar c == d && spellsChars cs ds
  | _, _ => false

theorem spellsChars_iff (cs ds : List Char) : spellsChars cs ds = true ↔ cs.map foldChar = ds := by
  induction cs generalizing ds with
  | nil => cases ds <;> simp [spellsChars]
  | cons c cs ih => cases ds <;> simp [spellsChars, ih]

/-- Whether the raw string `raw` spells the name `n`. -/
def spells (raw : String) (n : MemberName) : Bool := spellsChars raw.toList n.text.toList

/-- **Comparing as one goes is comparing with the folded text.** -/
theorem spells_iff {raw : String} {n : MemberName} : spells raw n = true ↔ fold raw = n := by
  rw [spells, spellsChars_iff, MemberName.ext_iff, text_fold, ← String.toList_inj, toList_foldText]

end MemberName

/-- What makes a name unfit for a policy. -/
inductive NameFault where
  /-- The name has no characters. -/
  | empty
  /-- The name, as given, holds white space. -/
  | blank (name : String)
  deriving DecidableEq

namespace NameFault

/-- The fault of `name`, if it has one: a name is non-empty and holds no white space. -/
def find? (name : String) : Option NameFault :=
  if name.toList.isEmpty then some .empty
  else if name.toList.any Text.isBlank then some (.blank name)
  else none

/-- A name is fit exactly if it is not empty and free of white space. -/
theorem find?_eq_none_iff {name : String} :
    find? name = none ↔ name ≠ "" ∧ ∀ c ∈ name.toList, Text.isBlank c = false := by
  unfold find?
  by_cases h : name = ""
  · simp [h]
  · have : name.toList.isEmpty = false := by simpa using h
    simp [this, h]

end NameFault
end TemplateSandbox
