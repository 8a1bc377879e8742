/-
# Spellings of one name

Two texts spell one name when they have the same length and, at every place, the
same character or the two cases of one ASCII letter (`SameName`). The relation is
said without folding; folding decides it (`fold_eq_fold_iff`), so a set of folded
names answers for every spelling of its members.

A text is fit to be a name when it is not empty and holds no white space (`Fit`).
All spellings of a name are fit or none is (`SameName.fit_iff`), so it does not
matter whether a name is checked before or after it is folded.
-/

import TemplateSandbox.Name
import Mathlib.Data.List.Forall2

namespace TemplateSandbox

/-- The same character, or the two cases of one ASCII letter. -/
def SameLetter (c d : Char) : Prop :=
  c = d ∨ 'A' ≤ c ∧ c ≤ 'Z' ∧ d.toNat = c.toNat + 32 ∨ 'A' ≤ d ∧ d ≤ 'Z' ∧ c.toNat = d.toNat + 32

instance (c d : Char) : Decidable (SameLetter c d) := inferInstanceAs (Decidable (_ ∨ _))

/-- Folding identifies two characters exactly if they are one letter. -/
theorem foldChar_eq_foldChar_iff {c d : Char} : foldChar c = foldChar d ↔ SameLetter c d := by
  by_cases hc : 'A' ≤ c ∧ c ≤ 'Z' <;> by_cases hd : 'A' ≤ d ∧ d ≤ 'Z'
  · have hcode := toNat_foldChar_of_capital hc
    rw [← Char.toNat_inj, hcode, toNat_foldChar_of_capital hd]
    have hz : c.toNat ≤ 90 := hc.2
    have hz' : d.toNat ≤ 90 := hd.2
    have ha : 65 ≤ c.toNat := hc.1
    have ha' : 65 ≤ d.toNat := hd.1
    constructor
    · intro h
      exact .inl (Char.toNat_inj.1 (by omega))
    · rintro (rfl | ⟨_, _, h⟩ | ⟨_, _, h⟩)
      · rfl
      · omega
      · omega
  · rw [foldChar_of_not_capital hd, ← Char.toNat_inj, toNat_foldChar_of_capital hc]
    constructor
    · intro h
      exact .inr (.inl ⟨hc.1, hc.2, h.symm⟩)
    · rintro (rfl | ⟨_, _, h⟩ | ⟨h, h', _⟩)
      · exact absurd hc hd
      · exact h.symm
      · exact absurd ⟨h, h'⟩ hd
  · rw [foldChar_of_not_capital hc, ← Char.toNat_inj, toNat_foldChar_of_capital hd]
    constructor
    · intro h
      exact .inr (.inr ⟨hd.1, hd.2, h⟩)
    · rintro (rfl | ⟨h, h', _⟩ | ⟨_, _, h⟩)
      · exact absurd hd hc
      · exact absurd ⟨h, h'⟩ hc
      · exact h
  · rw [foldChar_of_not_capital hc, foldChar_of_not_capital hd]
    constructor
    · exact .inl
    · rintro (rfl | ⟨h, h', _⟩ | ⟨h, h', _⟩)
      · rfl
      · exact absurd ⟨h, h'⟩ hc
      · exact absurd ⟨h, h'⟩ hd

/-- Two texts spell one name: they differ in the case of ASCII letters at most. -/
def SameName (a b : String) : Prop := List.Forall₂ SameLetter a.toList b.toList

instance (a b : String) : Decidable (SameName a b) := inferInstanceAs (Decidable (List.Forall₂ ..))

namespace MemberName

/-- **Folding identifies exactly the spellings of one name.** -/
theorem fold_eq_fold_iff {a b : String} : fold a = fold b ↔ SameName a b := by
  have hchars : ∀ c d, foldChar c = foldChar d ↔ SameLetter c d := fun _ _ =>
    foldChar_eq_foldChar_iff
  rw [MemberName.ext_iff, text_fold, text_fold, ← String.toList_inj, toList_foldText,
    toList_foldText, ← List.forall₂_eq_eq_eq, List.forall₂_map_left_iff,
    List.forall₂_map_right_iff]
  simp only [hchars, SameName]

/-- A raw text is compared with a folded one as with any other spelling. -/
theorem spells_fold_iff {raw s : String} : spells raw (fold s) = true ↔ SameName raw s := by
  rw [spells_iff, fold_eq_fold_iff]

end MemberName

namespace SameName

theorem refl (a : String) : SameName a a := MemberName.fold_eq_fold_iff.1 rfl

theorem symm {a b : String} (h : SameName a b) : SameName b a :=
  MemberName.fold_eq_fold_iff.1 (MemberName.fold_eq_fold_iff.2 h).symm

theorem trans {a b c : String} (hab : SameName a b) (hbc : SameName b c) : SameName a c :=
  MemberName.fold_eq_fold_iff.1
    ((MemberName.fold_eq_fold_iff.2 hab).trans (MemberName.fold_eq_fold_iff.2 hbc))

/-- The Kelvin sign is no spelling of `k`, though case tables beyond ASCII say so. -/
example : SameName "toHTML" "tohtml" ∧ ¬SameName "\u212a" "k" := by decide +kernel

end SameName

/-- A text that is fit to name a member: not empty, and without white space. -/
def Fit (s : String) : Prop := s ≠ "" ∧ ∀ c ∈ s.toList, Text.isBlank c = false

-- The instance for the characters is named, lest one that goes through all of Unicode be found.
instance (s : String) : Decidable (Fit s) :=
  @instDecidableAnd (s ≠ "") _ inferInstance (List.decidableBAll _ s.toList)

/-- A text is fit exactly if no fault is found in it. -/
theorem NameFault.find?_eq_none_iff_fit {s : String} : NameFault.find? s = none ↔ Fit s :=
  NameFault.find?_eq_none_iff

/-- Only the empty text folds to the empty text. -/
theorem foldText_eq_empty_iff {s : String} : foldText s = "" ↔ s = "" := by
  rw [← String.toList_inj, ← String.toList_inj, toList_foldText]
  simp

/-- A folded text is fit exactly if the text is. -/
theorem fit_foldText_iff {s : String} : Fit (foldText s) ↔ Fit s := by
  unfold Fit
  rw [Ne, foldText_eq_empty_iff, toList_foldText]
  simp

/-- All spellings of a name are fit, or none is. -/
theorem SameName.fit_iff {a b : String} (h : SameName a b) : Fit a ↔ Fit b := by
  have hfold : foldText a = foldText b :=
    congrArg MemberName.text (MemberName.fold_eq_fold_iff.2 h)
  rw [← fit_foldText_iff (s := a), hfold, fit_foldText_iff]

end TemplateSandbox
