/-
# Folding is a normal form

Two texts fold to one name exactly if they have the same length and, at every place,
the same character or the two cases of one letter of the ASCII alphabet
(`sameName_iff_letterCases`). This can be seen in two ways, by folding both or by
passing over the one along the folded other, and both see it
(`MemberName.fold_identifies_spellings`).

A folded text has no capital, and a text without capitals is folded already
(`foldText_eq_self_iff`). So a set of folded names that is asked for a raw text finds
it if it has no capital and spells a name of the set, and else does not find it,
however the set is kept (`MemberName.holdsText_iff_of_mem_iff`).
-/

import TemplateSandbox.Proofs.Representation
import TemplateSandbox.Proofs.Sameness

namespace TemplateSandbox

/-! ### The two cases of a letter -/

/-- The letters of the ASCII alphabet, each as a capital and as a small letter. -/
def letterCases : List (Char × Char) :=
  "ABCDEFGHIJKLMNOPQRSTUVWXYZ".toList.zip "abcdefghijklmnopqrstuvwxyz".toList

/-- The two cases of a letter are 32 code points apart. -/
theorem mem_letterCases_iff {c d : Char} :
    (c, d) ∈ letterCases ↔ 'A' ≤ c ∧ c ≤ 'Z' ∧ d.toNat = c.toNat + 32 := by
  constructor
  · have hall : ∀ p ∈ letterCases, 'A' ≤ p.1 ∧ p.1 ≤ 'Z' ∧ p.2.toNat = p.1.toNat + 32 := by
      decide
    exact hall (c, d)
  · rintro ⟨ha, hz, hcode⟩
    have ha : 65 ≤ c.toNat := ha
    have hz : c.toNat ≤ 90 := hz
    have hall : ∀ i < 26, (Char.ofNat (65 + i), Char.ofNat (65 + i + 32)) ∈ letterCases := by
      decide
    have hmem := hall (c.toNat - 65) (by omega)
    rw [show 65 + (c.toNat - 65) = c.toNat by omega, ← hcode, Char.ofNat_toNat,
      Char.ofNat_toNat] at hmem
    exact hmem

/-- One letter is one character, or a letter of the alphabet in its two cases. -/
theorem sameLetter_iff_letterCases {c d : Char} :
    SameLetter c d ↔ c = d ∨ (c, d) ∈ letterCases ∨ (d, c) ∈ letterCases := by
  rw [mem_letterCases_iff, mem_letterCases_iff]
  rfl

/-- Two texts are spellings of one name if they have as many characters, and one letter at each
place. -/
theorem sameName_iff_letterCases {a b : String} :
    SameName a b ↔ a.length = b.length ∧
      ∀ i (ha : i < a.toList.length) (hb : i < b.toList.length),
        a.toList[i] = b.toList[i] ∨ (a.toList[i], b.toList[i]) ∈ letterCases ∨
          (b.toList[i], a.toList[i]) ∈ letterCases := by
  have hlength : a.toList.length = b.toList.length ↔ a.length = b.length := by
    rw [String.length_toList, String.length_toList]
  rw [SameName, List.forall₂_iff_get, hlength]
  simp only [List.get_eq_getElem, sameLetter_iff_letterCases]

/-! ### Texts without capitals -/

/-- No character of the text is an ASCII capital. -/
def NoCapital (s : String) : Prop := ∀ c ∈ s.toList, ¬('A' ≤ c ∧ c ≤ 'Z')

/-- Folding leaves a text alone exactly if it has no capital. -/
theorem foldText_eq_self_iff {s : String} : foldText s = s ↔ NoCapital s := by
  constructor
  · intro h c hc
    exact MemberName.not_capital_of_mem (n := ⟨s, h⟩) hc
  · intro h
    have hchars : s.toList.map foldChar = s.toList.map id :=
      List.map_congr_left fun c hc => foldChar_of_not_capital (h c hc)
    rw [← String.toList_inj, toList_foldText, hchars, List.map_id]

theorem length_foldText (s : String) : (foldText s).length = s.length := by
  rw [← String.length_toList, toList_foldText, List.length_map, String.length_toList]

namespace MemberName

theorem holdsText_iff {names : List MemberName} {s : String} :
    holdsText names s = true ↔ ∃ n ∈ names, n.text = s := by
  simp only [holdsText, List.any_eq_true, beq_iff_eq]

/-- **A set of folded names finds a raw text if it has no capital and spells one of them**, in
whatever order the set has its names and however often. -/
theorem holdsText_iff_of_mem_iff {names : List MemberName} {raws : List String}
    (h : ∀ n, n ∈ names ↔ ∃ r ∈ raws, fold r = n) {s : String} :
    holdsText names s = true ↔ NoCapital s ∧ ∃ r ∈ raws, SameName r s := by
  rw [holdsText_iff]
  constructor
  · rintro ⟨n, hn, rfl⟩
    obtain ⟨r, hr, hfold⟩ := (h n).1 hn
    exact ⟨fun _ => not_capital_of_mem, r, hr, fold_eq_fold_iff.1 (hfold.trans n.fold_text.symm)⟩
  · rintro ⟨hcapital, r, hr, hname⟩
    have hfold : fold r = fold s := fold_eq_fold_iff.2 hname
    refine ⟨fold r, (h _).2 ⟨r, hr, rfl⟩, ?_⟩
    rw [hfold, text_fold, foldText_eq_self_iff.2 hcapital]

/-- **Folding identifies the spellings of a name, and nothing else.** Two texts fold to one name
exactly if either spells what the other folds to, and exactly if they have the same length and
differ in the case of letters from A to Z at most. What is folded has as many characters as before
and no capital, and folding it again changes nothing. A set of folded names, in order or not, finds
a raw text exactly if that has no capital and spells one of the names it was made from. -/
theorem fold_identifies_spellings :
    (∀ a b : String,
      (fold a = fold b ↔ spells a (fold b) = true) ∧
      (fold a = fold b ↔ spells b (fold a) = true) ∧
      (fold a = fold b ↔ a.length = b.length ∧
        ∀ i (ha : i < a.toList.length) (hb : i < b.toList.length),
          a.toList[i] = b.toList[i] ∨ (a.toList[i], b.toList[i]) ∈ letterCases ∨
            (b.toList[i], a.toList[i]) ∈ letterCases)) ∧
    (∀ s : String, fold (fold s).text = fold s ∧ (fold s).text.length = s.length ∧
      NoCapital (fold s).text) ∧
    ∀ (raws : List String) (s : String),
      (holdsText (setOf raws) s = true ↔ NoCapital s ∧ ∃ r ∈ raws, SameName r s) ∧
      (holdsText (insertAll (raws.map fold) []) s = true ↔
        NoCapital s ∧ ∃ r ∈ raws, SameName r s) := by
  refine ⟨fun a b => ⟨spells_iff.symm, ?_, ?_⟩, fun s => ⟨fold_text _, length_foldText s, ?_⟩,
    fun raws s => ⟨?_, ?_⟩⟩
  · rw [spells_iff, eq_comm]
  · exact fold_eq_fold_iff.trans sameName_iff_letterCases
  · exact foldText_eq_self_iff.1 (fold s).folded
  · exact holdsText_iff_of_mem_iff fun n => mem_setOf_iff
  · refine holdsText_iff_of_mem_iff fun n => ?_
    rw [← List.contains_iff_mem, contains_insertAll, List.contains_nil, Bool.or_false,
      List.contains_iff_mem, List.mem_map]

/-- A set has `save` for `SAVE`, and is not asked for it in capitals; it has no `k` for the Kelvin
sign. -/
example : holdsText (setOf ["SAVE", "\u212a"]) "save" = true ∧
    holdsText (setOf ["SAVE", "\u212a"]) "SAVE" = false ∧
      holdsText (setOf ["SAVE", "\u212a"]) "k" = false := by decide +kernel

end MemberName
end TemplateSandbox
