/-
# Quoted texts can be read back

Between quotation marks a character stands for itself or is written as an escape.
`unquoteChar?` reads one character from the front of what is written, whatever
follows (`unquoteChar?_quotedChar`). So no two texts are quoted alike
(`quoted_injective`), and a text of plain characters is quoted as it is
(`quoted_of_plain`).
-/

import TemplateSandbox.Text.Digits
import TemplateSandbox.Text.Quoted
import Mathlib.Tactic.SplitIfs

namespace TemplateSandbox
namespace Text

/-! ### The code point of an escape -/

/-- A run of digits with one digit more. -/
theorem natOfDigits?_concat {b : Nat} {cs : List Char} (h : cs ≠ []) (c : Char) :
    natOfDigits? b (cs ++ [c]) = (natOfDigits? b cs).bind fun n =>
      (digitValue? c).bind fun d => if d < b then some (b * n + d) else none := by
  rw [natOfDigits?, natOfDigits?, if_neg (by simp), if_neg (by simpa using h), List.foldl_append]
  rfl

/-- The digits of a number have its value. -/
theorem natOfDigits?_toDigits (n : Nat) : natOfDigits? 16 (Nat.toDigits 16 n) = some n := by
  have hdigit : ∀ d < 16, digitValue? d.digitChar = some d := by decide
  induction n using Nat.strongRecOn with
  | ind n ih =>
    rw [Nat.toDigits_eq_if (by decide)]
    split
    · rename_i hsmall
      simp [natOfDigits?, hdigit n hsmall, hsmall]
    · rename_i hlarge
      have hlast : n % 16 < 16 := Nat.mod_lt n (by decide)
      rw [natOfDigits?_concat Nat.toDigits_ne_nil, ih (n / 16) (by omega), hdigit _ hlast]
      simp only [Option.bind_some, if_pos hlast, Nat.div_add_mod]

/-- No digit is a brace. -/
theorem ne_brace_of_mem_toDigits {n : Nat} {c : Char} (h : c ∈ Nat.toDigits 16 n) :
    c ≠ '\x7d' := by
  have hdigit : ∀ d < 16, d.digitChar ≠ '\x7d' := by decide
  induction n using Nat.strongRecOn with
  | ind n ih =>
    rw [Nat.toDigits_eq_if (by decide)] at h
    split at h
    · rename_i hsmall
      exact List.mem_singleton.1 h ▸ hdigit n hsmall
    · rcases List.mem_append.1 h with hmem | hmem
      · exact ih (n / 16) (by omega) hmem
      · exact List.mem_singleton.1 hmem ▸ hdigit _ (Nat.mod_lt n (by decide))

/-! ### Reading back -/

/-- The characters that have an escape of one letter. -/
def letterEscapes : List (Char × Char) :=
  [('"', '"'), ('\\', '\\'), ('t', '\t'), ('n', '\n'), ('r', '\r'), ('0', '\x00')]

/-- Reads the rest of an escape: a code point in braces, or one letter. -/
def unescape? : List Char → Option (Char × List Char)
  | [] => none
  | 'u' :: rest =>
    (natOfDigits? 16 (rest.tail.takeWhile (· != '\x7d'))).map fun n =>
      (Char.ofNat n, (rest.tail.dropWhile (· != '\x7d')).tail)
  | c :: rest => (List.lookup c letterEscapes).map fun meant => (meant, rest)

/-- Reads one character from the front of a quoted text. -/
def unquoteChar? : List Char → Option (Char × List Char)
  | [] => none
  | c :: rest => if c = '\\' then unescape? rest else some (c, rest)

/-- A code point in braces is read back. -/
theorem unescape?_code (c : Char) (rest : List Char) :
    unescape? ('u' :: '\x7b' :: (Nat.toDigits 16 c.toNat ++ '\x7d' :: rest)) = some (c, rest) := by
  have hdigits : ∀ d ∈ Nat.toDigits 16 c.toNat, (d != '\x7d') = true :=
    fun d hd => bne_iff_ne.2 (ne_brace_of_mem_toDigits hd)
  simp only [unescape?, List.tail_cons, List.takeWhile_append_of_pos hdigits,
    List.dropWhile_append_of_pos hdigits]
  simp [natOfDigits?_toDigits, Char.ofNat_toNat]

/-- **A character is read back from what stands for it**, whatever follows. -/
theorem unquoteChar?_quotedChar (c : Char) (rest : List Char) :
    unquoteChar? ((quotedChar c).toList ++ rest) = some (c, rest) := by
  unfold quotedChar
  split_ifs with hquote hbackslash htab hfeed hreturn hnull hhidden
  · subst hquote
    rfl
  · subst hbackslash
    rfl
  · subst htab
    rfl
  · subst hfeed
    rfl
  · subst hreturn
    rfl
  · subst hnull
    rfl
  · have hcode : ("\\u\x7b" ++ hex c.toNat ++ "\x7d").toList ++ rest =
        '\\' :: 'u' :: '\x7b' :: (Nat.toDigits 16 c.toNat ++ '\x7d' :: rest) := by
      simp [hex]
    rw [hcode, unquoteChar?, if_pos rfl, unescape?_code]
  · rw [String.toList_singleton, List.singleton_append, unquoteChar?, if_neg hbackslash]

/-- What stands for characters has them one after another. -/
theorem toList_quoted (s : String) : (quoted s).toList =
    '"' :: (s.toList.flatMap fun c => (quotedChar c).toList) ++ ['"'] := by
  simp [quoted, String.toList_join, List.flatMap_map]

/-- Characters that are written alike are the same. -/
theorem flatMap_quotedChar_injective {as bs : List Char}
    (h : (as.flatMap fun c => (quotedChar c).toList) = bs.flatMap fun c => (quotedChar c).toList) :
    as = bs := by
  have hfirst : ∀ c cs, unquoteChar? ((c :: cs).flatMap fun c => (quotedChar c).toList) =
      some (c, cs.flatMap fun c => (quotedChar c).toList) := fun c cs => by
    rw [List.flatMap_cons, unquoteChar?_quotedChar]
  induction as generalizing bs with
  | nil =>
    cases bs with
    | nil => rfl
    | cons d ds =>
      have hnone := hfirst d ds
      rw [← h] at hnone
      cases hnone
  | cons c cs ih =>
    have hread := hfirst c cs
    rw [h] at hread
    cases bs with
    | nil => cases hread
    | cons d ds =>
      rw [hfirst, Option.some.injEq, Prod.mk.injEq] at hread
      rw [hread.1, ih hread.2.symm]

/-- **No two texts are quoted alike.** -/
theorem quoted_injective : Function.Injective quoted := by
  intro s t h
  have hlists := congrArg String.toList h
  rw [toList_quoted, toList_quoted] at hlists
  exact String.toList_inj.1 (flatMap_quotedChar_injective
    (List.append_cancel_right (List.cons.inj hlists).2))

/-! ### Plain characters -/

/-- The character is of visible ASCII or a space, and neither a quotation mark nor a backslash. -/
def Plain (c : Char) : Prop := 0x20 ≤ c.toNat ∧ c.toNat ≤ 0x7E ∧ c ≠ '"' ∧ c ≠ '\\'

instance decidablePlain (c : Char) : Decidable (Plain c) := inferInstanceAs (Decidable (_ ∧ _ ∧ _ ∧ _))

/-- A table whose ranges keep clear of ASCII from the space on has none of its characters. -/
theorem contains_eq_false_of_plain {table : Ranges} {c : Char}
    (htable : ∀ range ∈ table, range.2 < 0x20 ∨ 0x7E < range.1) (h : Plain c) :
    table.contains c = false := by
  refine Bool.eq_false_iff.2 fun hcontains => ?_
  obtain ⟨range, hmem, hlow, hhigh⟩ := Ranges.contains_iff.1 hcontains
  obtain ⟨hspace, htilde, -⟩ := h
  have hclear := htable range hmem
  omega

/-- A plain character stands for itself. -/
theorem quotedChar_of_plain {c : Char} (h : Plain c) : quotedChar c = String.singleton c := by
  have hprintable : isPrintable c = true :=
    congrArg not (contains_eq_false_of_plain (by decide +kernel) h)
  have hextender : isExtender c = false := contains_eq_false_of_plain (by decide +kernel) h
  obtain ⟨hspace, -, hquote, hbackslash⟩ := h
  have hne : ∀ d : Char, d.toNat < 0x20 → c ≠ d := by
    rintro d hd rfl
    omega
  rw [quotedChar, if_neg hquote, if_neg hbackslash, if_neg (hne _ (by decide)),
    if_neg (hne _ (by decide)), if_neg (hne _ (by decide)), if_neg (hne _ (by decide)), hprintable,
    hextender]
  rfl

/-- A text of plain characters is quoted as it is. -/
theorem quoted_of_plain {s : String} (h : ∀ c ∈ s.toList, Plain c) :
    quoted s = "\"" ++ s ++ "\"" := by
  have hchars : s.toList.map quotedChar = s.toList.map String.singleton :=
    List.map_congr_left fun c hc => quotedChar_of_plain (h c hc)
  rw [← String.toList_inj, quoted, hchars]
  simp [List.flatMap_map]

end Text
end TemplateSandbox
